import ChatRules.Proofs.Feedback
import ChatRules.Proofs.Previews
import Mathlib.Data.List.Find
import Mathlib.Data.List.Nodup

namespace ChatRules

namespace Directory
variable {d : Directory} {before after : List User} {b u v : User} {name : String}

structure IsDistinct (d : Directory) : Prop where
  ids : (d.users.map User.id).Nodup
  handles : (d.users.map User.handle).Nodup

theorem IsDistinct.eq_of_id (hd : d.IsDistinct) (hu : u ∈ d.users) (hv : v ∈ d.users)
    (h : u.id = v.id) : u = v :=
  List.inj_on_of_nodup_map hd.ids hu hv h

theorem IsDistinct.eq_of_handle (hd : d.IsDistinct) (hu : u ∈ d.users) (hv : v ∈ d.users)
    (h : u.handle = v.handle) : u = v :=
  List.inj_on_of_nodup_map hd.handles hu hv h

def IsBare (name : String) : Prop :=
  name.toList.head? ≠ some '@'

instance (name : String) : Decidable (IsBare name) :=
  inferInstanceAs (Decidable (_ ≠ _))

theorem bareName_eq_self {sign : Char} (h : name.toList.head? ≠ some sign) :
    bareName sign name = name := by
  have hd : name.toList.dropWhile (· = sign) = name.toList := by
    cases hs : name.toList with
    | nil => rfl
    | cons c rest =>
      rw [hs, List.head?_cons, ne_eq, Option.some.injEq] at h
      simp [h]
  rw [bareName, hd, String.ofList_toList]

theorem bareName_of_isBare (h : IsBare name) : bareName '@' name = name :=
  bareName_eq_self h

theorem user_of_named (hu : d.users = before ++ b :: after) (hn : IsBare name)
    (hb : (b.handle == name || b.id == name) = true) :
    d.user name = (before.find? fun u => u.handle == name || u.id == name).getD b := by
  have hfirst : (b :: after).find? (fun u => u.handle == name || u.id == name) = some b := by
    simp [hb]
  simp only [user, bareName_of_isBare hn, hu, List.find?_append, hfirst]
  cases before.find? fun u => u.handle == name || u.id == name <;> rfl

theorem find?_of_unique {users : List User} {p : User → Bool} (hu : u ∈ users) (hp : p u = true)
    (h : ∀ v ∈ users, p v = true → v = u) : users.find? p = some u := by
  cases hf : users.find? p with
  | none => exact absurd hp (List.find?_eq_none.mp hf u hu)
  | some v => rw [h v (List.mem_of_find?_eq_some hf) (List.find?_some hf)]

theorem eq_of_getD_eq {o o' : Option User} (ho : ∀ v ∈ o, v ≠ b) (ho' : ∀ v ∈ o', v ≠ b)
    (h : o.getD b = o'.getD b) : o = o' := by
  cases o with
  | none =>
    cases o' with
    | none => rfl
    | some v => exact absurd h.symm (ho' v rfl)
  | some u =>
    cases o' with
    | none => exact absurd h (ho u rfl)
    | some v => exact congrArg some h

section Named
variable (hd : d.IsDistinct) (hu : d.users = before ++ b :: after)
include hd hu

theorem ne_of_mem_before (h : u ∈ before) : u.id ≠ b.id ∧ u.handle ≠ b.handle := by
  obtain ⟨hi, hh⟩ := hd
  rw [hu, List.map_append, List.map_cons, List.nodup_middle, List.nodup_cons, List.mem_append]
    at hi hh
  exact ⟨fun he => hi.1 (.inl (he ▸ List.mem_map_of_mem h)),
    fun he => hh.1 (.inl (he ▸ List.mem_map_of_mem h))⟩

theorem user_handle (hn : IsBare b.handle) :
    d.user b.handle = (before.find? (·.id == b.handle)).getD b := by
  have hcongr : before.find? (fun u => u.handle == b.handle || u.id == b.handle) =
      before.find? (·.id == b.handle) := by
    refine List.find?_congr fun u hm => ?_
    rw [beq_false_of_ne (ne_of_mem_before hd hu hm).2, Bool.false_or]
  rw [user_of_named hu hn (by simp), hcongr]

theorem user_id (hn : IsBare b.id) :
    d.user b.id = (before.find? (·.handle == b.id)).getD b := by
  have hcongr : before.find? (fun u => u.handle == b.id || u.id == b.id) =
      before.find? (·.handle == b.id) := by
    refine List.find?_congr fun u hm => ?_
    rw [beq_false_of_ne (ne_of_mem_before hd hu hm).1, Bool.or_false]
  rw [user_of_named hu hn (by simp), hcongr]

theorem user_id_eq_user_handle_iff (hi : IsBare b.id) (hh : IsBare b.handle) :
    d.user b.id = d.user b.handle ↔ ∀ u ∈ before, u.id = b.handle ↔ u.handle = b.id := by
  have hb : ∀ v ∈ before, v ∈ d.users := fun v hv => hu ▸ List.mem_append_left _ hv
  rw [user_id hd hu hi, user_handle hd hu hh]
  constructor
  · intro h u hm
    have hne : ∀ v ∈ before, v ≠ b := fun v hv he => (ne_of_mem_before hd hu hv).1 (he ▸ rfl)
    have hsame := eq_of_getD_eq (fun v hv => hne v (List.mem_of_find?_eq_some hv))
      (fun v hv => hne v (List.mem_of_find?_eq_some hv)) h
    constructor
    · intro hid
      have hfound : before.find? (·.id == b.handle) = some u :=
        find?_of_unique hm (beq_iff_eq.mpr hid) fun v hv hvid =>
          hd.eq_of_id (hb v hv) (hb u hm) ((beq_iff_eq.mp hvid).trans hid.symm)
      simpa using List.find?_some (hsame.trans hfound)
    · intro hhandle
      have hfound : before.find? (·.handle == b.id) = some u :=
        find?_of_unique hm (beq_iff_eq.mpr hhandle) fun v hv hvh =>
          hd.eq_of_handle (hb v hv) (hb u hm) ((beq_iff_eq.mp hvh).trans hhandle.symm)
      simpa using List.find?_some (hsame.symm.trans hfound)
  · intro h
    have hcongr : before.find? (·.handle == b.id) = before.find? (·.id == b.handle) := by
      refine List.find?_congr fun u hm => ?_
      rw [Bool.eq_iff_iff, beq_iff_eq, beq_iff_eq, h u hm]
    rw [hcongr]

theorem user_handle_mem (hh : IsBare b.handle) : d.user b.handle ∈ d.users := by
  rw [user_handle hd hu hh, hu]
  cases hf : before.find? (·.id == b.handle) with
  | none => simp
  | some v => exact List.mem_append_left _ (List.mem_of_find?_eq_some hf)

theorem user_eq_of_id (hh : IsBare b.handle) (h : (d.user name).id = (d.user b.handle).id) :
    d.user name = d.user b.handle := by
  have hm := user_handle_mem hd hu hh
  cases hf : d.users.find? fun u => u.handle == bareName '@' name || u.id == bareName '@' name with
  | none =>
    have hname : (d.user name).id = bareName '@' name := by rw [user, hf, Option.getD_none]
    have hno := List.find?_eq_none.mp hf _ hm
    rw [← h, hname] at hno
    simp at hno
  | some v =>
    have hv : d.user name = v := by rw [user, hf, Option.getD_some]
    rw [hv] at h ⊢
    exact hd.eq_of_id (List.mem_of_find?_eq_some hf) hm h

end Named

end Directory

namespace Listener
open Text

theorem handle_of_undecided (c : Console) (stamps : Nat → Stamp) {sender : User} (room : Room)
    {text : List Char} {l : Listener}
    (h : l.preview? sender.id = none ∨ Decision.ofText text = .other) :
    handle c stamps sender room text l =
      ordinary c stamps sender room text (l.drop sender.id) := by
  rw [handle_eq]
  rcases h with h | h
  · rw [h]
  · rw [h]
    cases l.preview? sender.id <;> rfl

/-- The message that a line is dispatched as: none, where it is not of the form, decides on a
preview or is a command. -/
def spoken? (c : Console) (line : List Char) (l : Listener) : Option Message :=
  match Line.read? line with
  | none => none
  | some ⟨room, user, text⟩ =>
    let sender := c.directory.user (String.ofList user)
    if (l.preview? sender.id = none ∨ Decision.ofText text = .other) ∧
        after? commandSign text = none then
      some (message sender (c.directory.room (String.ofList room)) text l)
    else none

theorem spoken?_eq_some {c : Console} {line : List Char} {l : Listener} {m : Message}
    (h : spoken? c line l = some m) :
    ∃ room user text, Line.read? line = some ⟨room, user, text⟩ ∧
      (l.preview? (c.directory.user (String.ofList user)).id = none ∨
        Decision.ofText text = .other) ∧
      after? commandSign text = none ∧
      m = message (c.directory.user (String.ofList user))
        (c.directory.room (String.ofList room)) text l := by
  rw [spoken?] at h
  split at h
  · cases h
  · next room user text hr =>
    obtain ⟨⟨hd, hc⟩, hm⟩ := Option.ite_none_right_eq_some.mp h
    exact ⟨room, user, text, hr, hd, hc, (Option.some.inj hm).symm⟩

theorem hear_of_spoken {c : Console} {line : List Char} {l : Listener} {m : Message}
    (h : spoken? c line l = some m) (stamps : Nat → Stamp) :
    hear c stamps line l = (Dispatch.cycle c.host m).andThen fun work =>
      .done (Console.lines work.calls,
        { l.drop m.sender.id with messages := l.messages + 1 }) := by
  obtain ⟨room, user, text, hr, hd, hc, rfl⟩ := spoken?_eq_some h
  simp only [hear, hr, handle_of_undecided c stamps _ hd, ordinary, hc]
  rfl

/-- The lines under the handle of the configured user are ignored exactly if its handle and its id
name the same user. That depends on the users in front: nobody's id may be this handle, and nobody's
handle this id, unless both are of one user. -/
theorem own_lines_ignored_iff {d : Directory} {before after : List User} {b : User}
    (hd : d.IsDistinct) (hu : d.users = before ++ b :: after) (hh : Directory.IsBare b.handle)
    {line room text : List Char} (hl : Line.read? line = some ⟨room, b.handle.toList, text⟩)
    {l : Listener} {m : Message} (hm : spoken? (.ofDirectory d (some b.id)) line l = some m) :
    (∀ stamps, hear (.ofDirectory d (some b.id)) stamps line l =
      (Dispatch.cycle (Console.ofDirectory d (some b.id)).host m).andThen fun work =>
        .done (Console.lines work.calls,
          { l.drop m.sender.id with messages := l.messages + 1 })) ∧
    (∀ rules, Dispatch.run (Console.ofDirectory d (some b.id)).host rules m = Dispatch.ignored m ↔
      d.user b.id = d.user b.handle) ∧
    (Directory.IsBare b.id → (d.user b.id = d.user b.handle ↔
      ∀ u ∈ before, u.id = b.handle ↔ u.handle = b.id)) := by
  refine ⟨hear_of_spoken hm, fun rules => ?_,
    fun hi => Directory.user_id_eq_user_handle_iff hd hu hi hh⟩
  obtain ⟨room', user, text', hr, -, -, rfl⟩ := spoken?_eq_some hm
  obtain ⟨-, rfl, -⟩ := Line.mk.inj (Option.some.inj (hl.symm.trans hr))
  rw [Dispatch.run_eq_ignored_iff, String.ofList_toList]
  have hown : Dispatch.isOwn (Console.ofDirectory d (some b.id)).host
      (message (d.user b.handle) (d.room (String.ofList room)) text l) = true ↔
        (d.user b.id).id = (d.user b.handle).id := beq_iff_eq
  exact hown.trans ⟨Directory.user_eq_of_id hd hu hh, congrArg User.id⟩

def bot : User := ⟨"BOT", "chatflow"⟩

def namesake : User := ⟨"U1", "BOT"⟩

def pingLine : List Char := "#general @chatflow ping".toList

theorem namesake_in_front_takes_the_id :
    Dispatch.run (Console.ofDirectory ⟨[namesake, bot], []⟩ (some "BOT")).host (.ok [])
      ⟨"m1", "ping", bot, ⟨"general", "general"⟩⟩ ≠
        Dispatch.ignored ⟨"m1", "ping", bot, ⟨"general", "general"⟩⟩ ∧
    Dispatch.run (Console.ofDirectory ⟨[bot, namesake], []⟩ (some "BOT")).host (.ok [])
      ⟨"m1", "ping", bot, ⟨"general", "general"⟩⟩ =
        Dispatch.ignored ⟨"m1", "ping", bot, ⟨"general", "general"⟩⟩ := by
  have hl : Line.read? pingLine = some ⟨"general".toList, bot.handle.toList, "ping".toList⟩ := by
    decide +kernel
  have hi : Directory.IsBare bot.id := by decide
  have hh : Directory.IsBare bot.handle := by decide
  have hbehind : spoken? (.ofDirectory ⟨[namesake, bot], []⟩ (some bot.id)) pingLine start =
      some ⟨"m1", "ping", bot, ⟨"general", "general"⟩⟩ := by
    decide +kernel
  have hfront : spoken? (.ofDirectory ⟨[bot, namesake], []⟩ (some bot.id)) pingLine start =
      some ⟨"m1", "ping", bot, ⟨"general", "general"⟩⟩ := by
    decide +kernel
  have hdbehind : Directory.IsDistinct ⟨[namesake, bot], []⟩ := ⟨by decide, by decide⟩
  have hdfront : Directory.IsDistinct ⟨[bot, namesake], []⟩ := ⟨by decide, by decide⟩
  have hubehind : (⟨[namesake, bot], []⟩ : Directory).users = [namesake] ++ bot :: [] := rfl
  have hufront : (⟨[bot, namesake], []⟩ : Directory).users = [] ++ bot :: [namesake] := rfl
  obtain ⟨-, hnot, hnots⟩ := own_lines_ignored_iff hdbehind hubehind hh hl hbehind
  obtain ⟨-, hyes, hyess⟩ := own_lines_ignored_iff hdfront hufront hh hl hfront
  refine ⟨fun h => ?_, (hyes _).mpr ((hyess hi).mpr (List.forall_mem_nil _))⟩
  have hu := (hnots hi).mp ((hnot _).mp h) namesake List.mem_cons_self
  exact absurd hu (by decide)

end Listener

end ChatRules
