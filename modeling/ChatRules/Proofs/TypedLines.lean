import ChatRules.Proofs.OwnUser
import ChatRules.Proofs.Tokens
import Mathlib.Data.List.TakeWhile

namespace ChatRules
open Text

namespace Line
open Token (IsGap cutAtBlank_append)
variable {room user gap gap' text name : List Char} {sign : Char}

def typed (room gap user gap' text : List Char) : List Char :=
  '#' :: room ++ (gap ++ ('@' :: user ++ (gap' ++ text)))

theorem named?_cons (hn : name ≠ []) : named? sign (sign :: name) = some name := by
  simp [named?, after?, hn]

theorem ne_nil_of_named? {word : List Char} (h : named? sign word = some name) : name ≠ [] := by
  simpa using (Option.filter_eq_some_iff.mp h).2

theorem read?_typed (hr : room ≠ []) (hrb : ∀ c ∈ room, isBlank c = false) (hu : user ≠ [])
    (hub : ∀ c ∈ user, isBlank c = false) (hg : IsGap gap) (hg' : IsGap gap')
    (ht : trim text ≠ []) : read? (typed room gap user gap' text) = some ⟨room, user, trim text⟩ := by
  have hroom : ∀ c ∈ '#' :: room, isBlank c = false := List.forall_mem_cons.mpr ⟨by decide, hrb⟩
  have huser : ∀ c ∈ '@' :: user, isBlank c = false := List.forall_mem_cons.mpr ⟨by decide, hub⟩
  obtain ⟨before, after, hs, hb, ha⟩ := exists_trim text
  have hgap : IsGap (gap' ++ before) :=
    ⟨by simp [hg'.ne_nil], List.forall_mem_append.mpr ⟨hg'.blank, hb⟩⟩
  obtain ⟨rest, hrest, hcut⟩ :=
    cutAtBlank_append hroom hg ('@' :: user ++ (gap' ++ before ++ trim text))
  obtain ⟨rest', hrest', hcut'⟩ := cutAtBlank_append huser hgap (trim text)
  have hsaid : IsTrimmed ('@' :: user ++ (gap' ++ before ++ trim text)) :=
    (isTrimmed_of_unbroken huser).append (List.cons_ne_nil _ _) (isTrimmed_trim text) ht _
  have hline : IsTrimmed ('#' :: room ++ (gap ++ ('@' :: user ++ (gap' ++ before ++ trim text)))) :=
    (isTrimmed_of_unbroken hroom).append (List.cons_ne_nil _ _) hsaid (by simp) _
  have htyped : typed room gap user gap' text =
      [] ++ ('#' :: room ++ (gap ++ ('@' :: user ++ (gap' ++ before ++ trim text))) ++ after) := by
    rw [typed]
    conv_lhs => rw [hs]
    simp
  have hleft : trimLeft (rest ++ ('@' :: user ++ (gap' ++ before ++ trim text))) =
      '@' :: user ++ (gap' ++ before ++ trim text) :=
    Sentence.Phrase.dropWhile_append_of_stop hrest hsaid.head
  rw [read?, htyped, trim_between (List.forall_mem_nil _) hline ha, hcut]
  simp only [Option.bind_eq_bind, Option.bind_some, hleft, hcut', named?_cons hr, named?_cons hu,
    trim_append hrest' (isTrimmed_trim text), if_neg ht]

theorem names_ne_nil {s : List Char} (h : read? s = some ⟨room, user, text⟩) :
    room ≠ [] ∧ user ≠ [] := by
  simp only [read?, Option.bind_eq_bind, Option.bind_eq_some_iff] at h
  obtain ⟨_, _, _, _, room', hr, user', hu, h⟩ := h
  obtain ⟨-, h⟩ := Option.ite_none_left_eq_some.mp h
  obtain ⟨rfl, rfl, -⟩ := Line.mk.inj (Option.some.inj h)
  exact ⟨ne_nil_of_named? hr, ne_nil_of_named? hu⟩

end Line

namespace Directory

section LookUp
variable {α : Type} {name id : α → String} {make : String → α} {known : List α} {key : String}

def lookUp (name id : α → String) (make : String → α) (known : List α) (key : String) : α :=
  (known.find? fun a => name a == key || id a == key).getD (make key)

theorem lookUp_cases :
    (lookUp name id make known key ∈ known ∧
      (name (lookUp name id make known key) = key ∨ id (lookUp name id make known key) = key)) ∨
    lookUp name id make known key = make key := by
  rw [lookUp]
  cases hf : known.find? fun a => name a == key || id a == key with
  | none => exact .inr rfl
  | some a => exact .inl ⟨List.mem_of_find?_eq_some hf, by simpa using List.find?_some hf⟩

variable (hn : ∀ key, name (make key) = key) (hi : ∀ key, id (make key) = key)
include hn

theorem lookUp_goes_by :
    name (lookUp name id make known key) = key ∨ id (lookUp name id make known key) = key := by
  rcases lookUp_cases with ⟨-, h⟩ | h
  · exact h
  · rw [h]
    exact .inl (hn key)

include hi

theorem lookUp_nameless (hk : ∀ a ∈ known, id a ≠ "" ∧ name a ≠ "") :
    (lookUp name id make known key = make "" ↔ key = "") ∧
      (key ≠ "" →
        id (lookUp name id make known key) ≠ "" ∧ name (lookUp name id make known key) ≠ "") := by
  have hby : name (lookUp name id make known key) = key ∨
      id (lookUp name id make known key) = key := lookUp_goes_by hn
  refine ⟨⟨fun h => ?_, ?_⟩, fun hkey => ?_⟩
  · rw [h, hn, hi] at hby
    exact hby.elim Eq.symm Eq.symm
  · rintro rfl
    rcases lookUp_cases with ⟨hm, -⟩ | h
    · exact hby.elim (absurd · (hk _ hm).2) (absurd · (hk _ hm).1)
    · exact h
  · rcases lookUp_cases with ⟨hm, -⟩ | h
    · exact hk _ hm
    · rw [h, hn, hi]
      exact ⟨hkey, hkey⟩

end LookUp

structure IsNamed (d : Directory) : Prop where
  users : ∀ u ∈ d.users, u.id ≠ "" ∧ u.handle ≠ ""
  rooms : ∀ r ∈ d.rooms, r.id ≠ "" ∧ r.name ≠ ""

theorem bareName_eq_empty_iff {sign : Char} (name : List Char) :
    bareName sign (String.ofList name) = "" ↔ ∀ c ∈ name, c = sign := by
  rw [bareName, String.toList_ofList, ← String.toList_inj, String.toList_ofList,
    String.toList_empty, List.dropWhile_eq_nil_iff]
  simp only [decide_eq_true_eq]

section Parties
variable {d : Directory} (name : String)

theorem user_goes_by :
    (d.user name).handle = bareName '@' name ∨ (d.user name).id = bareName '@' name :=
  lookUp_goes_by fun _ => rfl

theorem room_goes_by :
    (d.room name).name = bareName '#' name ∨ (d.room name).id = bareName '#' name :=
  lookUp_goes_by fun _ => rfl

theorem IsNamed.user_nameless (hd : d.IsNamed) :
    (d.user name = ⟨"", ""⟩ ↔ bareName '@' name = "") ∧
      (bareName '@' name ≠ "" → (d.user name).id ≠ "" ∧ (d.user name).handle ≠ "") := by
  have hmade : ∀ key, User.handle ⟨key, key⟩ = key ∧ User.id ⟨key, key⟩ = key :=
    fun _ => ⟨rfl, rfl⟩
  exact lookUp_nameless (fun key => (hmade key).1) (fun key => (hmade key).2) hd.users

theorem IsNamed.room_nameless (hd : d.IsNamed) :
    (d.room name = ⟨"", ""⟩ ↔ bareName '#' name = "") ∧
      (bareName '#' name ≠ "" → (d.room name).id ≠ "" ∧ (d.room name).name ≠ "") := by
  have hmade : ∀ key, Room.name ⟨key, key⟩ = key ∧ Room.id ⟨key, key⟩ = key :=
    fun _ => ⟨rfl, rfl⟩
  exact lookUp_nameless (fun key => (hmade key).1) (fun key => (hmade key).2) hd.rooms

end Parties

end Directory

namespace Listener
open Directory

/-- Whoever a line is from and wherever it is said has an id and a name, except behind names of
nothing but signs: those are all one user, and one room, without either. -/
theorem nameless_iff_all_signs {c : Console} (hd : c.directory.IsNamed)
    {line room user text : List Char} (h : Line.read? line = some ⟨room, user, text⟩) :
    let sender := c.directory.user (String.ofList user)
    let place := c.directory.room (String.ofList room)
    room ≠ [] ∧ user ≠ [] ∧
      (∀ stamps l, hear c stamps line l = handle c stamps sender place text l) ∧
      (sender = ⟨"", ""⟩ ↔ ∀ x ∈ user, x = '@') ∧
      ((∃ x ∈ user, x ≠ '@') → sender.id ≠ "" ∧ sender.handle ≠ "") ∧
      (place = ⟨"", ""⟩ ↔ ∀ x ∈ room, x = '#') ∧
      ((∃ x ∈ room, x ≠ '#') → place.id ≠ "" ∧ place.name ≠ "") := by
  obtain ⟨hroom, huser⟩ := Line.names_ne_nil h
  obtain ⟨hnobody, hsomebody⟩ := hd.user_nameless (String.ofList user)
  obtain ⟨hnowhere, hsomewhere⟩ := hd.room_nameless (String.ofList room)
  refine ⟨hroom, huser, fun stamps l => ?_, hnobody.trans (bareName_eq_empty_iff user),
    fun hx => hsomebody ?_, hnowhere.trans (bareName_eq_empty_iff room),
    fun hx => hsomewhere ?_⟩
  · rw [hear, h]
  · rw [ne_eq, bareName_eq_empty_iff]
    simpa using hx
  · rw [ne_eq, bareName_eq_empty_iff]
    simpa using hx

def orderedGreeting : String :=
  "/workflow english \"when @john says \"hi\" then send \"hello\" to #ops\""

def asking : Hearing Memory :=
  typed ("#ops @@ " ++ orderedGreeting)

def deciding : Hearing Memory :=
  typed "#ops @@@ approve"

theorem preview_of_nobody_is_shared :
    opsConsole.directory.IsNamed ∧
    Line.read? asking.line = some ⟨"ops".toList, "@".toList, orderedGreeting.toList⟩ ∧
    Line.read? deciding.line = some ⟨"ops".toList, "@@".toList, "approve".toList⟩ ∧
    opsConsole.directory.user "@" = ⟨"", ""⟩ ∧ opsConsole.directory.user "@@" = ⟨"", ""⟩ ∧
    hear opsConsole deciding.stamps deciding.line (after opsConsole [asking] (start, [])).1 =
      approve opsConsole deciding.stamps ⟨"", ""⟩ ⟨"R1", "ops"⟩ [greetStep]
        ((after opsConsole [asking] (start, [])).1.drop "") := by
  have hd : opsConsole.directory.IsNamed := ⟨by decide, by decide⟩
  have ha : Line.read? asking.line =
      some ⟨"ops".toList, "@".toList, orderedGreeting.toList⟩ := by
    decide +kernel
  have hb : Line.read? deciding.line =
      some ⟨"ops".toList, "@@".toList, "approve".toList⟩ := by
    decide +kernel
  have hw : (after opsConsole [asking] (start, [])).1.preview? "" = some [greetStep] := by
    decide +kernel
  have happrove : Decision.ofText "approve".toList = .approve := by decide +kernel
  have hops : opsConsole.directory.room (String.ofList "ops".toList) = ⟨"R1", "ops"⟩ := by
    decide +kernel
  obtain ⟨-, -, -, hasker, -⟩ := nameless_iff_all_signs hd ha
  obtain ⟨-, -, hhear, hdecider, -⟩ := nameless_iff_all_signs hd hb
  have hasked := hasker.mpr (by simp)
  have hdecided := hdecider.mpr (by simp)
  refine ⟨hd, ha, hb, hasked, hdecided, ?_⟩
  rw [hhear, hdecided, hops, handle, hw]
  simp only [happrove]

end Listener

end ChatRules
