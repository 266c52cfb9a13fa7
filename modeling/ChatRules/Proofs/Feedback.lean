import ChatRules.Proofs.Isolation
import Mathlib.Logic.Relation

namespace ChatRules

namespace Text

theorem isInfix_self (s : List Char) : isInfix s s = true := by
  cases s with
  | nil => rfl
  | cons c s => simp [isInfix]

end Text

namespace Trigger

def containing (text : String) : Trigger :=
  { onMessage with contains := some text }

theorem fires_containing {text : String} {m : Message} (ht : text ≠ "")
    (hm : Text.isInfix (Text.lower text.toList) (Text.lower m.text.toList) = true) :
    (containing text).fires m = true := by
  have hp : populated? (some text) = some text := by simp [populated?, ht]
  have he : (containing text).isEmpty = false := by
    simp [isEmpty, conditionCount, conditions, containing, onMessage, populated?, ht]
  have hc : (containing text).containsHolds m = true := by
    simp only [containsHolds, asks, containing, hp, hm]
  have hk : ¬ ((containing text).kind ≠ .message ∨ (containing text).isEmpty = true) := by
    rw [he]
    simp [containing, onMessage]
  rw [fires, evaluate, if_neg hk, hc]
  rfl

end Trigger

namespace Work
variable {α β : Type}

theorem mem_calls_bind_left {call : HostCall} {w : Work α} {f : α → Work β}
    (h : call ∈ w.calls) : call ∈ (w >>= f).calls := by
  obtain ⟨calls, result⟩ := w
  cases result with
  | error fault => exact h
  | ok a => exact List.mem_append_left _ h

end Work

namespace HostCall

def IsBy (sender : User) : HostCall → Prop
  | .post _ name _ => name = sender
  | _ => True

theorem IsOn.isBy {m : Message} {call : HostCall} (h : call.IsOn m) : call.IsBy m.sender := by
  cases h with
  | post room text => rfl
  | _ => trivial

end HostCall

namespace Action
variable (host : Host) (m : Message)

theorem roomOf_sameRoom :
    roomOf host m sameRoom = Work.done (some m.room) :=
  rfl

theorem post_mem_attempt {text : String} (ht : text ≠ "") :
    .post m.room m.sender text ∈ ((post sameRoom text).attempt host m).calls := by
  have hs : ¬ (sameRoom = "" ∨ text = "") := by
    rintro (h | h)
    · exact absurd h (by decide)
    · exact ht h
  rw [attempt, if_neg hs, roomOf_sameRoom]
  exact Work.mem_calls_bind_left (w := Work.ask _ (host.post m.room m.sender text))
    (List.mem_singleton_self _)

end Action

namespace Rule

theorem mem_calls_run {host : Host} {m : Message} {rule : Rule} {a : Action} {call : HostCall}
    (ha : a ∈ rule.actions) (hc : call ∈ (a.attempt host m).calls) :
    call ∈ (rule.run host m).calls := by
  rw [Rule.run, if_neg (List.ne_nil_of_mem ha)]
  exact List.mem_flatMap.mpr ⟨a.perform host m, List.mem_map_of_mem ha, hc⟩

end Rule

namespace Dispatch

theorem isBy_runRules (host : Host) (m : Message) (d : Dispatch) (rules : List Rule) :
    ∀ call ∈ (runRules host m d rules).1, call.IsBy m.sender := by
  rw [runRules_eq_ofRules]
  intro call h
  obtain ⟨rule, _, hc⟩ := List.mem_flatMap.mp h
  exact (rule.isOn_calls host m call hc).isBy

theorem ignoredSelf_runRules (host : Host) (m : Message) (d : Dispatch) (rules : List Rule) :
    (runRules host m d rules).2.ignoredSelf = d.ignoredSelf := by
  rw [runRules_eq_ofRules, beside]

def ignored (m : Message) : Work Dispatch :=
  ⟨[.appUser], .ok { start m.id with ignoredSelf := true }⟩

variable {host : Host} {rules : Except Fault (List Rule)} {m echo : Message}

theorem run_eq_ignored_iff : run host rules m = ignored m ↔ isOwn host m = true := by
  rw [run.eq_def]
  split
  · exact iff_of_true rfl ‹_›
  · refine iff_of_false ?_ ‹_›
    cases rules with
    | error fault =>
      intro h
      cases congrArg Work.result h
    | ok rules =>
      intro h
      have hd := Except.ok.inj (congrArg Work.result h)
      have hi := ignoredSelf_runRules host m (start m.id) rules
      rw [hd] at hi
      cases hi

/-- The host takes a post that the dispatch of a message makes, and the echo is what it delivers of
it: the text, the room, and the sender that it was told. -/
structure Echoes (host : Host) (rules : Except Fault (List Rule)) (m echo : Message) : Prop where
  posted : .post echo.room echo.sender echo.text ∈ (run host rules m).calls
  accepted : host.post echo.room echo.sender echo.text = .ok ()

theorem Echoes.not_own (h : Echoes host rules m echo) : isOwn host m = false := by
  rw [Bool.eq_false_iff]
  intro ho
  have hp := h.posted
  rw [run_eq_ignored_iff.mpr ho] at hp
  cases List.mem_singleton.mp hp

theorem Echoes.sender_eq (h : Echoes host rules m echo) : echo.sender = m.sender := by
  have hp := h.posted
  rw [run.eq_def, h.not_own, if_neg Bool.false_ne_true] at hp
  cases rules with
  | error fault => cases List.mem_singleton.mp hp
  | ok rules =>
    rcases List.mem_cons.mp hp with hp | hp
    · cases hp
    · exact isBy_runRules host m _ rules _ hp

theorem isOwn_congr {m m' : Message} (h : m'.sender = m.sender) :
    isOwn host m' = isOwn host m := by
  rw [isOwn, isOwn, h]

theorem Echoes.echo_not_own (h : Echoes host rules m echo) : isOwn host echo = false := by
  rw [isOwn_congr h.sender_eq, h.not_own]

theorem sender_eq_of_chain (h : Relation.ReflTransGen (Echoes host rules) m echo) :
    echo.sender = m.sender := by
  induction h with
  | refl => rfl
  | tail _ he ih => exact he.sender_eq.trans ih

theorem chain_not_own (h : Relation.TransGen (Echoes host rules) m echo) :
    isOwn host echo = false := by
  obtain ⟨first, hf, hc⟩ := Relation.TransGen.head'_iff.mp h
  rw [isOwn_congr (sender_eq_of_chain hc), hf.echo_not_own]

theorem not_ignored_of_not_own (rules : Except Fault (List Rule)) (h : isOwn host m = false) :
    run host rules m ≠ ignored m := by
  intro hi
  rw [run_eq_ignored_iff.mp hi] at h
  cases h

/-- However often a post came back, it is dispatched like the first message: the echoes of a message
are ignored only where there are none. -/
theorem echoes_ignored_iff_none (host : Host) (rules rules' : Except Fault (List Rule))
    (m : Message) :
    (∀ echo, Relation.TransGen (Echoes host rules) m echo →
      echo.sender = m.sender ∧ run host rules' echo ≠ ignored echo) ∧
    ((∀ echo, Echoes host rules m echo → run host rules' echo = ignored echo) ↔
      ¬ ∃ echo, Echoes host rules m echo) := by
  have hn : ∀ echo, Relation.TransGen (Echoes host rules) m echo →
      run host rules' echo ≠ ignored echo :=
    fun _ hc => not_ignored_of_not_own rules' (chain_not_own hc)
  refine ⟨fun echo hc => ⟨sender_eq_of_chain hc.to_reflTransGen, hn echo hc⟩, ?_⟩
  constructor
  · rintro h ⟨echo, he⟩
    exact hn echo (.single he) (h echo he)
  · intro h echo he
    exact absurd ⟨echo, he⟩ h

theorem mem_runRules {rules : List Rule} {rule : Rule} {call : HostCall} {d : Dispatch}
    (hr : rule ∈ rules) (ht : isTried rule = true) (hf : rule.trigger.fires m = true)
    (hc : call ∈ (rule.run host m).calls) : call ∈ (runRules host m d rules).1 := by
  have hd : rule ∈ due m rules := List.mem_filter.mpr ⟨hr, Bool.and_eq_true_iff.mpr ⟨ht, hf⟩⟩
  rw [Rule.calls_run] at hc
  rw [runRules_eq_ofRules]
  exact List.mem_flatMap.mpr ⟨rule, hd, hc⟩

def posts (m : Message) (text : String) (ids : Nat → String) : Nat → Message
  | 0 => m
  | n + 1 => ⟨ids n, text, m.sender, m.room⟩

theorem echoes_without_end {rules : List Rule} {rule : Rule} {text : String}
    (ho : isOwn host m = false) (hr : rule ∈ rules) (ht : isTried rule = true)
    (ha : .post Action.sameRoom text ∈ rule.actions) (hn : text ≠ "")
    (hp : host.post m.room m.sender text = .ok ()) (hm : rule.trigger.fires m = true)
    (ids : Nat → String) (he : ∀ n, rule.trigger.fires ⟨ids n, text, m.sender, m.room⟩ = true) :
    ∃ messages : Nat → Message, messages 0 = m ∧
      ∀ n, Echoes host (.ok rules) (messages n) (messages (n + 1)) := by
  have step (first : Message) (id : String) (hs : first.sender = m.sender)
      (hroom : first.room = m.room) (hf : rule.trigger.fires first = true) :
      Echoes host (.ok rules) first ⟨id, text, m.sender, m.room⟩ := by
    refine ⟨?_, hp⟩
    rw [run, isOwn_congr hs, ho, if_neg Bool.false_ne_true]
    refine List.mem_cons_of_mem _ (mem_runRules hr ht hf (Rule.mem_calls_run ha ?_))
    rw [← hs, ← hroom]
    exact Action.post_mem_attempt host first hn
  refine ⟨posts m text ids, rfl, fun n => ?_⟩
  cases n with
  | zero => exact step m (ids 0) rfl rfl hm
  | succ n => exact step _ (ids (n + 1)) rfl rfl (he n)

theorem echoes_without_end_of_containing {rules : List Rule} {rule : Rule} {text : String}
    {sender : User} {room : Room} {ids : Nat → String}
    (ho : isOwn host ⟨ids 0, text, sender, room⟩ = false) (hr : rule ∈ rules)
    (he : rule.enabled = true) (ht : rule.trigger = .containing text)
    (ha : .post Action.sameRoom text ∈ rule.actions) (hn : text ≠ "")
    (hp : host.post room sender text = .ok ()) :
    ∃ messages : Nat → Message, messages 0 = ⟨ids 0, text, sender, room⟩ ∧
      ∀ n, Echoes host (.ok rules) (messages n) (messages (n + 1)) := by
  have hf (id : String) : rule.trigger.fires ⟨id, text, sender, room⟩ = true := by
    rw [ht]
    exact Trigger.fires_containing hn (Text.isInfix_self _)
  have hi : isTried rule = true := by
    rw [isTried, he, ht]
    rfl
  exact echoes_without_end ho hr hi ha hn hp (hf _) ids fun n => hf (ids n)

end Dispatch

end ChatRules
