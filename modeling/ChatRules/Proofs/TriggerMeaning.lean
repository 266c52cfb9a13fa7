import ChatRules.Proofs.Session
import Mathlib.Data.List.Infix

namespace ChatRules

def Names (sign : Char) (value name : String) : Prop :=
  value.toList = sign :: name.toList ∨ value = name ∧ name.toList.head? ≠ some sign

theorem names_iff {sign : Char} {value name : String} :
    Names sign value name ↔ name = stripSign sign value := by
  rw [Names, stripSign]
  cases hv : value.toList with
  | nil =>
    constructor
    · rintro (h | ⟨rfl, -⟩)
      · cases h
      · rfl
    · rintro rfl
      exact .inr ⟨rfl, by simp [hv]⟩
  | cons c rest =>
    by_cases hc : c = sign
    · subst hc
      simp only [if_true, List.cons.injEq, true_and]
      constructor
      · rintro (rfl | ⟨rfl, h⟩)
        · exact String.ofList_toList.symm
        · exact absurd (by rw [hv, List.head?_cons]) h
      · rintro rfl
        exact .inl String.toList_ofList.symm
    · simp only [List.cons.injEq, hc, if_false, false_and, false_or]
      constructor
      · rintro ⟨rfl, -⟩
        rfl
      · rintro rfl
        exact ⟨rfl, by simp [hv, hc]⟩

theorem stripSign_signed {sign : Char} {value name : String}
    (hs : value.toList = sign :: name.toList) (hn : name.toList.head? ≠ some sign) :
    stripSign sign value = stripSign sign name := by
  have hv : name = stripSign sign value := names_iff.mp (.inl hs)
  have hb : name = stripSign sign name := names_iff.mp (.inr ⟨rfl, hn⟩)
  rw [← hv, ← hb]

inductive Condition
  | room (value : String)
  | user (value : String)
  | contains (text : String)
  | startsWith (text : String)
  | regex (pattern : String)
  deriving DecidableEq, Repr

namespace Condition
open Text

def IsReadable (pattern : String) : Prop :=
  ∃ p, Pattern.read pattern.toList = .ok p

def Holds (m : Message) : Condition → Prop
  | .room value => Names '#' value m.room.id ∨ Names '#' value m.room.name
  | .user value => Names '@' value m.sender.id ∨ Names '@' value m.sender.handle
  | .contains text => lower text.toList <:+: lower m.text.toList
  | .startsWith text => lower text.toList <+: lower m.text.toList
  | .regex pattern => ∃ p, Pattern.read pattern.toList = .ok p ∧ p.occursIn m.text.toList = true

end Condition

namespace Trigger
open Text
variable {t : Trigger} {m : Message}

def AsksFor (t : Trigger) : Condition → Prop
  | .room value => t.room = some value ∧ value ≠ ""
  | .user value => t.user = some value ∧ value ≠ ""
  | .contains text => t.contains = some text ∧ text ≠ ""
  | .startsWith text => t.startsWith = some text ∧ text ≠ ""
  | .regex pattern => t.regex = some pattern ∧ pattern ≠ ""

def pruned (t : Trigger) : Trigger :=
  let kept (condition : Option String) := if condition = some "" then none else condition
  { t with
    room := kept t.room
    user := kept t.user
    contains := kept t.contains
    startsWith := kept t.startsWith
    regex := kept t.regex }

theorem populated_eq_some_iff {condition : Option String} {value : String} :
    populated? condition = some value ↔ condition = some value ∧ value ≠ "" := by
  simp [populated?, Option.filter_eq_some_iff]

theorem asks_iff {condition : Option String} {holds : String → Bool} :
    asks condition holds = true ↔
      ∀ value, condition = some value ∧ value ≠ "" → holds value = true := by
  simp only [← populated_eq_some_iff, asks]
  cases populated? condition with
  | none => simp
  | some value => simp

theorem isEmpty_eq_false_iff : t.isEmpty = false ↔ ∃ c, t.AsksFor c := by
  have hone (condition : Option String) :
      (populated? condition).isSome = true ↔ ∃ value, condition = some value ∧ value ≠ "" := by
    simp only [Option.isSome_iff_exists, populated_eq_some_iff]
  have hall : t.isEmpty = false ↔ ∃ c ∈ t.conditions, (populated? c).isSome = true := by
    simp [isEmpty, conditionCount, Option.isSome_iff_ne_none]
  simp only [hall, hone, conditions, List.mem_cons, List.not_mem_nil, or_false, exists_eq_or_imp,
    exists_eq_left]
  constructor
  · rintro (⟨v, h⟩ | ⟨v, h⟩ | ⟨v, h⟩ | ⟨v, h⟩ | ⟨v, h⟩)
    · exact ⟨.room v, h⟩
    · exact ⟨.user v, h⟩
    · exact ⟨.contains v, h⟩
    · exact ⟨.startsWith v, h⟩
    · exact ⟨.regex v, h⟩
  · rintro ⟨c, h⟩
    cases c with
    | room v => exact .inl ⟨v, h⟩
    | user v => exact .inr (.inl ⟨v, h⟩)
    | contains v => exact .inr (.inr (.inl ⟨v, h⟩))
    | startsWith v => exact .inr (.inr (.inr (.inl ⟨v, h⟩)))
    | regex v => exact .inr (.inr (.inr (.inr ⟨v, h⟩)))

theorem roomHolds_iff :
    t.roomHolds m = true ↔ ∀ value, t.AsksFor (.room value) → (Condition.room value).Holds m := by
  simp only [roomHolds, asks_iff, AsksFor, Condition.Holds, names_iff, Bool.or_eq_true, beq_iff_eq]

theorem userHolds_iff :
    t.userHolds m = true ↔ ∀ value, t.AsksFor (.user value) → (Condition.user value).Holds m := by
  simp only [userHolds, asks_iff, AsksFor, Condition.Holds, names_iff, Bool.or_eq_true, beq_iff_eq]

theorem containsHolds_iff :
    t.containsHolds m = true ↔
      ∀ text, t.AsksFor (.contains text) → (Condition.contains text).Holds m := by
  simp only [containsHolds, asks_iff, AsksFor, Condition.Holds, isInfix_iff]

theorem startHolds_iff :
    t.startHolds m = true ↔
      ∀ text, t.AsksFor (.startsWith text) → (Condition.startsWith text).Holds m := by
  simp only [startHolds, asks_iff, AsksFor, Condition.Holds, List.isPrefixOf_iff_prefix]

/-- The message has all that is asked for, but perhaps the pattern. -/
def HasPlain (t : Trigger) (m : Message) : Prop :=
  ∀ c, t.AsksFor c → (∀ pattern, c ≠ .regex pattern) → c.Holds m

theorem hasPlain_iff :
    t.HasPlain m ↔
      (t.roomHolds m && t.userHolds m && t.containsHolds m && t.startHolds m) = true := by
  simp only [Bool.and_eq_true, roomHolds_iff, userHolds_iff, containsHolds_iff, startHolds_iff]
  constructor
  · intro h
    exact ⟨⟨⟨fun v ha => h _ ha nofun, fun v ha => h _ ha nofun⟩, fun v ha => h _ ha nofun⟩,
      fun v ha => h _ ha nofun⟩
  · rintro ⟨⟨⟨hr, hu⟩, hc⟩, hs⟩ c ha hn
    cases c with
    | room v => exact hr v ha
    | user v => exact hu v ha
    | contains v => exact hc v ha
    | startsWith v => exact hs v ha
    | regex v => exact absurd rfl (hn v)

theorem regexHolds_eq_error_iff {value : String} :
    t.regexHolds m = .error value ↔
      t.AsksFor (.regex value) ∧ ¬ Condition.IsReadable value := by
  rw [AsksFor, ← populated_eq_some_iff, regexHolds]
  cases hp : populated? t.regex with
  | none => simp
  | some pattern =>
    cases hr : Pattern.read pattern.toList with
    | error fault =>
      simp only [hr, Except.error.injEq, Option.some.injEq]
      constructor
      · rintro rfl
        refine ⟨rfl, ?_⟩
        rintro ⟨p, hp⟩
        rw [hr] at hp
        cases hp
      · exact And.left
    | ok p =>
      simp only [hr, reduceCtorEq, Option.some.injEq, false_iff, not_and, not_not]
      rintro rfl
      exact ⟨p, hr⟩

theorem regexHolds_eq_true_iff :
    t.regexHolds m = .ok true ↔
      ∀ pattern, t.AsksFor (.regex pattern) → (Condition.regex pattern).Holds m := by
  simp only [AsksFor, ← populated_eq_some_iff, Condition.Holds]
  rw [regexHolds]
  cases populated? t.regex with
  | none => simp
  | some pattern =>
    cases hr : Pattern.read pattern.toList with
    | error fault => simp [hr]
    | ok p => simp [hr]

theorem evaluate_of_message (hk : t.kind = .message) (ha : ∃ c, t.AsksFor c) (hp : t.HasPlain m) :
    t.evaluate m = t.regexHolds m := by
  have he : ¬ (t.kind ≠ .message ∨ t.isEmpty = true) := by
    rw [hk, isEmpty_eq_false_iff.mpr ha]
    simp
  rw [evaluate, if_neg he, if_pos (hasPlain_iff.mp hp)]

theorem evaluate_eq_false (h : ¬ (t.kind = .message ∧ (∃ c, t.AsksFor c) ∧ t.HasPlain m)) :
    t.evaluate m = .ok false := by
  rw [evaluate]
  split
  · rfl
  · next hn =>
    obtain ⟨hk, he⟩ := not_or.mp hn
    refine if_neg fun hp => h ⟨not_not.mp hk, ?_, hasPlain_iff.mpr hp⟩
    exact isEmpty_eq_false_iff.mp (Bool.eq_false_iff.mpr he)

theorem evaluate_eq_true_iff :
    t.evaluate m = .ok true ↔
      t.kind = .message ∧ (∃ c, t.AsksFor c) ∧ ∀ c, t.AsksFor c → c.Holds m := by
  by_cases h : t.kind = .message ∧ (∃ c, t.AsksFor c) ∧ t.HasPlain m
  · obtain ⟨hk, ha, hp⟩ := h
    rw [evaluate_of_message hk ha hp, regexHolds_eq_true_iff]
    constructor
    · intro hr
      refine ⟨hk, ha, fun c hc => ?_⟩
      cases c with
      | regex pattern => exact hr pattern hc
      | _ => exact hp _ hc nofun
    · rintro ⟨-, -, hall⟩ pattern hc
      exact hall _ hc
  · rw [evaluate_eq_false h]
    refine iff_of_false (by simp) ?_
    rintro ⟨hk, ha, hall⟩
    exact h ⟨hk, ha, fun c hc _ => hall c hc⟩

theorem evaluate_eq_error_iff {value : String} :
    t.evaluate m = .error value ↔
      t.kind = .message ∧ t.AsksFor (.regex value) ∧ ¬ Condition.IsReadable value ∧
        t.HasPlain m := by
  by_cases h : t.kind = .message ∧ (∃ c, t.AsksFor c) ∧ t.HasPlain m
  · obtain ⟨hk, ha, hp⟩ := h
    rw [evaluate_of_message hk ha hp, regexHolds_eq_error_iff]
    simp only [hk, hp, true_and, and_true]
  · rw [evaluate_eq_false h]
    refine iff_of_false (by simp) ?_
    rintro ⟨hk, ha, -, hp⟩
    exact h ⟨hk, ⟨_, ha⟩, hp⟩

theorem fires_eq_true_iff : t.fires m = true ↔ t.evaluate m = .ok true := by
  rw [fires]
  cases t.evaluate m with
  | error value => simp [Except.toOption]
  | ok b => simp [Except.toOption]

theorem evaluate_cases (t : Trigger) (m : Message) :
    (∃ value, t.evaluate m = .error value) ∨ t.evaluate m = .ok (t.fires m) := by
  rw [fires]
  cases t.evaluate m with
  | error value => exact .inl ⟨value, rfl⟩
  | ok b => exact .inr rfl

section Alike
variable {t' : Trigger}

theorem evaluate_congr (hk : t.kind = t'.kind) (ha : (∃ c, t.AsksFor c) ↔ ∃ c, t'.AsksFor c)
    (hp : t.HasPlain m ↔ t'.HasPlain m) (hr : t.regexHolds m = t'.regexHolds m) :
    t.evaluate m = t'.evaluate m := by
  by_cases h : t.kind = .message ∧ (∃ c, t.AsksFor c) ∧ t.HasPlain m
  · obtain ⟨hm, hc, hh⟩ := h
    rw [evaluate_of_message hm hc hh,
      evaluate_of_message (hk ▸ hm) (ha.mp hc) (hp.mp hh), hr]
  · rw [evaluate_eq_false h]
    rw [hk, ha, hp] at h
    rw [evaluate_eq_false h]

theorem asksFor_pruned (c : Condition) : t.pruned.AsksFor c ↔ t.AsksFor c := by
  have hkept (condition : Option String) (value : String) :
      ((if condition = some "" then none else condition) = some value ∧ value ≠ "") ↔
        condition = some value ∧ value ≠ "" := by
    split
    · next h =>
      subst h
      simp [eq_comm]
    · rfl
  cases c <;> exact hkept _ _

theorem evaluate_pruned (t : Trigger) (m : Message) : t.pruned.evaluate m = t.evaluate m := by
  have ha : (∃ c, t.pruned.AsksFor c) ↔ ∃ c, t.AsksFor c := by simp only [asksFor_pruned]
  have hh : t.pruned.HasPlain m ↔ t.HasPlain m := by simp only [HasPlain, asksFor_pruned]
  refine evaluate_congr rfl ha hh ?_
  have hp : populated? t.pruned.regex = populated? t.regex := by
    ext value
    simp only [populated_eq_some_iff]
    exact asksFor_pruned (.regex value)
  rw [regexHolds, regexHolds, hp]

theorem ne_empty_of_signed {sign : Char} {value : String} {rest : List Char}
    (hs : value.toList = sign :: rest) : value ≠ "" := by
  rintro rfl
  cases hs

variable {value name : String}

theorem asks_signed {sign : Char} (hs : value.toList = sign :: name.toList)
    (hne : name ≠ "") (hn : name.toList.head? ≠ some sign) (holds : String → Bool) :
    asks (some value) (fun v => holds (stripSign sign v)) =
      asks (some name) fun v => holds (stripSign sign v) := by
  have hpv : populated? (some value) = some value :=
    populated_eq_some_iff.mpr ⟨rfl, ne_empty_of_signed hs⟩
  have hpn : populated? (some name) = some name := populated_eq_some_iff.mpr ⟨rfl, hne⟩
  simp only [asks, hpv, hpn, stripSign_signed hs hn]

theorem evaluate_signed_room (hs : value.toList = '#' :: name.toList) (hne : name ≠ "")
    (hn : name.toList.head? ≠ some '#') :
    { t with room := some value }.evaluate m = { t with room := some name }.evaluate m := by
  have hr : { t with room := some value }.roomHolds m = { t with room := some name }.roomHolds m :=
    asks_signed hs hne hn fun v => m.room.id == v || m.room.name == v
  refine evaluate_congr rfl ?_ ?_ rfl
  · exact iff_of_true ⟨.room value, rfl, ne_empty_of_signed hs⟩ ⟨.room name, rfl, hne⟩
  · rw [hasPlain_iff, hasPlain_iff, hr]
    rfl

theorem evaluate_signed_user (hs : value.toList = '@' :: name.toList) (hne : name ≠ "")
    (hn : name.toList.head? ≠ some '@') :
    { t with user := some value }.evaluate m = { t with user := some name }.evaluate m := by
  have hu : { t with user := some value }.userHolds m = { t with user := some name }.userHolds m :=
    asks_signed hs hne hn fun v => m.sender.id == v || m.sender.handle == v
  refine evaluate_congr rfl ?_ ?_ rfl
  · exact iff_of_true ⟨.user value, rfl, ne_empty_of_signed hs⟩ ⟨.user name, rfl, hne⟩
  · rw [hasPlain_iff, hasPlain_iff, hu]
    rfl

end Alike

/-- What a trigger means does not depend on the order in which its conditions are looked at, and
neither empty conditions nor the signs of names change it. -/
theorem trigger_means_its_conditions (t : Trigger) (m : Message) :
    (t.fires m = true ↔
      t.kind = .message ∧ (∃ c, t.AsksFor c) ∧ ∀ c, t.AsksFor c → c.Holds m) ∧
    (∀ pattern, t.evaluate m = .error pattern ↔
      t.kind = .message ∧ t.AsksFor (.regex pattern) ∧ ¬ Condition.IsReadable pattern ∧
        ∀ c, t.AsksFor c → (∀ other, c ≠ .regex other) → c.Holds m) ∧
    ((∃ pattern, t.evaluate m = .error pattern) ∨ t.evaluate m = .ok (t.fires m)) ∧
    ((∀ c, ¬ t.AsksFor c) → t.evaluate m = .ok false) ∧
    t.pruned.evaluate m = t.evaluate m ∧
    ∀ name : String, name ≠ "" →
      (name.toList.head? ≠ some '#' →
        { t with room := some ("#" ++ name) }.evaluate m =
          { t with room := some name }.evaluate m) ∧
      (name.toList.head? ≠ some '@' →
        { t with user := some ("@" ++ name) }.evaluate m =
          { t with user := some name }.evaluate m) := by
  refine ⟨fires_eq_true_iff.trans evaluate_eq_true_iff, fun pattern => evaluate_eq_error_iff,
    evaluate_cases t m, fun hn => ?_, evaluate_pruned t m,
    fun name hne => ⟨fun hs => ?_, fun hs => ?_⟩⟩
  · refine evaluate_eq_false ?_
    rintro ⟨-, ⟨c, hc⟩, -⟩
    exact hn c hc
  · exact evaluate_signed_room (by simp) hne hs
  · exact evaluate_signed_user (by simp) hne hs

def pinging : Trigger :=
  ⟨.message, none, none, some "PING", some "", some "^p.ng!$"⟩

theorem signed_names_fire_alike :
    (∀ c, ¬ onMessage.AsksFor c) ∧ onMessage.evaluate Session.ping = .ok false ∧
    "support" ≠ "" ∧ "support".toList.head? ≠ some '#' ∧ "support".toList.head? ≠ some '@' ∧
    { pinging with room := some "#support" }.evaluate Session.ping =
      { pinging with room := some "support" }.evaluate Session.ping ∧
    { pinging with user := some "@support" }.evaluate Session.ping =
      { pinging with user := some "support" }.evaluate Session.ping ∧
    { pinging with room := some "support" }.fires Session.ping = true ∧
    { pinging with user := some "support" }.fires Session.ping = false := by
  have hnone : ∀ c, ¬ onMessage.AsksFor c := by
    intro c
    cases c <;> exact fun h => nomatch h.1
  have hne : "support" ≠ "" := by decide
  have hroom : "support".toList.head? ≠ some '#' := by decide
  have huser : "support".toList.head? ≠ some '@' := by decide
  obtain ⟨-, -, -, hempty, -, -⟩ := trigger_means_its_conditions onMessage Session.ping
  obtain ⟨-, -, -, -, -, hsigned⟩ := trigger_means_its_conditions pinging Session.ping
  obtain ⟨hr, hu⟩ := hsigned "support" hne
  exact ⟨hnone, hempty hnone, hne, hroom, huser, hr hroom, hu huser, by decide +kernel,
    by decide +kernel⟩

end Trigger

end ChatRules
