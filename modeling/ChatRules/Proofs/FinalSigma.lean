import ChatRules.Proofs.Feedback
import ChatRules.Proofs.TriggerMeaning

/-!
Lower case and concatenation. Every letter but one has a lower case of its own. That of a capital
sigma tells whether a word ends there, so a text that holds the condition letter by letter fires
exactly as long as what stands beside does not turn a sigma of the condition.
-/

namespace ChatRules

namespace Text

def endsCased (s : List Char) : Bool :=
  s.foldl casedAfter false

def IsFinal (before behind : List Char) : Prop :=
  endsCased before = true ∧ startsCased behind = false

def sigma (before behind : List Char) : Char :=
  if endsCased before && !startsCased behind then 'ς' else 'σ'

def lowerBetween (before : List Char) : List Char → List Char → List Char
  | [], _ => []
  | c :: rest, behind =>
    (if c = 'Σ' then [sigma before (rest ++ behind)] else lowerChar c)
      ++ lowerBetween (before ++ [c]) rest behind

theorem endsCased_append (s t : List Char) :
    endsCased (s ++ t) = t.foldl casedAfter (endsCased s) :=
  List.foldl_append

theorem endsCased_snoc (s : List Char) (c : Char) :
    endsCased (s ++ [c]) = casedAfter (endsCased s) c :=
  endsCased_append s [c]

theorem lowerFrom_append (before s t : List Char) :
    lowerFrom (endsCased before) (s ++ t) =
      lowerBetween before s t ++ lowerFrom (endsCased (before ++ s)) t := by
  induction s generalizing before with
  | nil => simp [lowerBetween]
  | cons c s ih =>
    rw [List.cons_append, lowerFrom, ← endsCased_snoc, ih, lowerBetween, sigma]
    simp only [List.append_assoc, List.singleton_append]

theorem lower_eq_lowerBetween (s : List Char) : lower s = lowerBetween [] s [] := by
  have h := lowerFrom_append [] s []
  rwa [List.append_nil, lowerFrom, List.append_nil] at h

theorem lower_append (s t : List Char) :
    lower (s ++ t) = lowerBetween [] s t ++ lowerFrom (endsCased s) t :=
  lowerFrom_append [] s t

theorem lower_beside (before s behind : List Char) :
    lower (before ++ s ++ behind) =
      lowerBetween [] before (s ++ behind) ++ lowerBetween before s behind ++
        lowerFrom (endsCased (before ++ s)) behind := by
  rw [List.append_assoc, lower_append, lowerFrom_append, List.append_assoc]

theorem length_lowerBetween (before before' behind behind' s : List Char) :
    (lowerBetween before s behind).length = (lowerBetween before' s behind').length := by
  induction s generalizing before before' with
  | nil => rfl
  | cons c s ih =>
    rw [lowerBetween, lowerBetween, List.length_append, List.length_append,
      ih (before ++ [c]) (before' ++ [c])]
    split <;> rfl

theorem forall_sigma_cons {c : Char} {s : List Char} {P : List Char → List Char → Prop} :
    (∀ u v, c :: s = u ++ 'Σ' :: v → P u v) ↔
      (c = 'Σ' → P [] s) ∧ ∀ u v, s = u ++ 'Σ' :: v → P (c :: u) v := by
  constructor
  · intro h
    refine ⟨?_, ?_⟩
    · rintro rfl
      exact h [] s rfl
    · rintro u v rfl
      exact h (c :: u) v rfl
  · rintro ⟨hfirst, hrest⟩ u v hs
    cases u with
    | nil =>
      obtain ⟨rfl, rfl⟩ := List.cons.inj hs
      exact hfirst rfl
    | cons d u =>
      obtain ⟨rfl, rfl⟩ := List.cons.inj hs
      exact hrest u v rfl

theorem sigma_of_isFinal {before behind : List Char} (h : IsFinal before behind) :
    sigma before behind = 'ς' := by
  rw [sigma, h.1, h.2]
  rfl

theorem sigma_of_not_isFinal {before behind : List Char} (h : ¬ IsFinal before behind) :
    sigma before behind = 'σ' := by
  refine if_neg fun hf => h ?_
  simpa [IsFinal] using hf

theorem sigma_eq_sigma_iff {before behind before' behind' : List Char} :
    sigma before behind = sigma before' behind' ↔
      (IsFinal before behind ↔ IsFinal before' behind') := by
  by_cases h : IsFinal before behind <;> by_cases h' : IsFinal before' behind' <;>
    simp [sigma_of_isFinal, sigma_of_not_isFinal, h, h']

theorem lowerBetween_eq_iff {before before' behind behind' s : List Char} :
    lowerBetween before s behind = lowerBetween before' s behind' ↔
      ∀ u v, s = u ++ 'Σ' :: v →
        (IsFinal (before ++ u) (v ++ behind) ↔ IsFinal (before' ++ u) (v ++ behind')) := by
  induction s generalizing before before' with
  | nil => simp [lowerBetween]
  | cons c s ih =>
    rw [forall_sigma_cons, lowerBetween, lowerBetween]
    by_cases hc : c = 'Σ'
    · simp only [hc, if_true, List.singleton_append, List.cons.injEq, sigma_eq_sigma_iff, ih,
        List.append_assoc, List.append_nil, forall_const]
    · simp only [hc, if_false, List.append_right_inj, ih, List.append_assoc, List.singleton_append,
        false_implies, true_and]

/-- Where every sigma is kept or turned away from one form, that form gets rarer unless all of them
are kept. -/
theorem eq_or_count_lt {before before' behind behind' s : List Char} {form : Char}
    (h : ∀ u v, s = u ++ 'Σ' :: v →
      sigma (before ++ u) (v ++ behind) = sigma (before' ++ u) (v ++ behind') ∨
      sigma (before ++ u) (v ++ behind) = form ∧ sigma (before' ++ u) (v ++ behind') ≠ form) :
    lowerBetween before s behind = lowerBetween before' s behind' ∨
      (lowerBetween before' s behind').count form < (lowerBetween before s behind).count form := by
  induction s generalizing before before' with
  | nil => exact .inl rfl
  | cons c s ih =>
    obtain ⟨hfirst, hrest⟩ := forall_sigma_cons.mp h
    have hbehind : lowerBetween (before ++ [c]) s behind = lowerBetween (before' ++ [c]) s behind' ∨
        (lowerBetween (before' ++ [c]) s behind').count form <
          (lowerBetween (before ++ [c]) s behind).count form :=
      ih fun u v hs => by simpa using hrest u v hs
    rw [lowerBetween, lowerBetween]
    by_cases hc : c = 'Σ'
    · simp only [if_pos hc, List.singleton_append]
      have hform := hfirst hc
      simp only [List.append_nil] at hform
      rcases hform with heq | ⟨hf, hf'⟩
      · rw [heq]
        refine hbehind.imp (congrArg _) fun hlt => ?_
        simpa only [List.count_cons, Nat.add_lt_add_iff_right] using hlt
      · have hle : (lowerBetween (before' ++ [c]) s behind').count form ≤
            (lowerBetween (before ++ [c]) s behind).count form :=
          hbehind.elim (fun heq => heq ▸ le_rfl) le_of_lt
        right
        rw [hf, List.count_cons_self, List.count_cons_of_ne hf']
        omega
    · simp only [if_neg hc, List.append_right_inj, List.count_append, Nat.add_lt_add_iff_left]
      exact hbehind

section Looking
variable {s t : List Char}

def LookedThrough (s : List Char) : Prop :=
  ∀ c ∈ s, caseIgnorableChars.mem c = true

theorem foldl_casedAfter_of_lookedThrough (h : LookedThrough s) (cased : Bool) :
    s.foldl casedAfter cased = cased := by
  induction s with
  | nil => rfl
  | cons c s ih =>
    obtain ⟨hc, hs⟩ := List.forall_mem_cons.mp h
    rw [List.foldl_cons, casedAfter, if_pos hc, ih hs]

theorem foldl_casedAfter_congr (h : ¬ LookedThrough s) (cased cased' : Bool) :
    s.foldl casedAfter cased = s.foldl casedAfter cased' := by
  induction s generalizing cased cased' with
  | nil => exact absurd (List.forall_mem_nil _) h
  | cons c s ih =>
    rw [List.foldl_cons, List.foldl_cons]
    by_cases hc : caseIgnorableChars.mem c = true
    · exact ih (fun hs => h (List.forall_mem_cons.mpr ⟨hc, hs⟩)) _ _
    · simp only [casedAfter, if_neg hc]

theorem startsCased_append_of_lookedThrough (h : LookedThrough s) (t : List Char) :
    startsCased (s ++ t) = startsCased t := by
  induction s with
  | nil => rfl
  | cons c s ih =>
    obtain ⟨hc, hs⟩ := List.forall_mem_cons.mp h
    rw [List.cons_append, startsCased, if_pos hc, ih hs]

theorem startsCased_append (h : ¬ LookedThrough s) (t : List Char) :
    startsCased (s ++ t) = startsCased s := by
  induction s with
  | nil => exact absurd (List.forall_mem_nil _) h
  | cons c s ih =>
    rw [List.cons_append, startsCased, startsCased]
    by_cases hc : caseIgnorableChars.mem c = true
    · rw [if_pos hc, if_pos hc, ih fun hs => h (List.forall_mem_cons.mpr ⟨hc, hs⟩)]
    · rw [if_neg hc, if_neg hc]

theorem startsCased_of_lookedThrough (h : LookedThrough s) : startsCased s = false := by
  have hs := startsCased_append_of_lookedThrough h []
  rwa [List.append_nil] at hs

end Looking

def KeepsSigmas (before s behind : List Char) : Prop :=
  ∀ u v, s = u ++ 'Σ' :: v → (IsFinal (before ++ u) (v ++ behind) ↔ IsFinal u v)

def HasLooseSigma (s : List Char) : Prop :=
  ∃ u v, s = u ++ 'Σ' :: v ∧ startsCased v = false ∧
    (LookedThrough u ∨ endsCased u = true ∧ LookedThrough v)

theorem keepsSigmas_iff {before s behind : List Char} :
    KeepsSigmas before s behind ↔ lowerBetween before s behind = lower s := by
  rw [lower_eq_lowerBetween, lowerBetween_eq_iff]
  simp [KeepsSigmas]

theorem lower_infix_of_keepsSigmas {before s behind : List Char}
    (h : KeepsSigmas before s behind) : lower s <:+: lower (before ++ s ++ behind) := by
  rw [lower_beside, keepsSigmas_iff.mp h]
  exact List.infix_append _ _ _

theorem lower_prefix_iff {s behind : List Char} :
    lower s <+: lower (s ++ behind) ↔ KeepsSigmas [] s behind := by
  rw [keepsSigmas_iff, lower_append]
  constructor
  · intro h
    have hlength : (lower s).length = (lowerBetween [] s behind).length := by
      rw [lower_eq_lowerBetween, length_lowerBetween]
    have hp : lower s <+: lowerBetween [] s behind :=
      List.prefix_of_prefix_length_le h (List.prefix_append _ _) hlength.le
    exact (hp.eq_of_length hlength).symm
  · intro h
    rw [h]
    exact List.prefix_append _ _

theorem endsCased_of_lookedThrough {u : List Char} (h : LookedThrough u) : endsCased u = false :=
  foldl_casedAfter_of_lookedThrough h false

theorem keepsSigmas_of_no_loose {s : List Char} (h : ¬ HasLooseSigma s)
    (before behind : List Char) : KeepsSigmas before s behind := by
  intro u v hs
  by_cases hv : startsCased v = false
  · have hu : ¬ LookedThrough u := fun hu => h ⟨u, v, hs, hv, .inl hu⟩
    have hb : endsCased (before ++ u) = endsCased u := by
      rw [endsCased_append]
      exact foldl_casedAfter_congr hu _ _
    rw [IsFinal, IsFinal, hb]
    by_cases hc : endsCased u = true
    · have hl : ¬ LookedThrough v := fun hl => h ⟨u, v, hs, hv, .inr ⟨hc, hl⟩⟩
      rw [startsCased_append hl]
    · simp [hc]
  · have hl : ¬ LookedThrough v := fun hl => hv (startsCased_of_lookedThrough hl)
    rw [IsFinal, IsFinal, startsCased_append hl]
    simp [hv]

theorem keepsSigmas_nil_iff {s behind : List Char} :
    KeepsSigmas [] s behind ↔
      ¬ ∃ u v, s = u ++ 'Σ' :: v ∧ endsCased u = true ∧ LookedThrough v ∧
        startsCased behind = true := by
  constructor
  · rintro h ⟨u, v, hs, hu, hv, hb⟩
    have hf : IsFinal u v := ⟨hu, startsCased_of_lookedThrough hv⟩
    have hn := ((h u v hs).mpr hf).2
    rw [startsCased_append_of_lookedThrough hv, hb] at hn
    cases hn
  · intro h u v hs
    rw [List.nil_append, IsFinal, IsFinal]
    by_cases hv : LookedThrough v
    · rw [startsCased_append_of_lookedThrough hv, startsCased_of_lookedThrough hv]
      refine and_congr_right fun hu => iff_of_true ?_ rfl
      exact Bool.eq_false_iff.mpr fun hb => h ⟨u, v, hs, hu, hv, hb⟩
    · rw [startsCased_append hv]

theorem not_infix_of_turned (form : Char) {before s behind : List Char}
    (hp : form ∉ lowerBetween [] before (s ++ behind))
    (hq : form ∉ lowerFrom (endsCased (before ++ s)) behind)
    (hturn : ∀ u v, s = u ++ 'Σ' :: v →
      sigma u v = sigma (before ++ u) (v ++ behind) ∨
      sigma u v = form ∧ sigma (before ++ u) (v ++ behind) ≠ form)
    (hn : ¬ KeepsSigmas before s behind) : ¬ lower s <:+: lower (before ++ s ++ behind) := by
  have hless : (lowerBetween before s behind).count form < (lower s).count form := by
    rw [lower_eq_lowerBetween]
    refine (eq_or_count_lt ?_).resolve_left fun heq => ?_
    · simpa using hturn
    · rw [keepsSigmas_iff, lower_eq_lowerBetween] at hn
      exact hn heq.symm
  intro h
  rw [lower_beside] at h
  have hle := h.sublist.count_le form
  simp only [List.count_append, List.count_eq_zero.mpr hp, List.count_eq_zero.mpr hq] at hle
  omega

theorem sigma_turned_of_isFinal {before behind before' behind' : List Char}
    (h : IsFinal before behind → IsFinal before' behind') :
    sigma before behind = sigma before' behind' ∨
      sigma before behind = 'σ' ∧ sigma before' behind' ≠ 'σ' := by
  by_cases hf : IsFinal before behind
  · exact .inl (sigma_eq_sigma_iff.mpr (iff_of_true hf (h hf)))
  · by_cases hf' : IsFinal before' behind'
    · exact .inr ⟨sigma_of_not_isFinal hf, by rw [sigma_of_isFinal hf']; decide⟩
    · exact .inl (sigma_eq_sigma_iff.mpr (iff_of_false hf hf'))

theorem sigma_turned_of_not_isFinal {before behind before' behind' : List Char}
    (h : IsFinal before' behind' → IsFinal before behind) :
    sigma before behind = sigma before' behind' ∨
      sigma before behind = 'ς' ∧ sigma before' behind' ≠ 'ς' := by
  by_cases hf' : IsFinal before' behind'
  · exact .inl (sigma_eq_sigma_iff.mpr (iff_of_true (h hf') hf'))
  · by_cases hf : IsFinal before behind
    · exact .inr ⟨sigma_of_isFinal hf, by rw [sigma_of_not_isFinal hf']; decide⟩
    · exact .inl (sigma_eq_sigma_iff.mpr (iff_of_false hf hf'))

theorem endsCased_letter : endsCased ['a'] = true := by
  decide +kernel

theorem lowerChar_letter : lowerChar 'a' = ['a'] := by
  decide +kernel

theorem not_infix_behind_letter {u v : List Char} (hu : LookedThrough u)
    (hv : startsCased v = false) :
    ¬ lower (u ++ 'Σ' :: v) <:+: lower (['a'] ++ (u ++ 'Σ' :: v) ++ []) := by
  refine not_infix_of_turned 'σ' ?_ ?_ ?_ ?_
  · simp [lowerBetween, lowerChar_letter]
  · simp [lowerFrom]
  · intro x y _
    refine sigma_turned_of_isFinal ?_
    rintro ⟨hx, hy⟩
    refine ⟨?_, by rwa [List.append_nil]⟩
    have hl : ¬ LookedThrough x := fun hl => by
      rw [endsCased_of_lookedThrough hl] at hx
      cases hx
    rw [endsCased_append, ← hx]
    exact foldl_casedAfter_congr hl _ _
  · intro hk
    have hf : IsFinal (['a'] ++ u) (v ++ []) := by
      rw [IsFinal, endsCased_append, foldl_casedAfter_of_lookedThrough hu, List.append_nil]
      exact ⟨endsCased_letter, hv⟩
    have hn := ((hk u v rfl).mp hf).1
    rw [endsCased_of_lookedThrough hu] at hn
    cases hn

theorem not_infix_before_letter {u v : List Char} (hu : endsCased u = true)
    (hv : LookedThrough v) :
    ¬ lower (u ++ 'Σ' :: v) <:+: lower ([] ++ (u ++ 'Σ' :: v) ++ ['a']) := by
  have ha : startsCased ['a'] = true := by decide +kernel
  refine not_infix_of_turned 'ς' ?_ ?_ ?_ ?_
  · simp [lowerBetween]
  · simp [lowerFrom, lowerChar_letter]
  · intro x y _
    refine sigma_turned_of_not_isFinal ?_
    rintro ⟨hx, hy⟩
    refine ⟨hx, ?_⟩
    by_cases hl : LookedThrough y
    · exact startsCased_of_lookedThrough hl
    · rwa [startsCased_append hl] at hy
  · intro hk
    have hn := ((hk u v rfl).mpr ⟨hu, startsCased_of_lookedThrough hv⟩).2
    rw [startsCased_append_of_lookedThrough hv, ha] at hn
    cases hn

theorem exists_not_infix_of_loose {s : List Char} (h : HasLooseSigma s) :
    ∃ before behind, ¬ lower s <:+: lower (before ++ s ++ behind) := by
  obtain ⟨u, v, rfl, hv, hu | ⟨hu, hl⟩⟩ := h
  · exact ⟨['a'], [], not_infix_behind_letter hu hv⟩
  · exact ⟨[], ['a'], not_infix_before_letter hu hl⟩

end Text

namespace Trigger
open Text
variable {text : String} {m : Message}

def starting (text : String) : Trigger :=
  { onMessage with startsWith := some text }

theorem fires_of_one_condition {t : Trigger} {c : Condition} (hk : t.kind = .message)
    (h : ∀ other, t.AsksFor other ↔ other = c) : t.fires m = true ↔ c.Holds m := by
  rw [fires_eq_true_iff, evaluate_eq_true_iff]
  simp [hk, h]

theorem fires_containing_iff (ht : text ≠ "") :
    (containing text).fires m = true ↔ lower text.toList <:+: lower m.text.toList := by
  refine fires_of_one_condition (c := .contains text) rfl fun other => ?_
  cases other with
  | contains value =>
    simp only [AsksFor, containing, Option.some.injEq, Condition.contains.injEq]
    constructor
    · rintro ⟨rfl, -⟩
      rfl
    · rintro rfl
      exact ⟨rfl, ht⟩
  | _ => simp [AsksFor, containing, onMessage]

theorem fires_starting_iff (ht : text ≠ "") :
    (starting text).fires m = true ↔ lower text.toList <+: lower m.text.toList := by
  refine fires_of_one_condition (c := .startsWith text) rfl fun other => ?_
  cases other with
  | startsWith value =>
    simp only [AsksFor, starting, Option.some.injEq, Condition.startsWith.injEq]
    constructor
    · rintro ⟨rfl, -⟩
      rfl
    · rintro rfl
      exact ⟨rfl, ht⟩
  | _ => simp [AsksFor, starting, onMessage]

/-- A condition that stands in a text letter by letter is found there unless a capital sigma of it
is turned by the text around it. -/
theorem literal_text_fires_unless_sigma_turns (w : String) (hw : w ≠ "") :
    ((∀ a b : String, ∀ m : Message, m.text = a ++ w ++ b → (containing w).fires m = true) ↔
      ¬ HasLooseSigma w.toList) ∧
    (∀ a b : String, ∀ m : Message, m.text = a ++ w ++ b →
      KeepsSigmas a.toList w.toList b.toList → (containing w).fires m = true) ∧
    ∀ b : String, ∀ m : Message, m.text = w ++ b →
      ((starting w).fires m = true ↔
        ¬ ∃ u v, w.toList = u ++ 'Σ' :: v ∧ endsCased u = true ∧ LookedThrough v ∧
          startsCased b.toList = true) := by
  have hkept (a b : String) (m : Message) (hm : m.text = a ++ w ++ b)
      (h : KeepsSigmas a.toList w.toList b.toList) : (containing w).fires m = true := by
    rw [fires_containing_iff hw, hm, String.toList_append, String.toList_append]
    exact lower_infix_of_keepsSigmas h
  refine ⟨⟨fun hall hl => ?_, fun hl a b m hm => ?_⟩, hkept, fun b m hm => ?_⟩
  · obtain ⟨before, behind, hn⟩ := exists_not_infix_of_loose hl
    have hf := hall (String.ofList before) (String.ofList behind)
      { Session.ping with text := String.ofList before ++ w ++ String.ofList behind } rfl
    rw [fires_containing_iff hw, String.toList_append, String.toList_append,
      String.toList_ofList, String.toList_ofList] at hf
    exact hn hf
  · exact hkept a b m hm (keepsSigmas_of_no_loose hl _ _)
  · rw [fires_starting_iff hw, hm, String.toList_append, lower_prefix_iff, keepsSigmas_nil_iff]

theorem capital_sigma_hides_text :
    "ΑΣ" ≠ "" ∧ HasLooseSigma "ΑΣ".toList ∧
    ¬ (∀ a b : String, ∀ m : Message, m.text = a ++ "ΑΣ" ++ b →
      (containing "ΑΣ").fires m = true) ∧
    (containing "ΑΣ").fires { Session.ping with text := "Ο " ++ "ΑΣ" ++ "!" } = true ∧
    (starting "ΑΣ").fires { Session.ping with text := "ΑΣ" ++ "!" } = true ∧
    (starting "ΑΣ").fires { Session.ping with text := "ΑΣ" ++ "Α" } = false := by
  have hne : "ΑΣ" ≠ "" := by decide
  have hends : endsCased ['Α'] = true := by decide +kernel
  have hb : startsCased "!".toList = false := by decide +kernel
  have hstarts : startsCased "Α".toList = true := by decide +kernel
  have hl : HasLooseSigma "ΑΣ".toList :=
    ⟨['Α'], [], rfl, rfl, .inr ⟨hends, List.forall_mem_nil _⟩⟩
  have hk : KeepsSigmas "Ο ".toList "ΑΣ".toList "!".toList :=
    keepsSigmas_iff.mpr (by decide +kernel)
  obtain ⟨hall, hkept, hstart⟩ := literal_text_fires_unless_sigma_turns "ΑΣ" hne
  refine ⟨hne, hl, fun h => hall.mp h hl, hkept _ _ _ rfl hk, ?_, ?_⟩
  · refine (hstart "!" _ rfl).mpr ?_
    rintro ⟨u, v, -, -, -, h⟩
    rw [hb] at h
    cases h
  · refine Bool.eq_false_iff.mpr fun h => (hstart "Α" _ rfl).mp h ?_
    exact ⟨['Α'], [], rfl, hends, List.forall_mem_nil _, hstarts⟩

end Trigger

end ChatRules
