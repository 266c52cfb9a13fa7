import ChatRules.Proofs.Occurrences
import ChatRules.Proofs.QuotedTexts

namespace ChatRules.Sentence
open Text Phrase
open Token (isQuote)

def curvedDoubles : List Char :=
  ['\u201c', '\u201d', '\u201e', '\u201f', '\u2033', '\u00ab', '\u00bb']

def curvedSingles : List Char :=
  ['\u2018', '\u2019', '\u201a', '\u201b', '\u2032']

def curvedQuotes : List Char :=
  curvedDoubles ++ curvedSingles

structure IsPlainForm (s : List Char) : Prop where
  quotes : ∀ c ∈ s, c ∉ curvedQuotes
  escapes : ∀ q ∈ ['"', '\''], ¬ ['\\', q] <:+: s

def StartsEscaped (s : List Char) : Prop :=
  ∃ n q rest, s = List.replicate (n + 1) '\\' ++ q :: rest ∧ isQuote q = true

def escapedQuote : Phrase Char := do
  let _ ← run (· == '\\')
  one isQuote

def replaced (parts : List (List Char × Option Char)) : List Char :=
  parts.flatMap fun part => part.1 ++ part.2.toList

section Normal
variable {c : Char} {s : List Char}

theorem plainQuote_of_double (h : c ∈ curvedDoubles) : plainQuote c = '"' := by
  have hall : (curvedDoubles.all fun c => plainQuote c == '"') = true := by decide
  exact beq_iff_eq.mp (List.all_eq_true.mp hall c h)

theorem plainQuote_of_single (h : c ∈ curvedSingles) : plainQuote c = '\'' := by
  have hall : (curvedSingles.all fun c => plainQuote c == '\'') = true := by decide
  exact beq_iff_eq.mp (List.all_eq_true.mp hall c h)

theorem plainQuote_eq_self_iff : plainQuote c = c ↔ c ∉ curvedQuotes := by
  constructor
  · intro h hc
    have hall : (curvedQuotes.any fun c => plainQuote c == c) = false := by decide
    exact beq_eq_false_iff_ne.mp (eq_false_of_any hall c hc) h
  · intro h
    simp only [curvedQuotes, curvedDoubles, curvedSingles, List.mem_append, List.mem_cons,
      List.not_mem_nil, or_false, not_or] at h
    simp [plainQuote, h]

theorem isPlainForm_normal (s : List Char) : IsPlainForm (normal s) where
  quotes _ hc := plainQuote_eq_self_iff.mp (plainQuote_of_mem_normal hc)
  escapes _ hq := not_infix_dropEscapes hq _

theorem startsQuoted_cons (c : Char) (s : List Char) : startsQuoted (c :: s) = isQuote c :=
  rfl

theorem dropEscapes_of_no_escape (h : ∀ q ∈ ['"', '\''], ¬ ['\\', q] <:+: s) :
    dropEscapes s = s := by
  induction s with
  | nil => rfl
  | cons c rest ih =>
    have hr := ih fun q hq hi => h q hq (hi.trans (List.suffix_cons c rest).isInfix)
    have hkept : ¬ (c = '\\' ∧ startsQuoted rest = true) := by
      rintro ⟨rfl, hs⟩
      cases rest with
      | nil => cases hs
      | cons q rest =>
        have hq : q ∈ ['"', '\''] := by simpa [startsQuoted] using hs
        exact h q hq ⟨[], rest, rfl⟩
    rw [dropEscapes, hr, if_neg hkept]

theorem IsPlainForm.normal_eq (h : IsPlainForm s) : normal s = s := by
  rw [normal, map_plainQuote fun c hc => plainQuote_eq_self_iff.mpr (h.quotes c hc),
    dropEscapes_of_no_escape h.escapes]

end Normal

section Escapes
variable {c q : Char} {s rest : List Char}

theorem ne_of_isQuote (hq : isQuote q = true) : q ≠ '\\' := by
  rintro rfl
  cases hq

theorem startsEscaped_iff :
    StartsEscaped s ↔ s.head? = some '\\' ∧ startsQuoted (s.dropWhile (· == '\\')) = true := by
  constructor
  · rintro ⟨n, q, rest, rfl, hq⟩
    have hd : (List.replicate (n + 1) '\\' ++ q :: rest).dropWhile (· == '\\') = q :: rest :=
      dropWhile_append_of_stop (by simp) (by simpa using ne_of_isQuote hq)
    rw [hd]
    exact ⟨rfl, hq⟩
  · rintro ⟨hh, hs⟩
    obtain ⟨s, rfl⟩ := List.head?_eq_some_iff.mp hh
    have hrun : ('\\' :: s).takeWhile (· == '\\') =
        List.replicate ((s.takeWhile (· == '\\')).length + 1) '\\' := by
      refine List.eq_replicate_iff.mpr ⟨by simp, fun d hd => ?_⟩
      exact beq_iff_eq.mp (List.all_eq_true.mp List.all_takeWhile d hd)
    cases hd : ('\\' :: s).dropWhile (· == '\\') with
    | nil =>
      rw [hd] at hs
      cases hs
    | cons q rest =>
      rw [hd] at hs
      refine ⟨(s.takeWhile (· == '\\')).length, q, rest, ?_, hs⟩
      rw [← hrun, ← hd, List.takeWhile_append_dropWhile]

instance (s : List Char) : Decidable (StartsEscaped s) :=
  decidable_of_iff _ startsEscaped_iff.symm

theorem startsQuoted_dropEscapes (s : List Char) :
    startsQuoted (dropEscapes s) = startsQuoted (s.dropWhile (· == '\\')) := by
  induction s with
  | nil => rfl
  | cons c rest ih =>
    by_cases hc : c = '\\'
    · subst hc
      rw [dropEscapes, List.dropWhile_cons_of_pos (by simp), ← ih]
      split
      · rfl
      · next h =>
        have hs : startsQuoted (dropEscapes rest) = false :=
          Bool.eq_false_iff.mpr fun hs => h ⟨rfl, hs⟩
        rw [startsQuoted_cons, hs]
        rfl
    · rw [dropEscapes, if_neg fun h => hc h.1, List.dropWhile_cons_of_neg (by simpa using hc)]
      rfl

theorem dropEscapes_cons (c : Char) (rest : List Char) :
    dropEscapes (c :: rest) =
      if StartsEscaped (c :: rest) then dropEscapes rest else c :: dropEscapes rest := by
  have hiff : (c = '\\' ∧ startsQuoted (dropEscapes rest) = true) ↔ StartsEscaped (c :: rest) := by
    rw [startsEscaped_iff, startsQuoted_dropEscapes, List.head?_cons, Option.some.injEq]
    refine and_congr_right fun hc => ?_
    rw [List.dropWhile_cons_of_pos (by simpa using hc)]
  simp only [dropEscapes, hiff]

theorem dropEscapes_escaped (n : Nat) (hq : isQuote q = true) (rest : List Char) :
    dropEscapes (List.replicate n '\\' ++ q :: rest) = q :: dropEscapes rest := by
  induction n with
  | zero =>
    rw [List.replicate_zero, List.nil_append, dropEscapes,
      if_neg fun h => ne_of_isQuote hq h.1]
  | succ n ih =>
    have hs : StartsEscaped ('\\' :: (List.replicate n '\\' ++ q :: rest)) :=
      ⟨n, q, rest, rfl, hq⟩
    rw [List.replicate_succ, List.cons_append, dropEscapes_cons, if_pos hs, ih]

def without (dropped : Nat → Prop) [DecidablePred dropped] (s : List Char) : List Char :=
  (List.range s.length).filterMap fun i => if dropped i then none else s[i]?

theorem dropEscapes_eq_without (s : List Char) :
    dropEscapes s = without (fun i => StartsEscaped (s.drop i)) s := by
  induction s with
  | nil => rfl
  | cons c rest ih =>
    rw [dropEscapes_cons, without, List.length_cons, List.range_succ_eq_map, List.filterMap_cons,
      List.filterMap_map, ih]
    by_cases h : StartsEscaped (c :: rest)
    · simp only [List.drop_zero, if_pos h]
      rfl
    · simp only [List.drop_zero, if_neg h]
      rfl

theorem escapedQuote_append (n : Nat) (hq : isQuote q = true) (rest : List Char) :
    escapedQuote (List.replicate (n + 1) '\\' ++ q :: rest) = [(q, rest)] := by
  have hr : run (· == '\\') (List.replicate (n + 1) '\\' ++ q :: rest) =
      [(List.replicate (n + 1) '\\', q :: rest)] :=
    run_append (by simp) (by simp) (by simpa using ne_of_isQuote hq)
  rw [escapedQuote, bind_of_eq_singleton hr, one, if_pos hq]

theorem escapedQuote_eq_nil (h : ¬ StartsEscaped s) : escapedQuote s = [] := by
  refine List.flatMap_eq_nil_iff.mpr fun r hr => ?_
  obtain ⟨hs, hn, hall⟩ := mem_run hr
  refine List.eq_nil_iff_forall_not_mem.mpr fun x hx => ?_
  obtain ⟨hx, hq⟩ := mem_one hx
  have hrun : r.1 = List.replicate (r.1.length - 1 + 1) '\\' := by
    rw [Nat.sub_add_cancel (List.length_pos_iff.mpr hn)]
    exact List.eq_replicate_iff.mpr ⟨rfl, fun c hc => beq_iff_eq.mp (hall c hc)⟩
  exact h ⟨r.1.length - 1, x.1, x.2, by rw [← hrun, ← hx, ← hs], hq⟩

theorem replaced_cutFrom (first : Bool) (part s : List Char) :
    replaced (cutFrom (fun _ => escapedQuote) 0 first part s) = part.reverse ++ dropEscapes s := by
  induction hn : s.length using Nat.strong_induction_on generalizing first part s with
  | h n ih =>
    cases s with
    | nil => simp [cutFrom_nil, replaced, dropEscapes]
    | cons c rest =>
      by_cases h : StartsEscaped (c :: rest)
      · obtain ⟨k, q, left, hs, hq⟩ := h
        have hlen : left.length < n := by
          rw [← hn, hs]
          simp
          omega
        have hread : Reads escapedQuote (List.replicate (k + 1) '\\' ++ q :: left) q left :=
          .of_eq_cons (escapedQuote_append k hq left)
        rw [hs, dropEscapes_escaped _ hq]
        rw [List.append_cons] at hread ⊢
        rw [cutFrom_of_reads (p := fun _ => escapedQuote) hread (by simp), replaced,
          List.flatMap_cons, ← replaced, ih _ hlen _ _ _ rfl]
        simp
      · have hlen : rest.length < n := by simp [← hn]
        rw [cutFrom_of_eq_nil (p := fun _ => escapedQuote) (escapedQuote_eq_nil h),
          ih _ hlen _ _ _ rfl, dropEscapes_cons, if_neg h]
        simp

end Escapes

/-- One pass is enough: curved quotes become plain, exactly the backslashes in front of a quote go
away, and neither is left to be done again. -/
theorem plain_form_in_one_pass (s : List Char) :
    IsPlainForm (normal s) ∧
      (∀ c ∈ curvedDoubles, plainQuote c = '"') ∧
      (∀ c ∈ curvedSingles, plainQuote c = '\'') ∧
      (∀ c, c ∉ curvedQuotes → plainQuote c = c) ∧
      normal s = without (fun i => StartsEscaped ((s.map plainQuote).drop i)) (s.map plainQuote) ∧
      normal s = replaced (cut (fun _ => escapedQuote) (s.map plainQuote)) ∧
      normal (normal s) = normal s ∧
      steps (normal s) = steps s := by
  have hplain := isPlainForm_normal s
  have honce : normal (normal s) = normal s := hplain.normal_eq
  refine ⟨hplain, fun _ => plainQuote_of_double, fun _ => plainQuote_of_single,
    fun _ => plainQuote_eq_self_iff.mpr, dropEscapes_eq_without _, ?_, honce, ?_⟩
  · rw [cut, replaced_cutFrom, List.reverse_nil, List.nil_append, normal]
  · rw [steps, steps, honce]

example : normal "\\\u201cx\\y\\\\\u2019\\".toList = "\"x\\y'\\".toList := by decide

end ChatRules.Sentence
