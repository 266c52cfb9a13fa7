import ChatRules.Proofs.Fragments
import ChatRules.Proofs.Readings

namespace ChatRules
open Text Sentence

namespace Text

structure IsTrimmed (s : List Char) : Prop where
  head : ∀ c ∈ s.head?, isBlank c = false
  last : ∀ c ∈ s.getLast?, isBlank c = false

section Trimmed
variable {s t gap : List Char}

theorem trim_append (hg : ∀ c ∈ gap, isBlank c = true) (hs : IsTrimmed s) :
    trim (gap ++ s) = s := by
  have hl : trimLeft (gap ++ s) = s := Phrase.dropWhile_append_of_stop hg hs.head
  have hr : ([] ++ s.reverse).dropWhile isBlank = s.reverse :=
    Phrase.dropWhile_append_of_stop (List.forall_mem_nil _) (by simpa using hs.last)
  rw [List.nil_append] at hr
  rw [trim, hl, trimRight, hr, List.reverse_reverse]

theorem IsTrimmed.trim_eq (h : IsTrimmed s) : trim s = s :=
  trim_append (List.forall_mem_nil _) h

theorem head?_dropWhile_blank (s : List Char) :
    ∀ c ∈ (s.dropWhile isBlank).head?, isBlank c = false := by
  intro c hc
  have h := List.head?_dropWhile_not isBlank s
  rw [hc] at h
  exact h

theorem isTrimmed_trim (s : List Char) : IsTrimmed (trim s) := by
  have hp : trimRight (trimLeft s) <+: trimLeft s := by
    rw [trimRight, ← List.reverse_suffix, List.reverse_reverse]
    exact List.dropWhile_suffix _
  refine ⟨fun c hc => ?_, fun c hc => ?_⟩
  · obtain ⟨rest, hr⟩ := hp
    refine head?_dropWhile_blank s c ?_
    rw [trim] at hc
    rw [← trimLeft, ← hr, List.head?_append, hc]
    rfl
  · rw [trim, trimRight, List.getLast?_reverse] at hc
    exact head?_dropWhile_blank _ c hc

theorem trim_trim (s : List Char) : trim (trim s) = trim s :=
  (isTrimmed_trim s).trim_eq

theorem trim_eq_nil (h : ∀ c ∈ s, isBlank c = true) : trim s = [] := by
  have ht := trim_append h (s := []) ⟨by simp, by simp⟩
  rwa [List.append_nil] at ht

theorem trim_between (hg : ∀ c ∈ gap, isBlank c = true) (hs : IsTrimmed s)
    (ht : ∀ c ∈ t, isBlank c = true) : trim (gap ++ (s ++ t)) = s := by
  by_cases hn : s = []
  · subst hn
    exact trim_eq_nil (List.forall_mem_append.mpr ⟨hg, ht⟩)
  · have hhead : ∀ c ∈ (s ++ t).head?, isBlank c = false := by
      rw [List.head?_append_of_ne_nil _ hn]
      exact hs.head
    have hl : trimLeft (gap ++ (s ++ t)) = s ++ t := Phrase.dropWhile_append_of_stop hg hhead
    have hr : (t.reverse ++ s.reverse).dropWhile isBlank = s.reverse :=
      Phrase.dropWhile_append_of_stop (by simpa using ht) (by simpa using hs.last)
    rw [trim, hl, trimRight, List.reverse_append, hr, List.reverse_reverse]

theorem exists_trim (s : List Char) :
    ∃ before after, s = before ++ (trim s ++ after) ∧ (∀ c ∈ before, isBlank c = true) ∧
      ∀ c ∈ after, isBlank c = true := by
  refine ⟨s.takeWhile isBlank, ((trimLeft s).reverse.takeWhile isBlank).reverse, ?_,
    fun c hc => List.all_eq_true.mp List.all_takeWhile c hc,
    fun c hc => List.all_eq_true.mp List.all_takeWhile c (List.mem_reverse.mp hc)⟩
  rw [trim, trimRight, ← List.reverse_append, List.takeWhile_append_dropWhile,
    List.reverse_reverse, trimLeft, List.takeWhile_append_dropWhile]

theorem isTrimmed_of_unbroken (hs : ∀ c ∈ s, isBlank c = false) : IsTrimmed s :=
  ⟨fun c hc => hs c (List.mem_of_mem_head? hc), fun c hc => hs c (List.mem_of_getLast? hc)⟩

theorem IsTrimmed.cons {c : Char} (hc : isBlank c = false)
    (hs : ∀ d ∈ s.getLast?, isBlank d = false) : IsTrimmed (c :: s) := by
  refine ⟨fun d hd => Option.some.inj hd ▸ hc, fun d hd => ?_⟩
  rw [List.getLast?_cons] at hd
  cases hl : s.getLast? with
  | none =>
    rw [hl] at hd
    exact Option.some.inj hd ▸ hc
  | some e =>
    rw [hl] at hd
    exact Option.some.inj hd ▸ hs e hl

theorem IsTrimmed.append (hs : IsTrimmed s) (hn : s ≠ []) (ht : IsTrimmed t) (hm : t ≠ [])
    (gap : List Char) : IsTrimmed (s ++ (gap ++ t)) where
  head := by
    intro c hc
    rw [List.head?_append_of_ne_nil _ hn] at hc
    exact hs.head c hc
  last := by
    intro c hc
    rw [← List.append_assoc, List.getLast?_append_of_ne_nil _ hm] at hc
    exact ht.last c hc

end Trimmed

section Cuts
variable {p : Char → Bool} {s before after rest : List Char} {c x : Char}

theorem cutAt_append (hs : ∀ d ∈ s, p d = false) (hc : p c = true) :
    cutAt p (s ++ c :: rest) = some (s, rest) := by
  induction s with
  | nil => rw [List.nil_append, cutAt, if_pos hc]
  | cons d s ih =>
    obtain ⟨hd, hs⟩ := List.forall_mem_cons.mp hs
    rw [List.cons_append, cutAt, hd, if_neg Bool.false_ne_true, ih hs]
    rfl

theorem cutAt_eq_none (hs : ∀ d ∈ s, p d = false) : cutAt p s = none := by
  induction s with
  | nil => rfl
  | cons d s ih =>
    obtain ⟨hd, hs⟩ := List.forall_mem_cons.mp hs
    rw [cutAt, hd, if_neg Bool.false_ne_true, ih hs]
    rfl

theorem eq_of_cutAt (h : cutAt p s = some (before, after)) :
    ∃ c, s = before ++ c :: after ∧ p c = true ∧ ∀ d ∈ before, p d = false := by
  induction s generalizing before with
  | nil => cases h
  | cons d s ih =>
    rw [cutAt] at h
    split at h
    · next hd =>
      cases h
      exact ⟨d, rfl, hd, List.forall_mem_nil _⟩
    · next hd =>
      obtain ⟨⟨start, rest⟩, hcut, he⟩ := Option.map_eq_some_iff.mp h
      cases he
      obtain ⟨c, rfl, hc, hb⟩ := ih hcut
      exact ⟨c, rfl, hc, List.forall_mem_cons.mpr ⟨Bool.eq_false_iff.mpr hd, hb⟩⟩

theorem cutAtChar_append (hx : x ∉ s) (rest : List Char) :
    cutAtChar x (s ++ x :: rest) = some (s, rest) :=
  cutAt_append (fun _ hd => beq_eq_false_iff_ne.mpr fun h => hx (h ▸ hd)) (beq_self_eq_true x)

theorem cutAtChar_eq_none (hx : x ∉ s) : cutAtChar x s = none :=
  cutAt_eq_none fun _ hd => beq_eq_false_iff_ne.mpr fun h => hx (h ▸ hd)

theorem exists_cut (x : Char) (s : List Char) :
    ∃ before behind, s = before ++ behind ∧ x ∉ before ∧ ∀ c ∈ behind.head?, c = x := by
  refine ⟨s.takeWhile (· != x), s.dropWhile (· != x), List.takeWhile_append_dropWhile.symm,
    fun hx => ?_, fun c hc => ?_⟩
  · simpa using List.all_eq_true.mp List.all_takeWhile x hx
  · have h := List.head?_dropWhile_not (· != x) s
    rw [hc] at h
    simpa using h

theorem after?_eq_some_iff {lead : List Char} : after? lead s = some rest ↔ s = lead ++ rest := by
  induction lead generalizing s with
  | nil => simp [after?]
  | cons x lead ih =>
    cases s with
    | nil => simp [after?]
    | cons c s =>
      rw [after?]
      by_cases hx : x = c
      · rw [if_pos hx, ih, hx, List.cons_append, List.cons.injEq, eq_self, true_and]
      · simp [hx, Ne.symm hx]

end Cuts

end Text

namespace Token

section Quotes

def wrapped (q : Char) (value : List Char) : List Char :=
  q :: (value ++ [q])

theorem between_wrapped (q : Char) (value : List Char) :
    between? q (wrapped q value) = some value := by
  simp [between?, wrapped]

theorem isBlank_of_isQuote {c : Char} (h : isQuote c = true) : isBlank c = false := by
  simp only [isQuote, Bool.or_eq_true, decide_eq_true_eq] at h
  rcases h with rfl | rfl <;> decide

theorem isTrimmed_wrapped (value : List Char) : IsTrimmed (wrapped '"' value) := by
  refine .cons (by decide) fun d hd => ?_
  rw [List.getLast?_concat] at hd
  rw [← Option.some.inj hd]
  decide

theorem unquoteTrimmed_wrapped (value : List Char) :
    unquoteTrimmed (wrapped '"' value) = trim value := by
  rw [unquoteTrimmed, (isTrimmed_wrapped value).trim_eq, between_wrapped]

end Quotes

/-- Letters and quoted runs: blanks stand only inside runs, and every run is closed. -/
inductive IsWhole : List Char → Prop
  | nil : IsWhole []
  | letter {c : Char} {rest : List Char} (hb : isBlank c = false) (hq : isQuote c = false)
    (hr : IsWhole rest) : IsWhole (c :: rest)
  | run {q : Char} {text rest : List Char} (hq : isQuote q = true) (ht : q ∉ text)
    (hr : IsWhole rest) : IsWhole (q :: (text ++ q :: rest))

def IsUnbroken (s : List Char) : Prop :=
  ∀ c ∈ s, isBlank c = false ∧ isQuote c = false

-- The instances over the characters of a text walk the text, not all characters there are.
instance (s : List Char) : Decidable (IsUnbroken s) :=
  List.decidableBAll (fun c => isBlank c = false ∧ isQuote c = false) s

structure IsUnclosed (s : List Char) : Prop where
  opened : ∃ start q text, s = start ++ q :: text ∧ IsWhole start ∧ isQuote q = true ∧ q ∉ text
  last : ∀ c ∈ s.getLast?, isBlank c = false

section Whole
variable {s t : List Char}

theorem IsWhole.append (hs : IsWhole s) (ht : IsWhole t) : IsWhole (s ++ t) := by
  induction hs with
  | nil => exact ht
  | letter hb hq _ ih => exact .letter hb hq ih
  | run hq hx _ ih =>
    rw [List.cons_append, List.append_assoc, List.cons_append]
    exact .run hq hx ih

theorem IsUnbroken.isWhole (h : IsUnbroken s) : IsWhole s := by
  induction s with
  | nil => exact .nil
  | cons c s ih =>
    obtain ⟨⟨hb, hq⟩, hs⟩ := List.forall_mem_cons.mp h
    exact .letter hb hq (ih hs)

theorem isWhole_wrapped {q : Char} (hq : isQuote q = true) (hs : q ∉ s) :
    IsWhole (wrapped q s) :=
  .run hq hs .nil

theorem IsWhole.isTrimmed (h : IsWhole s) : IsTrimmed s := by
  induction h with
  | nil => exact ⟨by simp, by simp⟩
  | letter hb _ _ ih => exact .cons hb ih.last
  | @run q text rest hq _ _ ih =>
    have hb := isBlank_of_isQuote hq
    have hr : IsTrimmed (q :: rest) := .cons hb ih.last
    refine .cons hb fun d hd => hr.last d ?_
    rwa [List.getLast?_append_of_ne_nil _ (List.cons_ne_nil _ _)] at hd

theorem IsUnclosed.ne_nil (h : IsUnclosed s) : s ≠ [] := by
  obtain ⟨start, q, text, rfl, -⟩ := h.opened
  simp

theorem IsUnclosed.isTrimmed (h : IsUnclosed s) : IsTrimmed s := by
  refine ⟨fun c hc => ?_, h.last⟩
  obtain ⟨start, q, text, rfl, hs, hq, -⟩ := h.opened
  cases start with
  | nil => exact Option.some.inj hc ▸ isBlank_of_isQuote hq
  | cons d start => exact hs.isTrimmed.head c hc

end Whole

section Splitting
variable {s rest word gap : List Char} {c q : Char}

theorem splitFrom_letter (hb : isBlank c = false) :
    splitFrom none word (c :: rest) = splitFrom (openAfter none c) (c :: word) rest := by
  rw [splitFrom, if_neg (by simp [hb])]

theorem splitFrom_blank (hb : isBlank c = true) :
    splitFrom none word (c :: rest) = close word (splitFrom none [] rest) := by
  rw [splitFrom, if_pos ⟨rfl, hb⟩]

theorem splitFrom_run (hq : q ∉ s) :
    splitFrom (some q) word (s ++ rest) = splitFrom (some q) (s.reverse ++ word) rest := by
  induction s generalizing word with
  | nil => rfl
  | cons d s ih =>
    obtain ⟨hd, hs⟩ := not_or.mp (mt List.mem_cons.mpr hq)
    rw [List.cons_append, splitFrom, if_neg (by simp), openAfter, if_neg (Ne.symm hd), ih hs]
    simp

theorem splitFrom_whole (hs : IsWhole s) :
    splitFrom none word (s ++ rest) = splitFrom none (s.reverse ++ word) rest := by
  induction hs generalizing word with
  | nil => rfl
  | @letter c s hb hq _ ih =>
    have ho : openAfter none c = none := by simp [openAfter, hq]
    rw [List.cons_append, splitFrom_letter hb, ho, ih]
    simp
  | @run q text s hq ht _ ih =>
    have ho : openAfter none q = some q := by simp [openAfter, hq]
    have hc : openAfter (some q) q = none := by simp [openAfter]
    rw [List.cons_append, List.append_assoc, splitFrom_letter (isBlank_of_isQuote hq), ho,
      splitFrom_run ht, List.cons_append, splitFrom, if_neg (by simp), hc, ih]
    simp

theorem splitFrom_opened (hs : IsWhole s) (hq : isQuote q = true) {text : List Char}
    (ht : q ∉ text) : splitFrom none [] (s ++ q :: text) = [s ++ q :: text] := by
  have ho : openAfter none q = some q := by simp [openAfter, hq]
  have hr : splitFrom (some q) (q :: s.reverse) (text ++ []) =
      splitFrom (some q) (text.reverse ++ q :: s.reverse) [] := splitFrom_run ht
  rw [List.append_nil] at hr
  rw [splitFrom_whole hs, List.append_nil, splitFrom_letter (isBlank_of_isQuote hq), ho, hr,
    splitFrom, close]
  simp

theorem splitFrom_unclosed (hs : IsUnclosed s) : splitFrom none [] s = [s] := by
  obtain ⟨start, q, text, rfl, hw, hq, ht⟩ := hs.opened
  exact splitFrom_opened hw hq ht

theorem splitFrom_blanks (hg : ∀ c ∈ gap, isBlank c = true) :
    splitFrom none [] (gap ++ s) = splitFrom none [] s := by
  induction gap with
  | nil => rfl
  | cons c gap ih =>
    obtain ⟨hc, hg⟩ := List.forall_mem_cons.mp hg
    rw [List.cons_append, splitFrom_blank hc, ih hg]
    rfl

end Splitting

structure IsGap (gap : List Char) : Prop where
  ne_nil : gap ≠ []
  blank : ∀ c ∈ gap, isBlank c = true

instance (gap : List Char) : Decidable (IsGap gap) :=
  have := List.decidableBAll (fun c => isBlank c = true) gap
  decidable_of_iff (gap ≠ [] ∧ ∀ c ∈ gap, isBlank c = true)
    ⟨fun ⟨hn, hb⟩ => ⟨hn, hb⟩, fun ⟨hn, hb⟩ => ⟨hn, hb⟩⟩

theorem cutAtBlank_append {s gap : List Char} (hs : ∀ c ∈ s, isBlank c = false) (hg : IsGap gap)
    (rest : List Char) :
    ∃ gap', (∀ c ∈ gap', isBlank c = true) ∧
      cutAtBlank (s ++ (gap ++ rest)) = some (s, gap' ++ rest) := by
  obtain ⟨c, gap, rfl⟩ := List.exists_cons_of_ne_nil hg.ne_nil
  obtain ⟨hc, hb⟩ := List.forall_mem_cons.mp hg.blank
  exact ⟨gap, hb, cutAt_append hs hc⟩

inductive IsArguments : List Word → Prop
  | nil : IsArguments []
  | cons {w : Word} {rest : List Word} (hg : IsGap w.gap) (hn : w.letters ≠ [])
    (hw : IsWhole w.letters) (hr : IsArguments rest) : IsArguments (w :: rest)
  | unclosed {w : Word} (hg : IsGap w.gap) (hw : IsUnclosed w.letters) : IsArguments [w]

section Arguments
variable {ws : List Word} {w : Word} {s word : List Char}

theorem isArguments_of_forall
    (h : ∀ w ∈ ws, IsGap w.gap ∧ w.letters ≠ [] ∧ IsWhole w.letters) : IsArguments ws := by
  induction ws with
  | nil => exact .nil
  | cons w rest ih =>
    obtain ⟨⟨hg, hn, hw⟩, hrest⟩ := List.forall_mem_cons.mp h
    exact .cons hg hn hw (ih hrest)

theorem IsArguments.isGap {rest : List Word} (h : IsArguments (w :: rest)) : IsGap w.gap := by
  cases h <;> assumption

theorem spelled_nil : spelled [] = [] :=
  rfl

theorem spelled_cons (w : Word) (rest : List Word) :
    spelled (w :: rest) = w.gap ++ (w.letters ++ spelled rest) := by
  rw [spelled, List.flatMap_cons, List.append_assoc, ← spelled]

theorem splitFrom_gap (hg : IsGap w.gap) :
    splitFrom none word (w.gap ++ s) = close word (splitFrom none [] s) := by
  obtain ⟨gap, letters⟩ := w
  obtain ⟨c, gap, rfl⟩ := List.exists_cons_of_ne_nil hg.ne_nil
  obtain ⟨hc, hg⟩ := List.forall_mem_cons.mp hg.blank
  rw [List.cons_append, splitFrom_blank hc, splitFrom_blanks hg]

theorem splitFrom_spelled (h : IsArguments ws) (word : List Char) :
    splitFrom none word (spelled ws) = close word (ws.map Word.letters) := by
  induction h generalizing word with
  | nil => rfl
  | @cons w rest hg hn hw _ ih =>
    have hc : close (w.letters.reverse ++ []) (rest.map Word.letters) =
        (w :: rest).map Word.letters := by
      rw [List.append_nil, close, if_neg (mt List.reverse_eq_nil_iff.mp hn), List.reverse_reverse]
      rfl
    rw [spelled_cons, splitFrom_gap hg, splitFrom_whole hw, ih, hc]
  | @unclosed w hg hw =>
    rw [spelled_cons, splitFrom_gap hg, spelled_nil, List.append_nil, splitFrom_unclosed hw]
    rfl

theorem IsArguments.isTrimmed (h : IsArguments ws) (hs : IsTrimmed s) (hn : s ≠ []) :
    IsTrimmed (s ++ spelled ws) := by
  induction h generalizing s with
  | nil =>
    rw [spelled_nil, List.append_nil]
    exact hs
  | @cons w rest _ hm hw _ ih =>
    have ht : IsTrimmed (s ++ (w.gap ++ w.letters)) := hs.append hn hw.isTrimmed hm w.gap
    rw [spelled_cons, ← List.append_assoc w.gap, ← List.append_assoc s]
    exact ih ht (by simp [hn])
  | @unclosed w _ hw =>
    rw [spelled_cons, spelled_nil, List.append_nil]
    exact hs.append hn hw.isTrimmed hw.ne_nil w.gap

theorem IsArguments.isTrimmed_behind_gap {rest : List Word} (h : IsArguments (w :: rest)) :
    IsTrimmed (w.letters ++ spelled rest) := by
  cases h with
  | cons _ hn hw hr => exact hr.isTrimmed hw.isTrimmed hn
  | unclosed _ hw =>
    rw [spelled_nil, List.append_nil]
    exact hw.isTrimmed

end Arguments

end Token

end ChatRules
