import ChatRules.Proofs.Parts
import ChatRules.Proofs.QuotedTexts

namespace ChatRules.Sentence
open Text
open Token (IsGap spelled_nil spelled_cons)

def Word.separates (w : Word) : Bool :=
  isConnective w.letters

structure Word.IsFull (w : Word) : Prop where
  gap : ∀ c ∈ w.gap, isBlank c = true
  letters : ∀ c ∈ w.letters, isBlank c = false
  ne_nil : w.letters ≠ []

structure IsSpelling (s : List Char) (ws : List Word) (tail : List Char) : Prop where
  eq : s = spelled ws ++ tail
  full : ∀ w ∈ ws, w.IsFull
  parted : ∀ w ∈ ws.tail, w.gap ≠ []
  blank : ∀ c ∈ tail, isBlank c = true

/-- Words that do not separate, and no more of them on either side. -/
structure IsRun (before run after : List Word) : Prop where
  clear : ∀ w ∈ run, w.separates = false
  left : ∀ v ∈ before.getLast?, v.separates = true
  right : ∀ v ∈ after.head?, v.separates = true

def runs (ws : List Word) : List (List Word) :=
  (ws.splitOnP Word.separates).filter fun run => !run.isEmpty

section Spelling
variable {s gap word tail : List Char} {ws : List Word} {w : Word}

theorem spelled_cons_append (w : Word) (ws : List Word) (t : List Char) :
    spelled (w :: ws) ++ t = w.gap ++ (w.letters ++ (spelled ws ++ t)) := by
  rw [spelled_cons, List.append_assoc, List.append_assoc]

theorem spelled_singleton (w : Word) : spelled [w] = w.gap ++ w.letters := by
  rw [spelled_cons, spelled_nil, List.append_nil]

theorem isFull_reverse (hg : ∀ c ∈ gap, isBlank c = true) (hw : ∀ c ∈ word, isBlank c = false)
    (hn : word ≠ []) : Word.IsFull ⟨gap.reverse, word.reverse⟩ where
  gap c hc := hg c (List.mem_reverse.mp hc)
  letters c hc := hw c (List.mem_reverse.mp hc)
  ne_nil := by simpa using hn

theorem exists_spelling (hg : ∀ c ∈ gap, isBlank c = true) (hw : ∀ c ∈ word, isBlank c = false)
    (s : List Char) :
    ∃ tail, IsSpelling (gap.reverse ++ (word.reverse ++ s)) (wordsFrom gap word s) tail := by
  induction s generalizing gap word with
  | nil =>
    by_cases hn : word = []
    · subst hn
      exact ⟨gap.reverse, by simp [wordsFrom, spelled], List.forall_mem_nil _,
        List.forall_mem_nil _, fun c hc => hg c (List.mem_reverse.mp hc)⟩
    · rw [wordsFrom_nil gap hn]
      exact ⟨[], by simp [spelled], List.forall_mem_singleton.mpr (isFull_reverse hg hw hn),
        List.forall_mem_nil _, List.forall_mem_nil _⟩
  | cons c rest ih =>
    cases hc : isBlank c with
    | false =>
      have hcw : ∀ d ∈ c :: word, isBlank d = false := List.forall_mem_cons.mpr ⟨hc, hw⟩
      rw [wordsFrom_letter hc]
      simpa using ih hg hcw
    | true =>
      by_cases hn : word = []
      · subst hn
        have hcg : ∀ d ∈ c :: gap, isBlank d = true := List.forall_mem_cons.mpr ⟨hc, hg⟩
        rw [wordsFrom_gap hc]
        simpa using ih hcg hw
      · rw [wordsFrom_end hc _ _ hn]
        have hgap : IsGap [c] := ⟨List.cons_ne_nil _ _, by simpa using hc⟩
        obtain ⟨tail, h⟩ := ih hgap.blank (List.forall_mem_nil _)
        have hfull := isFull_reverse hg hw hn
        refine ⟨tail, ?_, List.forall_mem_cons.mpr ⟨hfull, h.full⟩, fun w hw => ?_, h.blank⟩
        · have hs : c :: rest = spelled (wordsFrom [c] [] rest) ++ tail := by simpa using h.eq
          rw [spelled_cons_append, hs]
        · exact (isCut_of_mem_wordsFrom hgap (List.forall_mem_nil _) w hw).1.ne_nil

theorem wordsFrom_all_blank (h : ∀ c ∈ s, isBlank c = true) (gap : List Char) :
    wordsFrom gap [] s = [] := by
  rw [← List.append_nil s, wordsFrom_blanks h]
  rfl

theorem Word.IsFull.wordsFrom_append (hw : w.IsFull) {rest : List Char}
    (hr : ∀ c ∈ rest.head?, isBlank c = true) (gap : List Char) :
    wordsFrom gap [] (w.gap ++ (w.letters ++ rest)) =
      ⟨gap.reverse ++ w.gap, w.letters⟩ :: wordsFrom [] [] rest := by
  have hn : w.letters.reverse ++ [] ≠ [] := by simpa using hw.ne_nil
  rw [wordsFrom_blanks hw.gap, wordsFrom_letters hw.letters]
  cases rest with
  | nil =>
    rw [wordsFrom_nil _ hn]
    simp [wordsFrom]
  | cons c rest =>
    rw [wordsFrom_end (hr c rfl) _ _ hn, wordsFrom_gap (hr c rfl)]
    simp

theorem blank_head_of_parted (hf : ∀ w ∈ ws, w.IsFull) (hp : ∀ w ∈ ws, w.gap ≠ [])
    (ht : ∀ c ∈ tail, isBlank c = true) : ∀ c ∈ (spelled ws ++ tail).head?, isBlank c = true := by
  cases ws with
  | nil => exact fun c hc => ht c (List.mem_of_mem_head? hc)
  | cons w ws =>
    have ⟨hw, _⟩ := List.forall_mem_cons.mp hf
    have ⟨hg, _⟩ := List.forall_mem_cons.mp hp
    intro c hc
    rw [spelled_cons_append, List.head?_append_of_ne_nil _ hg] at hc
    exact hw.gap c (List.mem_of_mem_head? hc)

theorem length_le_spelled (hf : ∀ w ∈ ws, w.IsFull) (tail : List Char) :
    ws.length ≤ (spelled ws ++ tail).length := by
  induction ws with
  | nil => exact Nat.zero_le _
  | cons w ws ih =>
    obtain ⟨hw, hws⟩ := List.forall_mem_cons.mp hf
    have hlen := List.length_pos_iff.mpr hw.ne_nil
    have hrest := ih hws
    simp only [spelled_cons, List.length_append, List.length_cons] at hrest ⊢
    omega

theorem words_spelled (hf : ∀ w ∈ ws, w.IsFull) (hp : ∀ w ∈ ws.tail, w.gap ≠ [])
    (ht : ∀ c ∈ tail, isBlank c = true) : words (spelled ws ++ tail) = ws := by
  induction ws with
  | nil => exact wordsFrom_all_blank ht []
  | cons w ws ih =>
    obtain ⟨hw, hws⟩ := List.forall_mem_cons.mp hf
    rw [spelled_cons_append, words, hw.wordsFrom_append (blank_head_of_parted hws hp ht), ← words,
      ih hws fun v hv => hp v (List.mem_of_mem_tail hv)]
    rfl

theorem isSpelling_words (s : List Char) : ∃ tail, IsSpelling s (words s) tail := by
  have h : ∃ tail, IsSpelling ([].reverse ++ ([].reverse ++ s)) (wordsFrom [] [] s) tail :=
    exists_spelling (List.forall_mem_nil _) (List.forall_mem_nil _) s
  exact h

theorem IsSpelling.words_eq (h : IsSpelling s ws tail) : words s = ws := by
  rw [h.eq]
  exact words_spelled h.full h.parted h.blank

end Spelling

section Runs
variable {ws : List Word} {v : Word}

theorem runs_of_clear (h : ∀ w ∈ ws, w.separates = false) :
    runs ws = if ws = [] then [] else [ws] :=
  parts_of_clear h

theorem runs_append_cons (hv : v.separates = true) (ws vs : List Word) :
    runs (ws ++ v :: vs) = runs ws ++ runs vs :=
  parts_append_cons hv ws vs

theorem join_of_clear (h : ∀ w ∈ ws, w.separates = false) :
    join ws = if ws = [] then [] else [passage ws] := by
  by_cases hn : ws = []
  · subst hn
    rfl
  · have hj : join (ws ++ []) = passage ws :: join [] := join_append hn h (by simp)
    rw [List.append_nil] at hj
    rw [hj, if_neg hn]
    rfl

theorem join_eq_runs (ws : List Word) : join ws = (runs ws).map passage := by
  have hclear : ∀ ws : List Word, (∀ w ∈ ws, w.separates = false) →
      join ws = (runs ws).map passage := by
    intro ws h
    rw [join_of_clear h, runs_of_clear h]
    split <;> rfl
  induction ws using parts_induction (p := Word.separates) with
  | clear run hr => exact hclear run hr
  | parted run v rest hr hv ih =>
    rw [join_append_connective hv, runs_append_cons hv, List.map_append, hclear run hr, ih]

theorem flatten_runs (ws : List Word) : (runs ws).flatten = ws.filter fun w => !w.separates :=
  flatten_parts Word.separates ws

theorem ne_nil_of_mem_runs {run : List Word} (h : run ∈ runs ws) : run ≠ [] :=
  ne_nil_of_mem_parts h

theorem exists_place_of_mem_runs {run : List Word} (h : run ∈ runs ws) :
    ∃ before after, ws = before ++ run ++ after ∧ IsRun before run after := by
  have hclear : ∀ ws : List Word, (∀ w ∈ ws, w.separates = false) → run ∈ runs ws → run = ws := by
    intro ws hw hm
    rw [runs_of_clear hw] at hm
    split at hm
    · cases hm
    · exact List.mem_singleton.mp hm
  induction ws using parts_induction (p := Word.separates) with
  | clear ws hw =>
    obtain rfl := hclear ws hw h
    exact ⟨[], [], by simp, hw, by simp, by simp⟩
  | parted first v rest hw hv ih =>
    rw [runs_append_cons hv] at h
    rcases List.mem_append.mp h with h | h
    · obtain rfl := hclear first hw h
      exact ⟨[], v :: rest, rfl, hw, by simp, by simpa using hv⟩
    · obtain ⟨before, after, rfl, hc, hl, hr⟩ := ih h
      refine ⟨first ++ v :: before, after, by simp, hc, ?_, hr⟩
      cases before with
      | nil => simpa using hv
      | cons u before => simpa using hl

theorem mem_of_mem_runs {run : List Word} (h : run ∈ runs ws) : ∀ w ∈ run, w ∈ ws := by
  obtain ⟨before, after, rfl, -⟩ := exists_place_of_mem_runs h
  intro w hw
  exact List.mem_append_left _ (List.mem_append_right _ hw)

theorem tail_subset_tail_of_mem_runs {run : List Word} (h : run ∈ runs ws) :
    ∀ w ∈ run.tail, w ∈ ws.tail := by
  obtain ⟨before, after, rfl, -⟩ := exists_place_of_mem_runs h
  intro w hw
  cases before with
  | nil =>
    rw [List.nil_append, List.tail_append_of_ne_nil (List.ne_nil_of_mem (List.mem_of_mem_tail hw))]
    exact List.mem_append_left _ hw
  | cons v before =>
    exact List.mem_append_left _ (List.mem_append_right _ (List.mem_of_mem_tail hw))

end Runs

section Passages
variable {s tail : List Char} {run ws : List Word} {w : Word}

theorem passage_concat (run : List Word) (v w : Word) :
    passage (v :: run ++ [w]) = passage (v :: run) ++ (w.gap ++ w.letters) := by
  simp [passage, spelled]

theorem passage_ne_nil (hf : ∀ w ∈ run, w.IsFull) (hn : run ≠ []) : passage run ≠ [] := by
  obtain ⟨w, run, rfl⟩ := List.exists_cons_of_ne_nil hn
  have hw := (hf w List.mem_cons_self).ne_nil
  simp [passage, hw]

theorem isTrimmed_passage (hf : ∀ w ∈ run, w.IsFull) : IsTrimmed (passage run) := by
  induction run using List.reverseRecOn with
  | nil => exact ⟨by simp [passage], by simp [passage]⟩
  | append_singleton run w ih =>
    obtain ⟨hrun, hw⟩ := List.forall_mem_append.mp hf
    have hw := List.forall_mem_singleton.mp hw
    cases run with
    | nil => simpa [passage, spelled] using isTrimmed_of_unbroken hw.letters
    | cons v run =>
      rw [passage_concat]
      exact (ih hrun).append (passage_ne_nil hrun (List.cons_ne_nil _ _))
        (isTrimmed_of_unbroken hw.letters) hw.ne_nil _

theorem exists_gap (run : List Word) : ∃ gap, spelled run = gap ++ passage run := by
  obtain ⟨gap, h⟩ := passage_suffix_spelled run
  exact ⟨gap, h.symm⟩

theorem letters_words_passage (hf : ∀ w ∈ run, w.IsFull) (hp : ∀ w ∈ run.tail, w.gap ≠ []) :
    (words (passage run)).map Word.letters = run.map Word.letters := by
  cases run with
  | nil => rfl
  | cons w rest =>
    obtain ⟨hw, hrest⟩ := List.forall_mem_cons.mp hf
    -- Only the gap in front of the first word is missing in the passage.
    have hs : passage (w :: rest) = spelled (⟨[], w.letters⟩ :: rest) ++ [] := by
      simp [passage, spelled]
    have hbare : Word.IsFull ⟨[], w.letters⟩ := ⟨List.forall_mem_nil _, hw.letters, hw.ne_nil⟩
    rw [hs, words_spelled (List.forall_mem_cons.mpr ⟨hbare, hrest⟩) hp (List.forall_mem_nil _)]
    rfl

theorem IsSpelling.letters_fragments (h : IsSpelling s ws tail) :
    (fragments s).map (fun f => (words f).map Word.letters) =
      (runs ws).map fun run => run.map Word.letters := by
  rw [fragments, h.words_eq, join_eq_runs, List.map_map]
  refine List.map_congr_left fun run hr => letters_words_passage ?_ ?_
  · exact fun w hw => h.full w (mem_of_mem_runs hr w hw)
  · exact fun w hw => h.parted w (tail_subset_tail_of_mem_runs hr w hw)

end Passages

end ChatRules.Sentence
