import ChatRules.Proofs.JoinedSentences

namespace ChatRules
open Text Sentence Phrase
open Token (IsGap)

namespace Sentence

section Splitting
variable {k : Char → Bool} {w s : List Char}

/-- A part of a text that is cut at characters of a kind: it has none of them, and ends of the text
or such characters around it. -/
def IsPiece (k : Char → Bool) (w s : List Char) : Prop :=
  ∃ u v, s = u ++ w ++ v ∧ (∀ c ∈ w, k c = false) ∧ (∀ c ∈ u.getLast?, k c = true) ∧
    ∀ c ∈ v.head?, k c = true

theorem isPiece_of_mem_splitOnP_append {x : List Char} (hx : ∀ c ∈ x, k c = false)
    (h : w ∈ (x ++ s).splitOnP k) : IsPiece k w (x ++ s) := by
  induction s generalizing x with
  | nil =>
    rw [List.append_nil] at h ⊢
    rw [List.splitOnP_eq_singleton hx, List.mem_singleton] at h
    subst h
    exact ⟨[], [], by simp, hx, by simp, by simp⟩
  | cons c rest ih =>
    cases hc : k c with
    | true =>
      rw [List.splitOnP_append_cons _ _ hc, List.splitOnP_eq_singleton hx] at h
      rcases List.mem_cons.mp h with rfl | h
      · exact ⟨[], c :: rest, rfl, hx, by simp, by simpa using hc⟩
      · obtain ⟨u, v, rfl, hw, hu, hv⟩ := ih (x := []) (List.forall_mem_nil _) h
        refine ⟨x ++ c :: u, v, by simp, hw, ?_, hv⟩
        cases u with
        | nil => simpa using hc
        | cons d u => simpa using hu
    | false =>
      rw [← List.singleton_append, ← List.append_assoc] at h ⊢
      exact ih (List.forall_mem_append.mpr ⟨hx, by simpa using hc⟩) h

theorem mem_splitOnP_append (hv : ∀ c ∈ s.head?, k c = true) (hw : ∀ c ∈ w, k c = false) :
    w ∈ (w ++ s).splitOnP k := by
  cases s with
  | nil => simp [List.splitOnP_eq_singleton hw]
  | cons c rest =>
    rw [List.splitOnP_append_cons _ _ (hv c rfl), List.splitOnP_eq_singleton hw]
    exact List.mem_cons_self

theorem mem_splitOnP_iff : w ∈ s.splitOnP k ↔ IsPiece k w s := by
  refine ⟨fun h => isPiece_of_mem_splitOnP_append (x := []) (List.forall_mem_nil _) h, ?_⟩
  rintro ⟨u, v, rfl, hw, hu, hv⟩
  have hm := mem_splitOnP_append hv hw
  cases u using List.reverseRecOn with
  | nil => exact hm
  | append_singleton u c =>
    have hc : k c = true := hu c (by simp)
    rw [List.append_assoc, List.append_assoc, List.singleton_append,
      List.splitOnP_append_cons _ _ hc]
    exact List.mem_append_right _ hm

end Splitting

section Fragments
variable {f s : List Char} {ws : List Word}

def IsClear (s : List Char) : Prop :=
  ∀ w ∈ s.splitOnP isBlank, isConnective w = false

def Word.IsCut (w : Word) : Prop :=
  IsGap w.gap ∧ ∀ c ∈ w.letters, isBlank c = false

theorem isCut_of_mem_wordsFrom {gap word : List Char} (hg : IsGap gap)
    (hw : ∀ c ∈ word, isBlank c = false) : ∀ w ∈ wordsFrom gap word s, w.IsCut := by
  have hcut : ∀ {gap word : List Char}, IsGap gap → (∀ c ∈ word, isBlank c = false) →
      Word.IsCut ⟨gap.reverse, word.reverse⟩ := fun hg hw =>
    ⟨⟨by simpa using hg.ne_nil, fun c hc => hg.blank c (List.mem_reverse.mp hc)⟩,
      fun c hc => hw c (List.mem_reverse.mp hc)⟩
  induction s generalizing gap word with
  | nil =>
    by_cases hn : word = []
    · subst hn
      exact List.forall_mem_nil _
    · rw [wordsFrom_nil gap hn]
      exact List.forall_mem_singleton.mpr (hcut hg hw)
  | cons c rest ih =>
    cases hc : isBlank c with
    | false =>
      rw [wordsFrom_letter hc]
      exact ih hg (List.forall_mem_cons.mpr ⟨hc, hw⟩)
    | true =>
      by_cases hn : word = []
      · subst hn
        rw [wordsFrom_gap hc]
        exact ih ⟨List.cons_ne_nil _ _, List.forall_mem_cons.mpr ⟨hc, hg.blank⟩⟩ hw
      · rw [wordsFrom_end hc _ _ hn]
        refine List.forall_mem_cons.mpr ⟨hcut hg hw, ih ⟨List.cons_ne_nil _ _, ?_⟩
          (List.forall_mem_nil _)⟩
        exact List.forall_mem_singleton.mpr hc

theorem exists_run_of_mem_join (run : List Word)
    (hr : ∀ w ∈ run, isConnective w.letters = false) (h : f ∈ join (run ++ ws)) :
    ∃ before mid after, run ++ ws = before ++ mid ++ after ∧ f = passage mid ∧
      ∀ w ∈ mid, isConnective w.letters = false := by
  induction ws generalizing run with
  | nil =>
    by_cases hn : run = []
    · subst hn
      cases h
    · rw [join_append hn hr (by simp)] at h
      rw [List.mem_singleton.mp h]
      exact ⟨[], run, [], rfl, rfl, hr⟩
  | cons w rest ih =>
    cases hw : isConnective w.letters with
    | false =>
      rw [← List.singleton_append, ← List.append_assoc] at h ⊢
      exact ih _ (List.forall_mem_append.mpr ⟨hr, by simpa using hw⟩) h
    | true =>
      rw [join_append_connective hw, List.mem_append] at h
      rcases h with h | h
      · by_cases hn : run = []
        · subst hn
          cases h
        · rw [← List.append_nil run, join_append hn hr (by simp)] at h
          rw [List.mem_singleton.mp h]
          exact ⟨[], run, w :: rest, rfl, rfl, hr⟩
      · obtain ⟨before, mid, after, hs, hf, hm⟩ := ih [] (List.forall_mem_nil _) h
        refine ⟨run ++ w :: before, mid, after, ?_, hf, hm⟩
        rw [List.nil_append] at hs
        simp [hs]

theorem spelled_append (ws vs : List Word) : spelled (ws ++ vs) = spelled ws ++ spelled vs :=
  List.flatMap_append

theorem passage_suffix_spelled (ws : List Word) : passage ws <:+ spelled ws := by
  cases ws with
  | nil => exact List.suffix_refl _
  | cons w rest =>
    have hspelled : spelled (w :: rest) = w.gap ++ passage (w :: rest) := by
      simp [passage, spelled]
    rw [hspelled]
    exact List.suffix_append _ _

theorem spelled_prefix (gap word s : List Char) :
    spelled (wordsFrom gap word s) <+: gap.reverse ++ word.reverse ++ s := by
  induction s generalizing gap word with
  | nil =>
    by_cases hw : word = []
    · subst hw
      exact List.nil_prefix
    · rw [wordsFrom_nil gap hw]
      simp [spelled]
  | cons c rest ih =>
    cases hc : isBlank c with
    | false =>
      rw [wordsFrom_letter hc]
      simpa using ih gap (c :: word)
    | true =>
      by_cases hw : word = []
      · subst hw
        rw [wordsFrom_gap hc]
        simpa using ih (c :: gap) []
      · rw [wordsFrom_end hc _ _ hw, spelled, List.flatMap_cons, ← spelled]
        exact (List.prefix_append_right_inj _).mpr (by simpa using ih [c] [])

theorem infix_of_mem_fragments (h : f ∈ fragments s) : f <:+: s := by
  obtain ⟨before, mid, after, hs, rfl, -⟩ :=
    exists_run_of_mem_join [] (List.forall_mem_nil _) h
  have hwords : words s = before ++ mid ++ after := hs
  have hprefix : spelled (words s) <+: s := spelled_prefix [] [] s
  rw [hwords, spelled_append, spelled_append] at hprefix
  have hmid : passage mid <:+: spelled before ++ spelled mid :=
    (passage_suffix_spelled mid).isInfix.trans (List.suffix_append _ _).isInfix
  exact (hmid.trans (List.prefix_append _ _).isInfix).trans hprefix.isInfix

theorem IsClear.append (hs : IsClear s) {gap t : List Char} (hg : IsGap gap) (ht : IsClear t) :
    IsClear (s ++ gap ++ t) := by
  obtain ⟨hn, hb⟩ := hg
  induction gap generalizing s with
  | nil => exact absurd rfl hn
  | cons c gap ih =>
    obtain ⟨hc, hgap⟩ := List.forall_mem_cons.mp hb
    have hnil : IsClear [] := by
      intro w hw
      rw [List.splitOnP_nil, List.mem_singleton] at hw
      rw [hw]
      rfl
    have hrest : IsClear (gap ++ t) := by
      by_cases hn : gap = []
      · subst hn
        exact ht
      · exact ih hnil hn hgap
    rw [List.append_assoc, List.cons_append]
    intro w hw
    rw [List.splitOnP_append_cons _ _ hc] at hw
    exact (List.mem_append.mp hw).elim (hs w) (hrest w)

theorem isClear_of_unbroken (hb : ∀ c ∈ s, isBlank c = false) (hc : isConnective s = false) :
    IsClear s := by
  intro w hw
  rw [List.splitOnP_eq_singleton hb, List.mem_singleton] at hw
  rw [hw]
  exact hc

theorem isClear_passage (hw : ∀ w ∈ ws, w.IsCut)
    (hc : ∀ w ∈ ws, isConnective w.letters = false) : IsClear (passage ws) := by
  induction ws using List.reverseRecOn with
  | nil => exact isClear_of_unbroken (List.forall_mem_nil _) (by decide)
  | append_singleton rest w ih =>
    simp only [List.forall_mem_append, List.forall_mem_singleton] at hw hc
    have hlast : IsClear w.letters := isClear_of_unbroken hw.2.2 hc.2
    cases rest with
    | nil => simpa [passage, spelled] using hlast
    | cons v rest =>
      have hpassage : passage (v :: rest ++ [w]) = passage (v :: rest) ++ w.gap ++ w.letters := by
        simp [passage, spelled]
      rw [hpassage]
      exact (ih hw.1 hc.1).append hw.2.1 hlast

theorem isClear_of_mem_fragments (h : f ∈ fragments s) : IsClear f := by
  have hgap : IsGap [' '] := by decide
  rw [fragments, words, join_wordsFrom_congr [] [' ']] at h
  obtain ⟨before, mid, after, hs, rfl, hc⟩ :=
    exists_run_of_mem_join [] (List.forall_mem_nil _) h
  refine isClear_passage (fun w hw => ?_) hc
  have hcut : ∀ w ∈ wordsFrom [' '] [] s, w.IsCut :=
    isCut_of_mem_wordsFrom hgap (List.forall_mem_nil _)
  rw [List.nil_append] at hs
  exact hcut w (by simp [hs, hw])

end Fragments

section Quoted
variable {f s text : List Char}

theorem plainQuote_plainQuote (c : Char) : plainQuote (plainQuote c) = plainQuote c := by
  have h : plainQuote c = '"' ∨ plainQuote c = '\'' ∨ plainQuote c = c := by
    rw [plainQuote]
    split
    · exact .inl rfl
    · split
      · exact .inr (.inl rfl)
      · exact .inr (.inr rfl)
  rcases h with h | h | h
  · rw [h]
    decide
  · rw [h]
    decide
  · rw [h, h]

theorem dropEscapes_subset (s : List Char) : dropEscapes s ⊆ s := by
  induction s with
  | nil => exact List.Subset.refl _
  | cons c rest ih =>
    rw [dropEscapes]
    split
    · exact List.subset_cons_of_subset c ih
    · exact List.cons_subset_cons c ih

theorem plainQuote_of_mem_normal {c : Char} (h : c ∈ normal s) : plainQuote c = c := by
  obtain ⟨d, -, rfl⟩ := List.mem_map.mp (dropEscapes_subset _ h)
  exact plainQuote_plainQuote d

theorem not_infix_dropEscapes {q : Char} (hq : q ∈ ['"', '\'']) (s : List Char) :
    ¬ ['\\', q] <:+: dropEscapes s := by
  have hquote : (q = '"' || q = '\'') = true := by simpa using hq
  induction s with
  | nil => simp [dropEscapes]
  | cons c rest ih =>
    rw [dropEscapes]
    split
    · exact ih
    · next hkept =>
      intro h
      rcases List.infix_cons_iff.mp h with h | h
      · obtain ⟨hc, t, ht⟩ := List.cons_prefix_cons.mp h
        refine hkept ⟨hc.symm, ?_⟩
        rw [← ht]
        simpa [startsQuoted] using hquote
      · exact ih h

structure IsQuotedIn (f text : List Char) : Prop where
  ne_nil : text ≠ []
  quoted : ∃ q ∈ ['"', '\''], q :: (text ++ [q]) <:+: f

theorem IsQuotedIn.mono {t : List Char} (h : IsQuotedIn t text) (ht : t <:+: f) :
    IsQuotedIn f text := by
  obtain ⟨q, hq, hi⟩ := h.quoted
  exact ⟨h.ne_nil, q, hq, hi.trans ht⟩

theorem IsQuotedIn.isPlainText (h : IsQuotedIn (normal s) text) (hd : '"' ∉ text) :
    IsPlainText text := by
  obtain ⟨hn, q, hq, hi⟩ := h
  have htext : text <:+: q :: (text ++ [q]) := ⟨[q], [q], by simp⟩
  refine ⟨hn, hd, fun c hc => ?_, ?_, fun hl => ?_⟩
  · exact plainQuote_of_mem_normal ((htext.trans hi).subset hc)
  · refine Bool.eq_false_iff.mpr fun he => ?_
    exact not_infix_dropEscapes (by decide) _ ((isInfix_iff.mp he).trans (htext.trans hi))
  · obtain ⟨init, rfl⟩ := List.getLast?_eq_some_iff.mp hl
    have hend : ['\\', q] <:+: q :: (init ++ ['\\'] ++ [q]) := ⟨q :: init, [], by simp⟩
    exact not_infix_dropEscapes hq _ (hend.trans hi)

theorem isConnective_eq_false_of_mark {w : List Char} {c : Char} (hc : c ∈ marks) (hw : c ∈ w) :
    isConnective w = false :=
  Bool.eq_false_iff.mpr fun h => not_mark_of_isConnective h hw hc

theorem inside_of_not_mem {x : Char} {u w v : List Char} (h : x :: (text ++ [x]) = u ++ w ++ v)
    (hn : w ≠ []) (hx : x ∉ w) :
    ∃ u' v', u = x :: u' ∧ v = v' ++ [x] ∧ text = u' ++ w ++ v' := by
  cases u with
  | nil =>
    obtain ⟨c, w, rfl⟩ := List.exists_cons_of_ne_nil hn
    exact absurd ((List.cons.inj h).1 ▸ List.mem_cons_self) hx
  | cons d u =>
    obtain ⟨rfl, hrest⟩ := List.cons.inj h
    have ht : text ++ [x] = u ++ w ++ v := hrest
    cases v using List.reverseRecOn with
    | nil =>
      cases w using List.reverseRecOn with
      | nil => exact absurd rfl hn
      | append_singleton w y =>
        rw [List.append_nil, ← List.append_assoc] at ht
        have hy := List.singleton_inj.mp (List.append_inj' ht rfl).2
        exact absurd (by simp [hy]) hx
    | append_singleton v y =>
      rw [← List.append_assoc] at ht
      obtain ⟨htext, hy⟩ := List.append_inj' ht rfl
      exact ⟨u, v, rfl, by rw [List.singleton_inj.mp hy], htext⟩

theorem IsQuotedIn.isClear_inQuotes (h : IsQuotedIn f text) (hf : IsClear f) :
    IsClear (inQuotes text) := by
  obtain ⟨-, q, -, a, b, rfl⟩ := h
  intro w hw
  obtain ⟨u, v, hs, hb, hu, hv⟩ := mem_splitOnP_iff.mp hw
  by_cases hmark : '"' ∈ w
  · exact isConnective_eq_false_of_mark (by decide) hmark
  by_cases hnil : w = []
  · rw [hnil]
    rfl
  obtain ⟨u, v, rfl, rfl, rfl⟩ := inside_of_not_mem hs hnil hmark
  have hblank : isBlank '"' ≠ true := by decide
  refine hf w (mem_splitOnP_iff.mpr ⟨a ++ q :: u, v ++ q :: b, by simp, hb, ?_, ?_⟩)
  · cases u with
    | nil => exact absurd (hu '"' rfl) hblank
    | cons c u => simpa using hu
  · cases v with
    | nil => exact absurd (hv '"' rfl) hblank
    | cons c v => simpa using hv

theorem IsQuotedIn.isText (h : IsQuotedIn f text) (hf : f ∈ fragments (normal s))
    (hd : '"' ∉ text) : IsText text :=
  { (h.mono (infix_of_mem_fragments hf)).isPlainText hd with
    clear := h.isClear_inQuotes (isClear_of_mem_fragments hf) }

end Quoted

end Sentence

end ChatRules
