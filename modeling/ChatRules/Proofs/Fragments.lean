import ChatRules.Command.Handler
import Mathlib.Data.List.Basic

namespace ChatRules
open Text Command

namespace Sentence

def spelled (ws : List Word) : List Char :=
  ws.flatMap fun w => w.gap ++ w.letters

def passage : List Word → List Char
  | [] => []
  | w :: rest => w.letters ++ spelled rest

section Words
variable {c : Char} {s : List Char}

theorem wordsFrom_letter (hc : isBlank c = false) (gap word s : List Char) :
    wordsFrom gap word (c :: s) = wordsFrom gap (c :: word) s := by
  cases word <;> simp [wordsFrom, hc]

theorem wordsFrom_gap (hc : isBlank c = true) (gap s : List Char) :
    wordsFrom gap [] (c :: s) = wordsFrom (c :: gap) [] s := by
  simp [wordsFrom, hc]

theorem wordsFrom_end (hc : isBlank c = true) (gap s : List Char) {word : List Char}
    (hw : word ≠ []) :
    wordsFrom gap word (c :: s) = ⟨gap.reverse, word.reverse⟩ :: wordsFrom [c] [] s := by
  obtain ⟨x, word, rfl⟩ := List.exists_cons_of_ne_nil hw
  simp [wordsFrom, hc]

theorem wordsFrom_nil (gap : List Char) {word : List Char} (hw : word ≠ []) :
    wordsFrom gap word [] = [⟨gap.reverse, word.reverse⟩] := by
  rw [wordsFrom.eq_def]
  simp [hw]

def EndsInWord (word s : List Char) : Prop :=
  (s = [] → word ≠ []) ∧ ∀ c ∈ s.getLast?, isBlank c = false

theorem EndsInWord.tail {word : List Char} (h : EndsInWord word (c :: s)) (x : Char)
    (word : List Char) : EndsInWord (x :: word) s := by
  refine ⟨fun _ => List.cons_ne_nil _ _, fun d hd => h.2 d ?_⟩
  rw [List.getLast?_cons, hd]
  rfl

theorem EndsInWord.of_blank {word : List Char} (h : EndsInWord word (c :: s))
    (hc : isBlank c = true) : EndsInWord [] s := by
  refine ⟨?_, (h.tail c []).2⟩
  rintro rfl
  rw [h.2 c rfl] at hc
  cases hc

theorem spelled_wordsFrom {word : List Char} (h : EndsInWord word s) (gap : List Char) :
    spelled (wordsFrom gap word s) = gap.reverse ++ word.reverse ++ s := by
  induction s generalizing gap word with
  | nil =>
    rw [wordsFrom_nil gap (h.1 rfl)]
    simp [spelled]
  | cons c rest ih =>
    cases hc : isBlank c with
    | false =>
      rw [wordsFrom_letter hc, ih (h.tail c word)]
      simp
    | true =>
      have hr := h.of_blank hc
      by_cases hw : word = []
      · subst hw
        rw [wordsFrom_gap hc, ih hr]
        simp
      · have hs := ih hr [c]
        rw [wordsFrom_end hc _ _ hw, spelled, List.flatMap_cons, ← spelled, hs]
        simp

theorem passage_wordsFrom {word : List Char} (hw : word ≠ []) (h : EndsInWord word s)
    (gap : List Char) : passage (wordsFrom gap word s) = word.reverse ++ s := by
  induction s generalizing word with
  | nil =>
    rw [wordsFrom_nil gap hw]
    simp [passage, spelled]
  | cons c rest ih =>
    cases hc : isBlank c with
    | false =>
      rw [wordsFrom_letter hc, ih (List.cons_ne_nil _ _) (h.tail c word)]
      simp
    | true =>
      rw [wordsFrom_end hc _ _ hw, passage, spelled_wordsFrom (h.of_blank hc)]
      simp

theorem wordsFrom_append_blank {word : List Char} (h : EndsInWord word s) (gap t : List Char) :
    wordsFrom gap word (s ++ ' ' :: t) = wordsFrom gap word s ++ wordsFrom [' '] [] t := by
  induction s generalizing gap word with
  | nil =>
    rw [wordsFrom_nil gap (h.1 rfl), List.nil_append, wordsFrom_end (by decide) _ _ (h.1 rfl)]
    rfl
  | cons c rest ih =>
    rw [List.cons_append]
    cases hc : isBlank c with
    | false => rw [wordsFrom_letter hc, wordsFrom_letter hc, ih (h.tail c word)]
    | true =>
      have hr := h.of_blank hc
      by_cases hw : word = []
      · subst hw
        rw [wordsFrom_gap hc, wordsFrom_gap hc, ih hr]
      · rw [wordsFrom_end hc _ _ hw, wordsFrom_end hc _ _ hw, ih hr, List.cons_append]

theorem letters_mem_splitOnP {word : List Char} (hw : ∀ c ∈ word, isBlank c = false)
    (gap : List Char) :
    ∀ w ∈ wordsFrom gap word s, w.letters ∈ (word.reverse ++ s).splitOnP isBlank := by
  induction s generalizing gap word with
  | nil =>
    intro w h
    by_cases hn : word = []
    · subst hn
      cases h
    · rw [wordsFrom_nil gap hn, List.mem_singleton] at h
      rw [List.append_nil, List.splitOnP_eq_singleton (by simpa using hw), h]
      exact List.mem_singleton_self _
  | cons c rest ih =>
    cases hc : isBlank c with
    | false =>
      have hl := ih (List.forall_mem_cons.mpr ⟨hc, hw⟩) gap
      rw [wordsFrom_letter hc]
      simpa using hl
    | true =>
      by_cases hn : word = []
      · subst hn
        intro w h
        rw [wordsFrom_gap hc] at h
        have hl := ih hw _ w h
        rw [List.reverse_nil, List.nil_append] at hl ⊢
        rw [← List.nil_append (c :: rest), List.splitOnP_append_cons _ _ (by simpa using hc)]
        exact List.mem_append_right _ hl
      · intro w h
        rw [wordsFrom_end hc _ _ hn] at h
        rw [List.splitOnP_append_cons _ _ (by simpa using hc)]
        rcases List.mem_cons.mp h with rfl | h
        · rw [List.splitOnP_eq_singleton (by simpa using hw)]
          exact List.mem_append_left _ (List.mem_singleton_self _)
        · exact List.mem_append_right _ (ih (List.forall_mem_nil _) _ w h)

end Words

section Join
variable {w v : Word} {rest : List Word}

theorem join_singleton (hw : isConnective w.letters = false) : join [w] = [w.letters] := by
  simp [join, hw]

theorem join_connective (hv : isConnective v.letters = true) : join (v :: rest) = join rest := by
  rw [join.eq_def]
  simp only [hv, if_true]

theorem join_cons_connective (hw : isConnective w.letters = false)
    (hv : isConnective v.letters = true) :
    join (w :: v :: rest) = w.letters :: join (v :: rest) := by
  rw [join.eq_def]
  simp only [hw, Bool.false_eq_true, if_false]
  cases join (v :: rest) with
  | nil => rfl
  | cons fragment later => simp only [hv, if_true]

theorem join_cons_word {fragment : List Char} {later : List (List Char)}
    (hw : isConnective w.letters = false) (hv : isConnective v.letters = false)
    (h : join (v :: rest) = fragment :: later) :
    join (w :: v :: rest) = (w.letters ++ v.gap ++ fragment) :: later := by
  rw [join.eq_def]
  simp only [hw, hv, h, Bool.false_eq_true, if_false]

theorem join_append {ws vs : List Word} (hn : ws ≠ [])
    (hw : ∀ w ∈ ws, isConnective w.letters = false)
    (hv : ∀ v ∈ vs.head?, isConnective v.letters = true) :
    join (ws ++ vs) = passage ws :: join vs := by
  induction ws with
  | nil => exact absurd rfl hn
  | cons w rest ih =>
    have ⟨hc, hrest⟩ := List.forall_mem_cons.mp hw
    cases rest with
    | nil =>
      have hp : passage [w] = w.letters := by simp [passage, spelled]
      rw [hp, List.singleton_append]
      cases vs with
      | nil => exact join_singleton hc
      | cons v vs => exact join_cons_connective hc (hv v rfl)
    | cons next rest =>
      have hnext : isConnective next.letters = false := hrest next List.mem_cons_self
      have hj : join (next :: (rest ++ vs)) = passage (next :: rest) :: join vs :=
        ih (List.cons_ne_nil _ _) hrest
      rw [List.cons_append, List.cons_append, join_cons_word hc hnext hj]
      simp [passage, spelled]

end Join

section Plain
variable {p : List Char}

theorem startsQuoted_append_blank (s t : List Char) :
    startsQuoted (s ++ ' ' :: t) = startsQuoted s := by
  cases s <;> rfl

theorem dropEscapes_append_blank (s t : List Char) :
    dropEscapes (s ++ ' ' :: t) = dropEscapes s ++ ' ' :: dropEscapes t := by
  induction s with
  | nil => simp [dropEscapes]
  | cons c rest ih =>
    simp only [List.cons_append, dropEscapes, ih, startsQuoted_append_blank]
    split <;> rfl

theorem normal_append_blank (s t : List Char) :
    normal (s ++ ' ' :: t) = normal s ++ ' ' :: normal t := by
  have hb : plainQuote ' ' = ' ' := by decide
  rw [normal, List.map_append, List.map_cons, hb, dropEscapes_append_blank]
  rfl

theorem dropEscapes_of_not_mem (h : '\\' ∉ p) : dropEscapes p = p := by
  induction p with
  | nil => rfl
  | cons c rest ih =>
    obtain ⟨hc, hr⟩ := not_or.mp (mt List.mem_cons.mpr h)
    rw [dropEscapes, if_neg fun hq => hc hq.1.symm, ih hr]

theorem map_plainQuote (hq : ∀ c ∈ p, plainQuote c = c) : p.map plainQuote = p :=
  (List.map_congr_left hq).trans (List.map_id p)

theorem normal_of_not_mem (hq : ∀ c ∈ p, plainQuote c = c) (h : '\\' ∉ p) : normal p = p := by
  rw [normal, map_plainQuote hq, dropEscapes_of_not_mem h]

end Plain

section Parts
variable {p s t : List Char}

structure IsPart (p : List Char) : Prop where
  ne_nil : p ≠ []
  head : ∀ c ∈ p.head?, isBlank c = false
  last : ∀ c ∈ p.getLast?, isBlank c = false
  clear : ∀ w ∈ p.splitOnP isBlank, isConnective w = false
  normal_eq : normal p = p

instance (p : List Char) : Decidable (IsPart p) :=
  decidable_of_iff
    (p ≠ [] ∧ p.head?.all (fun c => !isBlank c) = true ∧
      p.getLast?.all (fun c => !isBlank c) = true ∧
      (∀ w ∈ p.splitOnP isBlank, isConnective w = false) ∧ normal p = p)
    (by
      simp only [Option.all_eq_true, Bool.not_eq_true']
      exact ⟨fun ⟨hn, hh, hl, hc, he⟩ => ⟨hn, hh, hl, hc, he⟩,
        fun ⟨hn, hh, hl, hc, he⟩ => ⟨hn, hh, hl, hc, he⟩⟩)

theorem isPart_of_word (hn : p ≠ []) (hb : ∀ c ∈ p, isBlank c = false)
    (hc : isConnective p = false) (he : normal p = p) : IsPart p where
  ne_nil := hn
  head c h := hb c (List.mem_of_mem_head? h)
  last c h := hb c (List.mem_of_mem_getLast? h)
  clear w h := by
    rw [List.splitOnP_eq_singleton (by simpa using hb)] at h
    rw [List.mem_singleton.mp h]
    exact hc
  normal_eq := he

theorem IsPart.append (hs : IsPart s) (ht : IsPart t) : IsPart (s ++ ' ' :: t) where
  ne_nil := by simp
  head c h := by
    obtain ⟨x, rest, rfl⟩ := List.exists_cons_of_ne_nil hs.ne_nil
    exact hs.head c h
  last c h := by
    rw [List.append_cons, List.getLast?_append_of_ne_nil _ ht.ne_nil] at h
    exact ht.last c h
  clear w h := by
    rw [List.splitOnP_append_cons _ _ (by decide)] at h
    rcases List.mem_append.mp h with h | h
    · exact hs.clear w h
    · exact ht.clear w h
  normal_eq := by rw [normal_append_blank, hs.normal_eq, ht.normal_eq]

theorem joinBlank_cons (p : List Char) {qs : List (List Char)} (hq : qs ≠ []) :
    joinBlank (p :: qs) = p ++ ' ' :: joinBlank qs := by
  obtain ⟨q, qs, rfl⟩ := List.exists_cons_of_ne_nil hq
  rfl

theorem joinBlank_append {ps qs : List (List Char)} (hp : ps ≠ []) (hq : qs ≠ []) :
    joinBlank (ps ++ qs) = joinBlank ps ++ ' ' :: joinBlank qs := by
  induction ps with
  | nil => exact absurd rfl hp
  | cons p ps ih =>
    cases ps with
    | nil => exact joinBlank_cons p hq
    | cons p' ps =>
      rw [List.cons_append, joinBlank_cons p (by simp), ih (List.cons_ne_nil _ _),
        joinBlank_cons p (List.cons_ne_nil _ _), List.append_assoc, List.cons_append]

theorem isPart_joinBlank {ps : List (List Char)} (hn : ps ≠ []) (h : ∀ p ∈ ps, IsPart p) :
    IsPart (joinBlank ps) := by
  induction ps with
  | nil => exact absurd rfl hn
  | cons p ps ih =>
    have ⟨hp, hps⟩ := List.forall_mem_cons.mp h
    cases ps with
    | nil => exact hp
    | cons q qs => exact hp.append (ih (List.cons_ne_nil _ _) hps)

theorem IsPart.endsInWord (hs : IsPart s) : EndsInWord [] s :=
  ⟨fun h => absurd h hs.ne_nil, hs.last⟩

theorem IsPart.passage_words (hs : IsPart s) (gap : List Char) :
    passage (wordsFrom gap [] s) = s := by
  obtain ⟨c, rest, rfl⟩ := List.exists_cons_of_ne_nil hs.ne_nil
  rw [wordsFrom_letter (hs.head c rfl),
    passage_wordsFrom (List.cons_ne_nil _ _) (hs.endsInWord.tail c [])]
  rfl

theorem IsPart.isConnective_eq_false (hs : IsPart s) {gap : List Char} {w : Word}
    (hw : w ∈ wordsFrom gap [] s) : isConnective w.letters = false :=
  hs.clear _ (letters_mem_splitOnP (List.forall_mem_nil _) gap w hw)

theorem IsPart.words_ne_nil (hs : IsPart s) (gap : List Char) : wordsFrom gap [] s ≠ [] := by
  intro hn
  have h := hs.passage_words gap
  rw [hn] at h
  exact hs.ne_nil h.symm

theorem IsPart.join_words (hs : IsPart s) (gap : List Char) : join (wordsFrom gap [] s) = [s] := by
  rw [← List.append_nil (wordsFrom gap [] s), join_append (hs.words_ne_nil gap)
    (fun _ => hs.isConnective_eq_false) (by simp), hs.passage_words]
  rfl

theorem IsPart.fragments_eq (hs : IsPart s) : fragments (normal s) = [s] := by
  rw [hs.normal_eq]
  exact hs.join_words []

theorem fragments_then (hs : IsPart s) (ht : IsPart t) :
    fragments (normal (s ++ ' ' :: ("then".toList ++ ' ' :: t))) = [s, t] := by
  have hn : normal "then".toList = "then".toList := by decide
  have hc : isConnective "then".toList = true := by decide
  have hthen : wordsFrom [' '] [] ("then".toList ++ ' ' :: t) =
      ⟨[' '], "then".toList⟩ :: wordsFrom [' '] [] t := by
    rw [wordsFrom_append_blank ⟨by decide, by simp [isBlank]⟩]
    rfl
  rw [normal_append_blank, normal_append_blank, hs.normal_eq, ht.normal_eq, hn, fragments, words,
    wordsFrom_append_blank hs.endsInWord, hthen,
    join_append (hs.words_ne_nil []) (fun _ => hs.isConnective_eq_false) (by simpa using hc),
    hs.passage_words, join_connective hc, ht.join_words]

end Parts

end Sentence

end ChatRules
