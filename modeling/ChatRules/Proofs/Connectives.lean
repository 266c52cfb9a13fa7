import ChatRules.Proofs.Occurrences
import ChatRules.Proofs.Spelling

namespace ChatRules.Sentence
open Text Phrase
open Token (spelled_nil)

section Letters
variable {c x : Char} {s t w xs : List Char}

theorem sameLetter_iff : sameLetter x c = true ↔ fold c = fold x := by
  rw [sameLetter, Bool.or_eq_true, beq_iff_eq, beq_iff_eq]
  refine ⟨fun h => ?_, fun h => .inr h.symm⟩
  rcases h with rfl | h
  · rfl
  · exact h.symm

theorem letters_append_of_fold (h : w.map fold = xs.map fold) (t : List Char) :
    letters xs (w ++ t) = [((), t)] := by
  induction xs generalizing w with
  | nil =>
    obtain rfl := List.map_eq_nil_iff.mp h
    rfl
  | cons x xs ih =>
    obtain ⟨c, w, rfl, hc, hw⟩ := List.map_eq_cons_iff.mp h
    rw [List.cons_append, letters_cons_cons, if_pos (sameLetter_iff.mpr hc), ih hw]

theorem mem_letters {r : Unit × List Char} (h : r ∈ letters xs s) :
    ∃ w, s = w ++ r.2 ∧ w.map fold = xs.map fold := by
  induction xs generalizing s with
  | nil =>
    obtain rfl := List.mem_singleton.mp h
    exact ⟨[], rfl, rfl⟩
  | cons x xs ih =>
    cases s with
    | nil => cases h
    | cons c s =>
      rw [letters_cons_cons] at h
      split at h
      · next hc =>
        obtain ⟨w, rfl, hw⟩ := ih h
        exact ⟨c :: w, rfl, by rw [List.map_cons, List.map_cons, sameLetter_iff.mp hc, hw]⟩
      · cases h

theorem fold_eq_iff (hx : x ∈ "thenand".toList) : fold c = x ↔ lowerAscii c = x := by
  have hlone : "thenand".toList.all isLone = true := by decide +kernel
  have hall : ("thenand".toList.all fun x => fold x == x) = true := by decide +kernel
  have hself : ∀ x ∈ "thenand".toList, fold x = x := fun x hx =>
    beq_iff_eq.mp (List.all_eq_true.mp hall x hx)
  have hcapital : ∀ k : Fin 26, Char.ofNat (65 + k + 32) ∈ "thenand".toList →
      fold (Char.ofNat (65 + k)) = Char.ofNat (65 + k + 32) := by decide +kernel
  constructor
  · intro h
    refine lowerAscii_of_sameLetter (List.all_eq_true.mp hlone x hx) (sameLetter_iff.mpr ?_)
    rw [h, hself x hx]
  · rintro rfl
    rw [lowerAscii] at hx ⊢
    split
    · next hc =>
      rw [if_pos hc] at hx
      have ha : 65 ≤ c.toNat := hc.1
      have hz : c.toNat ≤ 90 := hc.2
      have hk := hcapital ⟨c.toNat - 65, by omega⟩
      simp only [Nat.add_sub_cancel' ha, Char.ofNat_toNat] at hk
      exact hk hx
    · next hc =>
      rw [if_neg hc] at hx
      exact hself c hx

theorem map_fold_eq_iff (hx : ∀ x ∈ xs, x ∈ "thenand".toList) :
    w.map fold = xs ↔ w.map lowerAscii = xs := by
  induction xs generalizing w with
  | nil => rw [List.map_eq_nil_iff, List.map_eq_nil_iff]
  | cons x xs ih =>
    have ⟨hc, hxs⟩ := List.forall_mem_cons.mp hx
    simp only [List.map_eq_cons_iff, fold_eq_iff hc, ih hxs]

theorem isConnective_iff :
    isConnective w = true ↔ w.map fold = "then".toList ∨ w.map fold = "and".toList := by
  have hthen : "then".toList.map lowerAscii = "then".toList := by decide
  have hand : "and".toList.map lowerAscii = "and".toList := by decide
  have hfoldThen : w.map fold = "then".toList ↔ w.map lowerAscii = "then".toList :=
    map_fold_eq_iff fun x hx => List.mem_append_left "and".toList hx
  have hfoldAnd : w.map fold = "and".toList ↔ w.map lowerAscii = "and".toList :=
    map_fold_eq_iff fun x hx => List.mem_append_right "then".toList hx
  rw [isConnective, Bool.or_eq_true, equalIgnoringAsciiCase, equalIgnoringAsciiCase, beq_iff_eq,
    beq_iff_eq, hthen, hand, hfoldThen, hfoldAnd]

end Letters

def connective : Phrase Unit :=
  oneOf [word "then", word "and"]

def connectivesUpTo : Nat → Phrase Unit
  | 0 => give ()
  | n + 1 => either (do let _ ← blanks; connective; connectivesUpTo n) (give ())

def connectives : Phrase Unit :=
  fun s => connectivesUpTo s.length s

def textStart (first : Bool) : Phrase Unit :=
  fun s => if first then [((), s)] else []

def textEnd : Phrase Unit :=
  fun s => if s = [] then [((), s)] else []

def spaced : Phrase Unit := do
  let _ ← blanks
  give ()

def connected : Phrase Unit := do
  connective
  connectives
  either spaced textEnd

def onward (n : Nat) : Phrase Unit := do
  connectivesUpTo n
  either spaced textEnd

/-- What parts two fragments. It may begin with a connective only where the text begins. -/
def separator (first : Bool) : Phrase Unit := do
  either (textStart first) spaced
  connected

section Separator
variable {q : Phrase Unit} {first : Bool} {c : Char} {gap s t w : List Char}

theorem map_fold_keyword : ∀ x ∈ ["then", "and"], x.toList.map fold = x.toList := by
  decide +kernel

theorem reads_connective (h : isConnective w = true) (t : List Char) :
    Reads connective (w ++ t) () t := by
  rcases isConnective_iff.mp h with h | h
  · refine Reads.either (.of_eq_cons (letters_append_of_fold ?_ t))
    rw [h, map_fold_keyword "then" (by decide)]
  · have hand : letters "and".toList (w ++ t) = [((), t)] := by
      refine letters_append_of_fold ?_ t
      rw [h, map_fold_keyword "and" (by decide)]
    refine reads_either_of_eq_nil ?_ (Reads.either (.of_eq_cons hand))
    obtain ⟨c, w, rfl, hc, -⟩ := List.map_eq_cons_iff.mp h
    have hat : 'a' ≠ fold 't' := by decide +kernel
    refine letters_eq_nil_of_head (fun d hd => ?_) _
    obtain rfl := Option.some.inj hd
    exact Bool.eq_false_iff.mpr fun ht => hat (hc.symm.trans (sameLetter_iff.mp ht))

theorem mem_connective {r : Unit × List Char} (h : r ∈ connective s) :
    ∃ w, s = w ++ r.2 ∧ isConnective w = true := by
  rcases List.mem_append.mp h with h | h
  · obtain ⟨w, hs, hw⟩ := mem_letters h
    exact ⟨w, hs, isConnective_iff.mpr (.inl (hw.trans (map_fold_keyword "then" (by decide))))⟩
  · rcases List.mem_append.mp h with h | h
    · obtain ⟨w, hs, hw⟩ := mem_letters h
      exact ⟨w, hs, isConnective_iff.mpr (.inr (hw.trans (map_fold_keyword "and" (by decide))))⟩
    · cases h

theorem connective_eq_nil (h : ∀ c ∈ s.head?, isBlank c = true) : connective s = [] := by
  refine List.eq_nil_iff_forall_not_mem.mpr fun r hr => ?_
  obtain ⟨w, rfl, hw⟩ := mem_connective hr
  obtain ⟨c, w, rfl⟩ := List.exists_cons_of_ne_nil (ne_nil_of_isConnective hw)
  have hc := h c rfl
  rw [isBlank_of_isConnective hw List.mem_cons_self] at hc
  cases hc

theorem connective_bind_eq_nil (hw : ∀ c ∈ w, isBlank c = false) (hc : isConnective w = false)
    (ht : ∀ c ∈ t.head?, isBlank c = true)
    (hq : ∀ c rest, isBlank c = false → q (c :: rest) = []) :
    (connective >>= fun _ => q) (w ++ t) = [] := by
  refine List.flatMap_eq_nil_iff.mpr fun r hr => ?_
  obtain ⟨v, hs, hv⟩ := mem_connective hr
  have hne : w ≠ v := by
    rintro rfl
    rw [hc] at hv
    cases hv
  rcases List.append_eq_append_iff.mp hs with ⟨more, rfl, rfl⟩ | ⟨left, rfl, hleft⟩
  · cases more with
    | nil => exact absurd (List.append_nil w).symm hne
    | cons c more =>
      have hb := ht c rfl
      rw [isBlank_of_isConnective hv (by simp)] at hb
      cases hb
  · cases left with
    | nil => exact absurd (List.append_nil v) hne
    | cons c left =>
      rw [hleft]
      exact hq c _ (hw c (by simp))

theorem blanks_append (hg : ∀ c ∈ gap, isBlank c = true) (hn : gap ≠ [])
    (ht : ∀ c ∈ t.head?, isBlank c = false) : blanks (gap ++ t) = [(gap, t)] :=
  run_append hn hg ht

theorem blanks_eq_nil (h : ∀ c ∈ s.head?, isBlank c = false) : blanks s = [] :=
  run_eq_nil h

theorem spaced_apply (s : List Char) : spaced s = (blanks s).map fun r => ((), r.2) := by
  rw [spaced, bind_apply, List.map_eq_flatMap]
  rfl

theorem separator_apply (first : Bool) (s : List Char) :
    separator first s =
      (if first then connected s else []) ++ (blanks s).flatMap fun r => connected r.2 := by
  rw [separator, bind_apply, either, spaced_apply, List.flatMap_append, List.flatMap_map]
  cases first
  · rfl
  · rw [textStart, if_pos rfl, List.flatMap_singleton, if_pos rfl]

theorem ending_eq_nil (h : isBlank c = false) (rest : List Char) :
    either spaced textEnd (c :: rest) = [] := by
  rw [either, spaced_apply, blanks_eq_nil (by simpa using h), textEnd,
    if_neg (List.cons_ne_nil _ _)]
  rfl

theorem reads_ending (hg : ∀ c ∈ gap, isBlank c = true) (hn : gap ≠ [])
    (ht : ∀ c ∈ t.head?, isBlank c = false) : Reads (either spaced textEnd) (gap ++ t) () t := by
  refine Reads.either (.of_eq_cons (l := []) ?_)
  rw [spaced_apply, blanks_append hg hn ht]
  rfl

theorem reads_ending_blank (h : ∀ c ∈ s, isBlank c = true) :
    Reads (either spaced textEnd) s () [] := by
  by_cases hn : s = []
  · subst hn
    rfl
  · have he := reads_ending (t := []) h hn (by simp)
    rwa [List.append_nil] at he

theorem onward_succ (n : Nat) (s : List Char) :
    onward (n + 1) s =
      ((blanks s).flatMap fun r => (connective >>= fun _ => onward n) r.2) ++
        either spaced textEnd s := by
  simp only [onward, connectivesUpTo, bind_apply, either, List.flatMap_append, List.flatMap_assoc]
  exact congrArg _ (List.flatMap_singleton _ _)

theorem onward_eq_nil (h : isBlank c = false) (n : Nat) (rest : List Char) :
    onward n (c :: rest) = [] := by
  cases n with
  | zero => exact (List.flatMap_singleton _ _).trans (ending_eq_nil h rest)
  | succ n =>
    rw [onward_succ, blanks_eq_nil (by simpa using h), ending_eq_nil h]
    rfl

theorem connected_eq_nil (hw : ∀ c ∈ w, isBlank c = false) (hc : isConnective w = false)
    (ht : ∀ c ∈ t.head?, isBlank c = true) : connected (w ++ t) = [] :=
  connective_bind_eq_nil hw hc ht fun _ rest hb => onward_eq_nil hb _ rest

theorem connected_eq_nil_of_blank (h : ∀ c ∈ s.head?, isBlank c = true) : connected s = [] :=
  bind_eq_nil (connective_eq_nil h)

theorem connected_gap_eq_nil (hg : ∀ c ∈ gap, isBlank c = true) (hn : gap ≠ []) (t : List Char) :
    connected (gap ++ t) = [] := by
  refine connected_eq_nil_of_blank fun c hc => ?_
  rw [List.head?_append_of_ne_nil _ hn] at hc
  exact hg c (List.mem_of_mem_head? hc)

theorem separator_eq_nil_of_letter (h : isBlank c = false) (rest : List Char) :
    separator false (c :: rest) = [] := by
  rw [separator_apply, blanks_eq_nil (by simpa using h)]
  rfl

theorem separator_eq_nil_of_blank (h : ∀ c ∈ s, isBlank c = true) : separator first s = [] := by
  have hs : connected s = [] :=
    connected_eq_nil_of_blank fun c hc => h c (List.mem_of_mem_head? hc)
  have hb : ∀ r ∈ blanks s, connected r.2 = [] := fun r hr => by
    refine connected_eq_nil_of_blank fun c hc => ?_
    have hr := (mem_run hr).1
    exact h c (hr ▸ List.mem_append_right _ (List.mem_of_mem_head? hc))
  rw [separator_apply, hs, ite_self, List.nil_append]
  exact List.flatMap_eq_nil_iff.mpr hb

end Separator

section Cutting
variable {first : Bool} {w : Word} {gap tail t u : List Char}

theorem Word.IsFull.head (hw : w.IsFull) (t : List Char) :
    ∀ c ∈ (w.letters ++ t).head?, isBlank c = false := by
  intro c hc
  rw [List.head?_append_of_ne_nil _ hw.ne_nil] at hc
  exact hw.letters c (List.mem_of_mem_head? hc)

theorem separator_eq_nil (hw : w.IsFull) (hs : w.separates = false)
    (ht : ∀ c ∈ t.head?, isBlank c = true) (hg : ∀ c ∈ gap, isBlank c = true) :
    separator first (gap ++ (w.letters ++ t)) = [] := by
  have hnone := connected_eq_nil hw.letters hs ht
  rw [separator_apply]
  by_cases hn : gap = []
  · subst hn
    rw [List.nil_append, hnone, ite_self, blanks_eq_nil (hw.head t)]
    rfl
  · rw [connected_gap_eq_nil hg hn, ite_self, blanks_append hg hn (hw.head t),
      List.flatMap_singleton, hnone]
    rfl

theorem cutFrom_word (hw : w.IsFull) (hs : w.separates = false)
    (ht : ∀ c ∈ t.head?, isBlank c = true) (part : List Char) :
    cutFrom separator 0 first part (w.gap ++ (w.letters ++ t)) =
      cutFrom separator 0 false ((w.gap ++ w.letters).reverse ++ part) t := by
  rw [← List.append_assoc]
  refine cutFrom_append_of_first (by simp [hw.ne_nil]) ?_ (fun v hn hv => ?_) part
  · rw [List.append_assoc]
    exact separator_eq_nil hw hs ht hw.gap
  · rcases List.suffix_or_suffix_of_suffix hv (List.suffix_append w.gap w.letters) with hv | hl
    · obtain ⟨c, v, rfl⟩ := List.exists_cons_of_ne_nil hn
      exact separator_eq_nil_of_letter (hw.letters c (hv.subset List.mem_cons_self)) _
    · obtain ⟨gap, rfl⟩ := hl
      rw [List.append_assoc]
      refine separator_eq_nil hw hs ht fun c hc => ?_
      obtain ⟨before, hb⟩ := hv
      rw [← List.append_assoc] at hb
      exact hw.gap c (List.append_cancel_right hb ▸ List.mem_append_right _ hc)

theorem reads_onward_connective {n : Nat} (hw : w.IsFull) (hg : w.gap ≠ [])
    (hs : w.separates = true) (h : Reads (onward n) t () u) :
    Reads (onward (n + 1)) (w.gap ++ (w.letters ++ t)) () u := by
  have hread : Reads (connective >>= fun _ => onward n) (w.letters ++ t) () u :=
    (reads_connective hs t).bind h
  obtain ⟨l, hl⟩ := hread.eq_cons
  rw [Reads, onward_succ, blanks_append hw.gap hg (hw.head t), List.flatMap_singleton, hl]
  rfl

theorem reads_onward_word (hw : w.IsFull) (hg : w.gap ≠ []) (hs : w.separates = false)
    (ht : ∀ c ∈ t.head?, isBlank c = true) (n : Nat) :
    Reads (onward n) (w.gap ++ (w.letters ++ t)) () (w.letters ++ t) := by
  have hend : Reads (either spaced textEnd) (w.gap ++ (w.letters ++ t)) () (w.letters ++ t) :=
    reads_ending hw.gap hg (hw.head t)
  cases n with
  | zero => exact (reads_give () _).bind hend
  | succ n =>
    have hnone : (connective >>= fun _ => onward n) (w.letters ++ t) = [] :=
      connective_bind_eq_nil hw.letters hs ht fun _ rest hb => onward_eq_nil hb n rest
    rw [Reads, onward_succ, blanks_append hw.gap hg (hw.head t), List.flatMap_singleton, hnone]
    exact hend

theorem reads_onward_blank (h : ∀ c ∈ tail, isBlank c = true) (n : Nat) :
    Reads (onward n) tail () [] := by
  have hend := reads_ending_blank h
  cases n with
  | zero => exact (reads_give () _).bind hend
  | succ n =>
    have hnone : ∀ r ∈ blanks tail, (connective >>= fun _ => onward n) r.2 = [] := by
      intro r hr
      refine bind_eq_nil (connective_eq_nil fun c hc => ?_)
      exact h c ((mem_run hr).1 ▸ List.mem_append_right _ (List.mem_of_mem_head? hc))
    rw [Reads, onward_succ, List.flatMap_eq_nil_iff.mpr hnone]
    exact hend

theorem reads_separator (hw : w.IsFull) (hs : w.separates = true)
    (hf : first = true ∨ w.gap ≠ []) (h : Reads (onward t.length) t () u) :
    Reads (separator first) (w.gap ++ (w.letters ++ t)) () u := by
  have hread : Reads connected (w.letters ++ t) () u := (reads_connective hs t).bind h
  obtain ⟨l, hl⟩ := hread.eq_cons
  by_cases hg : w.gap = []
  · obtain rfl := hf.resolve_right fun hn => hn hg
    rw [Reads, separator_apply, if_pos rfl, hg, List.nil_append, hl]
    rfl
  · rw [Reads, separator_apply, connected_gap_eq_nil hw.gap hg, ite_self,
      blanks_append hw.gap hg (hw.head t), List.flatMap_singleton, hl]
    rfl

end Cutting

def trimmedParts (parts : List (List Char × Option Unit)) : List (List Char) :=
  (parts.map fun part => trim part.1).filter (· ≠ [])

section Parts
variable {run ws : List Word} {w : Word} {gap s tail : List Char}

theorem trim_spelled (hf : ∀ w ∈ run, w.IsFull) (ht : ∀ c ∈ tail, isBlank c = true) :
    trim (spelled run ++ tail) = passage run := by
  cases run with
  | nil => exact trim_eq_nil ht
  | cons w rest =>
    have hs : spelled (w :: rest) ++ tail = w.gap ++ (passage (w :: rest) ++ tail) := by
      simp [passage, spelled]
    rw [hs]
    exact trim_between (hf w List.mem_cons_self).gap (isTrimmed_passage hf) ht

theorem trimmedParts_spelled (hf : ∀ w ∈ run, w.IsFull) (hc : ∀ w ∈ run, w.separates = false)
    (ht : ∀ c ∈ tail, isBlank c = true) (a : Option Unit) (parts : List (List Char × Option Unit)) :
    trimmedParts ((spelled run ++ tail, a) :: parts) = join run ++ trimmedParts parts := by
  rw [trimmedParts, List.map_cons, trim_spelled hf ht, List.filter_cons, join_of_clear hc]
  by_cases hn : run = []
  · subst hn
    rfl
  · rw [if_pos (by simpa using passage_ne_nil hf hn), if_neg hn]
    rfl

/-- The words behind a connective that was read: the reading goes on to the next word, and what is
left falls into the fragments of the words. -/
def Resumes (ws : List Word) (tail : List Char) : Prop :=
  ∃ u, (∀ n, ws.length ≤ n → Reads (onward n) (spelled ws ++ tail) () u) ∧
    trimmedParts (cutFrom separator 0 false [] u) = join ws

def Continues (ws : List Word) (tail : List Char) : Prop :=
  ∀ run : List Word, (∀ w ∈ run, w.IsFull) → (∀ w ∈ run, w.separates = false) →
    trimmedParts (cutFrom separator 0 false (spelled run).reverse (spelled ws ++ tail)) =
      join (run ++ ws)

theorem cutFrom_blank {first : Bool} (ht : ∀ c ∈ tail, isBlank c = true) (part : List Char) :
    cutFrom separator 0 first part tail = [(part.reverse ++ tail, none)] := by
  by_cases hn : tail = []
  · subst hn
    rw [cutFrom_nil, List.append_nil]
  · have hnone : ∀ first v, v <:+ tail → separator first (v ++ []) = [] := fun first v hv => by
      rw [List.append_nil]
      exact separator_eq_nil_of_blank fun c hc => ht c (hv.subset hc)
    have h : cutFrom separator 0 first part (tail ++ []) =
        cutFrom separator 0 false (tail.reverse ++ part) [] :=
      cutFrom_append_of_first hn (hnone first tail (List.suffix_refl _))
        (fun v _ hv => hnone false v hv) part
    rw [List.append_nil] at h
    rw [h, cutFrom_nil]
    simp

theorem continues_nil (ht : ∀ c ∈ tail, isBlank c = true) : Continues [] tail := by
  intro run hf hc
  have hnone : trimmedParts [] = [] := rfl
  rw [spelled_nil, List.nil_append, cutFrom_blank ht, List.reverse_reverse,
    trimmedParts_spelled hf hc ht, hnone, List.append_nil, List.append_nil]

theorem resumes_nil (ht : ∀ c ∈ tail, isBlank c = true) : Resumes [] tail :=
  ⟨[], fun n _ => reads_onward_blank ht n, rfl⟩

theorem consumes_onward (n : Nat) : Consumes (onward n) := by
  have hconnective : Consumes connective := by
    refine consumes_oneOf fun p hp => ?_
    rcases List.mem_cons.mp hp with rfl | hp
    · exact consumes_word _
    · rw [List.mem_singleton.mp hp]
      exact consumes_word _
  have hupTo : Consumes (connectivesUpTo n) := by
    induction n with
    | zero => exact consumes_give ()
    | succ n ih =>
      exact ((consumes_run isBlank).bind fun _ => hconnective.bind fun _ => ih).either
        (consumes_give ())
  have hend : Consumes textEnd := by
    intro s r hr
    rw [textEnd] at hr
    split at hr
    · obtain rfl := List.mem_singleton.mp hr
      exact List.suffix_refl s
    · cases hr
  have hspaced : Consumes spaced := (consumes_run isBlank).bind fun _ => consumes_give ()
  exact hupTo.bind fun _ => hspaced.either hend

theorem cut_connective {first : Bool} (hw : w.IsFull) (hs : w.separates = true)
    (hg : first = true ∨ w.gap ≠ []) (hws : ∀ w ∈ ws, w.IsFull) (h : Resumes ws tail)
    (hf : ∀ w ∈ run, w.IsFull) (hc : ∀ w ∈ run, w.separates = false) :
    trimmedParts (cutFrom separator 0 first (spelled run).reverse (spelled (w :: ws) ++ tail)) =
      join (run ++ w :: ws) := by
  obtain ⟨u, hu, hcut⟩ := h
  have honward := hu _ (length_le_spelled hws tail)
  obtain ⟨v, hv⟩ := consumes_onward _ _ _ (List.mem_of_mem_head? honward)
  have hread := reads_separator hw hs hg honward
  have htext : w.gap ++ (w.letters ++ (spelled ws ++ tail)) = w.gap ++ (w.letters ++ v) ++ u := by
    rw [← hv]
    simp
  rw [htext] at hread
  rw [spelled_cons_append, htext, cutFrom_of_reads hread (by simp [hw.ne_nil]),
    List.reverse_reverse, ← List.append_nil (spelled run),
    trimmedParts_spelled hf hc (List.forall_mem_nil _), hcut, join_append_connective hs]

theorem resumes_connective (hw : w.IsFull) (hg : w.gap ≠ []) (hs : w.separates = true)
    (h : Resumes ws tail) : Resumes (w :: ws) tail := by
  obtain ⟨u, hu, hcut⟩ := h
  refine ⟨u, fun n hn => ?_, by rw [hcut, join_connective hs]⟩
  obtain ⟨n, rfl⟩ := Nat.exists_eq_add_one_of_ne_zero (Nat.ne_zero_of_lt hn)
  rw [spelled_cons_append]
  exact reads_onward_connective hw hg hs (hu n (Nat.le_of_succ_le_succ hn))

theorem resumes_word (hw : w.IsFull) (hg : w.gap ≠ []) (hs : w.separates = false)
    (ht : ∀ c ∈ (spelled ws ++ tail).head?, isBlank c = true) (h : Continues ws tail) :
    Resumes (w :: ws) tail := by
  refine ⟨w.letters ++ (spelled ws ++ tail), fun n _ => ?_, ?_⟩
  · rw [spelled_cons_append]
    exact reads_onward_word hw hg hs ht n
  · -- The gap is read with the connective, so the run begins without it.
    have hbare : Word.IsFull ⟨[], w.letters⟩ := ⟨List.forall_mem_nil _, hw.letters, hw.ne_nil⟩
    have hcut : cutFrom separator 0 false [] ([] ++ (w.letters ++ (spelled ws ++ tail))) =
        cutFrom separator 0 false (([] ++ w.letters).reverse ++ []) (spelled ws ++ tail) :=
      cutFrom_word hbare hs ht []
    rw [List.nil_append, List.nil_append, List.append_nil] at hcut
    have hrun := h [⟨[], w.letters⟩] (List.forall_mem_singleton.mpr hbare)
      (List.forall_mem_singleton.mpr hs)
    rw [spelled_singleton, List.nil_append] at hrun
    rw [hcut, hrun]
    exact join_congr_gap _ _ _ _

theorem continues_word (hw : w.IsFull) (hs : w.separates = false)
    (ht : ∀ c ∈ (spelled ws ++ tail).head?, isBlank c = true) (h : Continues ws tail) :
    Continues (w :: ws) tail := by
  intro run hf hc
  have hrun := h (run ++ [w]) (List.forall_mem_append.mpr ⟨hf, List.forall_mem_singleton.mpr hw⟩)
    (List.forall_mem_append.mpr ⟨hc, List.forall_mem_singleton.mpr hs⟩)
  rw [spelled_append, List.reverse_append, spelled_singleton] at hrun
  rw [spelled_cons_append, cutFrom_word hw hs ht, hrun, List.append_assoc]
  rfl

theorem resumes_and_continues (hf : ∀ w ∈ ws, w.IsFull) (hg : ∀ w ∈ ws, w.gap ≠ [])
    (ht : ∀ c ∈ tail, isBlank c = true) : Resumes ws tail ∧ Continues ws tail := by
  induction ws with
  | nil => exact ⟨resumes_nil ht, continues_nil ht⟩
  | cons w ws ih =>
    obtain ⟨hw, hws⟩ := List.forall_mem_cons.mp hf
    obtain ⟨hgap, hgaps⟩ := List.forall_mem_cons.mp hg
    obtain ⟨hresumes, hcontinues⟩ := ih hws hgaps
    have hhead := blank_head_of_parted hws hgaps ht
    cases hs : w.separates with
    | false =>
      exact ⟨resumes_word hw hgap hs hhead hcontinues, continues_word hw hs hhead hcontinues⟩
    | true =>
      exact ⟨resumes_connective hw hgap hs hresumes,
        fun run => cut_connective hw hs (.inr hgap) hws hresumes⟩

theorem trimmedParts_cut (h : IsSpelling s ws tail) : trimmedParts (cut separator s) = join ws := by
  obtain ⟨rfl, hf, hp, ht⟩ := h
  rw [cut]
  cases ws with
  | nil =>
    have hkept := trimmedParts_spelled (List.forall_mem_nil _) (List.forall_mem_nil _) ht none []
    rw [spelled_nil, List.nil_append] at hkept ⊢
    rw [cutFrom_blank ht, List.reverse_nil, List.nil_append, hkept]
    rfl
  | cons w ws =>
    obtain ⟨hw, hws⟩ := List.forall_mem_cons.mp hf
    obtain ⟨hresumes, hcontinues⟩ := resumes_and_continues hws hp ht
    cases hs : w.separates with
    | false =>
      have hrun := hcontinues [w] (List.forall_mem_singleton.mpr hw)
        (List.forall_mem_singleton.mpr hs)
      rw [spelled_singleton] at hrun
      rw [spelled_cons_append, cutFrom_word hw hs (blank_head_of_parted hws hp ht),
        List.append_nil, hrun]
      rfl
    | true =>
      have hcut : trimmedParts
          (cutFrom separator 0 true (spelled []).reverse (spelled (w :: ws) ++ tail)) =
            join ([] ++ w :: ws) :=
        cut_connective hw hs (.inl rfl) hws hresumes (List.forall_mem_nil _) (List.forall_mem_nil _)
      exact hcut

end Parts

/-- A sentence falls apart just at its connectives: its fragments are the longest runs of other
words, each as it stands in the sentence. -/
theorem fragments_between_connectives (s : List Char) :
    ∃ tail, IsSpelling s (words s) tail ∧ (∀ ws tail, IsSpelling s ws tail → ws = words s) ∧
      fragments s = (runs (words s)).map passage ∧
      fragments s = trimmedParts (cut separator s) ∧
      (∀ run ∈ runs (words s), ∃ before gap after,
        words s = before ++ run ++ after ∧ IsRun before run after ∧
          s = spelled before ++ gap ++ passage run ++ (spelled after ++ tail)) ∧
      (∀ f ∈ fragments s, f ≠ [] ∧ IsTrimmed f ∧ ∀ w ∈ words f, w.separates = false) ∧
      ((fragments s).map fun f => (words f).map Word.letters).flatten =
        ((words s).filter fun w => !w.separates).map Word.letters ∧
      ∀ w : Word, w.separates = true ↔
        w.letters.map fold = "then".toList ∨ w.letters.map fold = "and".toList := by
  obtain ⟨tail, h⟩ := isSpelling_words s
  have hruns : fragments s = (runs (words s)).map passage := join_eq_runs _
  refine ⟨tail, h, fun ws tail hs => hs.words_eq.symm, hruns, (trimmedParts_cut h).symm, ?_, ?_,
    ?_, fun w => isConnective_iff⟩
  · intro run hr
    obtain ⟨before, after, hws, hrun⟩ := exists_place_of_mem_runs hr
    obtain ⟨gap, hg⟩ := exists_gap run
    refine ⟨before, gap, after, hws, hrun, ?_⟩
    have hs := h.eq
    rw [hws, spelled_append, spelled_append, hg] at hs
    simpa using hs
  · intro f hf
    obtain ⟨run, hr, rfl⟩ := List.mem_map.mp (hruns ▸ hf)
    have hfull : ∀ w ∈ run, w.IsFull := fun w hw => h.full w (mem_of_mem_runs hr w hw)
    refine ⟨passage_ne_nil hfull (ne_nil_of_mem_runs hr), isTrimmed_passage hfull, fun w hw => ?_⟩
    have hl := letters_words_passage hfull fun w hw =>
      h.parted w (tail_subset_tail_of_mem_runs hr w hw)
    obtain ⟨v, hv, hvw⟩ := List.mem_map.mp (hl ▸ List.mem_map_of_mem hw)
    obtain ⟨_, _, _, hrun⟩ := exists_place_of_mem_runs hr
    rw [Word.separates, ← hvw]
    exact hrun.clear v hv
  · rw [h.letters_fragments, ← flatten_runs, List.map_flatten]

example :
    fragments "\u00a0And then  brandon, and,\tandy\nand AND thEN #a-and-b  and".toList =
      ["brandon, and,\tandy".toList, "#a-and-b".toList] := by decide

end ChatRules.Sentence
