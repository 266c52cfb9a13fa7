import ChatRules.Proofs.Parts
import ChatRules.Proofs.Tokens
import Mathlib.Data.List.Range

namespace ChatRules.Token
open Text

/-- From a place on, up to the next character that is the same, that one included. -/
def Reaches (chars : List Char) (i j : Nat) : Prop :=
  i ≤ j ∧ j < chars.length ∧ ∀ k, i < k → k < j → chars[k]? ≠ chars[i]?

/-- A quote outside the runs that earlier quotes open. -/
def OpensRun (chars : List Char) (j : Nat) : Prop :=
  (∃ q, chars[j]? = some q ∧ isQuote q = true) ∧ ∀ i, i < j → OpensRun chars i → ¬ Reaches chars i j
termination_by j

def IsQuoted (chars : List Char) (j : Nat) : Prop :=
  ∃ i, OpensRun chars i ∧ Reaches chars i j

def IsBreak (chars : List Char) (j : Nat) : Prop :=
  (∃ c, chars[j]? = some c ∧ isBlank c = true) ∧ ¬ IsQuoted chars j

def runAt (chars : List Char) (j : Nat) : Option Char :=
  (chars.take j).foldl openAfter none

section Runs
variable {chars : List Char} {c q : Char} {i j : Nat}

theorem runAt_succ (hc : chars[j]? = some c) :
    runAt chars (j + 1) = openAfter (runAt chars j) c := by
  rw [runAt, List.take_add_one, hc, List.foldl_append]
  rfl

theorem openAfter_eq_some_iff {run : Option Char} :
    openAfter run c = some q ↔
      (run = some q ∧ c ≠ q) ∨ (run = none ∧ isQuote c = true ∧ c = q) := by
  cases run with
  | none => simp [openAfter]
  | some p =>
    by_cases hp : c = p
    · simp [openAfter, hp]
    · simp only [openAfter, if_neg hp]
      constructor
      · intro h
        obtain rfl := Option.some.inj h
        exact .inl ⟨rfl, hp⟩
      · rintro (⟨h, -⟩ | ⟨h, -⟩)
        · exact h
        · cases h

def IsInside (chars : List Char) (q : Char) (j : Nat) : Prop :=
  ∃ i, i < j ∧ OpensRun chars i ∧ chars[i]? = some q ∧ ∀ k, i < k → k < j → chars[k]? ≠ some q

theorem exists_inside (hij : i < j) (ho : OpensRun chars i) (hr : Reaches chars i j) :
    ∃ q, IsInside chars q j := by
  obtain ⟨q, hq, -⟩ := by
    rw [OpensRun] at ho
    exact ho.1
  exact ⟨q, i, hij, ho, hq, fun k hik hkj => hq ▸ hr.2.2 k hik hkj⟩

theorem IsInside.exists_reaches (h : IsInside chars q j) (hj : j < chars.length) :
    ∃ i, i < j ∧ OpensRun chars i ∧ Reaches chars i j := by
  obtain ⟨i, hij, ho, hq, hk⟩ := h
  exact ⟨i, hij, ho, hij.le, hj, hq ▸ hk⟩

theorem opensRun_iff (hc : chars[j]? = some c) :
    OpensRun chars j ↔ isQuote c = true ∧ ∀ q, ¬ IsInside chars q j := by
  have hj : j < chars.length := (List.getElem?_eq_some_iff.mp hc).1
  rw [OpensRun]
  constructor
  · rintro ⟨⟨q, hcq, hq⟩, houtside⟩
    obtain rfl := Option.some.inj (hc.symm.trans hcq)
    refine ⟨hq, fun p hp => ?_⟩
    obtain ⟨i, hij, ho, hr⟩ := hp.exists_reaches hj
    exact houtside i hij ho hr
  · rintro ⟨hq, hout⟩
    refine ⟨⟨c, hc, hq⟩, fun i hij ho hr => ?_⟩
    obtain ⟨p, hp⟩ := exists_inside hij ho hr
    exact hout p hp

theorem isInside_succ (hc : chars[j]? = some c) :
    IsInside chars q (j + 1) ↔
      (IsInside chars q j ∧ c ≠ q) ∨ ((∀ p, ¬ IsInside chars p j) ∧ isQuote c = true ∧ c = q) := by
  constructor
  · rintro ⟨i, hi, ho, hq, hk⟩
    rcases Nat.lt_succ_iff_lt_or_eq.mp hi with hij | rfl
    · refine .inl ⟨⟨i, hij, ho, hq, fun k hik hkj => hk k hik (Nat.lt_succ_of_lt hkj)⟩, ?_⟩
      rintro rfl
      exact hk j hij (Nat.lt_succ_self j) hc
    · obtain ⟨hquote, hout⟩ := (opensRun_iff hc).mp ho
      exact .inr ⟨hout, hquote, Option.some.inj (hc.symm.trans hq)⟩
  · rintro (⟨⟨i, hij, ho, hq, hk⟩, hne⟩ | ⟨hout, hquote, rfl⟩)
    · refine ⟨i, Nat.lt_succ_of_lt hij, ho, hq, fun k hik hkj => ?_⟩
      rcases Nat.lt_succ_iff_lt_or_eq.mp hkj with hkj | rfl
      · exact hk k hik hkj
      · exact fun h => hne (Option.some.inj (hc.symm.trans h))
    · refine ⟨j, Nat.lt_succ_self j, (opensRun_iff hc).mpr ⟨hquote, hout⟩, hc, ?_⟩
      exact fun k hjk hkj => absurd hkj (Nat.not_lt.mpr hjk)

theorem runAt_eq_some_iff (hj : j ≤ chars.length) :
    runAt chars j = some q ↔ IsInside chars q j := by
  induction j generalizing q with
  | zero =>
    refine iff_of_false ?_ ?_
    · rw [runAt, List.take_zero]
      exact nofun
    · rintro ⟨i, hi, -⟩
      exact absurd hi (Nat.not_lt_zero i)
  | succ j ih =>
    have hc : chars[j]? = some chars[j] := List.getElem?_eq_getElem hj
    have hnone : runAt chars j = none ↔ ∀ p, ¬ IsInside chars p j := by
      rw [Option.eq_none_iff_forall_ne_some]
      exact forall_congr' fun p => not_congr (ih (Nat.le_of_succ_le hj))
    rw [runAt_succ hc, openAfter_eq_some_iff, isInside_succ hc, ih (Nat.le_of_succ_le hj), hnone]

theorem runAt_eq_none_iff (hj : j ≤ chars.length) :
    runAt chars j = none ↔ ∀ q, ¬ IsInside chars q j := by
  rw [Option.eq_none_iff_forall_ne_some]
  exact forall_congr' fun q => not_congr (runAt_eq_some_iff hj)

theorem isQuoted_iff (hc : chars[j]? = some c) :
    IsQuoted chars j ↔ runAt chars j ≠ none ∨ isQuote c = true := by
  have hj : j < chars.length := (List.getElem?_eq_some_iff.mp hc).1
  have hrun : runAt chars j ≠ none ↔ ∃ q, IsInside chars q j := by
    rw [ne_eq, runAt_eq_none_iff hj.le, not_forall_not]
  rw [hrun]
  constructor
  · rintro ⟨i, ho, hr⟩
    rcases Nat.lt_or_eq_of_le hr.1 with hij | rfl
    · exact .inl (exists_inside hij ho hr)
    · exact .inr ((opensRun_iff hc).mp ho).1
  · intro h
    by_cases hin : ∃ q, IsInside chars q j
    · obtain ⟨q, hq⟩ := hin
      obtain ⟨i, -, ho, hr⟩ := hq.exists_reaches hj
      exact ⟨i, ho, hr⟩
    · have ho := (opensRun_iff hc).mpr ⟨h.resolve_left hin, not_exists.mp hin⟩
      exact ⟨j, ho, le_rfl, hj, fun k hjk hkj => absurd hkj (Nat.lt_asymm hjk)⟩

theorem isBreak_iff (hc : chars[j]? = some c) :
    IsBreak chars j ↔ runAt chars j = none ∧ isBlank c = true := by
  rw [IsBreak, isQuoted_iff hc]
  constructor
  · rintro ⟨⟨d, hd, hb⟩, hn⟩
    obtain rfl := Option.some.inj (hc.symm.trans hd)
    exact ⟨not_not.mp fun h => hn (.inl h), hb⟩
  · rintro ⟨hrun, hb⟩
    refine ⟨⟨c, hc, hb⟩, not_or.mpr ⟨not_not.mpr hrun, fun hq => ?_⟩⟩
    rw [isBlank_of_isQuote hq] at hb
    cases hb

instance (chars : List Char) : DecidablePred (IsBreak chars) := fun j =>
  match hc : chars[j]? with
  | some _ => decidable_of_iff _ (isBreak_iff hc).symm
  | none => .isFalse fun h => by
    obtain ⟨⟨c, h, -⟩, -⟩ := h
    rw [hc] at h
    cases h

end Runs

def kept (chars : List Char) : List Nat :=
  (List.range chars.length).filter fun j => ¬ IsBreak chars j

def lettersAt (chars : List Char) (places : List Nat) : List Char :=
  places.filterMap (chars[·]?)

def placesOf (chars : List Char) : List (List Nat) :=
  parts (fun j => decide (IsBreak chars j)) (List.range chars.length)

section Places
variable {chars : List Char} {places : List Nat}

theorem lettersAt_eq_nil_iff (h : ∀ j ∈ places, j < chars.length) :
    lettersAt chars places = [] ↔ places = [] := by
  cases places with
  | nil => simp [lettersAt]
  | cons j places =>
    have hj : j < chars.length := h j List.mem_cons_self
    simp [lettersAt, List.getElem?_eq_getElem hj]

theorem close_lettersAt (h : ∀ j ∈ places, j < chars.length) (more : List (List Nat)) :
    close (lettersAt chars places) ((more.filter fun part => !part.isEmpty).map (lettersAt chars)) =
      ((places.reverse :: more).filter fun part => !part.isEmpty).map (lettersAt chars) := by
  rw [close]
  by_cases hn : places = []
  · rw [if_pos ((lettersAt_eq_nil_iff h).mpr hn), hn]
    rfl
  · have hkeep : (!places.reverse.isEmpty) = true := by simpa using hn
    rw [if_neg (mt (lettersAt_eq_nil_iff h).mp hn), List.filter_cons, if_pos hkeep, List.map_cons,
      lettersAt, lettersAt, List.filterMap_reverse]

theorem splitFrom_break {j : Nat} (hb : IsBreak chars j) (word : List Char) :
    splitFrom (runAt chars j) word (chars.drop j) =
      close word (splitFrom (runAt chars (j + 1)) [] (chars.drop (j + 1))) := by
  obtain ⟨c, hc, -⟩ := hb.1
  obtain ⟨hj, rfl⟩ := List.getElem?_eq_some_iff.mp hc
  obtain ⟨hrun, hblank⟩ := (isBreak_iff hc).mp hb
  have hq : isQuote chars[j] = false := by
    refine Bool.eq_false_iff.mpr fun hq => ?_
    rw [isBlank_of_isQuote hq] at hblank
    cases hblank
  rw [List.drop_eq_getElem_cons hj, runAt_succ hc, hrun, splitFrom_blank hblank, openAfter, hq,
    if_neg Bool.false_ne_true]

theorem splitFrom_kept {j : Nat} (hj : j < chars.length) (hb : ¬ IsBreak chars j)
    (word : List Char) :
    splitFrom (runAt chars j) word (chars.drop j) =
      splitFrom (runAt chars (j + 1)) (chars[j] :: word) (chars.drop (j + 1)) := by
  have hc : chars[j]? = some chars[j] := List.getElem?_eq_getElem hj
  rw [isBreak_iff hc] at hb
  rw [List.drop_eq_getElem_cons hj, splitFrom, if_neg hb, runAt_succ hc]

theorem splitFrom_places (n : Nat) {j : Nat} (hj : j + n = chars.length)
    (h : ∀ i ∈ places, i < chars.length) :
    splitFrom (runAt chars j) (lettersAt chars places) (chars.drop j) =
      (((List.range' j n).splitOnPPrepend (fun j => decide (IsBreak chars j)) places).filter
        fun part => !part.isEmpty).map (lettersAt chars) := by
  induction n generalizing j places with
  | zero =>
    have hend : chars.length ≤ j := by omega
    rw [List.drop_eq_nil_of_le hend, splitFrom, List.range'_zero, List.splitOnPPrepend_nil,
      ← close_lettersAt h]
    rfl
  | succ n ih =>
    have hlt : j < chars.length := by omega
    have hnext : j + 1 + n = chars.length := by omega
    rw [List.range'_succ, List.splitOnPPrepend_cons_eq_if]
    by_cases hb : IsBreak chars j
    · have hnil : ∀ i ∈ ([] : List Nat), i < chars.length := List.forall_mem_nil _
      have hrest := ih hnext hnil
      rw [splitFrom_break hb, if_pos (decide_eq_true hb), ← close_lettersAt h]
      exact congrArg _ hrest
    · have hc : chars[j]? = some chars[j] := List.getElem?_eq_getElem hlt
      rw [splitFrom_kept hlt hb, decide_eq_false hb, if_neg Bool.false_ne_true,
        ← ih hnext (List.forall_mem_cons.mpr ⟨hlt, h⟩), lettersAt, lettersAt,
        List.filterMap_cons_some hc]

theorem split_eq_placesOf (chars : List Char) :
    split chars = (placesOf chars).map (lettersAt chars) := by
  have hnil : ∀ i ∈ ([] : List Nat), i < chars.length := List.forall_mem_nil _
  have h := splitFrom_places chars.length (Nat.zero_add _) hnil
  rwa [List.drop_zero, ← List.range_eq_range'] at h

theorem flatten_placesOf (chars : List Char) : (placesOf chars).flatten = kept chars := by
  rw [placesOf, flatten_parts, kept]
  simp

theorem same_place_iff {i j : Nat} (hi : i ∈ kept chars) (hj : j ∈ kept chars) (hij : i < j) :
    (∃ part ∈ placesOf chars, i ∈ part ∧ j ∈ part) ↔
      ∀ k, i < k → k < j → ¬ IsBreak chars k := by
  obtain ⟨hi, hpi⟩ := List.mem_filter.mp hi
  obtain ⟨hj, hpj⟩ := List.mem_filter.mp hj
  have hsorted := List.pairwise_lt_range (n := chars.length)
  have hpi' : decide (IsBreak chars i) = false := by simpa using hpi
  have hpj' : decide (IsBreak chars j) = false := by simpa using hpj
  constructor
  · rintro ⟨part, hp, hip, hjp⟩ k hik hkj
    have hk : k ∈ List.range chars.length :=
      List.mem_range.mpr (hkj.trans (List.mem_range.mp hj))
    simpa using clear_between_of_same_part hsorted hp hip hjp hk hik hkj
  · intro h
    exact same_part_of_clear_between hsorted hi hj hij hpi' hpj' fun k _ hik hkj =>
      decide_eq_false (h k hik hkj)

end Places

inductive IsOpened (q : Char) : List Char → Prop
  | run {start text : List Char} (hs : IsWhole start) (hq : isQuote q = true) (ht : q ∉ text) :
    IsOpened q (start ++ q :: text)

def InProgress : Option Char → List Char → Prop
  | none, s => IsWhole s
  | some q, s => IsOpened q s

inductive AreTokens : List (List Char) → Prop
  | nil : AreTokens []
  | opened {q : Char} {token : List Char} (h : IsOpened q token) : AreTokens [token]
  | cons {token : List Char} {rest : List (List Char)} (hn : token ≠ []) (hw : IsWhole token)
    (hr : AreTokens rest) : AreTokens (token :: rest)

section Joined
variable {run : Option Char} {q c : Char} {s token word : List Char} {tokens : List (List Char)}

theorem IsOpened.ne_nil (h : IsOpened q s) : s ≠ [] := by
  cases h
  simp

theorem IsOpened.split_eq (h : IsOpened q token) : split token = [token] := by
  cases h with
  | run hs hq ht => exact splitFrom_opened hs hq ht

theorem InProgress.step (h : InProgress run s) (hb : ¬ (run = none ∧ isBlank c = true)) :
    InProgress (openAfter run c) (s ++ [c]) := by
  cases run with
  | none =>
    have hblank : isBlank c = false := Bool.eq_false_iff.mpr fun hc => hb ⟨rfl, hc⟩
    by_cases hq : isQuote c = true
    · rw [openAfter, if_pos hq]
      exact .run h hq List.not_mem_nil
    · rw [openAfter, if_neg hq]
      exact IsWhole.append h (.letter hblank (Bool.eq_false_iff.mpr hq) .nil)
  | some q =>
    cases h with
    | @run start text hs hq ht =>
      rw [openAfter, List.append_assoc, List.cons_append]
      by_cases hc : c = q
      · subst hc
        rw [if_pos rfl]
        exact hs.append (.run hq ht .nil)
      · rw [if_neg hc]
        exact .run hs hq (by simpa [ht] using Ne.symm hc)

theorem areTokens_close (h : IsWhole word.reverse) (ht : AreTokens tokens) :
    AreTokens (close word tokens) := by
  rw [close]
  split
  · exact ht
  · next hn => exact .cons (by simpa using hn) h ht

theorem areTokens_splitFrom (h : InProgress run word.reverse) :
    AreTokens (splitFrom run word s) := by
  induction s generalizing run word with
  | nil =>
    rw [splitFrom]
    cases run with
    | none => exact areTokens_close h .nil
    | some q =>
      have hn : word ≠ [] := by simpa using h.ne_nil
      rw [close, if_neg hn]
      exact .opened h
  | cons c s ih =>
    rw [splitFrom]
    split
    · next hb =>
      rw [hb.1] at h
      exact areTokens_close h (ih .nil)
    · next hb =>
      refine ih ?_
      rw [List.reverse_cons]
      exact h.step hb

theorem AreTokens.split_joined (h : AreTokens tokens) :
    split ([' '].intercalate tokens) = tokens := by
  induction h with
  | nil => rfl
  | opened h => rw [List.intercalate_singleton, h.split_eq]
  | @cons token rest hn hw hr ih =>
    have hc : ∀ more, close (token.reverse ++ []) more = token :: more := by
      intro more
      rw [List.append_nil, close, if_neg (mt List.reverse_eq_nil_iff.mp hn), List.reverse_reverse]
    cases rest with
    | nil =>
      rw [List.intercalate_singleton, split, ← List.append_nil token, splitFrom_whole hw, splitFrom,
        hc, List.append_nil]
    | cons next rest =>
      rw [List.intercalate_cons_cons, List.append_assoc, List.singleton_append, split,
        splitFrom_whole hw, splitFrom_blank (by decide), hc, ← split, ih]

end Joined

/-- A line is cut exactly at the blanks that are not quoted. Each token has its places in the line,
which are all places but those of such blanks, and the tokens joined by single blanks are the tokens
of what they make up. -/
theorem split_at_unquoted_blanks (chars : List Char) :
    (∃ places : List (List Nat),
      split chars = places.map (lettersAt chars) ∧ places.flatten = kept chars ∧
      (∀ part ∈ places, part ≠ []) ∧
      ∀ i ∈ kept chars, ∀ j ∈ kept chars, i < j →
        ((∃ part ∈ places, i ∈ part ∧ j ∈ part) ↔ ∀ k, i < k → k < j → ¬ IsBreak chars k)) ∧
    (split chars).flatten = lettersAt chars (kept chars) ∧
    (∀ token ∈ split chars, token ≠ []) ∧
    split ([' '].intercalate (split chars)) = split chars := by
  have hsplit := split_eq_placesOf chars
  have hkept := flatten_placesOf chars
  have hwhole : InProgress none ([] : List Char).reverse := IsWhole.nil
  refine ⟨⟨placesOf chars, hsplit, hkept, fun part => ne_nil_of_mem_parts,
    fun i hi j hj hij => same_place_iff hi hj hij⟩, ?_, fun token ht => ?_,
    (areTokens_splitFrom hwhole).split_joined⟩
  · rw [hsplit, ← hkept, lettersAt, List.filterMap_flatten]
    rfl
  · rw [hsplit] at ht
    obtain ⟨part, hp, rfl⟩ := List.mem_map.mp ht
    have hplaces : ∀ j ∈ part, j < chars.length := fun j hj =>
      List.mem_range.mp (mem_of_mem_parts hp hj)
    exact mt (lettersAt_eq_nil_iff hplaces).mp (ne_nil_of_mem_parts hp)

def nestedLine : List Char :=
  "a'b \"c 'd\"e f\"  \"g ' h".toList

theorem nested_line_cut_once :
    ∃ places : List (List Nat), split nestedLine = places.map (lettersAt nestedLine) ∧
      (∃ part ∈ places, 1 ∈ part ∧ 13 ∈ part) ∧ ¬ (∃ part ∈ places, 13 ∈ part ∧ 16 ∈ part) ∧
      split ([' '].intercalate (split nestedLine)) = split nestedLine := by
  obtain ⟨⟨places, hs, -, -, hsame⟩, -, -, hjoined⟩ := split_at_unquoted_blanks nestedLine
  have hk : 1 ∈ kept nestedLine ∧ 13 ∈ kept nestedLine ∧ 16 ∈ kept nestedLine := by decide +kernel
  have hclear : ∀ k, 1 < k → k < 13 → ¬ IsBreak nestedLine k := by
    have h : ∀ k < 13, 1 < k → ¬ IsBreak nestedLine k := by decide +kernel
    exact fun k hk hlt => h k hlt hk
  have hbreak : IsBreak nestedLine 14 := by decide +kernel
  refine ⟨places, hs, (hsame 1 hk.1 13 hk.2.1 (by decide)).mpr hclear, fun h => ?_, hjoined⟩
  exact (hsame 13 hk.2.1 16 hk.2.2 (by decide)).mp h 14 (by decide) (by decide) hbreak

end ChatRules.Token
