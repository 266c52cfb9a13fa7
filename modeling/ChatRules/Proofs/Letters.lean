import ChatRules.Sentence.Phrase
import ChatRules.Text.Lowercase
import Mathlib.Data.List.Infix

namespace ChatRules

namespace Text
open CaseRun

theorem isInfix_iff {needle s : List Char} : isInfix needle s = true ↔ needle <:+: s := by
  induction s with
  | nil => simp [isInfix]
  | cons c s ih =>
    rw [isInfix, Bool.or_eq_true, ih, List.isPrefixOf_iff_prefix, List.infix_cons_iff]

theorem mem_preimages_of_apply {runs : List CaseRun} {n m : Nat} (hm : 0 < m)
    (h : apply runs n = m) : n = m ∨ n ∈ preimages runs m := by
  induction runs with
  | nil => exact .inl h
  | cons r rest ih =>
    rw [apply] at h
    split at h
    · exact .inl h
    · split at h
      next hc =>
        refine .inr (List.mem_filterMap.mpr ⟨r, List.mem_cons_self, ?_⟩)
        have hi : (Int.ofNat m - r.shift).toNat = n := by
          rw [image] at h
          simp only [Int.ofNat_eq_natCast] at h ⊢
          omega
        simp only [hi, hc, h, beq_self_eq_true, Bool.and_self, if_true]
      · rcases ih h with h | h
        · exact .inl h
        · obtain ⟨q, hq, hn⟩ := List.mem_filterMap.mp h
          exact .inr (List.mem_filterMap.mpr ⟨q, List.mem_cons_of_mem _ hq, hn⟩)

/-- A letter that is the lower case of nothing but itself and its capital. -/
def isPlain (x : Char) : Bool :=
  'a' ≤ x && x ≤ 'z' && preimages lowerRuns x.toNat == [x.toNat - 32]

theorem toNat_of_ofNat {n : Nat} {x : Char} (hx : 0 < x.toNat) (h : Char.ofNat n = x) :
    n = x.toNat := by
  by_cases hv : n.isValidChar
  · rw [Char.ofNat, dif_pos hv] at h
    subst h
    rfl
  · rw [Char.ofNat, dif_neg hv] at h
    subst h
    exact absurd hx (by decide)

theorem lowerAscii_of_toNat {c x : Char} (ha : 97 ≤ x.toNat) (hz : x.toNat ≤ 122)
    (h : c = x ∨ c.toNat = x.toNat - 32) : lowerAscii c = x := by
  rcases h with rfl | h
  · have hn : ¬ ('A' ≤ c ∧ c ≤ 'Z') := by
      rintro ⟨-, hcz⟩
      have hcz' : c.toNat ≤ 90 := hcz
      omega
    rw [lowerAscii, if_neg hn]
  · have hcap : 'A' ≤ c ∧ c ≤ 'Z' := by
      constructor
      · show 65 ≤ c.toNat
        omega
      · show c.toNat ≤ 90
        omega
    rw [lowerAscii, if_pos hcap, h, Nat.sub_add_cancel (by omega), Char.ofNat_toNat]

theorem lowerAscii_of_plain {c x : Char} (hx : isPlain x = true) (h : lowerChar c = [x]) :
    lowerAscii c = x := by
  simp only [isPlain, Bool.and_eq_true, decide_eq_true_eq, beq_iff_eq] at hx
  obtain ⟨⟨ha, hz⟩, hp⟩ := hx
  have ha' : 97 ≤ x.toNat := ha
  rw [lowerChar] at h
  split at h
  · cases h
  · have hc := toNat_of_ofNat (by omega) (List.singleton_inj.mp h)
    rcases mem_preimages_of_apply (by omega) hc with hc | hc
    · exact lowerAscii_of_toNat ha hz (.inl (Char.toNat_inj.mp hc))
    · rw [hp, List.mem_singleton] at hc
      exact lowerAscii_of_toNat ha hz (.inr hc)

theorem map_lowerAscii_of_lowerFrom {cased : Bool} {s word : List Char}
    (hw : ∀ x ∈ word, isPlain x = true) (h : lowerFrom cased s = word) :
    s.map lowerAscii = word := by
  induction s generalizing cased word with
  | nil => exact h
  | cons c rest ih =>
    rw [lowerFrom] at h
    subst h
    -- A capital sigma and a dotted I have lower cases of their own, and none of them is plain.
    have hs : c ≠ 'Σ' := by
      rintro rfl
      rw [if_pos rfl] at hw
      have hp := hw _ List.mem_cons_self
      split at hp <;> exact absurd hp (by decide +kernel)
    obtain ⟨x, hx⟩ : ∃ x, lowerChar c = [x] := by
      by_cases hi : c = 'İ'
      · rw [if_neg hs, lowerChar, if_pos hi] at hw
        have hp : isPlain '\u0307' = true := hw _ (by simp)
        exact absurd hp (by decide +kernel)
      · rw [lowerChar, if_neg hi]
        exact ⟨_, rfl⟩
    rw [if_neg hs, hx] at hw ⊢
    rw [List.map_cons, lowerAscii_of_plain (hw x List.mem_cons_self) hx,
      ih (fun y hy => hw y (List.mem_cons_of_mem _ hy)) rfl]
    rfl

theorem lowerChar_of_lowerAscii {c x : Char} (hx : isPlain x = true) (h : lowerAscii c = x) :
    lowerChar c = [x] := by
  have hsmall : ∀ k : Fin 26, lowerChar (Char.ofNat (97 + k)) = [Char.ofNat (97 + k)] := by
    decide +kernel
  have hcapital : ∀ k : Fin 26, lowerChar (Char.ofNat (65 + k)) = [Char.ofNat (65 + k + 32)] := by
    decide +kernel
  simp only [isPlain, Bool.and_eq_true, decide_eq_true_eq] at hx
  obtain ⟨⟨ha, hz⟩, -⟩ := hx
  have ha' : 97 ≤ x.toNat := ha
  have hz' : x.toNat ≤ 122 := hz
  rw [lowerAscii] at h
  split at h
  · next hc =>
    have hc' : 65 ≤ c.toNat := hc.1
    have hcz : c.toNat ≤ 90 := hc.2
    have hk := hcapital ⟨c.toNat - 65, by omega⟩
    simp only [Nat.add_sub_cancel' hc', Char.ofNat_toNat] at hk
    rw [hk, h]
  · subst h
    have hk := hsmall ⟨c.toNat - 97, by omega⟩
    simpa only [Nat.add_sub_cancel' ha', Char.ofNat_toNat] using hk

theorem lower_eq_iff {s word : List Char} (hw : ∀ x ∈ word, isPlain x = true) :
    lower s = word ↔ s.map lowerAscii = word := by
  refine ⟨map_lowerAscii_of_lowerFrom hw, fun h => ?_⟩
  rw [lower]
  generalize false = cased
  induction s generalizing cased word with
  | nil => exact h
  | cons c rest ih =>
    subst h
    obtain ⟨hc, hrest⟩ := List.forall_mem_cons.mp hw
    have hs : c ≠ 'Σ' := by
      rintro rfl
      exact absurd hc (by decide +kernel)
    rw [lowerFrom, if_neg hs, lowerChar_of_lowerAscii hc rfl, ih hrest rfl]
    rfl

theorem eq_false_of_any {p : Char → Bool} {s : List Char} (h : s.any p = false) :
    ∀ c ∈ s, p c = false :=
  fun c hc => Bool.eq_false_iff.mpr (List.any_eq_false.mp h c hc)

theorem sameLetter_self (c : Char) : sameLetter c c = true := by
  simp [sameLetter]

def isFolded (x : Char) : Bool :=
  'a' ≤ x && x ≤ 'z' && fold x == x

theorem of_sameLetter {c x : Char} (hx : isFolded x = true) (h : sameLetter x c = true) :
    c = x ∨ c.toNat ∈ preimages foldRuns x.toNat := by
  simp only [isFolded, Bool.and_eq_true, decide_eq_true_eq, beq_iff_eq] at hx
  obtain ⟨⟨ha, -⟩, hf⟩ := hx
  have hp : 97 ≤ x.toNat := ha
  simp only [sameLetter, Bool.or_eq_true, beq_iff_eq, hf] at h
  rcases h with h | h
  · exact .inl h.symm
  · have hc : foldCode c.toNat = x.toNat := toNat_of_ofNat (by omega) h.symm
    rcases mem_preimages_of_apply (by omega) hc with hc | hc
    · exact .inl (Char.toNat_inj.mp hc)
    · exact .inr hc

/-- A letter that is the same as nothing but itself and its capital. -/
def isLone (x : Char) : Bool :=
  isFolded x && preimages foldRuns x.toNat == [x.toNat - 32]

theorem lowerAscii_of_sameLetter {c x : Char} (hx : isLone x = true)
    (h : sameLetter x c = true) : lowerAscii c = x := by
  rw [isLone, Bool.and_eq_true, beq_iff_eq] at hx
  obtain ⟨hf, hp⟩ := hx
  have hc := of_sameLetter hf h
  rw [hp, List.mem_singleton] at hc
  simp only [isFolded, Bool.and_eq_true, decide_eq_true_eq] at hf
  exact lowerAscii_of_toNat hf.1.1 hf.1.2 hc

def blankCodes : List Nat :=
  List.range' 0x9 5 ++ List.range' 0x2000 11 ++
    [0x20, 0x85, 0xA0, 0x1680, 0x2028, 0x2029, 0x202F, 0x205F, 0x3000]

theorem mem_blankCodes {c : Char} (h : isBlank c = true) : c.toNat ∈ blankCodes := by
  have he (x : Char) : c = x ↔ c.toNat = x.toNat := Char.toNat_inj.symm
  have hl (x y : Char) : x ≤ y ↔ x.toNat ≤ y.toNat := Iff.rfl
  simp only [isBlank, Bool.or_eq_true, Bool.and_eq_true, decide_eq_true_eq, he, hl] at h
  simp only [blankCodes, List.mem_append, List.mem_range'_1, List.mem_cons, List.not_mem_nil,
    or_false]
  simp only [Char.reduceToNat] at h
  omega

theorem isWord_of_isBlank {c : Char} (h : isBlank c = true) : isWord c = false := by
  have hb : ∀ n ∈ blankCodes, wordChars.memCode n = false := by decide +kernel
  exact hb _ (mem_blankCodes h)

end Text

namespace Sentence.Phrase
open Text

theorem isBlank_of_isNameChar {c : Char} (h : isNameChar c = true) : isBlank c = false := by
  rw [isNameChar, Bool.or_eq_true, decide_eq_true_eq] at h
  rcases h with h | rfl
  · refine Bool.eq_false_iff.mpr fun hb => ?_
    rw [isWord_of_isBlank hb] at h
    cases h
  · decide

def marks : List Char :=
  ['"', '\'', '\\', '\u201c', '\u201d', '\u201e', '\u201f', '\u2033', '\u00ab', '\u00bb',
    '\u2018', '\u2019', '\u201a', '\u201b', '\u2032']

theorem isNameChar_mark : ∀ c ∈ marks, isNameChar c = false := by
  have h : marks.any isNameChar = false := by decide +kernel
  exact eq_false_of_any h

theorem isWord_mark {c : Char} (h : c ∈ marks) : isWord c = false := by
  have hn := isNameChar_mark c h
  rw [isNameChar, Bool.or_eq_false_iff] at hn
  exact hn.1

end Sentence.Phrase

end ChatRules
