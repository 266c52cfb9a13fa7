import ChatRules.Instant.Printer
import ChatRules.Instant.Reader
import ChatRules.Proofs.CalendarDates
import Mathlib.Algebra.Group.Nat.Defs
import Mathlib.Data.List.Basic
import Mathlib.Data.List.Induction

namespace ChatRules.Instant
open Text

section Digits
variable {k n : Nat} {rest : List Char}

theorem digit_facts : ∀ n : Nat, n < 10 →
    isDigit (digit n) = true ∧ (digit n).toNat - 48 = n ∧ isBlank (digit n) = false ∧
      digit n ≠ '-' ∧ digit n ≠ '+' := by
  decide

theorem digit_mod (n : Nat) : digit n = digit (n % 10) := by
  rw [digit, digit, Nat.mod_mod]

theorem isDigit_of_mem_digits {c : Char} (h : c ∈ digits k n) : ∃ d, d < 10 ∧ c = digit d := by
  induction k generalizing n with
  | zero => cases h
  | succ k ih =>
    rw [digits] at h
    rcases List.mem_append.mp h with h | h
    · exact ih h
    · exact ⟨n % 10, Nat.mod_lt _ (by decide), by rw [List.mem_singleton.mp h, digit_mod]⟩

theorem length_digits (k n : Nat) : (digits k n).length = k := by
  induction k generalizing n with
  | zero => rfl
  | succ k ih => rw [digits, List.length_append, ih]; rfl

theorem valueOf_append_singleton (s : List Char) (c : Char) :
    valueOf (s ++ [c]) = valueOf s * 10 + (c.toNat - 48) := by
  rw [valueOf, List.foldl_append]
  rfl

theorem valueOf_digits (k n : Nat) : valueOf (digits k n) = n % 10 ^ k := by
  induction k generalizing n with
  | zero => rw [Nat.pow_zero, Nat.mod_one]; rfl
  | succ k ih =>
    have hd := (digit_facts (n % 10) (Nat.mod_lt _ (by decide))).2.1
    rw [digits, valueOf_append_singleton, ih, digit_mod, hd, Nat.pow_succ', Nat.mod_mul]
    omega

theorem trimLeft_cons {c : Char} (h : isBlank c = false) (s : List Char) :
    trimLeft (c :: s) = c :: s := by
  rw [trimLeft, List.dropWhile_cons_of_neg (by simp [h])]

theorem digits_eq_cons (k n : Nat) : ∃ d s, d < 10 ∧ digits (k + 1) n = digit d :: s := by
  cases h : digits (k + 1) n with
  | nil =>
    have hl := length_digits (k + 1) n
    rw [h] at hl
    cases hl
  | cons c s =>
    obtain ⟨d, hd, rfl⟩ := isDigit_of_mem_digits (h ▸ List.mem_cons_self)
    exact ⟨d, s, hd, rfl⟩

theorem trimLeft_digits (k n : Nat) (rest : List Char) :
    trimLeft (digits (k + 1) n ++ rest) = digits (k + 1) n ++ rest := by
  obtain ⟨d, s, hd, hs⟩ := digits_eq_cons k n
  rw [hs, List.cons_append, trimLeft_cons (digit_facts d hd).2.2.1]

theorem takeWhile_digits (k n : Nat) {rest : List Char}
    (h : ∀ c ∈ rest.head?, isDigit c = false) :
    (digits k n ++ rest).takeWhile isDigit = digits k n := by
  have hd : ∀ c ∈ digits k n, isDigit c = true := by
    intro c hc
    obtain ⟨d, hd, rfl⟩ := isDigit_of_mem_digits hc
    exact (digit_facts d hd).1
  rw [List.takeWhile_append_of_pos hd]
  cases rest with
  | nil => simp
  | cons c rest => rw [List.takeWhile_cons_of_neg (by simp [h c rfl]), List.append_nil]

theorem dropWhile_digits (k n : Nat) {rest : List Char}
    (h : ∀ c ∈ rest.head?, isDigit c = false) :
    (digits k n ++ rest).dropWhile isDigit = rest := by
  have ht := List.takeWhile_append_dropWhile (p := isDigit) (l := digits k n ++ rest)
  rw [takeWhile_digits k n h] at ht
  exact List.append_cancel_left ht

theorem readNumber_digits (most k n : Nat) {rest : List Char}
    (h : most = k + 1 ∨ k + 1 ≤ most ∧ ∀ c ∈ rest.head?, isDigit c = false) :
    readNumber most (digits (k + 1) n ++ rest) = some (n % 10 ^ (k + 1), rest) := by
  have hl := length_digits (k + 1) n
  have hfound : ((digits (k + 1) n ++ rest).take most).takeWhile isDigit = digits (k + 1) n := by
    rcases h with rfl | ⟨hk, hr⟩
    · have ht : (digits (k + 1) n ++ []).takeWhile isDigit = digits (k + 1) n :=
        takeWhile_digits _ _ (by simp)
      rw [List.append_nil] at ht
      rw [List.take_left' hl, ht]
    · rw [List.take_append, List.take_of_length_le (by omega)]
      refine takeWhile_digits _ _ fun c hc => hr c ?_
      rw [List.head?_take] at hc
      split at hc
      · cases hc
      · exact hc
  have hn : digits (k + 1) n ≠ [] := by
    obtain ⟨d, s, -, hs⟩ := digits_eq_cons k n
    rw [hs]
    exact List.cons_ne_nil _ _
  rw [readNumber, trimLeft_digits, hfound, if_neg hn, valueOf_digits, List.drop_left]

theorem readSign_cons {x : Char} (h : isBlank x = false) (rest : List Char) :
    readSign x (x :: rest) = some rest := by
  rw [readSign, trimLeft_cons h]
  simp only [if_true]

end Digits

section Year
variable {year : Int} {n : Nat} {rest : List Char}

theorem printYear_cases (h : year.natAbs < 1000000) :
    ∃ k, year.natAbs < 10 ^ (k + 1) ∧
      (year < 0 ∧ printYear year = '-' :: digits (k + 1) year.natAbs ∨
        0 ≤ year ∧ k = 3 ∧ printYear year = digits (k + 1) year.natAbs ∨
        0 ≤ year ∧ printYear year = '+' :: digits (k + 1) year.natAbs) := by
  simp only [printYear]
  by_cases h4 : year.natAbs < 10000
  · refine ⟨3, h4, ?_⟩
    by_cases hs : year < 0
    · exact .inl ⟨hs, by rw [if_pos h4, if_pos hs]⟩
    · exact .inr (.inl ⟨by omega, rfl, by rw [if_neg hs, if_pos h4, if_pos h4]⟩)
  · have hlong : ∃ k, year.natAbs < 10 ^ (k + 1) ∧
        (if year.natAbs < 100000 then digits 5 year.natAbs else digits 6 year.natAbs) =
          digits (k + 1) year.natAbs := by
      by_cases h5 : year.natAbs < 100000
      · exact ⟨4, h5, if_pos h5⟩
      · exact ⟨5, h, if_neg h5⟩
    obtain ⟨k, hk, hd⟩ := hlong
    refine ⟨k, hk, ?_⟩
    rw [if_neg h4, hd]
    by_cases hs : year < 0
    · exact .inl ⟨hs, if_pos hs⟩
    · exact .inr (.inr ⟨by omega, by rw [if_neg hs, if_neg h4]⟩)

theorem head_digits_append (k n : Nat) (rest : List Char) :
    ((digits (k + 1) n ++ rest).head?.map isDigit).getD false = true := by
  obtain ⟨d, s, hd, hs⟩ := digits_eq_cons k n
  rw [hs]
  exact (digit_facts d hd).1

theorem readNumber_all (k n : Nat) (rest : List Char) :
    readNumber (digits (k + 1) n ++ '-' :: rest).length (digits (k + 1) n ++ '-' :: rest) =
      some (n % 10 ^ (k + 1), '-' :: rest) := by
  refine readNumber_digits _ k n (.inr ⟨?_, ?_⟩)
  · rw [List.length_append, length_digits]
    omega
  · intro c hc
    obtain rfl : '-' = c := by simpa using hc
    decide

theorem readYear_printYear (h : year.natAbs < 1000000) (rest : List Char) :
    readYear (printYear year ++ '-' :: rest) = some (year, '-' :: rest) := by
  obtain ⟨k, hk, ⟨hs, hp⟩ | ⟨hs, rfl, hp⟩ | ⟨hs, hp⟩⟩ := printYear_cases h
  · rw [hp, List.cons_append, readYear, trimLeft_cons (by decide)]
    simp only [head_digits_append, if_true, readNumber_all, Option.map_some, Nat.mod_eq_of_lt hk]
    congr 2
    omega
  · have hr : readNumber 4 (digits 4 year.natAbs ++ '-' :: rest) =
        some (year.natAbs % 10 ^ 4, '-' :: rest) :=
      readNumber_digits 4 3 year.natAbs (.inl rfl)
    obtain ⟨d, s, hd, hds⟩ := digits_eq_cons 3 year.natAbs
    rw [hp, readYear, trimLeft_digits]
    rw [hds, List.cons_append] at hr ⊢
    obtain ⟨-, -, -, hminus, hplus⟩ := digit_facts d hd
    split
    · next h => exact absurd (List.cons.inj h).1 hminus
    · next h => exact absurd (List.cons.inj h).1 hplus
    · simp only [hr, Option.map_some, Nat.mod_eq_of_lt hk, Int.natAbs_of_nonneg hs]
  · rw [hp, List.cons_append, readYear, trimLeft_cons (by decide)]
    simp only [head_digits_append, if_true, readNumber_all, Option.map_some, Nat.mod_eq_of_lt hk,
      Int.natAbs_of_nonneg hs]

end Year

section Fraction
variable {rest : List Char}

theorem valueOf_append_zeros (s : List Char) (k : Nat) :
    valueOf (s ++ List.replicate k '0') = valueOf s * 10 ^ k := by
  induction k with
  | zero => simp
  | succ k ih =>
    rw [List.replicate_succ', ← List.append_assoc, valueOf_append_singleton, ih, Nat.pow_succ]
    simp [Nat.mul_assoc]

theorem readFraction_digits {k n : Nat} (hk : k < 9) (hn : n < 10 ^ (k + 1))
    (h : ∀ c ∈ rest.head?, isDigit c = false) :
    readFraction ('.' :: (digits (k + 1) n ++ rest)) = some (n * 10 ^ (8 - k), rest) := by
  have hfound := takeWhile_digits (k + 1) n h
  have hleft := dropWhile_digits (k + 1) n h
  have hne : digits (k + 1) n ≠ [] := by
    obtain ⟨d, s, -, hs⟩ := digits_eq_cons k n
    rw [hs]
    exact List.cons_ne_nil _ _
  have hnine : (digits (k + 1) n ++ List.replicate 9 '0').take 9 =
      digits (k + 1) n ++ List.replicate (8 - k) '0' := by
    rw [List.take_append, length_digits, List.take_replicate,
      List.take_of_length_le (by rw [length_digits]; omega)]
    congr 2
    omega
  simp only [readFraction, hfound, hleft, if_neg hne, hnine, valueOf_append_zeros, valueOf_digits,
    Nat.mod_eq_of_lt hn]

theorem readFraction_printFraction {nanos : Nat} (hn : nanos < 1000000000) (rest : List Char) :
    readFraction (printFraction nanos ++ 'Z' :: rest) = some (nanos, 'Z' :: rest) := by
  have hz : ∀ c ∈ ('Z' :: rest).head?, isDigit c = false := by
    intro c hc
    obtain rfl : 'Z' = c := by simpa using hc
    decide
  rw [printFraction]
  split
  · next h0 => rw [h0]; rfl
  split
  · rw [List.cons_append, readFraction_digits (by decide) (by omega) hz]
    congr 2
    omega
  split
  · rw [List.cons_append, readFraction_digits (by decide) (by omega) hz]
    congr 2
    omega
  · rw [List.cons_append, readFraction_digits (by decide) (by omega) hz]
    congr 2
    omega

end Fraction

theorem readNumber_two {n : Nat} (h : n < 100) (rest : List Char) :
    readNumber 2 (digits 2 n ++ rest) = some (n, rest) := by
  have hm : n % 10 ^ (1 + 1) = n := Nat.mod_eq_of_lt h
  rw [readNumber_digits 2 1 n (.inl rfl), hm]

theorem readDate_print {year : Int} (h : year.natAbs < 1000000) {month day : Nat} (hm : month < 100)
    (hd : day < 100) (rest : List Char) :
    readDate (printYear year ++ '-' :: (digits 2 month ++ '-' :: (digits 2 day ++ rest))) =
      some ((year, month, day), rest) := by
  simp only [readDate, readYear_printYear h, readSign_cons (show isBlank '-' = false by decide),
    readNumber_two hm, readNumber_two hd, Option.bind_eq_bind, Option.bind_some]

theorem readTime_print {hour minute second nanos : Nat} (hh : hour < 100) (hm : minute < 100)
    (hs : second < 100) (hn : nanos < 1000000000) (rest : List Char) :
    readTime (digits 2 hour ++ ':' :: (digits 2 minute ++ ':' :: (digits 2 second ++
        (printFraction nanos ++ 'Z' :: rest)))) =
      some ((hour, minute, second, nanos), 'Z' :: rest) := by
  simp only [readTime, readSign_cons (show isBlank ':' = false by decide), readNumber_two hh,
    readNumber_two hm, readNumber_two hs, readFraction_printFraction hn, Option.bind_eq_bind,
    Option.bind_some]

def IsPlaced (t : Instant) : Prop :=
  1000000000 ≤ t.nanos → t.seconds % 60 = 59

instance (t : Instant) : Decidable t.IsPlaced :=
  inferInstanceAs (Decidable (_ → _))

/-- What an instant is written as stands for: a leap second within a minute looks like the second
behind it. -/
def settled (t : Instant) : Instant :=
  if h : t.IsPlaced then t
  else
    have hle := t.first_le
    have hlast := t.le_last
    have hnanos := t.nanos_lt
    ⟨t.seconds + 1, t.nanos - 1000000000, by omega, by
      simp only [IsPlaced, lastSecond] at h hlast ⊢
      omega, by omega⟩

theorem settled_of_isPlaced {t : Instant} (h : t.IsPlaced) : t.settled = t :=
  dif_pos h

theorem settled_of_not_isPlaced {t : Instant} (h : ¬ t.IsPlaced) :
    t.settled.seconds = t.seconds + 1 ∧ t.settled.nanos = t.nanos - 1000000000 := by
  rw [settled, dif_neg h]
  exact ⟨rfl, rfl⟩

theorem settled_eq_self_iff {t : Instant} : t.settled = t ↔ t.IsPlaced := by
  refine ⟨fun h => ?_, settled_of_isPlaced⟩
  by_contra hn
  have hs := (settled_of_not_isPlaced hn).1
  rw [h] at hs
  omega

theorem of_eq_some {t : Instant} {seconds : Int} {nanos : Nat} (hs : seconds = t.seconds)
    (hn : nanos = t.nanos) : of? seconds nanos = some t := by
  subst hs hn
  exact dif_pos ⟨t.first_le, t.le_last, t.nanos_lt⟩

theorem eq_of_of {t : Instant} {seconds : Int} {nanos : Nat} (h : of? seconds nanos = some t) :
    t.seconds = seconds ∧ t.nanos = nanos := by
  rw [of?] at h
  split at h
  · cases h
    exact ⟨rfl, rfl⟩
  · cases h

theorem print_eq (t : Instant) :
    ∃ (year : Int) (month day second leap : Nat),
      Calendar.dateOfDays (t.seconds / 86400) = (year, month, day) ∧
      t.print = printYear year ++ '-' :: (digits 2 month ++ '-' :: (digits 2 day ++
        'T' :: (digits 2 (second / 3600) ++ ':' :: (digits 2 (second / 60 % 60) ++ ':' ::
          (digits 2 (second % 60 + leap) ++
            (printFraction (t.nanos % 1000000000) ++ 'Z' :: [])))))) ∧
      (second : Int) = t.seconds % 86400 ∧
      (leap = 0 ∧ t.nanos < 1000000000 ∨ leap = 1 ∧ 1000000000 ≤ t.nanos) := by
  refine ⟨(Calendar.dateOfDays (t.seconds / 86400)).1,
    (Calendar.dateOfDays (t.seconds / 86400)).2.1, (Calendar.dateOfDays (t.seconds / 86400)).2.2,
    (t.seconds % 86400).toNat, if 1000000000 ≤ t.nanos then 1 else 0, rfl, ?_, ?_, ?_⟩
  · simp only [print, List.append_assoc, List.cons_append]
  · omega
  · split
    · next h => exact .inr ⟨rfl, h⟩
    · exact .inl ⟨rfl, by omega⟩

theorem of_parts {t : Instant} {second leap : Nat} {days : Int} (hd : days = t.seconds / 86400)
    (hs : (second : Int) = t.seconds % 86400)
    (hl : leap = 0 ∧ t.nanos < 1000000000 ∨ leap = 1 ∧ 1000000000 ≤ t.nanos) :
    of? (days * 86400 + ((second / 3600 * 3600 + second / 60 % 60 * 60 +
        (if second % 60 + leap = 60 then 59 else second % 60 + leap) : Nat) : Int) - 0)
      (if second % 60 + leap = 60 then t.nanos % 1000000000 + 1000000000
        else t.nanos % 1000000000) = some t.settled := by
  have hn := t.nanos_lt
  by_cases hp : t.IsPlaced
  · rw [settled_of_isPlaced hp]
    rw [IsPlaced] at hp
    apply of_eq_some <;> split <;> omega
  · obtain ⟨hseconds, hnanos⟩ := settled_of_not_isPlaced hp
    rw [IsPlaced] at hp
    apply of_eq_some <;> split <;> omega

theorem year_bounds (t : Instant) :
    firstYear ≤ (Calendar.dateOfDays (t.seconds / 86400)).1 ∧
      (Calendar.dateOfDays (t.seconds / 86400)).1 ≤ lastYear := by
  have hfirst := t.first_le
  have hlast := t.le_last
  rw [firstSecond] at hfirst
  rw [lastSecond] at hlast
  exact Calendar.year_bounds (by omega) (by omega)

theorem readText_print (t : Instant) : readText t.print = some t.settled := by
  obtain ⟨year, month, day, second, leap, hdate, hprint, hsecond, hleap⟩ := t.print_eq
  have hdays := Calendar.daysOfDate_dateOfDays (t.seconds / 86400)
  have hvalid := Calendar.isDate_dateOfDays (t.seconds / 86400)
  obtain ⟨hfirst, hlast⟩ := t.year_bounds
  rw [hdate] at hdays hvalid hfirst hlast
  obtain ⟨hm, hd⟩ := Calendar.lt_of_isDate hvalid
  have hyear : year.natAbs < 1000000 := by
    rw [firstYear] at hfirst
    rw [lastYear] at hlast
    omega
  have hoffset : readOffset (trimLeft ['Z']) = some (0, []) := by decide
  have hparts := of_parts hdays hsecond hleap
  have hfit : second / 3600 < 24 ∧ second / 60 % 60 < 60 ∧ second % 60 + leap ≤ 60 := by omega
  have hhour : second / 3600 < 100 := by omega
  have hminute : second / 60 % 60 < 100 := by omega
  have hend : second % 60 + leap < 100 := by omega
  have hnanos : t.nanos % 1000000000 < 1000000000 := by omega
  rw [hprint]
  simp only [readText, readDate_print hyear hm hd, readSeparator,
    readTime_print hhour hminute hend hnanos, hoffset, Option.bind_eq_bind, Option.bind_some,
    true_or, if_true, hfirst, hlast, hvalid, hfit, true_and, and_self]
  exact hparts

section Reading
variable {s rest : List Char}

theorem valueOf_lt (h : ∀ c ∈ s, isDigit c = true) : valueOf s < 10 ^ s.length := by
  induction s using List.reverseRecOn with
  | nil => decide
  | append_singleton s c ih =>
    obtain ⟨hs, hc⟩ := List.forall_mem_append.mp h
    have hdigit : isDigit c = true := hc c List.mem_cons_self
    have hle : c.toNat - 48 ≤ 9 := by
      simp only [isDigit, Bool.and_eq_true, decide_eq_true_eq] at hdigit
      have hnine : c.toNat ≤ '9'.toNat := hdigit.2
      have h57 : '9'.toNat = 57 := by decide
      omega
    have hlt := ih hs
    rw [valueOf_append_singleton, List.length_append, List.length_singleton, Nat.pow_succ]
    omega

theorem readFraction_lt {nanos : Nat} (h : readFraction s = some (nanos, rest)) :
    nanos < 1000000000 := by
  rw [readFraction.eq_def] at h
  split at h
  · next more =>
    simp only at h
    split at h
    · cases h
    · cases h
      have hlength : ((more.takeWhile isDigit ++ List.replicate 9 '0').take 9).length = 9 := by simp
      have hdigits : ∀ c ∈ (more.takeWhile isDigit ++ List.replicate 9 '0').take 9,
          isDigit c = true := by
        intro c hc
        rcases List.mem_append.mp (List.mem_of_mem_take hc) with hc | hc
        · exact List.all_eq_true.mp List.all_takeWhile c hc
        · rw [List.eq_of_mem_replicate hc]
          decide
      have hlt := valueOf_lt hdigits
      rwa [hlength] at hlt
  · cases h
    decide

theorem readOffset_mod {offset : Int} (h : readOffset s = some (offset, rest)) :
    offset % 60 = 0 := by
  rw [readOffset.eq_def] at h
  split at h
  · cases h
  split at h
  · cases h
    rfl
  split at h
  · cases h
    rfl
  split at h
  · simp only [Option.bind_eq_bind, Option.bind_eq_some_iff] at h
    obtain ⟨⟨hours, _⟩, -, ⟨minutes, _⟩, -, h⟩ := h
    split at h
    · have hoffset := congrArg Prod.fst (Option.some.inj h)
      simp only at hoffset
      split at hoffset <;> omega
    · cases h
  · cases h

/-- Only second 60 is a leap second, so what is read has none within a minute. -/
theorem isPlaced_of_readText {t : Instant} (h : readText s = some t) : t.IsPlaced := by
  simp only [readText, Option.bind_eq_bind, Option.bind_eq_some_iff] at h
  obtain ⟨⟨⟨year, month, day⟩, _⟩, -, _, -, ⟨⟨hour, minute, second, nanos⟩, _⟩, htime,
    ⟨offset, _⟩, hoffset, h⟩ := h
  have hnanos : nanos < 1000000000 := by
    simp only [readTime, Option.bind_eq_bind, Option.bind_eq_some_iff] at htime
    obtain ⟨_, -, _, -, _, -, _, -, _, -, ⟨read, _⟩, hread, htime⟩ := htime
    cases htime
    exact readFraction_lt hread
  have hmod := readOffset_mod hoffset
  dsimp only at h
  split at h
  · obtain ⟨hs, hn⟩ := eq_of_of h
    intro hleap
    by_cases hlast : second = 60
    · rw [if_pos hlast] at hs
      omega
    · rw [if_neg hlast] at hn
      omega
  · cases h

end Reading

end ChatRules.Instant
