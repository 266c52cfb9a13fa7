import ChatRules.Json.Printer
import ChatRules.Json.Reader
import Std.Data.String.ToInt
import Mathlib.Data.List.Basic

namespace ChatRules.Json

theorem hexValue_hexDigit : ∀ n < 16, hexValue? (hexDigit n) = some n := by
  decide

def pieceOf (c : Char) : Piece :=
  if c.toNat < 32 ∧ c ∉ ['\x08', '\x0c', '\n', '\r', '\t'] then .bits c.toNat else .char c

theorem hexUnit_low {n : Nat} (h : n < 32) :
    hexUnit? '0' '0' (hexDigit (n / 16)) (hexDigit (n % 16)) = some n := by
  have hz : hexValue? '0' = some 0 := by decide
  have hd := hexValue_hexDigit (n / 16) (by omega)
  have hm := hexValue_hexDigit (n % 16) (by omega)
  simp only [hexUnit?, hz, hd, hm, Option.bind_eq_bind, Option.bind_some]
  congr 1
  omega

theorem readPieces_plain {c : Char} (hq : c ≠ '"') (hb : c ≠ '\\') (hc : ¬ c.toNat < 32)
    (s : List Char) :
    readPieces (c :: s) = (readPieces s).map fun p => (.char c :: p.1, p.2) := by
  rw [readPieces]
  · simp only [hc, hb, or_self, if_false]
    cases readPieces s <;> rfl
  all_goals simp_all

theorem readPieces_named {e c : Char} (he : escaped? e = some c) (hu : e ≠ 'u') (s : List Char) :
    readPieces ('\\' :: e :: s) = (readPieces s).map fun p => (.char c :: p.1, p.2) := by
  rw [readPieces]
  · simp only [he, Option.bind_eq_bind, Option.bind_some]
    cases readPieces s <;> rfl
  · simp_all

theorem escape_cases (c : Char) :
    (∃ e ∈ "\"\\bfnrt".toList,
      escaped? e = some c ∧ escape c = ['\\', e] ∧ pieceOf c = .char c) ∨
    (c.toNat < 32 ∧ pieceOf c = .bits c.toNat ∧
      escape c =
        ['\\', 'u', '0', '0', hexDigit (c.toNat / 16), hexDigit (c.toNat % 16)]) ∨
    (c ≠ '"' ∧ c ≠ '\\' ∧ ¬ c.toNat < 32 ∧ escape c = [c] ∧ pieceOf c = .char c) := by
  by_cases hn : c ∈ ['"', '\\', '\x08', '\x0c', '\n', '\r', '\t']
  · left
    simp only [List.mem_cons, List.not_mem_nil, or_false] at hn
    rcases hn with rfl | rfl | rfl | rfl | rfl | rfl | rfl
    · exact ⟨'"', by decide⟩
    · exact ⟨'\\', by decide⟩
    · exact ⟨'b', by decide⟩
    · exact ⟨'f', by decide⟩
    · exact ⟨'n', by decide⟩
    · exact ⟨'r', by decide⟩
    · exact ⟨'t', by decide⟩
  · simp only [List.mem_cons, List.not_mem_nil, or_false, not_or] at hn
    by_cases hc : c.toNat < 32
    · exact .inr (.inl ⟨hc, by simp [pieceOf, hc, hn], by simp [escape, hc, hn]⟩)
    · exact .inr (.inr ⟨hn.1, hn.2.1, hc, by simp [escape, hc, hn], by simp [pieceOf, hc]⟩)

theorem readPieces_escape (c : Char) (s : List Char) :
    readPieces (escape c ++ s) = (readPieces s).map fun p => (pieceOf c :: p.1, p.2) := by
  obtain ⟨e, he, hc, hs, hp⟩ | ⟨hc, hp, hs⟩ | ⟨hq, hb, hc, hs, hp⟩ := escape_cases c
  · have hu : e ≠ 'u' := by
      rintro rfl
      exact absurd he (by decide)
    rw [hs, hp]
    exact readPieces_named hc hu s
  · rw [hs, hp]
    simp only [List.cons_append, List.nil_append, readPieces, hexUnit_low hc,
      Option.bind_eq_bind, Option.bind_some]
    cases readPieces s <;> rfl
  · rw [hs, hp]
    exact readPieces_plain hq hb hc s

theorem readPieces_flatMap_escape (s rest : List Char) :
    readPieces (s.flatMap escape ++ '"' :: rest) = some (s.map pieceOf, rest) := by
  induction s with
  | nil => rw [List.flatMap_nil, List.nil_append, readPieces]; rfl
  | cons c s ih =>
    rw [List.flatMap_cons, List.append_assoc, readPieces_escape, ih]
    rfl

theorem spell_char (c : Char) (rest : List Piece) :
    spell (.char c :: rest) = (spell rest).map (c :: ·) := by
  rw [spell]

theorem spell_low {n : Nat} (h : n < 32) (rest : List Piece) :
    spell (.bits n :: rest) = (spell rest).map (Char.ofNat n :: ·) := by
  have hh : isHigh n = false := by simp only [isHigh]; grind
  have hl : isLow n = false := by simp only [isLow]; grind
  rw [spell.eq_def]
  simp [hh, hl]

theorem spell_map_pieceOf (s : List Char) : spell (s.map pieceOf) = some s := by
  induction s with
  | nil => rfl
  | cons c s ih =>
    rw [List.map_cons, pieceOf]
    split_ifs with hc
    · rw [spell_low hc.1, ih, Option.map_some, Char.ofNat_toNat]
    · rw [spell_char, ih, Option.map_some]

theorem readLiteral_quoted (s : String) (rest : List Char) :
    readLiteral (s.toList.flatMap escape ++ '"' :: rest) = some (some s, rest) := by
  simp only [readLiteral, readPieces_flatMap_escape, Option.bind_eq_bind, Option.bind_some,
    spell_map_pieceOf, Option.map_some, String.ofList_toList]

theorem isDigit_eq (c : Char) : isDigit c = c.isDigit := by
  simp only [isDigit, Char.isDigit, Char.le_def]

def Closes (rest : List Char) : Prop :=
  ∀ c ∈ rest.head?, isDigit c = false ∧ c ≠ '.' ∧ c ≠ 'e' ∧ c ≠ 'E'

theorem isDigit_of_mem_toDigits {n : Nat} {c : Char} (h : c ∈ Nat.toDigits 10 n) :
    isDigit c = true := by
  rw [isDigit_eq]
  exact Nat.isDigit_of_mem_toDigits (by decide) (by decide) h

theorem head_toDigits_ne_zero {n : Nat} (h : 0 < n) : (Nat.toDigits 10 n).head? ≠ some '0' := by
  induction n using Nat.strongRecOn with
  | ind n ih =>
    by_cases hn : n < 10
    · rw [Nat.toDigits_of_lt_base hn]
      simp only [List.head?_cons, ne_eq, Option.some.injEq, Nat.digitChar_eq_zero]
      omega
    · rw [Nat.toDigits_of_base_le (by decide) (by omega),
        List.head?_append_of_ne_nil _ Nat.toDigits_ne_nil]
      exact ih (n / 10) (by omega) (by omega)

theorem Closes.takeWhile {rest : List Char} (h : Closes rest) : rest.takeWhile isDigit = [] := by
  cases rest with
  | nil => rfl
  | cons c rest => rw [List.takeWhile_cons_of_neg]; simp [(h c rfl).1]

theorem Closes.dropWhile {rest : List Char} (h : Closes rest) :
    rest.dropWhile isDigit = rest := by
  cases rest with
  | nil => rfl
  | cons c rest => rw [List.dropWhile_cons_of_neg]; simp [(h c rfl).1]

theorem takeDigits_append {s rest : List Char} (hne : s ≠ []) (hd : ∀ c ∈ s, isDigit c = true)
    (h : Closes rest) : takeDigits (s ++ rest) = some (s, rest) := by
  simp only [takeDigits, List.takeWhile_append_of_pos hd, List.dropWhile_append_of_pos hd,
    h.takeWhile, h.dropWhile, List.append_nil, if_neg hne]

theorem readWhole_toDigits (n : Nat) {rest : List Char} (h : Closes rest) :
    readWhole (Nat.toDigits 10 n ++ rest) = some (Nat.toDigits 10 n, rest) := by
  rcases Nat.eq_zero_or_pos n with rfl | hn
  · rw [Nat.toDigits_zero]; rfl
  · have ht := takeDigits_append Nat.toDigits_ne_nil (fun c hc => isDigit_of_mem_toDigits hc) h
      (s := Nat.toDigits 10 n)
    have hz := head_toDigits_ne_zero hn
    cases hds : Nat.toDigits 10 n with
    | nil => exact absurd hds Nat.toDigits_ne_nil
    | cons d ds =>
      rw [hds] at ht hz
      rw [List.cons_append, readWhole]
      · exact ht
      · simp_all

theorem readFraction_of_closes {rest : List Char} (h : Closes rest) :
    readFraction rest = some ([], rest) := by
  cases rest with
  | nil => rfl
  | cons c rest =>
    rw [readFraction]
    have := (h c rfl).2.1
    simp_all

theorem readExponent_of_closes {rest : List Char} (h : Closes rest) :
    readExponent rest = some ([], rest) := by
  cases rest with
  | nil => rfl
  | cons c rest => simp [readExponent, (h c rfl).2.2]

theorem readMagnitude_toDigits (n : Nat) {rest : List Char} (h : Closes rest) :
    readMagnitude (Nat.toDigits 10 n ++ rest) = some (Nat.toDigits 10 n, rest) := by
  have hd : (rest.head?.map isDigit).getD false = false := by
    cases rest with
    | nil => rfl
    | cons c rest => exact (h c rfl).1
  simp [readMagnitude, readWhole_toDigits n h, hd, readFraction_of_closes h,
    readExponent_of_closes h]

theorem head_toDigits_ne_minus (n : Nat) : (Nat.toDigits 10 n).head? ≠ some '-' := by
  intro h
  have hm := isDigit_of_mem_toDigits (List.mem_of_mem_head? h)
  exact absurd hm (by decide)

theorem readNumber_repr (n : Nat) {rest : List Char} (h : Closes rest) :
    readNumber (n.repr.toList ++ rest) = some (.number n.repr, rest) := by
  have hm := head_toDigits_ne_minus n
  have hr := readMagnitude_toDigits n h
  rw [Nat.toList_repr, Nat.repr_eq_ofList_toDigits]
  cases hds : Nat.toDigits 10 n with
  | nil => exact absurd hds Nat.toDigits_ne_nil
  | cons d ds =>
    rw [hds] at hm hr
    rw [List.cons_append, readNumber]
    · rw [← List.cons_append, hr]; rfl
    · simp_all

theorem toList_toString_ofNat (n : Nat) :
    (toString (Int.ofNat n)).toList = Nat.toDigits 10 n :=
  Nat.toList_repr

theorem toList_toString_negSucc (n : Nat) :
    (toString (Int.negSucc n)).toList = '-' :: Nat.toDigits 10 (n + 1) := by
  have hs : toString (Int.negSucc n) = "-" ++ (n + 1).repr := rfl
  rw [hs, String.toList_append, Nat.toList_repr]
  rfl

theorem readNumber_toString (n : Int) {rest : List Char} (h : Closes rest) :
    readNumber ((toString n).toList ++ rest) = some (.number (toString n), rest) := by
  cases n with
  | ofNat n => exact readNumber_repr n h
  | negSucc n =>
    have hl := toList_toString_negSucc n
    have ht : String.ofList ('-' :: Nat.toDigits 10 (n + 1)) = toString (Int.negSucc n) := by
      rw [← hl, String.ofList_toList]
    rw [hl, List.cons_append, readNumber, readMagnitude_toDigits _ h]
    simp only [Option.bind_eq_bind, Option.bind_some, ht]

mutual

def Spelled : Json → Prop
  | .number digits => ∃ n : Int, digits = toString n
  | .string s => s.isSome
  | .array items => SpelledItems items
  | .object fields => SpelledFields fields
  | _ => True

def SpelledItems : List Json → Prop
  | [] => True
  | v :: rest => v.Spelled ∧ SpelledItems rest

def SpelledFields : List (Literal × Json) → Prop
  | [] => True
  | (name, v) :: rest => name.isSome ∧ v.Spelled ∧ SpelledFields rest

end

mutual

def weight : Json → Nat
  | .array items => weightItems items + 1
  | .object fields => weightFields fields + 1
  | _ => 1

def weightItems : List Json → Nat
  | [] => 0
  | v :: rest => max v.weight (weightItems rest) + 1

def weightFields : List (Literal × Json) → Nat
  | [] => 0
  | (_, v) :: rest => max v.weight (weightFields rest) + 1

end

theorem closes_cons {c : Char} (h : isDigit c = false ∧ c ≠ '.' ∧ c ≠ 'e' ∧ c ≠ 'E')
    (rest : List Char) : Closes (c :: rest) := by
  intro d hd
  obtain rfl : c = d := by simpa using hd
  exact h

theorem closes_nil : Closes [] := by
  intro c hc
  simp at hc

theorem skipSpace_of_head {c : Char} (h : isSpace c = false) (s : List Char) :
    skipSpace (c :: s) = c :: s := by
  simp [skipSpace, h]

theorem readValue_quote (fuel : Nat) (s : String) (rest : List Char) :
    readValue (fuel + 1) (quote s.toList ++ rest) = some (.string (some s), rest) := by
  rw [quote, List.cons_append, List.append_assoc, readValue,
    skipSpace_of_head (by decide)]
  simp only [List.singleton_append, readLiteral_quoted, Option.map_some]

theorem ne_of_isDigit {c d : Char} (hc : isDigit c = true) (hd : isDigit d = false) : c ≠ d := by
  rintro rfl
  simp [hc] at hd

theorem isSpace_of_isDigit {c : Char} (hc : isDigit c = true) : isSpace c = false := by
  have h1 : c ≠ ' ' := ne_of_isDigit hc (by decide)
  have h2 : c ≠ '\n' := ne_of_isDigit hc (by decide)
  have h3 : c ≠ '\t' := ne_of_isDigit hc (by decide)
  have h4 : c ≠ '\r' := ne_of_isDigit hc (by decide)
  simp [isSpace, h1, h2, h3, h4]

def isNumeric (c : Char) : Bool :=
  isDigit c || c = '-'

theorem isNumeric_of_mem_toString {n : Int} {c : Char} (h : c ∈ (toString n).toList) :
    isNumeric c = true := by
  have hd : ∀ {m : Nat}, c ∈ Nat.toDigits 10 m → isNumeric c = true := fun hm => by
    simp [isNumeric, isDigit_of_mem_toDigits hm]
  cases n with
  | ofNat n => exact hd (toList_toString_ofNat n ▸ h)
  | negSucc n =>
    rw [toList_toString_negSucc, List.mem_cons] at h
    rcases h with rfl | h
    · rfl
    · exact hd h

theorem head_toString (n : Int) :
    ∃ c s, (toString n).toList = c :: s ∧ isNumeric c = true := by
  cases hs : (toString n).toList with
  | nil =>
    have hr := readNumber_toString n closes_nil
    rw [hs] at hr
    cases hr
  | cons c s => exact ⟨c, s, rfl, isNumeric_of_mem_toString (hs ▸ List.mem_cons_self)⟩

theorem isSpace_of_isNumeric {c : Char} (h : isNumeric c = true) : isSpace c = false := by
  simp only [isNumeric, Bool.or_eq_true, decide_eq_true_eq] at h
  rcases h with h | rfl
  · exact isSpace_of_isDigit h
  · decide

theorem readValue_numeric {c : Char} (h : isNumeric c = true) (fuel : Nat) (s : List Char) :
    readValue (fuel + 1) (c :: s) = readNumber (c :: s) := by
  rw [readValue, skipSpace_of_head (isSpace_of_isNumeric h)]
  split
  all_goals first | rfl | simp_all [isNumeric, isDigit]

def Opens (s : List Char) : Prop :=
  ∃ c t, s = c :: t ∧ isSpace c = false ∧ c ≠ ']'

theorem opens_cons {c : Char} (h : isSpace c = false ∧ c ≠ ']') (s : List Char) :
    Opens (c :: s) :=
  ⟨c, s, rfl, h⟩

theorem opens_print {v : Json} (h : v.Spelled) (rest : List Char) : Opens (v.print ++ rest) := by
  cases v with
  | null => exact opens_cons (by decide) _
  | bool b => cases b <;> exact opens_cons (by decide) _
  | number digits =>
    obtain ⟨n, rfl⟩ := h
    obtain ⟨c, s, hs, hc⟩ := head_toString n
    rw [print, hs]
    refine opens_cons ⟨isSpace_of_isNumeric hc, ?_⟩ _
    rintro rfl
    exact absurd hc (by decide)
  | string s => rw [print]; exact opens_cons (by decide) _
  | array items => rw [print]; exact opens_cons (by decide) _
  | object fields => rw [print]; exact opens_cons (by decide) _

theorem Opens.skipSpace {s : List Char} (h : Opens s) : Json.skipSpace s = s := by
  obtain ⟨c, t, rfl, hc, -⟩ := h
  exact skipSpace_of_head hc t

theorem readValue_items {fuel : Nat} {s left : List Char} {items : List Json} (ho : Opens s)
    (h : readItems fuel s = some (items, left)) :
    readValue (fuel + 1) ('[' :: s) = some (.array items, left) := by
  have hs := ho.skipSpace
  obtain ⟨c, t, rfl, -, hc⟩ := ho
  rw [readValue, skipSpace_of_head (by decide)]
  simp only [hs]
  split
  · simp_all
  · simp_all

theorem readItems_last {fuel : Nat} {s left : List Char} {v : Json}
    (h : readValue fuel s = some (v, ']' :: left)) :
    readItems (fuel + 1) s = some ([v], left) := by
  rw [readItems, h]
  simp only [Option.bind_eq_bind, Option.bind_some, skipSpace_of_head (c := ']') (by decide)]

theorem readItems_more {fuel : Nat} {s more left : List Char} {v : Json} {items : List Json}
    (h : readValue fuel s = some (v, ',' :: more)) (hm : readItems fuel more = some (items, left)) :
    readItems (fuel + 1) s = some (v :: items, left) := by
  rw [readItems, h]
  simp only [Option.bind_eq_bind, Option.bind_some, skipSpace_of_head (c := ',') (by decide), hm]

theorem readValue_fields {fuel : Nat} {s left : List Char} {fields : List (Literal × Json)}
    (h : readFields fuel ('"' :: s) = some (fields, left)) :
    readValue (fuel + 1) ('\x7b' :: '"' :: s) = some (.object fields, left) := by
  rw [readValue, skipSpace_of_head (by decide)]
  simp only [skipSpace_of_head (c := '"') (by decide)]
  split
  · simp_all
  · simp_all

theorem readFields_last {fuel : Nat} {s left : List Char} {v : Json} (name : String)
    (h : readValue fuel s = some (v, '\x7d' :: left)) :
    readFields (fuel + 1) (quote name.toList ++ ':' :: s) = some ([(some name, v)], left) := by
  rw [quote, List.cons_append, List.append_assoc, readFields, skipSpace_of_head (by decide)]
  simp only [List.singleton_append, readLiteral_quoted, Option.bind_eq_bind, Option.bind_some,
    skipSpace_of_head (c := ':') (by decide), h, skipSpace_of_head (c := '\x7d') (by decide)]

theorem readFields_more {fuel : Nat} {s more left : List Char} {v : Json}
    {fields : List (Literal × Json)} (name : String)
    (h : readValue fuel s = some (v, ',' :: more))
    (hm : readFields fuel more = some (fields, left)) :
    readFields (fuel + 1) (quote name.toList ++ ':' :: s) =
      some ((some name, v) :: fields, left) := by
  rw [quote, List.cons_append, List.append_assoc, readFields, skipSpace_of_head (by decide)]
  simp only [List.singleton_append, readLiteral_quoted, Option.bind_eq_bind, Option.bind_some,
    skipSpace_of_head (c := ':') (by decide), h, skipSpace_of_head (c := ',') (by decide), hm]

theorem closes_of_separator {c : Char} (h : c ∈ [',', ']', '\x7d']) (rest : List Char) :
    Closes (c :: rest) := by
  simp only [List.mem_cons, List.not_mem_nil, or_false] at h
  rcases h with rfl | rfl | rfl <;> exact closes_cons (by decide) rest

theorem weight_pos (v : Json) : 0 < v.weight := by
  cases v <;> simp [weight]

theorem printItems_more (v w : Json) (items : List Json) :
    printItems (v :: w :: items) = v.print ++ ',' :: printItems (w :: items) := by
  rw [printItems]
  simp

theorem printFields_more (name : Literal) (v : Json) (f : Literal × Json)
    (fields : List (Literal × Json)) :
    printFields ((name, v) :: f :: fields) =
      quote (name.getD "").toList ++ ':' :: v.print ++ ',' :: printFields (f :: fields) := by
  rw [printFields]
  simp

theorem printItems_cons (v : Json) (items : List Json) :
    ∃ t, printItems (v :: items) = v.print ++ t := by
  cases items with
  | nil => exact ⟨[']'], by rw [printItems]⟩
  | cons w items => exact ⟨_, printItems_more v w items⟩

theorem printFields_cons (name : String) (v : Json) (fields : List (Literal × Json)) :
    ∃ t, printFields ((some name, v) :: fields) = '"' :: t := by
  cases fields with
  | nil => exact ⟨_, by rw [printFields, quote]; rfl⟩
  | cons f fields => exact ⟨_, by rw [printFields_more, quote]; rfl⟩

mutual

theorem readValue_print : ∀ (v : Json) (fuel : Nat) (rest : List Char),
    v.Spelled → v.weight ≤ fuel → Closes rest → readValue fuel (v.print ++ rest) = some (v, rest)
  | v, 0, _, _, hw, _ => absurd (weight_pos v) (Nat.not_lt.mpr hw)
  | .null, _ + 1, _, _, _, _ => by
    rw [print, readValue]; rfl
  | .bool true, _ + 1, _, _, _, _ => by
    rw [print, readValue]; rfl
  | .bool false, _ + 1, _, _, _, _ => by
    rw [print, readValue]; rfl
  | .number digits, fuel + 1, rest, hs, _, hc => by
    obtain ⟨n, rfl⟩ := hs
    obtain ⟨c, s, hl, hn⟩ := head_toString n
    have hr := readNumber_toString n hc
    rw [print, hl] at *
    rw [List.cons_append, readValue_numeric hn]
    exact hr
  | .string (some s), fuel + 1, rest, _, _, _ => by
    rw [print]
    exact readValue_quote fuel s rest
  | .array [], fuel + 1, rest, _, _, _ => by
    rw [print, printItems, List.cons_append, readValue]; rfl
  | .array (v :: items), fuel + 1, rest, hs, hw, _ => by
    have hi := readItems_print v items fuel rest hs
      (Nat.le_of_succ_le_succ hw)
    obtain ⟨t, ht⟩ := printItems_cons v items
    rw [print, List.cons_append]
    refine readValue_items ?_ hi
    rw [ht, List.append_assoc]
    exact opens_print hs.1 _
  | .object [], fuel + 1, rest, _, _, _ => by
    rw [print, printFields, List.cons_append, readValue]; rfl
  | .object ((some name, v) :: fields), fuel + 1, rest, hs, hw, _ => by
    have hi := readFields_print name v fields fuel rest hs
      (Nat.le_of_succ_le_succ hw)
    obtain ⟨t, ht⟩ := printFields_cons name v fields
    rw [ht, List.cons_append] at hi
    rw [print, ht, List.cons_append, List.cons_append]
    exact readValue_fields hi

theorem readItems_print : ∀ (v : Json) (items : List Json) (fuel : Nat) (rest : List Char),
    SpelledItems (v :: items) → weightItems (v :: items) ≤ fuel →
      readItems fuel (printItems (v :: items) ++ rest) = some (v :: items, rest)
  | _, _, 0, _, _, hw => by simp [weightItems] at hw
  | v, [], fuel + 1, rest, hs, hw => by
    have hv := readValue_print v fuel (']' :: rest) hs.1
      (by simp [weightItems] at hw; omega) (closes_of_separator (by simp) _)
    rw [printItems, List.append_assoc]
    exact readItems_last hv
  | v, w :: items, fuel + 1, rest, hs, hw => by
    have hv := readValue_print v fuel (',' :: (printItems (w :: items) ++ rest))
      hs.1 (by simp only [weightItems] at hw; omega) (closes_of_separator (by simp) _)
    have hi := readItems_print w items fuel rest hs.2
      (by simp only [weightItems] at hw ⊢; omega)
    rw [printItems_more, List.append_assoc]
    exact readItems_more hv hi

theorem readFields_print : ∀ (name : String) (v : Json) (fields : List (Literal × Json))
    (fuel : Nat) (rest : List Char),
    SpelledFields ((some name, v) :: fields) → weightFields ((some name, v) :: fields) ≤ fuel →
      readFields fuel (printFields ((some name, v) :: fields) ++ rest) =
        some ((some name, v) :: fields, rest)
  | _, _, _, 0, _, _, hw => by simp [weightFields] at hw
  | name, v, [], fuel + 1, rest, hs, hw => by
    have hv := readValue_print v fuel ('\x7d' :: rest) hs.2.1
      (by simp [weightFields] at hw; omega) (closes_of_separator (by simp) _)
    rw [printFields, List.append_assoc, List.cons_append, List.append_assoc]
    exact readFields_last name hv
  | name, v, (some next, w) :: fields, fuel + 1, rest, hs, hw => by
    have hv := readValue_print v fuel
      (',' :: (printFields ((some next, w) :: fields) ++ rest))
      hs.2.1 (by simp only [weightFields] at hw; omega) (closes_of_separator (by simp) _)
    have hi := readFields_print next w fields fuel rest hs.2.2
      (by simp only [weightFields] at hw ⊢; omega)
    rw [printFields_more, List.append_assoc, List.append_assoc]
    exact readFields_more name hv hi

end

mutual

theorem weight_le_length : ∀ v : Json, v.Spelled → v.weight ≤ v.print.length
  | .null, _ => by rw [print]; simp [weight]
  | .bool true, _ => by rw [print]; simp [weight]
  | .bool false, _ => by rw [print]; simp [weight]
  | .number digits, h => by
    obtain ⟨n, rfl⟩ := h
    obtain ⟨c, s, hl, -⟩ := head_toString n
    rw [print, hl]
    simp [weight]
  | .string s, _ => by rw [print]; simp [weight, quote]
  | .array items, h => by
    have hi := weightItems_le_length items h
    rw [print]
    simpa [weight] using hi
  | .object fields, h => by
    have hf := weightFields_le_length fields h
    rw [print]
    simpa [weight] using hf

theorem weightItems_le_length : ∀ items : List Json, SpelledItems items →
    weightItems items ≤ (printItems items).length
  | [], _ => by rw [printItems]; simp [weightItems]
  | [v], h => by
    have hv := weight_le_length v h.1
    rw [printItems]
    simp only [weightItems, List.length_append, List.length_cons, List.length_nil]
    omega
  | v :: w :: items, h => by
    have hv := weight_le_length v h.1
    have hi := weightItems_le_length (w :: items) h.2
    rw [printItems_more, weightItems]
    simp only [List.length_append, List.length_cons]
    omega

theorem weightFields_le_length : ∀ fields : List (Literal × Json), SpelledFields fields →
    weightFields fields ≤ (printFields fields).length
  | [], _ => by rw [printFields]; simp [weightFields]
  | [(name, v)], h => by
    have hv := weight_le_length v h.2.1
    rw [printFields]
    simp only [weightFields, List.length_append, List.length_cons, List.length_nil]
    omega
  | (name, v) :: f :: fields, h => by
    have hv := weight_le_length v h.2.1
    have hi := weightFields_le_length (f :: fields) h.2.2
    rw [printFields_more, weightFields]
    simp only [List.length_append, List.length_cons]
    omega

end

theorem read_print {v : Json} (h : v.Spelled) : read? v.print = some v := by
  have hw := weight_le_length v h
  have hv := readValue_print v (2 * v.print.length + 2) [] h (by omega) closes_nil
  rw [List.append_nil] at hv
  rw [read?, hv]
  rfl

theorem read_printed {v : Json} (h : v.Spelled) : read? v.printed.toList = some v := by
  rw [printed, String.toList_ofList]
  exact read_print h

end ChatRules.Json
