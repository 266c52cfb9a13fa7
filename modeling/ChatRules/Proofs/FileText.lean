import ChatRules.Proofs.RowForm

namespace ChatRules

namespace Json

theorem toNat_hexDigit : ∀ n < 16, 32 ≤ (hexDigit n).toNat := by
  decide

theorem toNat_of_all {word : List Char} (h : word.all (fun c => 32 ≤ c.toNat) = true) {c : Char}
    (hc : c ∈ word) : 32 ≤ c.toNat :=
  of_decide_eq_true (List.all_eq_true.mp h c hc)

theorem toNat_of_mem_escape {c d : Char} (h : d ∈ escape c) : 32 ≤ d.toNat := by
  obtain ⟨e, he, -, hs, -⟩ | ⟨hc, -, hs⟩ | ⟨-, -, hc, hs, -⟩ := escape_cases c
  · have hn := toNat_of_all (by decide) he
    rw [hs, List.mem_cons, List.mem_singleton] at h
    rcases h with rfl | rfl
    · decide
    · exact hn
  · have hu := toNat_hexDigit (c.toNat / 16) (by omega)
    have hl := toNat_hexDigit (c.toNat % 16) (by omega)
    simp only [hs, List.mem_cons, List.not_mem_nil, or_false] at h
    rcases h with rfl | rfl | rfl | rfl | rfl | rfl
    all_goals first | decide | assumption
  · rw [hs, List.mem_singleton] at h
    rw [h]
    omega

theorem toNat_of_mem_quote {s : List Char} {d : Char} (h : d ∈ quote s) : 32 ≤ d.toNat := by
  simp only [quote, List.mem_cons, List.mem_append, List.mem_flatMap, List.not_mem_nil,
    or_false] at h
  rcases h with rfl | ⟨c, -, h⟩ | rfl
  · decide
  · exact toNat_of_mem_escape h
  · decide

theorem toNat_of_mem_toString {n : Int} {c : Char} (h : c ∈ (toString n).toList) :
    32 ≤ c.toNat := by
  have hn := isNumeric_of_mem_toString h
  simp only [isNumeric, isDigit, Bool.or_eq_true, Bool.and_eq_true, decide_eq_true_eq,
    Char.le_def, UInt32.le_iff_toNat_le] at hn
  rcases hn with hn | rfl
  · change 48 ≤ c.toNat ∧ c.toNat ≤ 57 at hn
    omega
  · decide

mutual

theorem toNat_of_mem_print : ∀ (v : Json), v.Spelled → ∀ c ∈ v.print, 32 ≤ c.toNat
  | .null, _, c, hc => by
    rw [print] at hc
    exact toNat_of_all (by decide) hc
  | .bool true, _, c, hc => by
    rw [print] at hc
    exact toNat_of_all (by decide) hc
  | .bool false, _, c, hc => by
    rw [print] at hc
    exact toNat_of_all (by decide) hc
  | .number digits, hs, c, hc => by
    obtain ⟨n, rfl⟩ := hs
    rw [print] at hc
    exact toNat_of_mem_toString hc
  | .string s, _, c, hc => by
    rw [print] at hc
    exact toNat_of_mem_quote hc
  | .array items, hs, c, hc => by
    rw [print, List.mem_cons] at hc
    rcases hc with rfl | hc
    · decide
    · exact toNat_of_mem_printItems items hs c hc
  | .object fields, hs, c, hc => by
    rw [print, List.mem_cons] at hc
    rcases hc with rfl | hc
    · decide
    · exact toNat_of_mem_printFields fields hs c hc

theorem toNat_of_mem_printItems : ∀ (items : List Json), SpelledItems items →
    ∀ c ∈ printItems items, 32 ≤ c.toNat
  | [], _, c, hc => by
    rw [printItems] at hc
    obtain rfl := List.mem_singleton.mp hc
    decide
  | [v], hs, c, hc => by
    rw [printItems, List.mem_append] at hc
    rcases hc with hc | hc
    · exact toNat_of_mem_print v hs.1 c hc
    · obtain rfl := List.mem_singleton.mp hc
      decide
  | v :: w :: items, hs, c, hc => by
    rw [printItems_more, List.mem_append, List.mem_cons] at hc
    rcases hc with hc | rfl | hc
    · exact toNat_of_mem_print v hs.1 c hc
    · decide
    · exact toNat_of_mem_printItems (w :: items) hs.2 c hc

theorem toNat_of_mem_printFields : ∀ (fields : List (Literal × Json)), SpelledFields fields →
    ∀ c ∈ printFields fields, 32 ≤ c.toNat
  | [], _, c, hc => by
    rw [printFields] at hc
    obtain rfl := List.mem_singleton.mp hc
    decide
  | [(name, v)], hs, c, hc => by
    rw [printFields, List.mem_append, List.mem_append, List.mem_cons] at hc
    rcases hc with (hc | rfl | hc) | hc
    · exact toNat_of_mem_quote hc
    · decide
    · exact toNat_of_mem_print v hs.2.1 c hc
    · obtain rfl := List.mem_singleton.mp hc
      decide
  | (name, v) :: f :: fields, hs, c, hc => by
    rw [printFields_more, List.mem_append, List.mem_append, List.mem_cons,
      List.mem_cons] at hc
    rcases hc with (hc | rfl | hc) | rfl | hc
    · exact toNat_of_mem_quote hc
    · decide
    · exact toNat_of_mem_print v hs.2.1 c hc
    · decide
    · exact toNat_of_mem_printFields (f :: fields) hs.2.2 c hc

end

end Json

namespace Row

theorem spelled_toJson (r : Row) : r.toJson.Spelled := by
  refine Json.spelled_array fun v hv => ?_
  simp only [List.mem_cons, List.not_mem_nil, or_false] at hv
  rcases hv with rfl | rfl | rfl | rfl | rfl | rfl | rfl
  · exact Json.spelled_str _
  · cases r.name <;> trivial
  · exact Json.spelled_str _
  · exact ⟨r.createdAt, rfl⟩
  · trivial
  · exact Json.spelled_str _
  · exact Json.spelled_str _

theorem int_toString (n : Int) : int? (.number (toString n)) = some n :=
  Int.toInt?_repr n

theorem ofJson_toJson (r : Row) : ofJson? r.toJson = some r := by
  have hn : Json.optional Json.string? (some ((r.name.map Json.str).getD .null)) =
      some r.name := by
    cases r.name <;> rfl
  simp only [toJson, ofJson?, Json.string_str, hn, int_toString, Json.bool?,
    Option.bind_eq_bind, Option.bind_some]

end Row

namespace Table

theorem splitLines_of_not_mem {line : List Char} (h : '\n' ∉ line) : splitLines line = [line] := by
  induction line with
  | nil => rfl
  | cons c line ih =>
    rw [List.mem_cons, not_or] at h
    rw [splitLines, if_neg (Ne.symm h.1), ih h.2]

theorem splitLines_append {line : List Char} (h : '\n' ∉ line) (s : List Char) :
    splitLines (line ++ '\n' :: s) = line :: splitLines s := by
  induction line with
  | nil => rw [List.nil_append, splitLines, if_pos rfl]
  | cons c line ih =>
    rw [List.mem_cons, not_or] at h
    rw [List.cons_append, splitLines, if_neg (Ne.symm h.1), ih h.2]

theorem splitLines_lines {line : List Char} {lines : List (List Char)} (h : '\n' ∉ line)
    (hl : ∀ l ∈ lines, '\n' ∉ l) :
    splitLines (line ++ lines.flatMap fun l => '\n' :: l) = line :: lines := by
  induction lines generalizing line with
  | nil => rw [List.flatMap_nil, List.append_nil, splitLines_of_not_mem h]
  | cons next lines ih =>
    rw [List.flatMap_cons, List.cons_append, splitLines_append h,
      ih (hl next List.mem_cons_self) fun l hm => hl l (List.mem_cons_of_mem _ hm)]

theorem newline_not_mem_print {v : Json} (h : v.Spelled) : '\n' ∉ v.print := by
  intro hm
  exact absurd (Json.toNat_of_mem_print v h '\n' hm) (by decide)

theorem lines_toText (t : Table) :
    splitLines t.toText.toList = mark :: t.map fun r => r.toJson.print := by
  have hm : '\n' ∉ mark := by decide
  rw [toText, String.toList_ofList, ← splitLines_lines hm, List.flatMap_map]
  intro l hl
  obtain ⟨r, -, rfl⟩ := List.mem_map.mp hl
  exact newline_not_mem_print r.spelled_toJson

theorem rows_toText (t : Table) :
    (t.map fun r => r.toJson.print).mapM (fun line => (Json.read? line).bind Row.ofJson?) =
      some t := by
  induction t with
  | nil => rfl
  | cons r t ih =>
    simp only [List.map_cons, List.mapM_cons, Json.read_print r.spelled_toJson, Option.bind_some,
      Row.ofJson_toJson, ih, Option.bind_eq_bind]
    rfl

theorem ofText_toText (t : Table) : ofText? t.toText = some t := by
  have hne : t.toText ≠ "" := by
    intro h
    have hl := congrArg String.toList h
    rw [toText, String.toList_ofList] at hl
    cases hl
  rw [ofText?, if_neg hne, lines_toText]
  simp only [if_true, rows_toText]

end Table

end ChatRules
