import ChatRules.Proofs.FileText
import Mathlib.Data.List.TakeWhile

namespace ChatRules

namespace LooseJson
open Json (escape quote printFields printItems texts str hexDigit)

theorem isHex_hexDigit : ∀ n < 16, isHex (hexDigit n) = true := by
  decide

theorem skipAll_of_plain {c : Char} (h : isWideSpace c = false ∧ c ≠ '/') (s : List Char) :
    skipAll (c :: s) = c :: s := by
  rw [skipAll, List.length_cons, skip.eq_def]
  simp [h]

theorem readString_named {e : Char} (he : e ∈ "\"\\bfnrt".toList) (s : List Char) :
    readString '"' ('\\' :: e :: s) = readString '"' s := by
  have hn : "\"\\bfnrt".toList.all (fun e => e ≠ '\r' ∧ e ≠ 'u' ∧ e ≠ 'x' ∧
      "\"\\/bfnrt'0v\n\r\u2028\u2029".toList.contains e = true) = true := by decide
  obtain ⟨hr, hu, hx, hc⟩ := of_decide_eq_true (List.all_eq_true.mp hn e he)
  rw [readString.eq_def]
  simp_all

theorem readString_escape (c : Char) (s : List Char) :
    readString '"' (escape c ++ s) = readString '"' s := by
  obtain ⟨e, he, -, hs, -⟩ | ⟨hc, -, hs⟩ | ⟨hq, hb, -, hs, -⟩ := Json.escape_cases c
  · rw [hs]
    exact readString_named he s
  · have hz : isHex '0' = true := by decide
    have hu := isHex_hexDigit (c.toNat / 16) (by omega)
    have hl := isHex_hexDigit (c.toNat % 16) (by omega)
    simp only [hs, List.cons_append, List.nil_append, readString, hz, hu, hl, Bool.and_self,
      if_true]
  · rw [hs, List.singleton_append, readString.eq_def]
    simp_all

theorem readString_flatMap_escape (s rest : List Char) :
    readString '"' (s.flatMap escape ++ '"' :: rest) = some rest := by
  induction s with
  | nil => rw [List.flatMap_nil, List.nil_append, readString.eq_def]; simp
  | cons c s ih => rw [List.flatMap_cons, List.append_assoc, readString_escape, ih]

theorem readValue_quote (fuel depth : Nat) (s rest : List Char) :
    readValue (fuel + 1) depth (quote s ++ rest) = some (0, rest) := by
  rw [quote, List.cons_append, List.append_assoc, readValue, skipAll_of_plain (by decide)]
  simp only [List.singleton_append, readString_flatMap_escape, Option.map_some]

theorem readMembers_last (fuel depth : Nat) (name text left : List Char) :
    readMembers (fuel + 2) depth (quote name ++ ':' :: (quote text ++ '\x7d' :: left)) =
      some left := by
  have hv := readValue_quote fuel depth text ('\x7d' :: left)
  rw [quote, List.cons_append, List.append_assoc, readMembers, skipAll_of_plain (by decide)]
  split
  · simp_all
  · split
    next heq =>
      obtain rfl := (List.cons.inj heq).2
      simp only [List.singleton_append, readString_flatMap_escape, Option.bind_eq_bind,
        Option.bind_some, skipAll_of_plain (c := ':') (by decide), hv,
        skipAll_of_plain (c := '\x7d') (by decide)]
    · simp_all
    · simp_all

theorem readMembers_more (fuel depth : Nat) (name text more : List Char) :
    readMembers (fuel + 2) depth (quote name ++ ':' :: (quote text ++ ',' :: more)) =
      readMembers (fuel + 1) depth more := by
  have hv := readValue_quote fuel depth text (',' :: more)
  rw [quote, List.cons_append, List.append_assoc, readMembers, skipAll_of_plain (by decide)]
  split
  · simp_all
  · split
    next heq =>
      obtain rfl := (List.cons.inj heq).2
      simp only [List.singleton_append, readString_flatMap_escape, Option.bind_eq_bind,
        Option.bind_some, skipAll_of_plain (c := ':') (by decide), hv,
        skipAll_of_plain (c := ',') (by decide)]
    · simp_all
    · simp_all

theorem readMembers_texts {fuel depth : Nat} {fields : List (String × String)}
    (hf : fields.length < fuel) (rest : List Char) :
    readMembers fuel depth
      (printFields (fields.map fun f => (some f.1, str f.2)) ++ rest) = some rest := by
  induction fields generalizing fuel with
  | nil =>
    obtain ⟨fuel, rfl⟩ : ∃ n, fuel = n + 1 := ⟨fuel - 1, by simp at hf; omega⟩
    rw [List.map_nil, printFields, List.singleton_append, readMembers,
      skipAll_of_plain (by decide)]
    rfl
  | cons f fields ih =>
    obtain ⟨fuel, rfl⟩ : ∃ n, fuel = n + 2 := ⟨fuel - 2, by simp at hf; omega⟩
    cases fields with
    | nil =>
      have hp : printFields ([f].map fun f => (some f.1, str f.2)) ++ rest =
          quote f.1.toList ++ ':' :: (quote f.2.toList ++ '\x7d' :: rest) := by
        simp [printFields, str, Json.print]
      rw [hp, readMembers_last]
    | cons g fields =>
      have hr := ih (show (g :: fields).length < fuel + 1 by simp at hf ⊢; omega)
      have hp : printFields ((f :: g :: fields).map fun f => (some f.1, str f.2)) ++ rest =
          quote f.1.toList ++ ':' :: (quote f.2.toList ++ ',' ::
            (printFields ((g :: fields).map fun f => (some f.1, str f.2)) ++ rest)) := by
        simp [Json.printFields_more, str, Json.print]
      rw [hp, readMembers_more, hr]

theorem readValue_texts {fuel depth : Nat} {fields : List (String × String)}
    (hf : fields.length < fuel) (rest : List Char) :
    readValue (fuel + 1) (depth + 1) ((texts fields).print ++ rest) = some (0, rest) := by
  have hm : readMembers fuel depth
      (printFields (fields.map fun f => (some f.1, str f.2)) ++ rest) = some rest :=
    readMembers_texts hf rest
  rw [texts, Json.print, List.cons_append, readValue, skipAll_of_plain (by decide)]
  simp [hm]

theorem readItems_last {fuel depth : Nat} {s left : List Char} {k : Nat}
    (h : readValue fuel depth ('\x7b' :: s) = some (k, ']' :: left)) (count : Nat) :
    readItems (fuel + 1) depth count ('\x7b' :: s) = some (count + 1, left) := by
  rw [readItems, skipAll_of_plain (by decide)]
  split
  · simp_all
  · simp only [h, Option.bind_eq_bind, Option.bind_some, skipAll_of_plain (c := ']') (by decide)]

theorem readItems_more {fuel depth : Nat} {s more : List Char} {k : Nat}
    (h : readValue fuel depth ('\x7b' :: s) = some (k, ',' :: more)) (count : Nat) :
    readItems (fuel + 1) depth count ('\x7b' :: s) = readItems fuel depth (count + 1) more := by
  rw [readItems, skipAll_of_plain (by decide)]
  split
  · simp_all
  · simp only [h, Option.bind_eq_bind, Option.bind_some, skipAll_of_plain (c := ',') (by decide)]

theorem readItems_texts {fuel depth size : Nat} {items : List (List (String × String))}
    (hs : ∀ fields ∈ items, fields.length ≤ size) (hf : items.length + size + 2 ≤ fuel)
    (count : Nat) (rest : List Char) :
    readItems fuel (depth + 1) count (printItems (items.map texts) ++ rest) =
      some (count + items.length, rest) := by
  induction items generalizing fuel count with
  | nil =>
    obtain ⟨fuel, rfl⟩ : ∃ n, fuel = n + 1 := ⟨fuel - 1, by omega⟩
    rw [List.map_nil, printItems, List.singleton_append, readItems,
      skipAll_of_plain (by decide)]
    rfl
  | cons fields items ih =>
    -- One step for the object, and one that it leaves to its members.
    obtain ⟨fuel, rfl⟩ : ∃ n, fuel = n + 2 := ⟨fuel - 2, by omega⟩
    obtain ⟨hl, hs⟩ := List.forall_mem_cons.mp hs
    rw [List.length_cons] at hf
    have hv (left : List Char) :
        readValue (fuel + 1) (depth + 1) ((texts fields).print ++ left) = some (0, left) :=
      readValue_texts (by omega) left
    have hp : (texts fields).print = '\x7b' ::
        printFields (fields.map fun f => (some f.1, str f.2)) := by rw [texts, Json.print]
    cases items with
    | nil =>
      have hi : printItems ([fields].map texts) ++ rest =
          (texts fields).print ++ ']' :: rest := by
        simp [printItems]
      have hr := hv (']' :: rest)
      rw [hp, List.cons_append] at hr
      rw [hi, hp, List.cons_append, readItems_last hr]
      rfl
    | cons next items =>
      have hi : printItems ((fields :: next :: items).map texts) ++ rest =
          (texts fields).print ++ ',' :: (printItems ((next :: items).map texts) ++ rest) := by
        simp [Json.printItems_more]
      have hr := hv (',' :: (printItems ((next :: items).map texts) ++ rest))
      rw [hp, List.cons_append] at hr
      rw [hi, hp, List.cons_append, readItems_more hr]
      have hn := ih hs (show (next :: items).length + size + 2 ≤ fuel + 1 by omega) (count + 1)
      simp only [hn, List.length_cons, Nat.add_assoc, Nat.add_comm 1]

end LooseJson

namespace Action

def fields : Action → List (String × String)
  | .direct target text => [("type", "dm"), ("target", target), ("text", text)]
  | .post target text => [("type", "post"), ("target", target), ("text", text)]
  | .delete => [("type", "delete")]

theorem toJson_eq_texts (a : Action) : a.toJson = Json.texts a.fields := by
  cases a <;> rfl

theorem length_fields_le (a : Action) : a.fields.length ≤ 3 := by
  cases a <;> simp [fields]

theorem weight_toJson (a : Action) : 3 ≤ a.toJson.weight := by
  rw [toJson_eq_texts]
  cases a <;> simp [fields, Json.texts, Json.str, Json.weight, Json.weightFields]

theorem listToJson_eq_texts (actions : List Action) :
    listToJson actions = .array ((actions.map fields).map Json.texts) := by
  rw [listToJson, List.map_map]
  exact congrArg Json.array (List.map_congr_left fun a _ => a.toJson_eq_texts)

theorem length_le_weightItems (a : Action) (rest : List Action) :
    (a :: rest).length + 3 ≤ Json.weightItems ((a :: rest).map toJson) := by
  induction rest generalizing a with
  | nil =>
    have ha := a.weight_toJson
    simp only [List.map_cons, List.map_nil, Json.weightItems, List.length_cons, List.length_nil]
    omega
  | cons b rest ih =>
    have hb := ih b
    rw [List.map_cons, Json.weightItems, List.length_cons]
    omega

theorem length_le_print (actions : List Action) :
    actions.length + 5 ≤ 2 * (listToJson actions).print.length + 1 := by
  have hw := Json.weight_le_length _ (spelled_listToJson actions)
  cases actions with
  | nil => decide
  | cons a rest =>
    have hl := length_le_weightItems a rest
    rw [listToJson, Json.weight] at hw
    rw [listToJson]
    omega

end Action

namespace LooseJson

theorem takeWhile_print {v : Json} (h : v.Spelled) :
    v.print.takeWhile (· ≠ '\x00') = v.print := by
  refine List.takeWhile_eq_self_iff.mpr fun c hc => decide_eq_true ?_
  rintro rfl
  exact absurd (Json.toNat_of_mem_print v h _ hc) (by decide)

theorem arrayLength_actions (actions : List Action) :
    arrayLength? (Action.listToJson actions).print = some actions.length := by
  have hl := Action.length_le_print actions
  have hs : ∀ fields ∈ actions.map Action.fields, fields.length ≤ 3 := by
    intro fields hf
    obtain ⟨a, -, rfl⟩ := List.mem_map.mp hf
    exact a.length_fields_le
  have hi : ∀ fuel, actions.length + 5 ≤ fuel →
      readItems fuel (depthLimit - 1) 0
        (Json.printItems ((actions.map Action.fields).map Json.texts)) =
          some (actions.length, []) := by
    intro fuel hf
    have hr : readItems fuel (998 + 1) 0
        (Json.printItems ((actions.map Action.fields).map Json.texts) ++ []) =
          some (0 + (actions.map Action.fields).length, []) :=
      readItems_texts hs (by rw [List.length_map]; omega) 0 []
    rwa [List.append_nil, List.length_map, Nat.zero_add] at hr
  have hv : readValue (2 * (Action.listToJson actions).print.length + 2) depthLimit
      (Action.listToJson actions).print = some (actions.length, []) := by
    have hr := hi (2 * (Action.listToJson actions).print.length + 1) hl
    rw [readValue.eq_def]
    simp only [Action.listToJson_eq_texts, Json.print] at hr ⊢
    rw [skipAll_of_plain (by decide)]
    simp only [hr]
    rfl
  rw [arrayLength?, takeWhile_print (Action.spelled_listToJson actions)]
  simp only [hv, Option.bind_eq_bind, Option.bind_some]
  rfl

end LooseJson

namespace RawRow

def ofRow (r : Row) : RawRow :=
  ⟨some r.id, r.name, some r.createdBy, some r.createdAt, some (if r.enabled then 1 else 0),
    some r.trigger, some r.actions⟩

theorem check_ofRow {r : Row} {n : Nat}
    (h : LooseJson.arrayLength? r.actions.toList = some (n + 1)) : (ofRow r).check = .ok r := by
  obtain ⟨id, name, createdBy, createdAt, enabled, trigger, actions⟩ := r
  have he : ((if enabled then 1 else 0 : Int) != 0) = enabled := by cases enabled <;> rfl
  simp only [check, ofRow, need, bind, Except.bind]
  simp only [h, he]

theorem check_ofRule {rule : Rule} (h : rule.actions ≠ []) :
    (ofRow (Row.ofRule rule)).check = .ok (Row.ofRule rule) := by
  obtain ⟨n, hn⟩ := Nat.exists_eq_succ_of_ne_zero (mt List.length_eq_zero_iff.mp h)
  refine check_ofRow (n := n) ?_
  rw [← Nat.succ_eq_add_one, ← hn, Row.ofRule]
  simp only [Json.printed, String.toList_ofList]
  exact LooseJson.arrayLength_actions rule.actions

end RawRow

namespace Table

theorem create_eq_insertRaw {rule : Rule} (h : rule.actions ≠ []) (t : Table) :
    t.create rule = t.insertRaw (.ofRow (Row.ofRule rule)) := by
  rw [create, if_neg h, insertRaw, RawRow.check_ofRule h]
  rfl

end Table

end ChatRules
