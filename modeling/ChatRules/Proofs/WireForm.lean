import ChatRules.Proofs.JsonText
import ChatRules.Wire.Decode
import ChatRules.Wire.Encode

namespace ChatRules

namespace Json

def present (fields : List (String × Option Json)) : List (Literal × Json) :=
  fields.filterMap fun f => f.2.map fun v => (some f.1, v)

theorem obj_eq (fields : List (String × Option Json)) : obj fields = .object (present fields) :=
  rfl

theorem present_cons (f : String × Option Json) (fields : List (String × Option Json)) :
    present (f :: fields) = (f.2.toList.map fun v => (some f.1, v)) ++ present fields := by
  obtain ⟨name, _ | v⟩ := f <;> simp [present]

theorem filter_present_of_not_mem {name : String} {fields : List (String × Option Json)}
    (h : name ∉ fields.map Prod.fst) : (present fields).filter (isNamed name) = [] := by
  induction fields with
  | nil => rfl
  | cons f fields ih =>
    simp only [List.map_cons, List.mem_cons, not_or] at h
    have hf : isNamed name (some f.1, f.2.getD .null) = false := by
      simp [isNamed, Ne.symm h.1]
    rw [present_cons, List.filter_append, ih h.2, List.append_nil]
    cases hv : f.2 with
    | none => rfl
    | some v => simpa [isNamed] using Ne.symm h.1

theorem filter_present {fields : List (String × Option Json)}
    (hn : (fields.map Prod.fst).Nodup) {f : String × Option Json} (hf : f ∈ fields) :
    (present fields).filter (isNamed f.1) = f.2.toList.map fun v => (some f.1, v) := by
  induction fields with
  | nil => simp at hf
  | cons g fields ih =>
    rw [List.map_cons, List.nodup_cons] at hn
    rw [present_cons, List.filter_append]
    rcases List.mem_cons.mp hf with rfl | hf
    · rw [filter_present_of_not_mem hn.1, List.append_nil, List.filter_eq_self]
      simp [isNamed]
    · have hne : g.1 ≠ f.1 := fun he => hn.1 (he ▸ List.mem_map_of_mem hf)
      rw [ih hn.2 hf, List.filter_eq_nil_iff.mpr, List.nil_append]
      simp [isNamed, hne]

theorem fieldsFit_present {fields : List (String × Option Json)}
    (hn : (fields.map Prod.fst).Nodup) : fieldsFit (fields.map Prod.fst) (present fields) := by
  simp only [fieldsFit, Bool.and_eq_true, List.all_eq_true, decide_eq_true_eq]
  constructor
  · intro g hg
    simp only [present, List.mem_filterMap, Option.map_eq_some_iff] at hg
    obtain ⟨f, -, v, -, rfl⟩ := hg
    rfl
  · intro name hname
    obtain ⟨f, hf, rfl⟩ := List.mem_map.mp hname
    rw [filter_present hn hf]
    cases f.2 <;> simp

theorem find_present {fields : List (String × Option Json)} (hn : (fields.map Prod.fst).Nodup)
    {f : String × Option Json} (hf : f ∈ fields) :
    ((present fields).find? (isNamed f.1)).map Prod.snd = f.2 := by
  rw [← List.head?_filter, filter_present hn hf]
  cases f.2 <;> rfl

theorem fieldValues_obj (fields : List (String × Option Json))
    (hn : (fields.map Prod.fst).Nodup) :
    fieldValues (fields.map Prod.fst) (obj fields) = some (fields.map Prod.snd) := by
  rw [obj_eq, fieldValues, if_pos (fieldsFit_present hn), namedFields, List.map_map]
  congr 1
  exact List.map_congr_left fun f hf => find_present hn hf

theorem spelled_obj {fields : List (String × Option Json)}
    (h : ∀ f ∈ fields, ∀ v ∈ f.2, v.Spelled) : (obj fields).Spelled := by
  rw [obj_eq, Spelled]
  induction fields with
  | nil => exact trivial
  | cons f fields ih =>
    have hr := ih fun g hg => h g (List.mem_cons_of_mem _ hg)
    rw [present_cons]
    cases hv : f.2 with
    | none => exact hr
    | some v => exact ⟨rfl, h f List.mem_cons_self v hv, hr⟩

theorem spelled_array {items : List Json} (h : ∀ v ∈ items, v.Spelled) :
    (Json.array items).Spelled := by
  rw [Spelled]
  induction items with
  | nil => exact trivial
  | cons v items ih =>
    exact ⟨h v List.mem_cons_self, ih fun w hw => h w (List.mem_cons_of_mem _ hw)⟩

@[simp]
theorem spelled_str (s : String) : (str s).Spelled :=
  rfl

@[simp]
theorem string_str (s : String) : string? (str s) = some s :=
  rfl

def texts (fields : List (String × String)) : Json :=
  .object (fields.map fun f => (some f.1, str f.2))

theorem texts_eq_obj (fields : List (String × String)) :
    texts fields = obj (fields.map fun f => (f.1, some (str f.2))) := by
  induction fields with
  | nil => rfl
  | cons f fields ih =>
    simp only [texts, obj, List.map_cons, Json.object.injEq] at ih ⊢
    rw [ih]
    rfl

theorem isKept_texts (fields : List (String × String)) : (texts fields).isKept = true := by
  rw [texts, isKept]
  induction fields with
  | nil => rfl
  | cons f fields ih => simpa [fieldsKept, isKept, str] using ih

theorem depth_texts (fields : List (String × String)) : (texts fields).depth = 1 := by
  rw [texts, depth, Nat.add_eq_right]
  induction fields with
  | nil => rfl
  | cons f fields ih => simpa [depthFields, depth, str] using ih

theorem tagged_texts {tag word : String} {fields : List (String × String)} {level : Nat}
    (ht : tag ∉ fields.map Prod.fst) (hl : level < depthLimit) :
    tagged tag level (texts ((tag, word) :: fields)) = some (word, texts fields) := by
  have hd : (texts ((tag, word) :: fields)).depth + level ≤ depthLimit := by
    rw [depth_texts]
    omega
  have hno : ∀ g ∈ fields.map fun f => ((some f.1, str f.2) : Literal × Json),
      isNamed tag g = false := by
    intro g hg
    obtain ⟨f, hf, rfl⟩ := List.mem_map.mp hg
    have hne : f.1 ≠ tag := fun he => ht (he ▸ List.mem_map_of_mem hf)
    simp [isNamed, hne]
  have hnone : (fields.map fun f => ((some f.1, str f.2) : Literal × Json)).filter
      (isNamed tag) = [] := List.filter_eq_nil_iff.mpr fun g hg => by simp [hno g hg]
  have hall : (fields.map fun f => ((some f.1, str f.2) : Literal × Json)).filter
      (fun f => !isNamed tag f) = fields.map fun f => (some f.1, str f.2) :=
    List.filter_eq_self.mpr fun g hg => by simp [hno g hg]
  have hself : isNamed tag (some tag, str word) = true := by simp [isNamed]
  rw [tagged.eq_def, if_pos ⟨isKept_texts _, hd⟩]
  simp only [texts, List.map_cons, List.filter_cons_of_pos hself, hnone, string_str,
    Option.map_some, hself, Bool.not_true, Bool.false_eq_true, not_false_eq_true,
    List.filter_cons_of_neg, hall]

theorem fieldValues_texts (fields : List (String × String)) (hn : (fields.map Prod.fst).Nodup) :
    fieldValues (fields.map Prod.fst) (texts fields) =
      some (fields.map fun f => some (str f.2)) := by
  have hv := fieldValues_obj (fields.map fun f => (f.1, some (str f.2)))
    (by simpa [List.map_map, Function.comp_def] using hn)
  simpa [texts_eq_obj, List.map_map, Function.comp_def] using hv

theorem spelled_texts (fields : List (String × String)) : (texts fields).Spelled := by
  rw [texts_eq_obj]
  refine spelled_obj fun f hf v hv => ?_
  obtain ⟨g, -, rfl⟩ := List.mem_map.mp hf
  obtain rfl : str g.2 = v := by simpa using hv
  exact spelled_str g.2

theorem optional_map_str (o : Option String) : optional string? (o.map str) = some o := by
  cases o <;> rfl

end Json

open Json (str obj fieldValues_obj optional_map_str)

theorem EventKind.ofJson_toJson (k : EventKind) : EventKind.ofJson? k.toJson = some k := by
  cases k <;> decide

theorem Trigger.ofJson_toJson (t : Trigger) : Trigger.ofJson? t.toJson = some t := by
  have hf := fieldValues_obj [("type", some t.kind.toJson), ("room", t.room.map str),
    ("user", t.user.map str), ("contains", t.contains.map str),
    ("startsWith", t.startsWith.map str), ("regex", t.regex.map str)] (by simp)
  simp only [List.map_cons, List.map_nil] at hf
  simp only [Trigger.ofJson?, Trigger.toJson, hf, Option.bind_eq_bind, Option.bind_some,
    optional_map_str, Json.orElse, EventKind.ofJson_toJson]

theorem Trigger.spelled_toJson (t : Trigger) : t.toJson.Spelled := by
  refine Json.spelled_obj fun f hf v hv => ?_
  simp only [List.mem_cons, List.not_mem_nil, or_false] at hf
  rcases hf with rfl | rfl | rfl | rfl | rfl | rfl <;>
    simp only [Option.mem_def, Option.some.injEq, Option.map_eq_some_iff] at hv
  · subst hv
    exact Json.spelled_str _
  all_goals
    obtain ⟨s, -, rfl⟩ := hv
    exact Json.spelled_str s

theorem Action.toJson_direct (target text : String) :
    (Action.direct target text).toJson =
      Json.texts [("type", "dm"), ("target", target), ("text", text)] :=
  rfl

theorem Action.toJson_post (target text : String) :
    (Action.post target text).toJson =
      Json.texts [("type", "post"), ("target", target), ("text", text)] :=
  rfl

theorem Action.toJson_delete : Action.delete.toJson = Json.texts [("type", "delete")] :=
  rfl

theorem Action.spelled_toJson (a : Action) : a.toJson.Spelled := by
  cases a with
  | direct target text => rw [Action.toJson_direct]; exact Json.spelled_texts _
  | post target text => rw [Action.toJson_post]; exact Json.spelled_texts _
  | delete => rw [Action.toJson_delete]; exact Json.spelled_texts _

theorem Action.ofJsonAt_toJson {level : Nat} (h : level < Json.depthLimit) (a : Action) :
    Action.ofJsonAt? level a.toJson = some a := by
  cases a with
  | direct target text =>
    have hf := Json.fieldValues_texts [("target", target), ("text", text)] (by simp)
    simp only [List.map_cons, List.map_nil] at hf
    rw [Action.ofJsonAt?, Action.toJson_direct, Json.tagged_texts (by simp) h]
    simp [hf, Json.required]
  | post target text =>
    have hf := Json.fieldValues_texts [("target", target), ("text", text)] (by simp)
    simp only [List.map_cons, List.map_nil] at hf
    rw [Action.ofJsonAt?, Action.toJson_post, Json.tagged_texts (by simp) h]
    simp [hf, Json.required]
  | delete =>
    rw [Action.ofJsonAt?, Action.toJson_delete, Json.tagged_texts (by simp) h]
    rfl

theorem Json.list_map {α : Type} {decode : Json → Option α} {encode : α → Json}
    (h : ∀ a, decode (encode a) = some a) (items : List α) :
    Json.list? decode (.array (items.map encode)) = some items := by
  rw [Json.list?]
  induction items with
  | nil => rfl
  | cons a items ih => simp [List.mapM_cons, h, ih]

theorem Action.spelled_listToJson (actions : List Action) :
    (Action.listToJson actions).Spelled := by
  refine Json.spelled_array fun v hv => ?_
  obtain ⟨a, -, rfl⟩ := List.mem_map.mp hv
  exact a.spelled_toJson

theorem Action.listOfJson_listToJson {level : Nat} (h : level + 1 < Json.depthLimit)
    (actions : List Action) :
    Action.listOfJson? level (Action.listToJson actions) = some actions :=
  Json.list_map (Action.ofJsonAt_toJson h) actions

end ChatRules
