import ChatRules.Proofs.Effect
import ChatRules.Proofs.WrittenRules

namespace ChatRules

attribute [ext] Trigger

namespace CreateForm
open Text ChatRules.Token

def leads : List String :=
  ["@", "#", "contains=", "startsWith=", "regex=", "action="]

def IsKnown (token : List Char) : Prop :=
  ∃ lead ∈ leads, lead.toList <+: token

instance (token : List Char) : Decidable (IsKnown token) :=
  inferInstanceAs (Decidable (∃ lead ∈ leads, lead.toList <+: token))

def HaveOneForm (a b : List Char) : Prop :=
  ∃ lead ∈ leads, lead.toList <+: a ∧ lead.toList <+: b

instance (a b : List Char) : Decidable (HaveOneForm a b) :=
  inferInstanceAs (Decidable (∃ lead ∈ leads, lead.toList <+: a ∧ lead.toList <+: b))

def among (lead : String) (tokens : List (List Char)) : List (List Char) :=
  tokens.filter fun token => lead.toList <+: token

def behind (lead : String) (tokens : List (List Char)) : List (List Char) :=
  (among lead tokens).map (·.drop lead.toList.length)

/-- The trigger is on messages, and each of its conditions is that of the last token of its form.
Texts are stated with a pair of quotes around them or without. -/
structure States (tokens : List (List Char)) (t : Trigger) : Prop where
  kind : t.kind = .message
  user : t.user = (among "@" tokens).getLast?.map String.ofList
  room : t.room = (among "#" tokens).getLast?.map String.ofList
  text : ∀ key : Key, Option.Rel (fun value text => IsBare value text.toList)
    (behind key.word tokens).getLast? (key.condition t)

inductive Reading : List Char → Token → Prop
  | user (name : List Char) : Reading ('@' :: name) (.user (String.ofList ('@' :: name)))
  | room (name : List Char) : Reading ('#' :: name) (.room (String.ofList ('#' :: name)))
  | text (key : Key) (value : List Char) :
    Reading (key.word.toList ++ value) (key.token (Token.textOf value))
  | action (spec : List Char) : Reading ("action=".toList ++ spec) (.action spec)
  | other {token : List Char} (h : ¬ IsKnown token) : Reading token .other

section Forms
variable {lead : String} {token : List Char} {tokens : List (List Char)}

theorem reading_ofChars (token : List Char) : Reading token (Token.ofChars token) := by
  rw [Token.ofChars]
  split
  · next hu =>
    obtain ⟨name, rfl⟩ := List.head?_eq_some_iff.mp hu
    exact .user name
  split
  · next hr =>
    obtain ⟨name, rfl⟩ := List.head?_eq_some_iff.mp hr
    exact .room name
  split
  · next value hv =>
    obtain rfl := after?_eq_some_iff.mp hv
    exact .text .contains value
  split
  · next value hv =>
    obtain rfl := after?_eq_some_iff.mp hv
    exact .text .startsWith value
  split
  · next value hv =>
    obtain rfl := after?_eq_some_iff.mp hv
    exact .text .regex value
  split
  · next spec hv =>
    obtain rfl := after?_eq_some_iff.mp hv
    exact .action spec
  · next hu hr _ hc _ hs _ hx _ ha =>
    refine .other ?_
    rintro ⟨lead, hl, rest, rfl⟩
    simp only [leads, List.mem_cons, List.not_mem_nil, or_false] at hl
    rcases hl with rfl | rfl | rfl | rfl | rfl | rfl
    · exact hu rfl
    · exact hr rfl
    · exact hc rest (after?_eq_some_iff.mpr rfl)
    · exact hs rest (after?_eq_some_iff.mpr rfl)
    · exact hx rest (after?_eq_some_iff.mpr rfl)
    · exact ha rest (after?_eq_some_iff.mpr rfl)

theorem not_prefix_of_unknown (h : ¬ IsKnown token) : ∀ lead ∈ leads, ¬ lead.toList <+: token :=
  fun lead hl hp => h ⟨lead, hl, hp⟩

theorem spec?_ofChars (token : List Char) :
    (Token.ofChars token).spec? =
      if "action=".toList <+: token then some (token.drop "action=".toList.length) else none := by
  have h := reading_ofChars token
  generalize Token.ofChars token = read at h
  cases h with
  | user name => simp [Token.spec?]
  | room name => simp [Token.spec?]
  | text key value => cases key <;> simp [Token.spec?, Key.token, Key.word]
  | action spec => simp [Token.spec?]
  | other h =>
    rw [if_neg (not_prefix_of_unknown h "action=" (by simp [leads]))]
    rfl

theorem refine_ofChars (t : Trigger) (token : List Char) :
    (Token.ofChars token).refine t =
      { kind := t.kind
        room := if "#".toList <+: token then some (String.ofList token) else t.room
        user := if "@".toList <+: token then some (String.ofList token) else t.user
        contains := if "contains=".toList <+: token then
          some (Token.textOf (token.drop "contains=".toList.length)) else t.contains
        startsWith := if "startsWith=".toList <+: token then
          some (Token.textOf (token.drop "startsWith=".toList.length)) else t.startsWith
        regex := if "regex=".toList <+: token then
          some (Token.textOf (token.drop "regex=".toList.length)) else t.regex } := by
  have h := reading_ofChars token
  generalize Token.ofChars token = read at h
  cases h with
  | user name => simp [Token.refine]
  | room name => simp [Token.refine]
  | text key value => cases key <;> simp [Token.refine, Key.token, Key.word]
  | action spec => simp [Token.refine]
  | other h =>
    have hn := not_prefix_of_unknown h
    simp only [leads, List.forall_mem_cons] at hn
    obtain ⟨hu, hr, hc, hs, hx, -⟩ := hn
    simp only [Token.refine, if_neg hu, if_neg hr, if_neg hc, if_neg hs, if_neg hx]

@[simp]
theorem among_nil (lead : String) : among lead [] = [] := rfl

theorem among_append (lead : String) (before after : List (List Char)) :
    among lead (before ++ after) = among lead before ++ among lead after :=
  List.filter_append ..

theorem among_cons_pos (h : lead.toList <+: token) (rest : List (List Char)) :
    among lead (token :: rest) = token :: among lead rest :=
  List.filter_cons_of_pos (decide_eq_true h)

theorem among_cons_neg (h : ¬ lead.toList <+: token) (rest : List (List Char)) :
    among lead (token :: rest) = among lead rest :=
  List.filter_cons_of_neg (by simpa using h)

theorem specs_eq_behind (tokens : List (List Char)) : specs tokens = behind "action=" tokens := by
  induction tokens with
  | nil => rfl
  | cons token rest ih =>
    rw [specs, List.map_cons, behind]
    by_cases h : "action=".toList <+: token
    · have hs : (Token.ofChars token).spec? = some (token.drop "action=".toList.length) := by
        rw [spec?_ofChars, if_pos h]
      rw [List.filterMap_cons_some hs, among_cons_pos h, List.map_cons]
      exact congrArg _ ih
    · have hs : (Token.ofChars token).spec? = none := by
        rw [spec?_ofChars, if_neg h]
      rw [List.filterMap_cons_none hs, among_cons_neg h]
      exact ih

theorem triggerOf_append_singleton (tokens : List (List Char)) (token : List Char) :
    triggerOf (tokens ++ [token]) = (Token.ofChars token).refine (triggerOf tokens) := by
  rw [triggerOf, List.map_append, List.foldl_append]
  rfl

theorem kind_triggerOf (tokens : List (List Char)) : (triggerOf tokens).kind = .message := by
  induction tokens using List.reverseRecOn with
  | nil => rfl
  | append_singleton tokens token ih => rw [triggerOf_append_singleton, refine_ofChars, ih]

theorem field_triggerOf {field : Trigger → Option String} {value : List Char → String}
    (hn : field .onMessage = none)
    (hf : ∀ t token, field ((Token.ofChars token).refine t) =
      if lead.toList <+: token then some (value token) else field t)
    (tokens : List (List Char)) :
    field (triggerOf tokens) = (among lead tokens).getLast?.map value := by
  -- From the right: the last token decides if it is of the form, and else those in front of it do.
  induction tokens using List.reverseRecOn with
  | nil => exact hn
  | append_singleton tokens token ih =>
    rw [triggerOf_append_singleton, hf, among_append]
    by_cases h : lead.toList <+: token
    · rw [if_pos h, among_cons_pos h, among_nil, List.getLast?_concat]
      rfl
    · rw [if_neg h, among_cons_neg h, among_nil, List.append_nil]
      exact ih

theorem user_triggerOf (tokens : List (List Char)) :
    (triggerOf tokens).user = (among "@" tokens).getLast?.map String.ofList :=
  field_triggerOf rfl (fun t token => congrArg Trigger.user (refine_ofChars t token)) tokens

theorem room_triggerOf (tokens : List (List Char)) :
    (triggerOf tokens).room = (among "#" tokens).getLast?.map String.ofList :=
  field_triggerOf rfl (fun t token => congrArg Trigger.room (refine_ofChars t token)) tokens

theorem condition_triggerOf (key : Key) (tokens : List (List Char)) :
    key.condition (triggerOf tokens) = (behind key.word tokens).getLast?.map Token.textOf := by
  have hn : key.condition .onMessage = none := by cases key <;> rfl
  rw [behind, List.getLast?_map, Option.map_map]
  refine @field_triggerOf key.word (fun t => key.condition t) _ hn (fun t token => ?_) tokens
  rw [refine_ofChars]
  cases key <;> rfl

theorem rel_isBare_iff {value : Option (List Char)} {text : Option String} :
    Option.Rel (fun value text => IsBare value text.toList) value text ↔
      text = value.map Token.textOf := by
  constructor
  · rintro (hv | _)
    · rw [Option.map_some, Token.textOf, unquote_eq_iff.mpr hv, String.ofList_toList]
    · rfl
  · rintro rfl
    cases value with
    | none => exact .none
    | some value =>
      have hv : IsBare value (Token.textOf value).toList := by
        rw [Token.textOf, String.toList_ofList]
        exact unquote_eq_iff.mp rfl
      exact .some hv

theorem states_iff {t : Trigger} : States tokens t ↔ t = triggerOf tokens := by
  constructor
  · rintro ⟨hk, hu, hr, hx⟩
    have hc := fun key => (rel_isBare_iff.mp (hx key)).trans (condition_triggerOf key tokens).symm
    exact Trigger.ext (hk.trans (kind_triggerOf tokens).symm)
      (hr.trans (room_triggerOf tokens).symm) (hu.trans (user_triggerOf tokens).symm)
      (hc .contains) (hc .startsWith) (hc .regex)
  · rintro rfl
    exact ⟨kind_triggerOf tokens, user_triggerOf tokens, room_triggerOf tokens,
      fun key => rel_isBare_iff.mpr (condition_triggerOf key tokens)⟩

theorem read_congr {tokens' : List (List Char)}
    (h : ∀ lead ∈ leads, among lead tokens = among lead tokens') : read tokens = read tokens' := by
  simp only [leads, List.forall_mem_cons] at h
  obtain ⟨hu, hr, hc, hs, hx, ha, -⟩ := h
  have htrigger : triggerOf tokens = triggerOf tokens' := by
    refine states_iff.mp ⟨kind_triggerOf tokens, ?_, ?_, fun key => ?_⟩
    · rw [← hu, user_triggerOf]
    · rw [← hr, room_triggerOf]
    · have hkey : among key.word tokens = among key.word tokens' := by
        cases key
        exacts [hc, hs, hx]
      rw [behind, ← hkey]
      exact (states_iff.mpr rfl).text key
  rw [read_eq, read_eq, htrigger, specs_eq_behind, specs_eq_behind, behind, behind, ha]

theorem among_swap {a b : List Char} (h : ¬ (lead.toList <+: a ∧ lead.toList <+: b))
    (before after : List (List Char)) :
    among lead (before ++ a :: b :: after) = among lead (before ++ b :: a :: after) := by
  rw [among_append, among_append]
  by_cases ha : lead.toList <+: a
  · have hb : ¬ lead.toList <+: b := fun hb => h ⟨ha, hb⟩
    rw [among_cons_pos ha, among_cons_neg hb, among_cons_neg hb, among_cons_pos ha]
  · rw [among_cons_neg ha]
    by_cases hb : lead.toList <+: b
    · rw [among_cons_pos hb, among_cons_pos hb, among_cons_neg ha]
    · rw [among_cons_neg hb, among_cons_neg hb, among_cons_neg ha]

theorem among_eq_nil (h : ∀ token ∈ tokens, ¬ lead.toList <+: token) : among lead tokens = [] :=
  List.filter_eq_nil_iff.mpr fun token ht => by simpa using h token ht

theorem mapM_ofSpec_eq_ok_iff {specs : List (List Char)} {actions : List Action} :
    specs.mapM Action.ofSpec = .ok actions ↔
      List.Forall₂ Action.SpelledBy actions specs := by
  simp only [mapM_eq_ok_iff, Action.ofSpec_eq_ok_iff]
  exact ⟨List.Forall₂.flip, List.Forall₂.flip⟩

theorem read_eq_ok_iff {t : Trigger} {actions : List Action} :
    read tokens = .ok (t, actions) ↔ States tokens t ∧
      List.Forall₂ Action.SpelledBy actions (behind "action=" tokens) := by
  rw [read_eq, specs_eq_behind, states_iff, ← mapM_ofSpec_eq_ok_iff]
  cases (behind "action=" tokens).mapM Action.ofSpec with
  | error fault => exact ⟨nofun, fun h => nomatch h.2⟩
  | ok made =>
    constructor
    · intro h
      cases h
      exact ⟨rfl, rfl⟩
    · rintro ⟨rfl, h⟩
      cases h
      rfl

theorem read_eq_error_iff {fault : Fault} :
    read tokens = .error fault ↔ ∃ before spec after,
      behind "action=" tokens = before ++ spec :: after ∧
      (∀ valid ∈ before, ∃ action : Action, action.SpelledBy valid) ∧
      Action.Refuses fault spec := by
  have hmap : read tokens = .error fault ↔
      (behind "action=" tokens).mapM Action.ofSpec = .error fault := by
    rw [read_eq, specs_eq_behind]
    cases (behind "action=" tokens).mapM Action.ofSpec with
    | error first =>
      constructor
      all_goals
        intro h
        cases h
        rfl
    | ok made => exact ⟨nofun, nofun⟩
  simp only [hmap, mapM_eq_error_iff, Action.ofSpec_eq_ok_iff, Action.ofSpec_eq_error_iff]

theorem exists_read_iff :
    (∃ made, read tokens = .ok made) ↔
      ∀ spec ∈ behind "action=" tokens, ∃ action : Action, action.SpelledBy spec := by
  have hmap : (∃ made, read tokens = .ok made) ↔
      ∃ actions, (behind "action=" tokens).mapM Action.ofSpec = .ok actions := by
    simp only [Prod.exists, read_eq_ok_iff, mapM_ofSpec_eq_ok_iff, exists_and_left]
    exact ⟨fun ⟨t, ht, h⟩ => h, fun h => ⟨_, states_iff.mpr rfl, h⟩⟩
  simp only [hmap, exists_mapM_iff, Action.ofSpec_eq_ok_iff]

theorem read_swap {a b : List Char} (h : ¬ HaveOneForm a b) (before after : List (List Char)) :
    read (before ++ a :: b :: after) = read (before ++ b :: a :: after) :=
  read_congr fun lead hl => among_swap (fun hab => h ⟨lead, hl, hab⟩) before after

theorem read_insert {unknown : List (List Char)} (h : ∀ token ∈ unknown, ¬ IsKnown token)
    (before after : List (List Char)) :
    read (before ++ unknown ++ after) = read (before ++ after) := by
  refine read_congr fun lead hl => ?_
  have hn : among lead unknown = [] :=
    among_eq_nil fun token ht => not_prefix_of_unknown (h token ht) lead hl
  rw [among_append, among_append, among_append, hn, List.append_nil]

/-- Tokens are read just where each text of an action is valid, and what they come to are the last
condition of each form and all the actions in their order; else the fault is that of the first text
that is not valid. Only the order within a form counts, and tokens of no form do not. -/
theorem tokens_read_by_form (tokens : List (List Char)) :
    (∀ t actions, read tokens = .ok (t, actions) ↔ States tokens t ∧
      List.Forall₂ Action.SpelledBy actions (behind "action=" tokens)) ∧
    ((∃ made, read tokens = .ok made) ↔
      ∀ spec ∈ behind "action=" tokens, ∃ action : Action, action.SpelledBy spec) ∧
    (∀ fault, read tokens = .error fault ↔ ∃ before spec after,
      behind "action=" tokens = before ++ spec :: after ∧
      (∀ valid ∈ before, ∃ action : Action, action.SpelledBy valid) ∧
      Action.Refuses fault spec) ∧
    (∀ spec, (∀ action, Action.ofSpec spec = .ok action ↔ action.SpelledBy spec) ∧
      ∀ fault, Action.ofSpec spec = .error fault ↔ Action.Refuses fault spec) ∧
    (∀ before a b after, tokens = before ++ a :: b :: after → ¬ HaveOneForm a b →
      read tokens = read (before ++ b :: a :: after)) ∧
    ∀ before unknown after, tokens = before ++ unknown ++ after →
      (∀ token ∈ unknown, ¬ IsKnown token) → read tokens = read (before ++ after) := by
  refine ⟨fun t actions => read_eq_ok_iff, exists_read_iff, fun fault => read_eq_error_iff,
    fun spec => ⟨fun action => Action.ofSpec_eq_ok_iff, fun fault => Action.ofSpec_eq_error_iff⟩,
    ?_, ?_⟩
  · rintro before a b after rfl h
    exact read_swap h before after
  · rintro before unknown after rfl h
    exact read_insert h before after

end Forms

def repeatedRoom : List (List Char) :=
  ["#old".toList, "action=Post:#a='x=y:z'".toList, "later".toList, "#ops".toList,
    "action=DELETE:x=y".toList]

def emptyText : List (List Char) :=
  ["action=delete".toList, "@bob".toList, "action=post:#a=\"\"".toList, "action=dm:=x".toList]

theorem repeated_room_read_as_last :
    States repeatedRoom ⟨.message, some "#ops", none, none, none, none⟩ ∧
    List.Forall₂ Action.SpelledBy [.post "#a" "x=y:z", .delete]
      (behind "action=" repeatedRoom) ∧
    read repeatedRoom = read ["#old".toList, "action=Post:#a='x=y:z'".toList, "later".toList,
      "action=DELETE:x=y".toList, "#ops".toList] ∧
    read repeatedRoom = read ["#old".toList, "action=Post:#a='x=y:z'".toList, "#ops".toList,
      "action=DELETE:x=y".toList] ∧
    read emptyText = .error (.missing "post:#a=\"\"" .text) := by
  obtain ⟨hok, -, -, -, hswap, hinsert⟩ := tokens_read_by_form repeatedRoom
  obtain ⟨-, -, herror, -⟩ := tokens_read_by_form emptyText
  obtain ⟨hstates, hspelled⟩ := (hok ⟨.message, some "#ops", none, none, none, none⟩
    [.post "#a" "x=y:z", .delete]).mp (by decide +kernel)
  have hdelete : Action.SpelledBy .delete "delete".toList :=
    Action.ofSpec_eq_ok_iff.mp (by decide +kernel)
  have hempty : Action.Refuses (.missing "post:#a=\"\"" .text) "post:#a=\"\"".toList :=
    Action.ofSpec_eq_error_iff.mp (by decide +kernel)
  refine ⟨hstates, hspelled, ?_, ?_, ?_⟩
  · exact hswap ["#old".toList, "action=Post:#a='x=y:z'".toList, "later".toList] "#ops".toList
      "action=DELETE:x=y".toList [] rfl (by decide +kernel)
  · exact hinsert ["#old".toList, "action=Post:#a='x=y:z'".toList] ["later".toList]
      ["#ops".toList, "action=DELETE:x=y".toList] rfl (by decide +kernel)
  · exact (herror _).mpr ⟨["delete".toList], "post:#a=\"\"".toList, ["dm:=x".toList],
      by decide +kernel, by simpa using ⟨_, hdelete⟩, hempty⟩

end CreateForm

end ChatRules
