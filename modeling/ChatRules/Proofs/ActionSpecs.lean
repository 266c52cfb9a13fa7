import ChatRules.Command.CreateForm
import ChatRules.Proofs.Tokens

namespace ChatRules
open Text Token

namespace Text

def InAnyCase (word : String) (s : List Char) : Prop :=
  s.map lowerAscii = word.toList

instance (word : String) (s : List Char) : Decidable (InAnyCase word s) :=
  inferInstanceAs (Decidable (s.map lowerAscii = word.toList))

end Text

namespace Token
variable {q : Char} {value text s : List Char}

inductive IsBare : List Char → List Char → Prop
  | quoted {q : Char} {text : List Char} (hq : isQuote q = true) : IsBare (wrapped q text) text
  | plain {text : List Char} (h : ∀ q inner, isQuote q = true → text ≠ wrapped q inner) :
    IsBare text text

theorem unquote_wrapped (hq : isQuote q = true) (value : List Char) :
    unquote (wrapped q value) = value := by
  simp only [isQuote, Bool.or_eq_true, decide_eq_true_eq] at hq
  rcases hq with rfl | rfl
  · rw [unquote, between_wrapped, Option.getD_some]
  · have hd : between? '"' (wrapped '\'' value) = none := by simp [between?, wrapped]
    rw [unquote, hd, Option.getD_none, between_wrapped, Option.getD_some]

theorem eq_wrapped_of_between (h : between? q s = some text) : s = wrapped q text := by
  cases s with
  | nil => cases h
  | cons c rest =>
    rw [between?] at h
    split at h
    · next hc =>
      obtain ⟨rfl, hl⟩ := hc
      obtain ⟨inner, rfl⟩ := List.getLast?_eq_some_iff.mp hl
      rw [← Option.some.inj h, List.dropLast_concat]
      rfl
    · cases h

theorem unquote_of_plain (h : ∀ q inner, isQuote q = true → s ≠ wrapped q inner) :
    unquote s = s := by
  have hn : ∀ q, isQuote q = true → between? q s = none := fun q hq =>
    Option.eq_none_iff_forall_ne_some.mpr fun inner hb => h q inner hq (eq_wrapped_of_between hb)
  rw [unquote, hn '"' (by decide), hn '\'' (by decide)]
  rfl

theorem unquote_eq_iff : unquote value = text ↔ IsBare value text := by
  constructor
  · rintro rfl
    by_cases h : ∃ q inner, isQuote q = true ∧ value = wrapped q inner
    · obtain ⟨q, inner, hq, rfl⟩ := h
      rw [unquote_wrapped hq]
      exact .quoted hq
    · have hp : ∀ q inner, isQuote q = true → value ≠ wrapped q inner := fun q inner hq he =>
        h ⟨q, inner, hq, he⟩
      rw [unquote_of_plain hp]
      exact .plain hp
  · rintro (hq | hp)
    · exact unquote_wrapped hq text
    · exact unquote_of_plain hp

end Token

namespace Action

inductive Sends : String → (String → String → Action) → Prop
  | direct : Sends "dm" .direct
  | post : Sends "post" .post

inductive SpelledBy : Action → List Char → Prop
  | sends {word : String} {make : String → String → Action} {kind target value text : List Char}
    (hm : Sends word make) (hk : InAnyCase word kind) (ht : target ≠ []) (he : '=' ∉ target)
    (hx : text ≠ []) (hv : IsBare value text) :
    SpelledBy (make (String.ofList target) (String.ofList text))
      (kind ++ ':' :: (target ++ '=' :: value))
  | delete {kind behind : List Char} (hk : InAnyCase "delete" kind)
    (hb : ∀ c ∈ behind.head?, c = ':') : SpelledBy .delete (kind ++ behind)

/-- A text that makes none, and its fault. An unknown kind comes before a missing target, and that
before a missing text. -/
inductive Refuses : Fault → List Char → Prop
  | kind {kind behind : List Char} (hc : ':' ∉ kind)
    (hk : ∀ word ∈ ["dm", "post", "delete"], ¬ InAnyCase word kind)
    (hb : ∀ c ∈ behind.head?, c = ':') :
    Refuses (.unknownKind (String.ofList kind)) (kind ++ behind)
  | target {word : String} {make : String → String → Action} {kind behind : List Char}
    (hm : Sends word make) (hk : InAnyCase word kind)
    (hb : behind = [] ∨ behind = [':'] ∨ ∃ value, behind = ':' :: '=' :: value) :
    Refuses (.missing (String.ofList (kind ++ behind)) .target) (kind ++ behind)
  | text {word : String} {make : String → String → Action} {kind target behind : List Char}
    (hm : Sends word make) (hk : InAnyCase word kind) (ht : target ≠ []) (he : '=' ∉ target)
    (hb : behind = [] ∨ ∃ value, behind = '=' :: value ∧ IsBare value []) :
    Refuses (.missing (String.ofList (kind ++ ':' :: (target ++ behind))) .text)
      (kind ++ ':' :: (target ++ behind))

section Kinds
variable {word : String} {make : String → String → Action} {kind target value text : List Char}
  {parts : Option String × Option String}

def sending (make : String → String → Action) (kind : String) (target text : Option String) :
    Except Fault Action := do
  let target ← needed kind .target target
  let text ← needed kind .text text
  .ok (make target text)

theorem lower_eq_of_kind {word : String} (hw : word ∈ ["dm", "post", "delete"]) :
    lower kind = word.toList ↔ InAnyCase word kind := by
  have hplain : ∀ word ∈ ["dm", "post", "delete"], word.toList.all isPlain = true := by
    decide +kernel
  exact lower_eq_iff (List.all_eq_true.mp (hplain word hw))

theorem ofKind_sends (hm : Sends word make) (hk : InAnyCase word kind)
    (target text : Option String) :
    ofKind (String.ofList kind) target text = sending make (String.ofList kind) target text := by
  cases hm with
  | direct =>
    have hd := (lower_eq_of_kind (by simp)).mpr hk
    rw [ofKind, String.toList_ofList, if_pos hd]
    rfl
  | post =>
    have hp := (lower_eq_of_kind (by simp)).mpr hk
    have hd : ¬ "post".toList = "dm".toList := by decide
    rw [ofKind, String.toList_ofList, hp, if_neg hd, if_pos rfl]
    rfl

theorem ofKind_delete (hk : InAnyCase "delete" kind) (target text : Option String) :
    ofKind (String.ofList kind) target text = .ok .delete := by
  have hl := (lower_eq_of_kind (by simp)).mpr hk
  have hd : ¬ "delete".toList = "dm".toList := by decide
  have hp : ¬ "delete".toList = "post".toList := by decide
  rw [ofKind, String.toList_ofList, hl, if_neg hd, if_neg hp, if_pos rfl]

theorem ofKind_unknown (hk : ∀ word ∈ ["dm", "post", "delete"], ¬ InAnyCase word kind)
    (target text : Option String) :
    ofKind (String.ofList kind) target text = .error (.unknownKind (String.ofList kind)) := by
  have hn : ∀ word ∈ ["dm", "post", "delete"], ¬ lower kind = word.toList := fun word hw =>
    mt (lower_eq_of_kind hw).mp (hk word hw)
  rw [ofKind, String.toList_ofList, if_neg (hn _ (by simp)), if_neg (hn _ (by simp)),
    if_neg (hn _ (by simp))]

theorem colon_not_mem (hw : word ∈ ["dm", "post", "delete"]) (hk : InAnyCase word kind) :
    ':' ∉ kind := by
  have hall : ∀ word ∈ ["dm", "post", "delete"], lowerAscii ':' ∉ word.toList := by decide +kernel
  intro hc
  have hm : lowerAscii ':' ∈ kind.map lowerAscii := List.mem_map_of_mem hc
  rw [hk] at hm
  exact hall word hw hm

theorem Sends.mem (hm : Sends word make) : word ∈ ["dm", "post", "delete"] := by
  cases hm <;> simp

end Kinds

section Parts
variable {word : String} {make : String → String → Action} {kind : String}
  {target text : Option String} {t x : List Char}

theorem needed_of_empty {part : ActionPart} (h : ∀ v ∈ target, v = "") :
    needed kind part target = .error (.missing kind part) := by
  cases target with
  | none => rfl
  | some v => rw [needed, if_pos (h v rfl)]

theorem needed_of_ne_nil {part : ActionPart} (ht : t ≠ []) :
    needed kind part (some (String.ofList t)) = .ok (String.ofList t) := by
  have hn : String.ofList t ≠ "" := by simpa using ht
  rw [needed, if_neg hn]

theorem sending_of_ne_nil (ht : t ≠ []) (hx : x ≠ []) :
    sending make kind (some (String.ofList t)) (some (String.ofList x)) =
      .ok (make (String.ofList t) (String.ofList x)) := by
  rw [sending, needed_of_ne_nil ht, needed_of_ne_nil hx]
  rfl

theorem sending_of_no_target (h : ∀ v ∈ target, v = "") :
    sending make kind target text = .error (.missing kind .target) := by
  rw [sending, needed_of_empty h]
  rfl

theorem sending_of_no_text (ht : t ≠ []) (h : ∀ v ∈ text, v = "") :
    sending make kind (some (String.ofList t)) text = .error (.missing kind .text) := by
  rw [sending, needed_of_ne_nil ht, needed_of_empty h]
  rfl

end Parts

section Specs
variable {kind behind value target text : List Char}

theorem partsOf_append (he : '=' ∉ target) (value : List Char) :
    partsOf (some (target ++ '=' :: value)) = (some target, some (unquote value)) := by
  rw [partsOf, cutAtChar_append he]

theorem partsOf_of_not_mem (he : '=' ∉ target) (ht : target ≠ []) :
    partsOf (some target) = (some target, none) := by
  rw [partsOf, cutAtChar_eq_none he]
  simp only [if_neg ht]

theorem ofSpec_append (hc : ':' ∉ kind) (hb : ∀ c ∈ behind.head?, c = ':') :
    ofSpec (kind ++ behind) =
      (ofKind (String.ofList kind) ((partsOf behind.tail?).1.map String.ofList)
        ((partsOf behind.tail?).2.map String.ofList)).mapError
        (namedBy (String.ofList (kind ++ behind))) := by
  cases behind with
  | nil =>
    rw [List.append_nil, ofSpec, cutAtChar_eq_none hc]
    rfl
  | cons c value =>
    obtain rfl := hb c rfl
    rw [ofSpec, cutAtChar_append hc]
    rfl

theorem head_colon (value : List Char) : ∀ c ∈ (':' :: value).head?, c = ':' :=
  fun _ hc => (Option.some.inj hc).symm

theorem SpelledBy.ofSpec_eq {a : Action} {spec : List Char} (h : a.SpelledBy spec) :
    ofSpec spec = .ok a := by
  cases h with
  | sends hm hk ht he hx hv =>
    rw [ofSpec_append (colon_not_mem hm.mem hk) (head_colon _), List.tail?_cons, partsOf_append he,
      unquote_eq_iff.mpr hv, ofKind_sends hm hk, Option.map_some, Option.map_some,
      sending_of_ne_nil ht hx]
    rfl
  | delete hk hb =>
    rw [ofSpec_append (colon_not_mem (by simp) hk) hb, ofKind_delete hk]
    rfl

theorem Refuses.ofSpec_eq {fault : Fault} {spec : List Char} (h : Refuses fault spec) :
    ofSpec spec = .error fault := by
  cases h with
  | kind hc hk hb =>
    rw [ofSpec_append hc hb, ofKind_unknown hk]
    rfl
  | @target word make kind behind hm hk hb =>
    have hhead : ∀ c ∈ behind.head?, c = ':' := by
      rcases hb with rfl | rfl | ⟨value, rfl⟩
      · exact nofun
      · exact head_colon _
      · exact head_colon _
    have hempty : ∀ v ∈ (partsOf behind.tail?).1.map String.ofList, v = "" := by
      rcases hb with rfl | rfl | ⟨value, rfl⟩
      · exact nofun
      · exact nofun
      · have hparts : partsOf (some ('=' :: value)) = (some [], some (unquote value)) :=
          partsOf_append List.not_mem_nil value
        rw [List.tail?_cons, hparts]
        exact fun v hv => (Option.some.inj hv).symm
    rw [ofSpec_append (colon_not_mem hm.mem hk) hhead, ofKind_sends hm hk,
      sending_of_no_target hempty]
    rfl
  | @text word make kind target behind hm hk ht he hb =>
    have htarget : (partsOf (some (target ++ behind))).1 = some target := by
      rcases hb with rfl | ⟨value, rfl, -⟩
      · rw [List.append_nil, partsOf_of_not_mem he ht]
      · rw [partsOf_append he]
    have hempty : ∀ v ∈ (partsOf (some (target ++ behind))).2.map String.ofList, v = "" := by
      rcases hb with rfl | ⟨value, rfl, hv⟩
      · rw [List.append_nil, partsOf_of_not_mem he ht]
        exact nofun
      · rw [partsOf_append he, unquote_eq_iff.mpr hv]
        exact fun v hv => (Option.some.inj hv).symm
    rw [ofSpec_append (colon_not_mem hm.mem hk) (head_colon _), ofKind_sends hm hk,
      List.tail?_cons, htarget, Option.map_some, sending_of_no_text ht hempty]
    rfl

theorem spelled_or_refused_of_sends {word : String} {make : String → String → Action}
    (hm : Sends word make) (hk : InAnyCase word kind) (hb : ∀ c ∈ behind.head?, c = ':') :
    (∃ a : Action, a.SpelledBy (kind ++ behind)) ∨ ∃ fault, Refuses fault (kind ++ behind) := by
  cases behind with
  | nil => exact .inr ⟨_, .target hm hk (.inl rfl)⟩
  | cons c value =>
    obtain rfl := hb c rfl
    obtain ⟨target, behind, rfl, he, hv⟩ := exists_cut '=' value
    by_cases ht : target = []
    · -- Nothing stands in front of the text, if there is one.
      subst ht
      cases behind with
      | nil => exact .inr ⟨_, .target hm hk (.inr (.inl rfl))⟩
      | cons c value =>
        obtain rfl := hv c rfl
        exact .inr ⟨_, .target hm hk (.inr (.inr ⟨value, rfl⟩))⟩
    · cases behind with
      | nil => exact .inr ⟨_, .text hm hk ht he (.inl rfl)⟩
      | cons c value =>
        obtain rfl := hv c rfl
        have hbare : IsBare value (unquote value) := unquote_eq_iff.mp rfl
        by_cases hx : unquote value = []
        · rw [hx] at hbare
          exact .inr ⟨_, .text hm hk ht he (.inr ⟨value, rfl, hbare⟩)⟩
        · exact .inl ⟨_, .sends hm hk ht he hx hbare⟩

theorem spelled_or_refused (spec : List Char) :
    (∃ a : Action, a.SpelledBy spec) ∨ ∃ fault, Refuses fault spec := by
  obtain ⟨kind, behind, rfl, hc, hb⟩ := exists_cut ':' spec
  by_cases hd : InAnyCase "dm" kind
  · exact spelled_or_refused_of_sends .direct hd hb
  by_cases hp : InAnyCase "post" kind
  · exact spelled_or_refused_of_sends .post hp hb
  by_cases hx : InAnyCase "delete" kind
  · exact .inl ⟨_, .delete hx hb⟩
  · exact .inr ⟨_, .kind hc (by simp [hd, hp, hx]) hb⟩

variable {spec : List Char} {a : Action} {fault : Fault}

theorem ofSpec_eq_ok_iff : ofSpec spec = .ok a ↔ a.SpelledBy spec := by
  refine ⟨fun h => ?_, SpelledBy.ofSpec_eq⟩
  rcases spelled_or_refused spec with ⟨b, hb⟩ | ⟨fault, hf⟩
  · rwa [← Except.ok.inj (hb.ofSpec_eq.symm.trans h)]
  · cases hf.ofSpec_eq.symm.trans h

theorem ofSpec_eq_error_iff : ofSpec spec = .error fault ↔ Refuses fault spec := by
  refine ⟨fun h => ?_, Refuses.ofSpec_eq⟩
  rcases spelled_or_refused spec with ⟨b, hb⟩ | ⟨first, hf⟩
  · cases hb.ofSpec_eq.symm.trans h
  · rwa [← Except.error.inj (hf.ofSpec_eq.symm.trans h)]

end Specs

end Action

end ChatRules
