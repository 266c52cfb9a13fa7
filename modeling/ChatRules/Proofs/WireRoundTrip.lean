import ChatRules.Command.Reply
import ChatRules.Proofs.InstantText
import ChatRules.Proofs.WireForm

namespace ChatRules

namespace Json

theorem fieldValues_of_names {names : List String} {fields : List (String × Option Json)}
    (h : fields.map Prod.fst = names) (hn : names.Nodup) :
    fieldValues names (obj fields) = some (fields.map Prod.snd) := by
  subst h
  exact fieldValues_obj fields hn

theorem required_some {α : Type} (decode : Json → Option α) (v : Json) :
    required decode (some v) = decode v :=
  rfl

theorem spelled_of_map_eq_some {α : Type} {encode : α → Json} (h : ∀ a, (encode a).Spelled)
    {o : Option α} {v : Json} (hv : o.map encode = some v) : v.Spelled := by
  obtain ⟨a, -, rfl⟩ := Option.map_eq_some_iff.mp hv
  exact h a

theorem spelled_list {α : Type} {encode : α → Json} (h : ∀ a, (encode a).Spelled)
    (items : List α) : (Json.array (items.map encode)).Spelled := by
  refine spelled_array fun v hv => ?_
  obtain ⟨a, -, rfl⟩ := List.mem_map.mp hv
  exact h a

theorem spelled_bool (b : Bool) : (Json.bool b).Spelled :=
  trivial

end Json

open Json (str fieldValues_of_names optional_map_str required_some)

theorem Instant.ofJson_toJson (t : Instant) : Instant.ofJson? t.toJson = some t.settled := by
  rw [Instant.ofJson?, Instant.toJson, Json.string_str, Option.bind_some, String.toList_ofList,
    readText_print]

theorem Instant.isPlaced_of_ofJson {v : Json} {t : Instant} (h : Instant.ofJson? v = some t) :
    t.IsPlaced := by
  obtain ⟨s, -, hs⟩ := Option.bind_eq_some_iff.mp h
  exact isPlaced_of_readText hs

theorem ResponseKind.ofJson_word (k : ResponseKind) :
    ResponseKind.ofJson? (str k.word) = some k := by
  cases k <;> decide

section Messages

theorem User.ofJson_toJson (u : User) : User.ofJson? u.toJson = some u := by
  simp [User.ofJson?, User.toJson, fieldValues_of_names, required_some]

theorem User.spelled_toJson (u : User) : u.toJson.Spelled :=
  Json.spelled_obj (by simp)

theorem Room.ofJson_toJson (r : Room) : Room.ofJson? r.toJson = some r := by
  simp [Room.ofJson?, Room.toJson, fieldValues_of_names, required_some]

theorem Room.spelled_toJson (r : Room) : r.toJson.Spelled :=
  Json.spelled_obj (by simp)

theorem Message.ofJson_toJson (m : Message) : Message.ofJson? m.toJson = some m := by
  simp [Message.ofJson?, Message.toJson, fieldValues_of_names, required_some, User.ofJson_toJson,
    Room.ofJson_toJson]

theorem Message.spelled_toJson (m : Message) : m.toJson.Spelled :=
  Json.spelled_obj (by simp [User.spelled_toJson, Room.spelled_toJson])

end Messages

section Rules

def Rule.settled (r : Rule) : Rule :=
  { r with createdAt := r.createdAt.settled }

theorem Rule.settled_eq_self_iff {r : Rule} : r.settled = r ↔ r.createdAt.IsPlaced := by
  rw [← Instant.settled_eq_self_iff]
  refine ⟨congrArg Rule.createdAt, fun h => ?_⟩
  rw [Rule.settled, h]

theorem Rule.isPlaced_of_ofJson {v : Json} {r : Rule} (h : Rule.ofJson? v = some r) :
    r.createdAt.IsPlaced := by
  simp only [Rule.ofJson?, Option.bind_eq_bind, Option.bind_eq_some_iff] at h
  obtain ⟨fields, -, h⟩ := h
  split at h
  · simp only [Option.bind_eq_some_iff] at h
    obtain ⟨id, -, name, -, author, -, created, hc, enabled, -, trigger, -, actions, -, h⟩ := h
    cases h
    obtain ⟨v, -, hv⟩ := Option.bind_eq_some_iff.mp hc
    exact Instant.isPlaced_of_ofJson hv
  · cases h

theorem Rule.ofJson_toJson (r : Rule) : Rule.ofJson? r.toJson = some r.settled := by
  have ha := Action.listOfJson_listToJson (show 1 + 1 < Json.depthLimit by decide) r.actions
  simp [Rule.ofJson?, Rule.toJson, fieldValues_of_names, required_some, optional_map_str,
    Json.orElse, Json.bool?, Instant.ofJson_toJson, Trigger.ofJson_toJson, ha, Rule.settled]

theorem Rule.spelled_toJson (r : Rule) : r.toJson.Spelled := by
  refine Json.spelled_obj ?_
  simp [Trigger.spelled_toJson, Action.spelled_listToJson, Instant.toJson, Json.spelled_bool]

end Rules

section Steps

theorem Cue.ofJson_toJson (c : Cue) : Cue.ofJson? c.toJson = some c := by
  simp [Cue.ofJson?, Cue.toJson, fieldValues_of_names, required_some, optional_map_str,
    EventKind.ofJson_toJson]

theorem Cue.spelled_toJson (c : Cue) : c.toJson.Spelled :=
  Json.spelled_obj (by simp [EventKind.toJson])

theorem Response.ofJson_toJson (r : Response) : Response.ofJson? r.toJson = some r := by
  simp [Response.ofJson?, Response.toJson, fieldValues_of_names, required_some, optional_map_str,
    ResponseKind.ofJson_word]

theorem Response.spelled_toJson (r : Response) : r.toJson.Spelled :=
  Json.spelled_obj (by simp)

theorem Step.ofJson_toJson (s : Step) : Step.ofJson? s.toJson = some s := by
  simp [Step.ofJson?, Step.toJson, fieldValues_of_names, required_some, Cue.ofJson_toJson,
    Response.ofJson_toJson]

theorem Step.spelled_toJson (s : Step) : s.toJson.Spelled :=
  Json.spelled_obj (by simp [Cue.spelled_toJson, Response.spelled_toJson])

theorem Step.listOfJson_listToJson (steps : List Step) :
    Step.listOfJson? (Step.listToJson steps) = some steps :=
  Json.list_map Step.ofJson_toJson steps

theorem Step.spelled_listToJson (steps : List Step) : (Step.listToJson steps).Spelled :=
  Json.spelled_list Step.spelled_toJson steps

theorem Reply.ofJson_toJson (r : Reply) : Reply.ofJson? r.toJson = some r := by
  have hp : Json.optional Step.listOfJson? (r.preview.map Step.listToJson) = some r.preview := by
    cases r.preview with
    | none => rfl
    | some steps =>
      exact congrArg (Option.map some) (Step.listOfJson_listToJson steps)
  simp [Reply.ofJson?, Reply.toJson, fieldValues_of_names, hp, required_some]

theorem Reply.spelled_toJson (r : Reply) : r.toJson.Spelled := by
  have hp : ∀ v, r.preview.map Step.listToJson = some v → v.Spelled :=
    fun _ => Json.spelled_of_map_eq_some Step.spelled_listToJson
  refine Json.spelled_obj ?_
  simpa using hp

end Steps

section Outcomes

theorem Outcome.toJson_completed :
    Outcome.completed.toJson = Json.texts [("outcome", "completed")] :=
  rfl

theorem Outcome.toJson_skipped (reason : String) :
    (Outcome.skipped reason).toJson =
      Json.texts [("outcome", "skipped"), ("reason", reason)] :=
  rfl

theorem Outcome.toJson_failed (reason : String) :
    (Outcome.failed reason).toJson = Json.texts [("outcome", "failed"), ("reason", reason)] :=
  rfl

theorem Outcome.ofJsonAt_toJson {level : Nat} (h : level < Json.depthLimit) (o : Outcome) :
    Outcome.ofJsonAt? level o.toJson = some o := by
  cases o with
  | completed =>
    rw [Outcome.ofJsonAt?, toJson_completed, Json.tagged_texts (by simp) h]
    rfl
  | skipped reason =>
    have hf := Json.fieldValues_texts [("reason", reason)] (by simp)
    simp only [List.map_cons, List.map_nil] at hf
    rw [Outcome.ofJsonAt?, toJson_skipped, Json.tagged_texts (by simp) h]
    simp [hf, required_some]
  | failed reason =>
    have hf := Json.fieldValues_texts [("reason", reason)] (by simp)
    simp only [List.map_cons, List.map_nil] at hf
    rw [Outcome.ofJsonAt?, toJson_failed, Json.tagged_texts (by simp) h]
    simp [hf, required_some]

theorem Outcome.spelled_toJson (o : Outcome) : o.toJson.Spelled := by
  cases o with
  | completed => rw [toJson_completed]; exact Json.spelled_texts _
  | skipped reason => rw [toJson_skipped]; exact Json.spelled_texts _
  | failed reason => rw [toJson_failed]; exact Json.spelled_texts _

end Outcomes

structure Wire (α : Type) where
  toJson : α → Json
  ofJson? : Json → Option α

namespace Wire
variable {α : Type} {w : Wire α}

def write (w : Wire α) (a : α) : String :=
  (w.toJson a).printed

def read? (w : Wire α) (text : String) : Option α :=
  (Json.read? text.toList).bind w.ofJson?

def trigger : Wire Trigger := ⟨Trigger.toJson, Trigger.ofJson?⟩
def action : Wire Action := ⟨Action.toJson, Action.ofJson?⟩
def actions : Wire (List Action) := ⟨Action.listToJson, Action.listOfJson? 0⟩
def rule : Wire Rule := ⟨Rule.toJson, Rule.ofJson?⟩
def step : Wire Step := ⟨Step.toJson, Step.ofJson?⟩
def steps : Wire (List Step) := ⟨Step.listToJson, Step.listOfJson?⟩
def message : Wire Message := ⟨Message.toJson, Message.ofJson?⟩
def outcome : Wire Outcome := ⟨Outcome.toJson, Outcome.ofJson?⟩
def reply : Wire Reply := ⟨Reply.toJson, Reply.ofJson?⟩

/-- What any text says is said again by the text written for it, though the first may hold more than
the reader looks for. -/
def Rereads (w : Wire α) : Prop :=
  ∀ text, (w.read? text).bind (fun a => w.read? (w.write a)) = w.read? text

structure Lossless (w : Wire α) : Prop where
  back : ∀ a, w.read? (w.write a) = some a
  again : w.Rereads

theorem read_write (hs : ∀ a, (w.toJson a).Spelled) (a : α) :
    w.read? (w.write a) = w.ofJson? (w.toJson a) := by
  rw [read?, write, Json.read_printed (hs a), Option.bind_some]

theorem rereads_of (h : ∀ v a, w.ofJson? v = some a → w.read? (w.write a) = some a) :
    w.Rereads := by
  intro text
  cases hr : w.read? text with
  | none => rfl
  | some a =>
    obtain ⟨v, -, hv⟩ := Option.bind_eq_some_iff.mp hr
    exact h v a hv

theorem lossless_of (hs : ∀ a, (w.toJson a).Spelled) (hr : ∀ a, w.ofJson? (w.toJson a) = some a) :
    w.Lossless :=
  have hb : ∀ a, w.read? (w.write a) = some a := fun a => (read_write hs a).trans (hr a)
  ⟨hb, rereads_of fun _ a _ => hb a⟩

theorem read_write_rule (r : Rule) : rule.read? (rule.write r) = some r.settled :=
  (read_write Rule.spelled_toJson r).trans (Rule.ofJson_toJson r)

theorem rereads_rule : rule.Rereads :=
  rereads_of fun _ r hr => by
    rw [read_write_rule, Rule.settled_eq_self_iff.mpr (Rule.isPlaced_of_ofJson hr)]

/-- Values read back as they were written, but for the time of a rule: a leap second within a minute
reads back as the second behind it. No text is read as such a time, so what any text says is said
again by the text written for it. -/
theorem forms_read_back :
    trigger.Lossless ∧ action.Lossless ∧ actions.Lossless ∧ step.Lossless ∧ steps.Lossless ∧
      message.Lossless ∧ outcome.Lossless ∧ reply.Lossless ∧ rule.Rereads ∧
      (∀ r : Rule, rule.read? (rule.write r) = some r ↔ r.createdAt.IsPlaced) ∧
      ∀ r : Rule, rule.read? (rule.write r) =
        some { r with createdAt := r.createdAt.settled } := by
  refine ⟨lossless_of Trigger.spelled_toJson Trigger.ofJson_toJson,
    lossless_of Action.spelled_toJson (Action.ofJsonAt_toJson (by decide)),
    lossless_of Action.spelled_listToJson (Action.listOfJson_listToJson (by decide)),
    lossless_of Step.spelled_toJson Step.ofJson_toJson,
    lossless_of Step.spelled_listToJson Step.listOfJson_listToJson,
    lossless_of Message.spelled_toJson Message.ofJson_toJson,
    lossless_of Outcome.spelled_toJson (Outcome.ofJsonAt_toJson (by decide)),
    lossless_of Reply.spelled_toJson Reply.ofJson_toJson, rereads_rule, fun r => ?_,
    read_write_rule⟩
  rw [read_write_rule, Option.some.injEq]
  exact Rule.settled_eq_self_iff

def strayRule : Rule :=
  ⟨"r1", none, "U1", ⟨4, 1333333333, by decide, by decide, by decide⟩, true, .onMessage, [.delete]⟩

theorem stray_leap_second_read_as_next :
    strayRule.createdAt.print = "1970-01-01T00:00:05.333333333Z".toList ∧
      rule.read? (rule.write strayRule) = some { strayRule with
        createdAt := ⟨5, 333333333, by decide, by decide, by decide⟩ } ∧
      ¬ rule.Lossless := by
  have hread := read_write_rule strayRule
  have hnext : strayRule.settled = { strayRule with
      createdAt := ⟨5, 333333333, by decide, by decide, by decide⟩ } := by
    decide +kernel
  rw [hnext] at hread
  refine ⟨by decide +kernel, hread, fun h => ?_⟩
  have hsame := Option.some.inj (hread.symm.trans (h.back strayRule))
  exact absurd (congrArg (fun r : Rule => r.createdAt.seconds) hsame) (by decide)

example : action.read? " [\"post\", \"channel\", \"\\u00e9\"] " =
    some (.post "channel" "é") := by
  decide +kernel

end Wire

end ChatRules
