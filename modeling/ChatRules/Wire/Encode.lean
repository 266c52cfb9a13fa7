import ChatRules.Dispatch
import ChatRules.Instant.Printer
import ChatRules.Json.Printer
import ChatRules.Sentence.Step

namespace ChatRules

open Json (str obj)

def EventKind.word : EventKind → String
  | .message => "message"
  | .mention => "mention"

def EventKind.toJson (k : EventKind) : Json :=
  str k.word

def User.toJson (u : User) : Json :=
  obj [("id", str u.id), ("handle", str u.handle)]

def Room.toJson (r : Room) : Json :=
  obj [("id", str r.id), ("name", str r.name)]

def Message.toJson (m : Message) : Json :=
  obj [("id", str m.id), ("text", str m.text), ("sender", m.sender.toJson),
    ("room", m.room.toJson)]

def Trigger.toJson (t : Trigger) : Json :=
  obj [("type", t.kind.toJson), ("room", t.room.map str), ("user", t.user.map str),
    ("contains", t.contains.map str), ("startsWith", t.startsWith.map str),
    ("regex", t.regex.map str)]

def Action.toJson : Action → Json
  | .direct target content =>
    obj [("type", str "dm"), ("target", str target), ("text", str content)]
  | .post target content =>
    obj [("type", str "post"), ("target", str target), ("text", str content)]
  | .delete => obj [("type", str "delete")]

def Action.listToJson (actions : List Action) : Json :=
  .array (actions.map Action.toJson)

def Instant.toJson (t : Instant) : Json :=
  str (String.ofList t.print)

def Rule.toJson (r : Rule) : Json :=
  obj [("id", str r.id), ("name", r.name.map str), ("createdBy", str r.createdBy),
    ("createdAt", r.createdAt.toJson), ("enabled", Json.bool r.enabled),
    ("trigger", r.trigger.toJson), ("actions", Action.listToJson r.actions)]

def Cue.toJson (c : Cue) : Json :=
  obj [("type", c.kind.toJson), ("pattern", str c.pattern), ("user", c.user.map str),
    ("room", c.room.map str)]

def ResponseKind.word : ResponseKind → String
  | .message => "message"
  | .direct => "dm"

def Response.toJson (r : Response) : Json :=
  obj [("type", str r.kind.word), ("content", str r.content), ("target", r.target.map str)]

def Step.toJson (s : Step) : Json :=
  obj [("trigger", s.cue.toJson), ("action", s.response.toJson)]

def Step.listToJson (steps : List Step) : Json :=
  .array (steps.map Step.toJson)

def Outcome.toJson : Outcome → Json
  | .completed => obj [("outcome", str "completed")]
  | .skipped reason => obj [("outcome", str "skipped"), ("reason", str reason)]
  | .failed reason => obj [("outcome", str "failed"), ("reason", str reason)]

def RuleReport.toJson (r : RuleReport) : Json :=
  obj [("rule_id", str r.ruleId), ("outcomes", Json.array (r.outcomes.map Outcome.toJson))]

def RuleFailure.toJson (f : RuleFailure) : Json :=
  obj [("rule_id", str f.ruleId), ("reason", str f.reason)]

def Dispatch.toJson (d : Dispatch) : Json :=
  obj [("event_id", str d.eventId), ("ignored_self", Json.bool d.ignoredSelf),
    ("considered", Json.nat d.considered), ("matched", Json.array (d.matched.map str)),
    ("executed", Json.array (d.executed.map RuleReport.toJson)),
    ("failed", Json.array (d.failed.map RuleFailure.toJson))]

end ChatRules
