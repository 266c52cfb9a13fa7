import ChatRules.Dispatch
import ChatRules.Instant.Reader
import ChatRules.Sentence.Step
import ChatRules.Wire.Fields

namespace ChatRules

open Json

def User.ofJson? (v : Json) : Option User := do
  let [id, handle] ← fieldValues ["id", "handle"] v | none
  some ⟨← required string? id, ← required string? handle⟩

def Room.ofJson? (v : Json) : Option Room := do
  let [id, name] ← fieldValues ["id", "name"] v | none
  some ⟨← required string? id, ← required string? name⟩

def Message.ofJson? (v : Json) : Option Message := do
  let [id, text, sender, room] ← fieldValues ["id", "text", "sender", "room"] v | none
  some ⟨← required string? id, ← required string? text, ← required User.ofJson? sender,
    ← required Room.ofJson? room⟩

def EventKind.ofWord? (word : String) : Option EventKind :=
  if word = "message" then some .message
  else if word = "mention" then some .mention
  else none

def EventKind.ofJson? (v : Json) : Option EventKind :=
  v.word?.bind ofWord?

def Trigger.ofJson? (v : Json) : Option Trigger := do
  let [kind, room, user, contains, startsWith, regex] ←
    fieldValues ["type", "room", "user", "contains", "startsWith", "regex"] v | none
  some ⟨← orElse EventKind.ofJson? .message kind, ← optional string? room, ← optional string? user,
    ← optional string? contains, ← optional string? startsWith, ← optional string? regex⟩

/-- The action lies below the given number of levels. -/
def Action.ofJsonAt? (level : Nat) (v : Json) : Option Action := do
  let (word, parts) ← tagged "type" level v
  if word = "delete" then
    bare? parts
    some .delete
  else if word = "dm" ∨ word = "post" then
    let [target, text] ← fieldValues ["target", "text"] parts | none
    let target ← required string? target
    let text ← required string? text
    some (if word = "dm" then .direct target text else .post target text)
  else none

def Action.ofJson? : Json → Option Action :=
  Action.ofJsonAt? 0

def Action.listOfJson? (level : Nat) : Json → Option (List Action) :=
  list? (Action.ofJsonAt? (level + 1))

def Instant.ofJson? (v : Json) : Option Instant :=
  v.string?.bind fun s => Instant.readText s.toList

def Rule.ofJson? (v : Json) : Option Rule := do
  let [id, name, createdBy, createdAt, enabled, trigger, actions] ← fieldValues
    ["id", "name", "createdBy", "createdAt", "enabled", "trigger", "actions"] v | none
  some ⟨← required string? id, ← optional string? name, ← required string? createdBy,
    ← required Instant.ofJson? createdAt, ← orElse bool? true enabled,
    ← required Trigger.ofJson? trigger, ← required (Action.listOfJson? 1) actions⟩

def Cue.ofJson? (v : Json) : Option Cue := do
  let [kind, pattern, user, room] ← fieldValues ["type", "pattern", "user", "room"] v | none
  some ⟨← required EventKind.ofJson? kind, ← required string? pattern, ← optional string? user,
    ← optional string? room⟩

def ResponseKind.ofWord? (word : String) : Option ResponseKind :=
  if word = "message" then some .message
  else if word = "dm" then some .direct
  else none

def ResponseKind.ofJson? (v : Json) : Option ResponseKind :=
  v.word?.bind ofWord?

def Response.ofJson? (v : Json) : Option Response := do
  let [kind, content, target] ← fieldValues ["type", "content", "target"] v | none
  some ⟨← required ResponseKind.ofJson? kind, ← required string? content,
    ← optional string? target⟩

def Step.ofJson? (v : Json) : Option Step := do
  let [cue, response] ← fieldValues ["trigger", "action"] v | none
  some ⟨← required Cue.ofJson? cue, ← required Response.ofJson? response⟩

def Step.listOfJson? : Json → Option (List Step) :=
  list? Step.ofJson?

def Outcome.ofJsonAt? (level : Nat) (v : Json) : Option Outcome := do
  let (word, parts) ← tagged "outcome" level v
  if word = "completed" then
    bare? parts
    some .completed
  else if word = "skipped" ∨ word = "failed" then
    let [reason] ← fieldValues ["reason"] parts | none
    let reason ← required string? reason
    some (if word = "skipped" then .skipped reason else .failed reason)
  else none

def Outcome.ofJson? : Json → Option Outcome :=
  Outcome.ofJsonAt? 0

def RuleReport.ofJsonAt? (level : Nat) (v : Json) : Option RuleReport := do
  let [ruleId, outcomes] ← fieldValues ["rule_id", "outcomes"] v | none
  some ⟨← required string? ruleId, ← required (list? (Outcome.ofJsonAt? (level + 2))) outcomes⟩

def RuleReport.ofJson? : Json → Option RuleReport :=
  RuleReport.ofJsonAt? 0

def RuleFailure.ofJson? (v : Json) : Option RuleFailure := do
  let [ruleId, reason] ← fieldValues ["rule_id", "reason"] v | none
  some ⟨← required string? ruleId, ← required string? reason⟩

def Dispatch.ofJson? (v : Json) : Option Dispatch := do
  let [eventId, ignoredSelf, considered, matched, executed, failed] ← fieldValues
    ["event_id", "ignored_self", "considered", "matched", "executed", "failed"] v | none
  some ⟨← required string? eventId, ← required bool? ignoredSelf,
    ← required (natBelow? (Nat.pow 2 64)) considered, ← required (list? string?) matched,
    ← required (list? (RuleReport.ofJsonAt? 2)) executed,
    ← required (list? RuleFailure.ofJson?) failed⟩

end ChatRules
