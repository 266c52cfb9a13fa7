import ChatRules.Json.Reader
import ChatRules.Store.Call
import ChatRules.Store.LooseJson
import ChatRules.Store.Memory
import ChatRules.Wire.Decode
import ChatRules.Wire.Encode

/-!
A store that is a table of rows, in the order of their creation. A row holds trigger and actions as
JSON text and the time in whole milliseconds, so a row that was written past the store may not read
back as a rule.
-/

namespace ChatRules

inductive JsonColumn
  | trigger
  | actions
  deriving DecidableEq, Repr

inductive TableFault
  | noActions
  | notFound (id : String)
  | badTime (id : String) (millis : Int)
  | undecodable {column : JsonColumn}
  | duplicateId
  | missingColumn (name : String)
  | malformedActions
  | emptyActions
  deriving DecidableEq, Repr

namespace TableFault

def message : TableFault → String
  | .noActions => "invalid argument: a rule needs at least one action"
  | .notFound id => "rule not found: " ++ id
  | .badTime id millis =>
    "invalid argument: rule " ++ id ++ " has an out-of-range created_at: " ++ toString millis
  | .undecodable => "json error"
  | .duplicateId => "sqlite error: UNIQUE constraint failed: rules.id"
  | .missingColumn name => "sqlite error: NOT NULL constraint failed: rules." ++ name
  | .malformedActions => "sqlite error: malformed JSON"
  | .emptyActions =>
    "sqlite error: CHECK constraint failed: json_array_length(actions) > 0"

def toFault : TableFault → Fault
  | .notFound id => .ruleNotFound id
  | fault => .store fault.message

end TableFault

structure Row where
  id : String
  name : Option String
  createdBy : String
  createdAt : Int
  enabled : Bool
  trigger : String
  actions : String
  deriving DecidableEq, Repr

namespace Row

def ofRule (r : Rule) : Row :=
  ⟨r.id, r.name, r.createdBy, r.createdAt.millis, r.enabled, r.trigger.toJson.printed,
    (Action.listToJson r.actions).printed⟩

def trigger? (r : Row) : Option Trigger :=
  (Json.read? r.trigger.toList).bind Trigger.ofJson?

def actions? (r : Row) : Option (List Action) :=
  (Json.read? r.actions.toList).bind (Action.listOfJson? 0)

/-- The rule of a row. The time is looked at before the trigger, and that before the actions. -/
def rule (r : Row) : Except TableFault Rule :=
  match Instant.ofMillis? r.createdAt with
  | none => .error (.badTime r.id r.createdAt)
  | some time =>
    match r.trigger?, r.actions? with
    | some trigger, some actions =>
      .ok ⟨r.id, r.name, r.createdBy, time, r.enabled, trigger, actions⟩
    | none, _ => .error (@TableFault.undecodable .trigger)
    | some _, none => .error (@TableFault.undecodable .actions)

def revise (r new : Row) : Row :=
  { r with name := new.name, enabled := new.enabled, trigger := new.trigger, actions := new.actions }

end Row

structure RawRow where
  id : Option String
  name : Option String
  createdBy : Option String
  createdAt : Option Int
  enabled : Option Int
  trigger : Option String
  actions : Option String
  deriving DecidableEq, Repr

namespace RawRow

def need {α : Type} (name : String) : Option α → Except TableFault α
  | some a => .ok a
  | none => .error (.missingColumn name)

/-- The checks of the table, in their order: columns that must not be missing, then the actions. -/
def check (r : RawRow) : Except TableFault Row := do
  let id ← need "id" r.id
  let createdBy ← need "created_by" r.createdBy
  let createdAt ← need "created_at" r.createdAt
  let enabled ← need "enabled" r.enabled
  let trigger ← need "trigger" r.trigger
  let actions ← need "actions" r.actions
  match LooseJson.arrayLength? actions.toList with
  | none => .error .malformedActions
  | some 0 => .error .emptyActions
  | some _ => .ok ⟨id, r.name, createdBy, createdAt, enabled != 0, trigger, actions⟩

end RawRow

abbrev Table := List Row

namespace Table

def has (id : String) (t : Table) : Bool :=
  t.any (·.id == id)

def append (row : Row) (t : Table) : Except TableFault Table :=
  if t.has row.id then .error .duplicateId else .ok (t ++ [row])

def change (id : String) (f : Row → Row) (t : Table) : Table :=
  t.map fun r => if r.id = id then f r else r

def insertRaw (row : RawRow) (t : Table) : Except TableFault Table := do
  append (← row.check) t

def create (rule : Rule) (t : Table) : Except TableFault Table :=
  if rule.actions = [] then .error .noActions else append (Row.ofRule rule) t

def get (id : String) (t : Table) : Except TableFault (Option Rule) :=
  match t.find? (·.id == id) with
  | none => .ok none
  | some row => row.rule.map some

def list (t : Table) : Except TableFault (List Rule) :=
  t.mapM Row.rule

def update (rule : Rule) (t : Table) : Except TableFault Table :=
  if rule.actions = [] then .error .noActions
  else if t.has rule.id then .ok (t.change rule.id (·.revise (Row.ofRule rule)))
  else .error (.notFound rule.id)

def setEnabled (id : String) (enabled : Bool) (t : Table) : Except TableFault Table :=
  if t.has id then .ok (t.change id fun r => { r with enabled := enabled })
  else .error (.notFound id)

def delete (id : String) (t : Table) : Except TableFault Table :=
  if t.has id then .ok (t.filter (·.id != id)) else .error (.notFound id)

def count (t : Table) : Nat :=
  t.length

def lift {α : Type} (r : Except TableFault α) : Except Fault α :=
  r.mapError TableFault.toFault

/-- The table behind the calls of commands and dispatches, which check a rule first. -/
def backend : Backend Table
  | .all, t => (lift t.list, t)
  | .get id, t => (lift (t.get id), t)
  | .create rule, t => Memory.commit t (rule.check.bind fun _ => lift (t.create rule))
  | .update rule, t => Memory.commit t (rule.check.bind fun _ => lift (t.update rule))
  | .delete id, t => Memory.commit t (lift (t.delete id))

end Table

end ChatRules
