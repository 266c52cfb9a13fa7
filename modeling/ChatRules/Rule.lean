import ChatRules.Chat
import ChatRules.Instant.Basic

namespace ChatRules

/-- What a trigger listens for. Mentions can be authored but are not dispatched. -/
inductive EventKind
  | message
  | mention
  deriving DecidableEq, Repr

/-- Conditions on a message. An absent or empty condition asks for nothing, and a trigger that asks
for nothing at all never fires. -/
structure Trigger where
  kind : EventKind
  room : Option String
  user : Option String
  contains : Option String
  startsWith : Option String
  regex : Option String
  deriving DecidableEq, Repr

namespace Trigger

def onMessage : Trigger :=
  ⟨.message, none, none, none, none, none⟩

def conditions (t : Trigger) : List (Option String) :=
  [t.room, t.user, t.contains, t.startsWith, t.regex]

def populated? (condition : Option String) : Option String :=
  condition.filter (· ≠ "")

def conditionCount (t : Trigger) : Nat :=
  (t.conditions.filter fun c => (populated? c).isSome).length

def isEmpty (t : Trigger) : Bool :=
  t.conditionCount = 0

end Trigger

inductive Action
  | direct (target text : String)
  | post (target text : String)
  | delete
  deriving DecidableEq, Repr

namespace Action

/-- The post target that stands for the room of the message. -/
def sameRoom : String := "channel"

def kind : Action → String
  | .direct _ _ => "dm"
  | .post _ _ => "post"
  | .delete => "delete"

def display : Action → String
  | .direct target text => "dm " ++ target ++ " \"" ++ text ++ "\""
  | .post target text => "post " ++ target ++ " \"" ++ text ++ "\""
  | .delete => "delete triggering message"

end Action

structure Rule where
  id : String
  name : Option String
  createdBy : String
  createdAt : Instant
  enabled : Bool
  trigger : Trigger
  actions : List Action
  deriving DecidableEq, Repr

structure Stamp where
  id : String
  time : Instant
  deriving DecidableEq, Repr

end ChatRules
