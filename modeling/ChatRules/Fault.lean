import ChatRules.Rule

namespace ChatRules

inductive ParseFault
  | emptyCommand
  | notRecognised
  deriving DecidableEq, Repr

namespace ParseFault

def message : ParseFault → String
  | .emptyCommand => "empty command"
  | .notRecognised => "no trigger/action pair recognised"

end ParseFault

inductive ActionPart
  | target
  | text
  deriving DecidableEq, Repr

namespace ActionPart

def word : ActionPart → String
  | .target => "target"
  | .text => "text"

end ActionPart

inductive Fault
  | parse (cause : ParseFault)
  | noActions
  | unknownKind (kind : String)
  | missing (spec : String) (part : ActionPart)
  | ruleNotFound (id : String)
  | targetNotFound (target : String)
  | emptyRule (id : String)
  | store (reason : String)
  | host (reason : String)
  deriving DecidableEq, Repr

namespace Fault

def message : Fault → String
  | .parse cause => "failed to parse command: " ++ cause.message
  | .noActions => "a rule needs at least one action"
  | .unknownKind kind => "unknown action kind `" ++ kind ++ "`"
  | .missing spec part => "invalid action `" ++ spec ++ "`: missing " ++ part.word
  | .ruleNotFound id => "rule not found: " ++ id
  | .targetNotFound target => "action target not found: " ++ target
  | .emptyRule id => "invalid rule state for " ++ id ++ ": rule has no actions"
  | .store reason => "storage error: " ++ reason
  | .host reason => "host error: " ++ reason

def isInput : Fault → Bool
  | .parse _ | .noActions | .unknownKind _ | .missing _ _ => true
  | _ => false

end Fault

namespace Rule

def check (r : Rule) : Except Fault Unit :=
  if r.actions = [] then .error .noActions else .ok ()

def draft (stamp : Stamp) (author : String) (trigger : Trigger) (actions : List Action) :
    Except Fault Rule :=
  if actions = [] then .error .noActions
  else .ok ⟨stamp.id, none, author, stamp.time, true, trigger, actions⟩

end Rule

namespace Action

def needed (kind : String) (part : ActionPart) : Option String → Except Fault String
  | none => .error (.missing kind part)
  | some v => if v = "" then .error (.missing kind part) else .ok v

end Action

end ChatRules
