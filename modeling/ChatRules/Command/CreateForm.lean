import ChatRules.Command.Token
import ChatRules.Fault
import ChatRules.Text.Lowercase

/-!
The form in which a rule is written as tokens: conditions `@user`, `#room`, `contains=`,
`startsWith=` and `regex=`, of which the last of each kind counts, and actions `action=`, which all
count. An action is written `kind:target=text`; `delete` needs its kind only. Other tokens are
passed over.
-/

namespace ChatRules
open Text

namespace Action

def ofKind (kind : String) (target text : Option String) : Except Fault Action :=
  let word := lower kind.toList
  if word = "dm".toList then do
    let target ← needed kind .target target
    let text ← needed kind .text text
    .ok (.direct target text)
  else if word = "post".toList then do
    let target ← needed kind .target target
    let text ← needed kind .text text
    .ok (.post target text)
  else if word = "delete".toList then .ok .delete
  else .error (.unknownKind kind)

def partsOf : Option (List Char) → Option (List Char) × Option (List Char)
  | none => (none, none)
  | some value =>
    match cutAtChar '=' value with
    | some (target, text) => (some target, some (Token.unquote text))
    | none => (if value = [] then none else some value, none)

/-- A fault names the whole text, not only its kind. -/
def namedBy (spec : String) : Fault → Fault
  | .missing _ part => .missing spec part
  | fault => fault

def ofSpec (spec : List Char) : Except Fault Action :=
  let (kind, value) := match cutAtChar ':' spec with
    | some (kind, value) => (kind, some value)
    | none => (spec, none)
  let (target, text) := partsOf value
  (ofKind (String.ofList kind) (target.map String.ofList) (text.map String.ofList)).mapError
    (namedBy (String.ofList spec))

end Action

namespace CreateForm

inductive Token
  | user (name : String)
  | room (name : String)
  | contains (text : String)
  | startsWith (text : String)
  | regex (text : String)
  | action (spec : List Char)
  | other
  deriving DecidableEq, Repr

namespace Token

def valueOf (key : String) (token : List Char) : Option (List Char) :=
  after? key.toList token

def textOf (value : List Char) : String :=
  String.ofList (ChatRules.Token.unquote value)

def ofChars (token : List Char) : Token :=
  if token.head? = some '@' then .user (String.ofList token)
  else if token.head? = some '#' then .room (String.ofList token)
  else if let some v := valueOf "contains=" token then .contains (textOf v)
  else if let some v := valueOf "startsWith=" token then .startsWith (textOf v)
  else if let some v := valueOf "regex=" token then .regex (textOf v)
  else if let some v := valueOf "action=" token then .action v
  else .other

def refine (t : Trigger) : Token → Trigger
  | .user name => { t with user := some name }
  | .room name => { t with room := some name }
  | .contains text => { t with contains := some text }
  | .startsWith text => { t with startsWith := some text }
  | .regex text => { t with regex := some text }
  | .action _ | .other => t

end Token

def readFrom (trigger : Trigger) : List Token → Except Fault (Trigger × List Action)
  | [] => .ok (trigger, [])
  | .action spec :: rest => do
    let action ← Action.ofSpec spec
    let (trigger, actions) ← readFrom trigger rest
    .ok (trigger, action :: actions)
  | token :: rest => readFrom (token.refine trigger) rest

def read (tokens : List (List Char)) : Except Fault (Trigger × List Action) :=
  readFrom .onMessage (tokens.map Token.ofChars)

end CreateForm

end ChatRules
