import ChatRules.Fault
import ChatRules.Pattern.Search
import ChatRules.Text.Blank
import ChatRules.Text.Lowercase

/-!
When a trigger fires: it listens for messages, asks for something, and everything it asks for holds.
Conditions are looked at in a fixed order and the first that does not hold decides, so a pattern that
cannot be read is noticed only where all before it holds.
-/

namespace ChatRules

namespace Trigger
open Text

def asks (condition : Option String) (holds : String → Bool) : Bool :=
  match populated? condition with
  | none => true
  | some value => holds value

def roomHolds (t : Trigger) (m : Message) : Bool :=
  asks t.room fun value =>
    m.room.id == stripSign '#' value || m.room.name == stripSign '#' value

def userHolds (t : Trigger) (m : Message) : Bool :=
  asks t.user fun value =>
    m.sender.id == stripSign '@' value || m.sender.handle == stripSign '@' value

def containsHolds (t : Trigger) (m : Message) : Bool :=
  asks t.contains fun value => isInfix (lower value.toList) (lower m.text.toList)

def startHolds (t : Trigger) (m : Message) : Bool :=
  asks t.startsWith fun value => (lower value.toList).isPrefixOf (lower m.text.toList)

/-- Whether the pattern occurs in the text, in any letter case, or the pattern itself where it
cannot be read. -/
def regexHolds (t : Trigger) (m : Message) : Except String Bool :=
  match populated? t.regex with
  | none => .ok true
  | some value =>
    match Pattern.read value.toList with
    | .error _ => .error value
    | .ok pattern => .ok (pattern.occursIn m.text.toList)

def evaluate (t : Trigger) (m : Message) : Except String Bool :=
  if t.kind ≠ .message ∨ t.isEmpty then .ok false
  else if t.roomHolds m && t.userHolds m && t.containsHolds m && t.startHolds m then t.regexHolds m
  else .ok false

def fires (t : Trigger) (m : Message) : Bool :=
  (t.evaluate m).toOption.getD false

end Trigger

end ChatRules
