import ChatRules.Command.Handler
import ChatRules.Console.Line
import ChatRules.Console.Screen
import ChatRules.Dispatch

/-!
The listener: lines typed at the console, one after another. A command is answered in its room, and
a preview waits for the next line of its author, which approves it, cancels it or gives it up. Any
other line is a message and is dispatched.
-/

namespace ChatRules

structure Listener where
  waiting : List (String × List Step)
  messages : Nat
  deriving DecidableEq, Repr

abbrev Listener.Turn := List String × Listener

namespace Listener
open Text

def start : Listener :=
  ⟨[], 0⟩

def preview? (l : Listener) (author : String) : Option (List Step) :=
  (l.waiting.find? fun w => w.1 == author).map Prod.snd

def drop (l : Listener) (author : String) : Listener :=
  { l with waiting := l.waiting.filter fun w => w.1 != author }

def await (l : Listener) (author : String) (steps : List Step) : Listener :=
  { l with waiting := (author, steps) :: (l.drop author).waiting }

inductive Decision
  | approve
  | cancel
  | other
  deriving DecidableEq, Repr

def Decision.ofText (text : List Char) : Decision :=
  let word := lower text
  if word = "approve".toList ∨ word = "yes".toList then .approve
  else if word = "cancel".toList ∨ word = "no".toList then .cancel
  else .other

def commandSign : List Char := "/workflow".toList

def hint : String := "Reply `approve` to create or `cancel` to discard."

def answerText : Except Fault Reply → String
  | .ok reply => reply.text
  | .error fault => "Error: " ++ fault.message

variable (c : Console) (stamps : Nat → Stamp) (sender : User) (room : Room)

def approve (steps : List Step) (l : Listener) : Script Turn :=
  (Command.approve stamps sender steps).andThen fun answer =>
    .done (c.reply room (answerText answer), l)

def cancel (l : Listener) : Turn :=
  (c.reply room Command.cancel.text, l)

def answered (l : Listener) : Except Fault Reply → Turn
  | .ok ⟨text, some steps⟩ => (c.reply room text ++ c.reply room hint, l.await sender.id steps)
  | answer => (c.reply room (answerText answer), l)

def command (line : List Char) (l : Listener) : Script Turn :=
  (Command.executeLine (stamps 0) sender line).andThen fun answer =>
    .done (answered c sender room l answer)

def message (text : List Char) (l : Listener) : Message :=
  ⟨"m" ++ toString (l.messages + 1), String.ofList text, sender, room⟩

def dispatch (text : List Char) (l : Listener) : Script Turn :=
  (Dispatch.cycle c.host (message sender room text l)).andThen fun work =>
    .done (Console.lines work.calls, { l with messages := l.messages + 1 })

def ordinary (text : List Char) (l : Listener) : Script Turn :=
  match after? commandSign text with
  | some line => command c stamps sender room line l
  | none => dispatch c sender room text l

/-- A line of a known sender; a preview of theirs no longer waits. -/
def handle (text : List Char) (l : Listener) : Script Turn :=
  match l.preview? sender.id with
  | none => ordinary c stamps sender room text l
  | some steps =>
    match Decision.ofText text with
    | .approve => approve c stamps sender room steps (l.drop sender.id)
    | .cancel => .done (cancel c room (l.drop sender.id))
    | .other => ordinary c stamps sender room text (l.drop sender.id)

def hear (line : List Char) (l : Listener) : Script Turn :=
  match Line.read? line with
  | none => .done ([], l)
  | some line =>
    handle c stamps (c.directory.user (String.ofList line.user))
      (c.directory.room (String.ofList line.room)) line.text l

end Listener

end ChatRules
