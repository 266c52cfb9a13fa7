import ChatRules.Config.Settings
import ChatRules.Config.Variables
import ChatRules.Console.Listener
import ChatRules.Invocation.Help
import ChatRules.Invocation.Reader
import ChatRules.Program.Disk

namespace ChatRules

structure Ending where
  shown : String
  code : Nat
  deriving DecidableEq, Repr

namespace Ending

def failed : Ending :=
  ⟨"", 1⟩

def ofFault (fault : Invocation.Fault) : Ending :=
  match fault.answer? with
  | some text => ⟨text, 0⟩
  | none => ⟨"", 2⟩

def ofLines (lines : List String) : Ending :=
  ⟨String.join (lines.map (· ++ "\n")), 0⟩

end Ending

namespace Settings

inductive Source
  | missing
  | unreadable
  | text (s : String)
  deriving DecidableEq, Repr

def load (env : String → Option String) : Source → Option Settings
  | .missing => some (default.override env)
  | .unreadable => none
  | .text s => (read? s).map (override env)

def isTransient (s : Settings) : Bool :=
  s.database = "" || s.database = ":memory:"

def console (s : Settings) : Console :=
  .ofDirectory s.directory s.app

end Settings

namespace Program
open Text

def question : String := "\nCreate these workflows? [y/N] "

def isYes (answer : List Char) : Bool :=
  lower (trim answer) == ['y'] || lower (trim answer) == "yes".toList

inductive Command
  | failed
  | done (text : String)
  | asks (text : String) (steps : List Step)

namespace Command

def ofAnswer : Except Fault Reply → Command
  | .error _ => .failed
  | .ok ⟨text, none⟩ => .done text
  | .ok ⟨text, some steps⟩ => .asks text steps

end Command

def command (stamps : Nat → Stamp) (sender : User) (words : List String) : Script Command :=
  (ChatRules.Command.execute (stamps 0) sender (words.map String.toList)).andThen fun answer =>
    .done (.ofAnswer answer)

def decide (stamps : Nat → Stamp) (sender : User) (steps : List Step) (yes : Bool) :
    Script (Option String) :=
  if yes then
    (ChatRules.Command.approve stamps sender steps).andThen fun answer =>
      .done (answer.toOption.map Reply.text)
  else .done (some ChatRules.Command.cancel.text)

def workflow (stamps : Nat → Stamp) (sender : User) (yes : Bool) (words : List String)
    (answer : List Char) : Script Ending :=
  (command stamps sender words).andThen fun
    | .failed => .done .failed
    | .done text => .done (.ofLines [text])
    | .asks text steps =>
      let shown := text ++ "\n" ++ if yes then "" else question
      (decide stamps sender steps (yes || isYes answer)).andThen fun
        | some text => .done ⟨shown ++ text ++ "\n", 0⟩
        | none => .done ⟨shown, 1⟩

def summary (d : Dispatch) : List String :=
  if d.ignoredSelf then ["message from the app user ignored"]
  else
    (toString d.considered ++ " rule(s) considered, " ++ toString d.matched.length ++
      " matched, " ++ toString d.failed.length ++ " failed") ::
        d.failed.map fun f => "  " ++ f.ruleId ++ ": " ++ f.reason

def joinBlank (words : List String) : String :=
  String.intercalate " " words

def simulate (c : Console) (room user : String) (words : List String) : Script Ending :=
  let message : Message :=
    ⟨"simulated", joinBlank words, c.directory.user user, c.directory.room room⟩
  (Dispatch.cycle c.host message).andThen fun work =>
    match work.result with
    | .error _ => .done ⟨(Ending.ofLines (Console.lines work.calls)).shown, 1⟩
    | .ok d => .done (.ofLines (Console.lines work.calls ++ summary d))

def listenFrom (c : Console) (stamps : Nat → Nat → Stamp) (n : Nat) (l : Listener) :
    List (List Char) → Script (List String)
  | [] => .done []
  | line :: rest =>
    (Listener.hear c (stamps n) line l).andThen fun (shown, l) =>
      (listenFrom c stamps (n + 1) l rest).andThen fun more => .done (shown ++ more)

/-- The lines of a text; a line end at its very end starts no further line. -/
def inputLines (input : List Char) : List (List Char) :=
  let lines := Path.splitAt '\n' input
  if lines.getLast? = some [] then lines.dropLast else lines

def exampleLines : List String :=
  "Example English commands:" ::
    ChatRules.Command.examples.map fun e => "  chatflow workflow english '" ++ e ++ "'"

def perform (c : Console) (stamps : Nat → Nat → Stamp) (input : String) : Task → Script Ending
  | .workflow sender yes words =>
    workflow (stamps 0) (c.directory.user sender) yes words
      ((inputLines input.toList).headD [])
  | .simulate room user words => simulate c room user words
  | .listen =>
    (listenFrom c stamps 0 .start (inputLines input.toList)).andThen fun shown =>
      .done (.ofLines shown)
  | .examples => .done (.ofLines exampleLines)

def open? (d : Disk) (s : Settings) : Option Table :=
  let path := Path.ofText s.database
  if s.isTransient then some []
  else if d.isFolder path || d.isBlocked path then none
  else
    match d.text? path with
    | none => some []
    | some text => Table.ofText? text

def save (d : Disk) (s : Settings) (t : Table) : Disk :=
  if s.isTransient then d else d.write (Path.ofText s.database) t.toText

def source (d : Disk) (path : Path) : Settings.Source :=
  match d.text? path with
  | some text => .text text
  | none => if d.isFolder path then .unreadable else .missing

def run (stamps : Nat → Nat → Stamp) (env : String → Option String) (input : String)
    (args : List String) (d : Disk) : Ending × Disk :=
  let env := Variables.extend env ((d.text? [".env"]).getD "")
  match Invocation.read args with
  | .error fault => (.ofFault fault, d)
  | .ok inv =>
    match Settings.load env (source d (Path.ofText inv.config)) with
    | none => (.failed, d)
    | some settings =>
      if inv.task = .examples then (.ofLines exampleLines, d)
      else
        match open? d settings with
        | none => (.failed, d)
        | some table =>
          let (ending, table) :=
            (perform settings.console stamps input inv.task).run Table.backend table
          (ending, save d settings table)

end Program

end ChatRules
