import ChatRules.Program.Identifier
import ChatRules.Program.Run
import Std.Time.DateTime.Timestamp

namespace ChatRules.Program

def readSource (path : String) : IO Settings.Source := do
  try
    return .text (← IO.FS.readFile path)
  catch
    | .noFileOrDirectory .. => return .missing
    | _ => return .unreadable

def readVariables : IO (String → Option String) := do
  let file ← match ← readSource ".env" with
    | .text s => pure s
    | _ => pure ""
  let names := Settings.variableNames ++ Variables.mentioned file
  let outer ← names.filterMapM fun name => do
    return (← IO.getEnv name).map fun value => (name, value)
  return Variables.extend (Variables.get? outer) file

def currentTime : IO Instant := do
  let nanos := (← Std.Time.Timestamp.now).toNanosecondsSinceUnixEpoch.val
  return (Instant.of? (nanos / 1000000000) (nanos % 1000000000).toNat).getD .epoch

def freshStamps : IO (Nat → Stamp) := do
  let bytes ← IO.getRandomBytes 16
  return Identifier.stamps (bytes.toList.foldl (fun n b => n * 256 + b.toNat) 0) (← currentTime)

structure Keeper where
  path : Option String
  table : IO.Ref Table

namespace Keeper

def save (k : Keeper) : IO Unit := do
  if let some path := k.path then
    IO.FS.writeFile path (← k.table.get).toText

def openFile (s : Settings) : IO (Option Keeper) := do
  if s.isTransient then return some ⟨none, ← IO.mkRef []⟩
  let folder := (s.database.splitOn "/").dropLast
  if folder ≠ [] then IO.FS.createDirAll (String.intercalate "/" folder ++ "/")
  let table := match ← readSource s.database with
    | .missing => some []
    | .unreadable => none
    | .text text => Table.ofText? text
  match table with
  | none => return none
  | some table =>
    let keeper : Keeper := ⟨some s.database, ← IO.mkRef table⟩
    keeper.save
    return some keeper

def perform {α : Type} (k : Keeper) (script : Script α) : IO α := do
  let (a, table) := script.run Table.backend (← k.table.get)
  k.table.set table
  k.save
  return a

end Keeper

def finish (ending : Ending) : IO UInt32 := do
  IO.print ending.shown
  return ending.code.toUInt32

def fail (reason : String) : IO UInt32 := do
  IO.eprintln ("Error: " ++ reason)
  finish .failed

def runWorkflow (k : Keeper) (sender : User) (yes : Bool) (words : List String) : IO UInt32 := do
  match ← k.perform (command (← freshStamps) sender words) with
  | .failed => fail "workflow command failed"
  | .done text => finish (.ofLines [text])
  | .asks text steps =>
    IO.println text
    let approved ← if yes then pure true else do
      IO.print question
      (← IO.getStdout).flush
      pure (isYes (← (← IO.getStdin).getLine).toList)
    match ← k.perform (decide (← freshStamps) sender steps approved) with
    | some text => finish (.ofLines [text])
    | none => fail "workflow command failed"

partial def runListener (c : Console) (k : Keeper) (l : Listener) : IO UInt32 := do
  let line ← (← IO.getStdin).getLine
  if line.isEmpty then return 0
  let (shown, l) ← k.perform (Listener.hear c (← freshStamps) line.toList l)
  shown.forM IO.println
  (← IO.getStdout).flush
  runListener c k l

def runTask (settings : Settings) (k : Keeper) : Task → IO UInt32
  | .workflow sender yes words =>
    runWorkflow k (settings.console.directory.user sender) yes words
  | .simulate room user words => do
    finish (← k.perform (simulate settings.console room user words))
  | .listen => runListener settings.console k .start
  | .examples => finish (.ofLines exampleLines)

def runInvocation (env : String → Option String) (inv : Invocation) : IO UInt32 := do
  match Settings.load env (← readSource inv.config) with
  | none => fail ("failed to read " ++ inv.config)
  | some settings =>
    if inv.task = .examples then finish (.ofLines exampleLines)
    else
      match ← (try Keeper.openFile settings catch _ => pure none) with
      | none => fail ("failed to open database " ++ settings.database)
      | some k => runTask settings k inv.task

end ChatRules.Program

open ChatRules in
def main (args : List String) : IO UInt32 := do
  let env ← Program.readVariables
  match Invocation.read args with
  | .ok inv => Program.runInvocation env inv
  | .error fault =>
    if !fault.isWish then IO.eprintln ("error: " ++ fault.message)
    Program.finish (.ofFault fault)
