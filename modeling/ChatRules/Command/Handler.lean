import ChatRules.Command.CreateForm
import ChatRules.Command.Reply
import ChatRules.Command.Wording
import ChatRules.Sentence.Reading
import ChatRules.Store.Call

namespace ChatRules.Command
open Text

def notFound (id : String) : Reply :=
  .say ("Workflow with ID " ++ id ++ " not found")

def triggerText (t : Trigger) : String :=
  t.toJson.printed

def actionsText (actions : List Action) : String :=
  (Action.listToJson actions).printed

def need {α β : Type} (answer : Except Fault α) (next : α → Script (Except Fault β)) :
    Script (Except Fault β) :=
  match answer with
  | .ok a => next a
  | .error fault => .done (.error fault)

def store (rule : Rule) (next : Script (Except Fault Reply)) : Script (Except Fault Reply) :=
  .call (.create rule) fun answer => need answer fun _ => next

def createdText (rule : Rule) : String :=
  "Workflow created with ID: " ++ rule.id ++ "\nTrigger: " ++ triggerText rule.trigger ++
    "\nActions: " ++ actionsText rule.actions

def create (stamp : Stamp) (sender : User) (tokens : List (List Char)) :
    Script (Except Fault Reply) :=
  if tokens = [] then .done (.ok (.say usageText))
  else
    match CreateForm.read tokens with
    | .error fault =>
      .done (if fault.isInput then .ok (.say ("Error: " ++ fault.message)) else .error fault)
    | .ok (trigger, actions) =>
      if actions = [] then .done (.ok (.say "Error: At least one action must be specified"))
      else
        need (Rule.draft stamp sender.id trigger actions) fun rule =>
          store rule (.done (.ok (.say (createdText rule))))

def listedText (rule : Rule) : String :=
  "\n\nID: " ++ rule.id ++ "\nStatus: " ++ (if rule.enabled then "Enabled" else "Disabled") ++
    "\nTrigger: " ++ triggerText rule.trigger ++ "\nActions: " ++ actionsText rule.actions

def listText (rules : List Rule) : String :=
  if rules = [] then "No workflows found"
  else "Workflows:" ++ String.join (rules.map listedText)

def list : Script (Except Fault Reply) :=
  .call .all fun answer => need answer fun rules => .done (.ok (.say (listText rules)))

def delete (id : String) : Script (Except Fault Reply) :=
  .call (.get id) fun answer => need answer fun
    | none => .done (.ok (notFound id))
    | some _ =>
      .call (.delete id) fun answer => need answer fun _ =>
        .done (.ok (.say ("Workflow " ++ id ++ " deleted")))

def setEnabled (id : String) (enabled : Bool) : Script (Except Fault Reply) :=
  .call (.get id) fun answer => need answer fun
    | none => .done (.ok (notFound id))
    | some rule =>
      .call (.update { rule with enabled := enabled }) fun answer => need answer fun _ =>
        .done (.ok (.say ("Workflow " ++ id ++ (if enabled then " enabled" else " disabled"))))

def previewStep (index : Nat) (step : Step) : String :=
  "\n\nStep " ++ toString (index + 1) ++ ":\n" ++ step.describe

def previewText (steps : List Step) : String :=
  "Workflow preview. Here's what I understood:" ++
    String.join (steps.mapIdx previewStep)

def english (sentence : List Char) : Reply :=
  if trim sentence = [] then .say emptySentenceText
  else
    match Sentence.steps? sentence with
    | .ok steps => ⟨previewText steps, some steps⟩
    | .error _ => .say notUnderstoodText

def aboutRule (ids : List (List Char)) (run : String → Script (Except Fault Reply)) :
    Script (Except Fault Reply) :=
  match ids with
  | id :: _ => run (String.ofList id)
  | [] => .done (.ok (.say usageText))

def joinBlank : List (List Char) → List Char
  | [] => []
  | [w] => w
  | w :: rest => w ++ ' ' :: joinBlank rest

def execute (stamp : Stamp) (sender : User) : List (List Char) → Script (Except Fault Reply)
  | [] => .done (.ok (.say helpText))
  | sub :: rest =>
    let word := lower sub
    if word = "create".toList then create stamp sender rest
    else if word = "list".toList then list
    else if word = "delete".toList then aboutRule rest delete
    else if word = "enable".toList ∨ word = "disable".toList then
      aboutRule rest fun id =>
        setEnabled id (equalIgnoringAsciiCase sub "enable".toList)
    else if word = "english".toList then .done (.ok (english (joinBlank rest)))
    else .done (.ok (.say helpText))

/-- Runs a command that is given as a line. A sentence is not cut into tokens. -/
def executeLine (stamp : Stamp) (sender : User) (line : List Char) :
    Script (Except Fault Reply) :=
  let line := trim line
  let (sub, rest) := match cutAtBlank line with
    | some (sub, rest) => (sub, trim rest)
    | none => (line, [])
  if equalIgnoringAsciiCase sub "english".toList then
    .done (.ok (english (Token.unquoteTrimmed rest)))
  else execute stamp sender (sub :: Token.split rest)

def approvedText (ids : List String) : String :=
  "Created " ++ toString ids.length ++ " workflow(s) successfully!" ++
    String.join (ids.map ("\n  " ++ ·))

/-- The ids stored so far are given last first; the stamps are numbered on. -/
def approveFrom (stamps : Nat → Stamp) (sender : User) :
    List String → List Step → Script (Except Fault Reply)
  | ids, [] => .done (.ok (.say (approvedText ids.reverse)))
  | ids, step :: rest =>
    need (step.rule (stamps ids.length) sender.id) fun rule =>
      store rule (approveFrom stamps sender (rule.id :: ids) rest)

def approve (stamps : Nat → Stamp) (sender : User) (steps : List Step) :
    Script (Except Fault Reply) :=
  approveFrom stamps sender [] steps

def cancel : Reply :=
  .say "Workflow creation cancelled."

end ChatRules.Command
