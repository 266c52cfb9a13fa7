import ChatRules.Host

namespace ChatRules

inductive Outcome
  | completed
  | skipped (reason : String)
  | failed (reason : String)
  deriving DecidableEq, Repr

namespace Outcome

def ofResult : Except Fault Outcome → Outcome
  | .ok outcome => outcome
  | .error (.targetNotFound target) => .skipped ("target not found: " ++ target)
  | .error fault => .failed fault.message

end Outcome

structure RuleReport where
  ruleId : String
  outcomes : List Outcome
  deriving DecidableEq, Repr

namespace RuleReport

def completed (r : RuleReport) : Nat :=
  (r.outcomes.filter (· == .completed)).length

end RuleReport

namespace Action

def found {α : Type} (target : String) : Option α → Work α
  | some a => Work.done a
  | none => Work.fail (.targetNotFound target)

def roomOf (host : Host) (message : Message) (target : String) : Work (Option Room) :=
  match target.toList with
  | '#' :: name =>
    Work.ask (.roomByName (String.ofList name)) (host.roomByName (String.ofList name))
  | _ =>
    if target = sameRoom then Work.done (some message.room)
    else Work.ask (.roomById target) (host.roomById target)

def attempt (host : Host) (message : Message) : Action → Work Outcome
  | .direct target text =>
    if target = "" ∨ text = "" then
      Work.done (.skipped "direct message needs target and text")
    else do
      let handle := stripSign '@' target
      let user ← Work.ask (.userByHandle handle) (host.userByHandle handle)
      let user ← found target user
      Work.ask (.direct message.sender user text) (host.direct message.sender user text)
      Work.done .completed
  | .post target text =>
    if target = "" ∨ text = "" then Work.done (.skipped "post needs target and text")
    else do
      let room ← roomOf host message target
      let room ← found target room
      Work.ask (.post room message.sender text) (host.post room message.sender text)
      Work.done .completed
  | .delete => do
    Work.ask (.remove message) (host.remove message)
    Work.done .completed

def perform (host : Host) (message : Message) (action : Action) : List HostCall × Outcome :=
  let work := action.attempt host message
  (work.calls, .ofResult work.result)

end Action

namespace Rule

def run (host : Host) (rule : Rule) (message : Message) : Work RuleReport :=
  if rule.actions = [] then Work.fail (.emptyRule rule.id)
  else
    let performed := rule.actions.map (Action.perform host message)
    ⟨performed.flatMap Prod.fst, .ok ⟨rule.id, performed.map Prod.snd⟩⟩

end Rule

end ChatRules
