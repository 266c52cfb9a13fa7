import ChatRules.Outcome
import ChatRules.Matching
import ChatRules.Store.Call

namespace ChatRules

structure RuleFailure where
  ruleId : String
  reason : String
  deriving DecidableEq, Repr

structure Dispatch where
  eventId : String
  ignoredSelf : Bool
  considered : Nat
  matched : List String
  executed : List RuleReport
  failed : List RuleFailure
  deriving DecidableEq, Repr

namespace Dispatch

def start (eventId : String) : Dispatch :=
  ⟨eventId, false, 0, [], [], []⟩

def isTried (rule : Rule) : Bool :=
  rule.enabled && rule.trigger.kind == .message

def note (d : Dispatch) (rule : Rule) : Except Fault RuleReport → Dispatch
  | .ok report => { d with matched := d.matched ++ [rule.id], executed := d.executed ++ [report] }
  | .error fault =>
    { d with
      matched := d.matched ++ [rule.id]
      failed := d.failed ++ [⟨rule.id, fault.message⟩] }

def runRules (host : Host) (message : Message) : Dispatch → List Rule → List HostCall × Dispatch
  | d, [] => ([], d)
  | d, rule :: rest =>
    if isTried rule then
      let d := { d with considered := d.considered + 1 }
      if rule.trigger.fires message then
        let work := rule.run host message
        let (calls, d) := runRules host message (d.note rule work.result) rest
        (work.calls ++ calls, d)
      else runRules host message d rest
    else runRules host message d rest

def isOwn (host : Host) (message : Message) : Bool :=
  match host.appUser with
  | .ok (some app) => app.id == message.sender.id
  | _ => false

/-- The rules are loaded for each message anew; only when that fails does the dispatch fail. -/
def run (host : Host) (rules : Except Fault (List Rule)) (message : Message) : Work Dispatch :=
  if isOwn host message then
    ⟨[.appUser], .ok { start message.id with ignoredSelf := true }⟩
  else
    match rules with
    | .error fault => ⟨[.appUser], .error fault⟩
    | .ok rules =>
      let (calls, d) := runRules host message (start message.id) rules
      ⟨.appUser :: calls, .ok d⟩

/-- The host is asked first, and for the automation's own messages no rules are loaded. -/
def cycle (host : Host) (message : Message) : Script (Work Dispatch) :=
  if isOwn host message then .done (run host (.ok []) message)
  else .call .all fun rules => .done (run host rules message)

end Dispatch

end ChatRules
