import ChatRules.Fault

namespace ChatRules

structure Cue where
  kind : EventKind
  pattern : String
  user : Option String
  room : Option String
  deriving DecidableEq, Repr

inductive ResponseKind
  | message
  | direct
  deriving DecidableEq, Repr

structure Response where
  kind : ResponseKind
  content : String
  target : Option String
  deriving DecidableEq, Repr

structure Step where
  cue : Cue
  response : Response
  deriving DecidableEq, Repr

namespace Cue

def trigger (c : Cue) : Trigger :=
  ⟨c.kind, c.room, c.user, if c.pattern = "" then none else some c.pattern, none, none⟩

def who (c : Cue) : String :=
  match c.user with
  | some u => "@" ++ u
  | none => "someone"

def place (c : Cue) : String :=
  match c.room with
  | some r => " in #" ++ r
  | none => ""

def describe (c : Cue) : String :=
  match c.kind with
  | .message => "When " ++ c.who ++ " says \"" ++ c.pattern ++ "\"" ++ c.place
  | .mention => "When " ++ c.who ++ " is mentioned" ++ c.place

end Cue

namespace Response

def postTarget : Option String → String
  | none => Action.sameRoom
  | some room =>
    if room = Action.sameRoom then room
    else if room.toList.head? = some '#' then room
    else "#" ++ room

def directMessage (target : Option String) (content : String) : Except Fault Action := do
  let target ← Action.needed "dm" .target target
  let text ← Action.needed "dm" .text (some content)
  .ok (.direct target text)

def action (r : Response) : Except Fault Action :=
  match r.kind with
  | .message => .ok (.post (postTarget r.target) r.content)
  | .direct => directMessage r.target r.content

def describe (r : Response) : String :=
  match r.kind, r.target with
  | .direct, target => "send DM \"" ++ r.content ++ "\" to @" ++ target.getD "?"
  | .message, some room =>
    if room = Action.sameRoom then "send message \"" ++ r.content ++ "\" in this channel"
    else "send message \"" ++ r.content ++ "\" to #" ++ room
  | .message, none => "send message \"" ++ r.content ++ "\" in this channel"

end Response

namespace Step

def rule (s : Step) (stamp : Stamp) (author : String) : Except Fault Rule := do
  let action ← s.response.action
  Rule.draft stamp author s.cue.trigger [action]

def describe (s : Step) : String :=
  s.cue.describe ++ "\n  -> " ++ s.response.describe

end Step

end ChatRules
