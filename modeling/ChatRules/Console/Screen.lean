import ChatRules.Console.Directory
import ChatRules.Host

namespace ChatRules

structure Console where
  directory : Directory
  app : Option User
  deriving DecidableEq, Repr

namespace Console

def ofDirectory (d : Directory) (app : Option String) : Console :=
  ⟨d, app.map d.user⟩

def host (c : Console) : Host where
  post _ _ _ := .ok ()
  direct _ _ _ := .ok ()
  remove _ := .ok ()
  userByHandle handle := .ok (c.directory.users.find? (·.handle == handle))
  roomByName name := .ok (c.directory.rooms.find? (·.name == name))
  roomById id := .ok (c.directory.rooms.find? (·.id == id))
  appUser := .ok c.app

def line? : HostCall → Option String
  | .post room sender text => some ("[#" ++ room.name ++ "] " ++ sender.handle ++ ": " ++ text)
  | .direct sender recipient text =>
    some ("[dm " ++ sender.handle ++ " -> @" ++ recipient.handle ++ "] " ++ text)
  | .remove message =>
    some ("[#" ++ message.room.name ++ "] message " ++ message.id ++ " from " ++
      message.sender.handle ++ " removed")
  | _ => none

def lines (calls : List HostCall) : List String :=
  calls.filterMap line?

def speaker (c : Console) : User :=
  c.app.getD ⟨"chatflow", "chatflow"⟩

def reply (c : Console) (room : Room) (text : String) : List String :=
  lines [.post room c.speaker text]

end Console

end ChatRules
