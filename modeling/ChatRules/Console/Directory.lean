import ChatRules.Chat

namespace ChatRules

structure Directory where
  users : List User
  rooms : List Room
  deriving DecidableEq, Repr

namespace Directory

def bareName (sign : Char) (name : String) : String :=
  String.ofList (name.toList.dropWhile (· = sign))

def user (d : Directory) (name : String) : User :=
  let key := bareName '@' name
  (d.users.find? fun u => u.handle == key || u.id == key).getD ⟨key, key⟩

def room (d : Directory) (name : String) : Room :=
  let key := bareName '#' name
  (d.rooms.find? fun r => r.name == key || r.id == key).getD ⟨key, key⟩

end Directory

end ChatRules
