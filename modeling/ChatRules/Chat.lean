namespace ChatRules

structure User where
  id : String
  handle : String
  deriving DecidableEq, Repr

structure Room where
  id : String
  name : String
  deriving DecidableEq, Repr

structure Message where
  id : String
  text : String
  sender : User
  room : Room
  deriving DecidableEq, Repr

def stripSign (sign : Char) (name : String) : String :=
  match name.toList with
  | c :: rest => if c = sign then String.ofList rest else name
  | [] => name

end ChatRules
