import ChatRules.Text.Blank

namespace ChatRules
open Text

structure Line where
  room : List Char
  user : List Char
  text : List Char
  deriving DecidableEq, Repr

namespace Line

def named? (sign : Char) (word : List Char) : Option (List Char) :=
  (after? [sign] word).filter (· ≠ [])

def read? (s : List Char) : Option Line := do
  let (room, rest) ← cutAtBlank (trim s)
  let (user, text) ← cutAtBlank (trimLeft rest)
  let room ← named? '#' room
  let user ← named? '@' user
  if trim text = [] then none else some ⟨room, user, trim text⟩

end Line

end ChatRules
