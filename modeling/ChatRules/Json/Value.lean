namespace ChatRules

/-- The text of a string literal, or nothing where its escapes do not spell characters. -/
abbrev Literal := Option String

inductive Json
  | null
  | bool (b : Bool)
  | number (digits : String)
  | string (s : Literal)
  | array (items : List Json)
  | object (fields : List (Literal × Json))
  deriving Repr

namespace Json

def str (s : String) : Json :=
  .string (some s)

def nat (n : Nat) : Json :=
  .number (toString n)

def obj (fields : List (String × Option Json)) : Json :=
  .object (fields.filterMap fun f => f.2.map fun v => (some f.1, v))

def get? (name : String) : Json → Option Json
  | .object fields => (fields.reverse.find? fun f => f.1 == some name).map Prod.snd
  | _ => none

mutual

def depth : Json → Nat
  | .array items => depthItems items + 1
  | .object fields => depthFields fields + 1
  | _ => 0

def depthItems : List Json → Nat
  | [] => 0
  | v :: rest => max v.depth (depthItems rest)

def depthFields : List (Literal × Json) → Nat
  | [] => 0
  | (_, v) :: rest => max v.depth (depthFields rest)

end

end Json

end ChatRules
