import ChatRules.Json.Value

namespace ChatRules.Json

def hexDigit (n : Nat) : Char :=
  Char.ofNat (if n < 10 then 48 + n else 87 + n)

def escape (c : Char) : List Char :=
  if c = '"' then ['\\', '"']
  else if c = '\\' then ['\\', '\\']
  else if c = '\x08' then ['\\', 'b']
  else if c = '\x0c' then ['\\', 'f']
  else if c = '\n' then ['\\', 'n']
  else if c = '\r' then ['\\', 'r']
  else if c = '\t' then ['\\', 't']
  else if c.toNat < 32 then ['\\', 'u', '0', '0', hexDigit (c.toNat / 16), hexDigit (c.toNat % 16)]
  else [c]

def quote (s : List Char) : List Char :=
  '"' :: (s.flatMap escape ++ ['"'])

mutual

def print : Json → List Char
  | .null => "null".toList
  | .bool b => (if b then "true" else "false").toList
  | .number digits => digits.toList
  | .string s => quote (s.getD "").toList
  | .array items => '[' :: printItems items
  | .object fields => '\x7b' :: printFields fields

def printItems : List Json → List Char
  | [] => [']']
  | [v] => v.print ++ [']']
  | v :: rest => v.print ++ ',' :: printItems rest

def printFields : List (Literal × Json) → List Char
  | [] => ['\x7d']
  | [(name, v)] => quote (name.getD "").toList ++ ':' :: v.print ++ ['\x7d']
  | (name, v) :: rest => quote (name.getD "").toList ++ ':' :: v.print ++ ',' :: printFields rest

end

def printed (v : Json) : String :=
  String.ofList v.print

end ChatRules.Json
