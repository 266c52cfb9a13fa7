import ChatRules.Json.Reader

/-!
The loose JSON that a column check reads: besides JSON it knows comments, single quotes, names
without quotes, hexadecimal numbers, numbers with a plus or without digits on one side of the point,
infinities, and a comma after the last member. Only the number of members of an outer array counts.
A null character ends the text.
-/

namespace ChatRules.LooseJson
open Json (isDigit isSpace hexValue?)

def isHex (c : Char) : Bool :=
  (hexValue? c).isSome

def dropBlockComment : List Char → Option (List Char)
  | [] => none
  | '*' :: '/' :: rest => some rest
  | _ :: rest => dropBlockComment rest

def endsLine (c : Char) : Bool :=
  c = '\n' || c = '\r' || c = '\u2028' || c = '\u2029'

def isWideSpace (c : Char) : Bool :=
  isSpace c || c = '\x0b' || c = '\x0c' || c = '\u00a0' || c = '\u1680' ||
    ('\u2000' ≤ c && c ≤ '\u200a') || c = '\u2028' || c = '\u2029' || c = '\u202f' ||
    c = '\u205f' || c = '\u3000' || c = '\ufeff'

def skip : Nat → List Char → List Char
  | 0, s => s
  | fuel + 1, s =>
    match s with
    | '/' :: '*' :: rest =>
      match dropBlockComment rest with
      | some left => skip fuel left
      | none => s
    | '/' :: '/' :: rest => skip fuel (rest.dropWhile fun c => !endsLine c)
    | c :: rest => if isWideSpace c then skip fuel rest else s
    | [] => []

def skipAll (s : List Char) : List Char :=
  skip (s.length + 1) s

def readString (quote : Char) : List Char → Option (List Char)
  | [] => none
  | '\\' :: 'u' :: a :: b :: c :: d :: rest =>
    if isHex a && isHex b && isHex c && isHex d then readString quote rest else none
  | '\\' :: 'x' :: a :: b :: rest =>
    if isHex a && isHex b then readString quote rest else none
  | '\\' :: '\r' :: '\n' :: rest => readString quote rest
  | '\\' :: c :: rest =>
    if "\"\\/bfnrt'0v\n\r\u2028\u2029".toList.contains c then readString quote rest else none
  | c :: rest => if c = quote then some rest else readString quote rest

def isNameStart (c : Char) : Bool :=
  c.isAlpha || c = '_' || c = '$' || 128 ≤ c.toNat

def readName : Bool → List Char → Option (List Char)
  | first, '\\' :: 'u' :: a :: b :: c :: d :: rest =>
    if isHex a && isHex b && isHex c && isHex d then readName false rest
    else if first then none else some ('\\' :: 'u' :: a :: b :: c :: d :: rest)
  | first, c :: rest =>
    if isNameStart c && !isWideSpace c || (!first && isDigit c) then readName false rest
    else if first then none else some (c :: rest)
  | first, [] => if first then none else some []

def startsIgnoringCase (word : String) (s : List Char) : Bool :=
  (s.take word.length).map Char.toLower == word.toList

def startsAlnum (s : List Char) : Bool :=
  (s.head?.map Char.isAlphanum).getD false

def afterWord? (word : String) (s : List Char) : Option (List Char) :=
  if word.toList.isPrefixOf s && !startsAlnum (s.drop word.length) then some (s.drop word.length)
  else none

def afterLooseWord? (word : String) (s : List Char) : Option (List Char) :=
  if startsIgnoringCase word s && !startsAlnum (s.drop word.length) then some (s.drop word.length)
  else none

def readWord (s : List Char) : Option (List Char) :=
  (["true", "false", "null"].findSome? (afterWord? · s)).or
    (["inf", "infinity", "nan", "qnan", "snan"].findSome? (afterLooseWord? · s))

/-- The rest of a number. A digit must stand before an exponent and at the end, where a point after
a digit will do as well. -/
def readTail : (before last : Char) → (pointed powered : Bool) → List Char → Option (List Char)
  | before, last, pointed, powered, s =>
    match s with
    | '.' :: rest =>
      if pointed then none else readTail last '.' true powered rest
    | c :: rest =>
      if isDigit c then readTail last c pointed powered rest
      else if c = 'e' ∨ c = 'E' then
        if powered || !(isDigit last || (last == '.' && isDigit before)) then none
        else
          match rest with
          | sign :: d :: more =>
            if sign = '+' ∨ sign = '-' then
              if isDigit d then readTail sign d true true more else none
            else if isDigit sign then readTail c sign true true (d :: more)
            else none
          | [d] => if isDigit d then some [] else none
          | [] => none
      else if isDigit last || (last == '.' && isDigit before) then some s else none
    | [] => if isDigit last || (last == '.' && isDigit before) then some [] else none

def readHex (s : List Char) : Option (List Char) :=
  match s with
  | c :: rest => if isHex c then some (rest.dropWhile isHex) else none
  | [] => none

def isX (c : Char) : Bool :=
  c = 'x' || c = 'X'

def readMagnitude (signed : Bool) (s : List Char) : Option (List Char) :=
  match s with
  | '0' :: c :: rest =>
    if isX c then readHex rest
    else if isDigit c then none
    else readTail ' ' '0' false false (c :: rest)
  | '.' :: c :: rest => if isDigit c then readTail '.' c true false rest else none
  | c :: rest =>
    if isDigit c then readTail ' ' c false false rest
    else if signed && startsIgnoringCase "inf" s then
      some (if startsIgnoringCase "infinity" s then s.drop 8 else s.drop 3)
    else none
  | [] => none

def readNumber : List Char → Option (List Char)
  | '-' :: rest => readMagnitude true rest
  | '+' :: rest => readMagnitude true rest
  | s => readMagnitude false s

def depthLimit : Nat := 1000

mutual

/-- A value: its number of members, which is zero for all but arrays, and the text after it. -/
def readValue : (fuel depth : Nat) → List Char → Option (Nat × List Char)
  | 0, _, _ => none
  | fuel + 1, depth, s =>
    match skipAll s with
    | '\x7b' :: rest =>
      if depth = 0 then none else (readMembers fuel (depth - 1) rest).map (0, ·)
    | '[' :: rest => if depth = 0 then none else readItems fuel (depth - 1) 0 rest
    | '"' :: rest => (readString '"' rest).map (0, ·)
    | '\'' :: rest => (readString '\'' rest).map (0, ·)
    | s => ((readNumber s).or (readWord s)).map (0, ·)

def readItems : (fuel depth count : Nat) → List Char → Option (Nat × List Char)
  | 0, _, _, _ => none
  | fuel + 1, depth, count, s =>
    match skipAll s with
    | ']' :: left => some (count, left)
    | s => do
      let (_, rest) ← readValue fuel depth s
      match skipAll rest with
      | ',' :: more => readItems fuel depth (count + 1) more
      | ']' :: left => some (count + 1, left)
      | _ => none

def readMembers : (fuel depth : Nat) → List Char → Option (List Char)
  | 0, _, _ => none
  | fuel + 1, depth, s =>
    match skipAll s with
    | '\x7d' :: left => some left
    | s => do
      let rest ←
        match s with
        | '"' :: rest => readString '"' rest
        | '\'' :: rest => readString '\'' rest
        | s => readName true s
      match skipAll rest with
      | ':' :: rest =>
        let (_, rest) ← readValue fuel depth rest
        match skipAll rest with
        | ',' :: more => readMembers fuel depth more
        | '\x7d' :: left => some left
        | _ => none
      | _ => none

end

/-- Number of members of the array that the text holds: zero for any other value, and nothing where
the text cannot be read. -/
def arrayLength? (s : List Char) : Option Nat := do
  let s := s.takeWhile (· ≠ '\x00')
  let (count, rest) ← readValue (2 * s.length + 2) depthLimit s
  if skipAll rest = [] then some count else none

end ChatRules.LooseJson
