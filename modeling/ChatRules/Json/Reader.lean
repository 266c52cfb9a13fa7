import ChatRules.Json.Value

/-!
Reading JSON text. String literals are taken as they are spelled, and one whose escapes name half a
surrogate pair is kept without a text.
-/

namespace ChatRules.Json

def isSpace (c : Char) : Bool :=
  c = ' ' || c = '\n' || c = '\t' || c = '\r'

def skipSpace (s : List Char) : List Char :=
  s.dropWhile isSpace

def hexValue? (c : Char) : Option Nat :=
  if '0' ≤ c ∧ c ≤ '9' then some (c.toNat - 48)
  else if 'a' ≤ c ∧ c ≤ 'f' then some (c.toNat - 87)
  else if 'A' ≤ c ∧ c ≤ 'F' then some (c.toNat - 55)
  else none

def hexUnit? (a b c d : Char) : Option Nat := do
  let a ← hexValue? a
  let b ← hexValue? b
  let c ← hexValue? c
  let d ← hexValue? d
  some (((a * 16 + b) * 16 + c) * 16 + d)

inductive Piece
  | char (c : Char)
  | bits (n : Nat)
  deriving DecidableEq, Repr

def escaped? (c : Char) : Option Char :=
  if c = '"' ∨ c = '\\' ∨ c = '/' then some c
  else if c = 'b' then some '\x08'
  else if c = 'f' then some '\x0c'
  else if c = 'n' then some '\n'
  else if c = 'r' then some '\r'
  else if c = 't' then some '\t'
  else none

def readPieces : List Char → Option (List Piece × List Char)
  | [] => none
  | '"' :: rest => some ([], rest)
  | '\\' :: 'u' :: a :: b :: c :: d :: rest => do
    let n ← hexUnit? a b c d
    let (pieces, left) ← readPieces rest
    some (.bits n :: pieces, left)
  | '\\' :: c :: rest => do
    let e ← escaped? c
    let (pieces, left) ← readPieces rest
    some (.char e :: pieces, left)
  | c :: rest =>
    if c.toNat < 32 ∨ c = '\\' then none
    else do
      let (pieces, left) ← readPieces rest
      some (.char c :: pieces, left)

def isHigh (n : Nat) : Bool :=
  0xD800 ≤ n && n ≤ 0xDBFF

def isLow (n : Nat) : Bool :=
  0xDC00 ≤ n && n ≤ 0xDFFF

def spell : List Piece → Option (List Char)
  | [] => some []
  | .char c :: rest => (spell rest).map (c :: ·)
  | .bits n :: rest =>
    if isHigh n then
      match rest with
      | .bits m :: rest =>
        if isLow m then
          (spell rest).map (Char.ofNat (0x10000 + (n - 0xD800) * 0x400 + (m - 0xDC00)) :: ·)
        else none
      | _ => none
    else if isLow n then none
    else (spell rest).map (Char.ofNat n :: ·)

def readLiteral (s : List Char) : Option (Literal × List Char) := do
  let (pieces, left) ← readPieces s
  some ((spell pieces).map String.ofList, left)

def isDigit (c : Char) : Bool :=
  '0' ≤ c && c ≤ '9'

def takeDigits (s : List Char) : Option (List Char × List Char) :=
  if s.takeWhile isDigit = [] then none else some (s.takeWhile isDigit, s.dropWhile isDigit)

def readWhole : List Char → Option (List Char × List Char)
  | '0' :: rest => some (['0'], rest)
  | s => takeDigits s

def readFraction : List Char → Option (List Char × List Char)
  | '.' :: rest => do
    let (digits, left) ← takeDigits rest
    some ('.' :: digits, left)
  | s => some ([], s)

def readExponent : List Char → Option (List Char × List Char)
  | [] => some ([], [])
  | e :: rest =>
    if e = 'e' ∨ e = 'E' then
      match rest with
      | c :: more =>
        if c = '+' ∨ c = '-' then do
          let (digits, left) ← takeDigits more
          some (e :: c :: digits, left)
        else do
          let (digits, left) ← takeDigits rest
          some (e :: digits, left)
      | [] => none
    else some ([], e :: rest)

def readMagnitude (s : List Char) : Option (List Char × List Char) := do
  let (whole, s) ← readWhole s
  if (s.head?.map isDigit).getD false then none
  let (fraction, s) ← readFraction s
  let (exponent, s) ← readExponent s
  some (whole ++ fraction ++ exponent, s)

def readNumber : List Char → Option (Json × List Char)
  | '-' :: rest => do
    let (digits, left) ← readMagnitude rest
    some (.number (String.ofList ('-' :: digits)), left)
  | s => do
    let (digits, left) ← readMagnitude s
    some (.number (String.ofList digits), left)

mutual

/-- Fuel bounds the number of values, and a text has no more values than characters. -/
def readValue : Nat → List Char → Option (Json × List Char)
  | 0, _ => none
  | fuel + 1, s =>
    match skipSpace s with
    | [] => none
    | '"' :: rest => (readLiteral rest).map fun (l, left) => (.string l, left)
    | '[' :: rest =>
      match skipSpace rest with
      | ']' :: left => some (.array [], left)
      | more => (readItems fuel more).map fun (items, left) => (.array items, left)
    | '\x7b' :: rest =>
      match skipSpace rest with
      | '\x7d' :: left => some (.object [], left)
      | more => (readFields fuel more).map fun (fields, left) => (.object fields, left)
    | 'n' :: 'u' :: 'l' :: 'l' :: left => some (.null, left)
    | 't' :: 'r' :: 'u' :: 'e' :: left => some (.bool true, left)
    | 'f' :: 'a' :: 'l' :: 's' :: 'e' :: left => some (.bool false, left)
    | more => readNumber more

def readItems : Nat → List Char → Option (List Json × List Char)
  | 0, _ => none
  | fuel + 1, s => do
    let (v, rest) ← readValue fuel s
    match skipSpace rest with
    | ']' :: left => some ([v], left)
    | ',' :: more =>
      let (items, left) ← readItems fuel more
      some (v :: items, left)
    | _ => none

def readFields : Nat → List Char → Option (List (Literal × Json) × List Char)
  | 0, _ => none
  | fuel + 1, s =>
    match skipSpace s with
    | '"' :: rest => do
      let (name, rest) ← readLiteral rest
      match skipSpace rest with
      | ':' :: rest =>
        let (v, rest) ← readValue fuel rest
        match skipSpace rest with
        | '\x7d' :: left => some ([(name, v)], left)
        | ',' :: more =>
          let (fields, left) ← readFields fuel more
          some ((name, v) :: fields, left)
        | _ => none
      | _ => none
    | _ => none

end

def read? (s : List Char) : Option Json := do
  let (v, rest) ← readValue (2 * s.length + 2) s
  if skipSpace rest = [] then some v else none

end ChatRules.Json
