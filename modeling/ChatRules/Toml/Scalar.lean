import ChatRules.Instant.Basic
import ChatRules.Wire.Fields

namespace ChatRules.Toml

def isDigit (c : Char) : Bool :=
  '0' ≤ c && c ≤ '9'

def isHexDigit (c : Char) : Bool :=
  isDigit c || ('a' ≤ c && c ≤ 'f') || ('A' ≤ c && c ≤ 'F')

def afterMore (p : Char → Bool) : List Char → Option (List Char)
  | '_' :: c :: rest => if p c then afterMore p rest else none
  | c :: rest => if p c then afterMore p rest else if c = '_' then none else some (c :: rest)
  | [] => some []

def afterDigits (p : Char → Bool) : List Char → Option (List Char)
  | c :: rest => if p c then afterMore p rest else none
  | [] => none

def afterSign : List Char → List Char
  | '+' :: rest => rest
  | '-' :: rest => rest
  | s => s

def afterDecimal (s : List Char) : Option (List Char) :=
  match afterSign s with
  | '0' :: rest => some rest
  | rest => afterDigits isDigit rest

def afterExponent : List Char → Option (List Char)
  | c :: rest => if c = 'e' ∨ c = 'E' then afterDigits isDigit (afterSign rest) else none
  | [] => none

def afterFractional (s : List Char) : Option (List Char) := do
  match ← afterDecimal s with
  | '.' :: rest =>
    match ← afterDigits isDigit rest with
    | [] => some []
    | c :: rest =>
      if c = 'e' ∨ c = 'E' then afterExponent (c :: rest) else some (c :: rest)
  | rest => afterExponent rest

def afterSpecial (s : List Char) : Option (List Char) :=
  match afterSign s with
  | 'i' :: 'n' :: 'f' :: rest => some rest
  | 'n' :: 'a' :: 'n' :: rest => some rest
  | _ => none

def spelled (s rest : List Char) : List Char :=
  s.take (s.length - rest.length)

def plainDigits (digits : List Char) : List Char :=
  digits.filter fun c => c ≠ '_' && c ≠ '+'

def hexValue (c : Char) : Nat :=
  if isDigit c then c.toNat - 48 else if 'a' ≤ c then c.toNat - 87 else c.toNat - 55

def valueIn (base : Nat) (digits : List Char) : Nat :=
  (plainDigits digits).foldl (fun n c => n * base + hexValue c) 0

def fits (digits : List Char) : Bool :=
  match digits with
  | '-' :: rest => valueIn 10 rest ≤ Nat.pow 2 63
  | digits => valueIn 10 digits < Nat.pow 2 63

def afterBased (base : Nat) (p : Char → Bool) (s : List Char) : Option (List Char) := do
  let rest ← afterDigits p s
  if valueIn base (spelled s rest) < Nat.pow 2 63 then some rest else none

def afterInteger (s : List Char) : Option (List Char) :=
  match s with
  | '0' :: 'x' :: more => afterBased 16 isHexDigit more
  | '0' :: 'o' :: more => afterBased 8 (fun c => '0' ≤ c && c ≤ '7') more
  | '0' :: 'b' :: more => afterBased 2 (fun c => c = '0' || c = '1') more
  | s => do
    let rest ← afterDecimal s
    if fits (spelled s rest) then some rest else none

/-- A fractional number may round to infinity only below zero. -/
def afterFloat (s : List Char) : Option (List Char) := do
  let rest ← afterFractional s
  if s.head? = some '-' ∨ Json.isFinite (plainDigits (spelled s rest)) then some rest else none

def afterNumber (s : List Char) : Option (List Char) :=
  afterFloat s <|> afterSpecial s <|> afterInteger s

def readPart (count low high : Nat) (s : List Char) : Option (Nat × List Char) :=
  let digits := s.take count
  let n := Json.digitsValue digits
  if digits.length = count ∧ digits.all isDigit ∧ low ≤ n ∧ n ≤ high then some (n, s.drop count)
  else none

def afterChar (x : Char) : List Char → Option (List Char)
  | c :: rest => if c = x then some rest else none
  | [] => none

def afterDate (s : List Char) : Option (List Char) := do
  let (year, s) ← readPart 4 0 9999 s
  let s ← afterChar '-' s
  let (month, s) ← readPart 2 1 12 s
  let s ← afterChar '-' s
  let (day, s) ← readPart 2 1 31 s
  if day ≤ Calendar.monthLength (year : Int) month then some s else none

def afterFraction (s : List Char) : Option (List Char) :=
  match s with
  | '.' :: rest =>
    if (rest.head?.map isDigit).getD false then some (rest.dropWhile isDigit) else none
  | s => some s

def afterClock (s : List Char) : Option (List Char) := do
  let (_, s) ← readPart 2 0 23 s
  let s ← afterChar ':' s
  let (_, s) ← readPart 2 0 59 s
  let s ← afterChar ':' s
  let (_, s) ← readPart 2 0 60 s
  afterFraction s

def afterOffset (s : List Char) : Option (List Char) :=
  match s with
  | [] => some []
  | c :: rest =>
    if c = 'Z' ∨ c = 'z' then some rest
    else if c = '+' ∨ c = '-' then do
      let (_, s) ← readPart 2 0 23 rest
      let s ← afterChar ':' s
      let (_, s) ← readPart 2 0 59 s
      some s
    else some (c :: rest)

def afterDayTime (s : List Char) : List Char :=
  match s with
  | [] => []
  | c :: rest =>
    if c = 'T' ∨ c = 't' ∨ c = ' ' then ((afterClock rest).bind afterOffset).getD s else s

def afterTime (s : List Char) : Option (List Char) :=
  (afterDate s).map afterDayTime <|> afterClock s

end ChatRules.Toml
