import ChatRules.Instant.Basic
import ChatRules.Text.Blank
import ChatRules.Text.Lowercase

/-!
Reading an instant: date, `T` or a space, time and offset. Blanks may stand between the numbers and
their separators, numbers may lack leading zeros, a fraction is cut to nine digits, and second 60
is a leap second.
-/

namespace ChatRules.Instant
open Text

def isDigit (c : Char) : Bool :=
  '0' ≤ c && c ≤ '9'

def valueOf (digits : List Char) : Nat :=
  digits.foldl (fun n c => n * 10 + (c.toNat - 48)) 0

def readNumber (most : Nat) (s : List Char) : Option (Nat × List Char) :=
  let s := trimLeft s
  let found := (s.take most).takeWhile isDigit
  if found = [] then none else some (valueOf found, s.drop found.length)

def readYear (s : List Char) : Option (Int × List Char) :=
  match trimLeft s with
  | '-' :: rest =>
    if (rest.head?.map isDigit).getD false then
      (readNumber rest.length rest).map fun (n, left) => (-(n : Int), left)
    else none
  | '+' :: rest =>
    if (rest.head?.map isDigit).getD false then
      (readNumber rest.length rest).map fun (n, left) => ((n : Int), left)
    else none
  | s => (readNumber 4 s).map fun (n, left) => ((n : Int), left)

def readSign (x : Char) (s : List Char) : Option (List Char) :=
  match trimLeft s with
  | c :: rest => if c = x then some rest else none
  | [] => none

def readFraction : List Char → Option (Nat × List Char)
  | '.' :: rest =>
    let found := rest.takeWhile isDigit
    if found = [] then none
    else
      let nine := (found ++ List.replicate 9 '0').take 9
      some (valueOf nine, rest.dropWhile isDigit)
  | s => some (0, s)

def isOffsetGap (c : Char) : Bool :=
  c = ':' || isBlank c

def readOffsetDigits : List Char → Option (Nat × List Char)
  | a :: b :: rest =>
    if isDigit a && isDigit b then some (valueOf [a, b], rest) else none
  | _ => none

def readOffset (s : List Char) : Option (Int × List Char) :=
  match s with
  | [] => none
  | c :: rest =>
    if c = 'Z' ∨ c = 'z' then some (0, rest)
    else if equalIgnoringAsciiCase (s.take 3) "utc".toList then some (0, s.drop 3)
    else if c = '+' ∨ c = '-' ∨ c = '\u2212' then do
      let (hours, rest) ← readOffsetDigits rest
      let (minutes, rest) ← readOffsetDigits (rest.dropWhile isOffsetGap)
      if hours < 24 ∧ minutes < 60 then
        let seconds : Int := (hours * 3600 + minutes * 60 : Nat)
        some (if c = '+' then seconds else -seconds, rest)
      else none
    else none

def readDate (s : List Char) : Option ((Int × Nat × Nat) × List Char) := do
  let (year, s) ← readYear s
  let s ← readSign '-' s
  let (month, s) ← readNumber 2 s
  let s ← readSign '-' s
  let (day, s) ← readNumber 2 s
  some ((year, month, day), s)

def readTime (s : List Char) : Option ((Nat × Nat × Nat × Nat) × List Char) := do
  let (hour, s) ← readNumber 2 s
  let s ← readSign ':' s
  let (minute, s) ← readNumber 2 s
  let s ← readSign ':' s
  let (second, s) ← readNumber 2 s
  let (nanos, s) ← readFraction s
  some ((hour, minute, second, nanos), s)

def readSeparator : List Char → Option (List Char)
  | c :: rest => if c = 'T' ∨ c = 't' ∨ c = ' ' then some rest else none
  | [] => none

def readText (s : List Char) : Option Instant := do
  let ((year, month, day), s) ← readDate s
  let s ← readSeparator s
  let ((hour, minute, second, nanos), s) ← readTime s
  let (offset, s) ← readOffset (trimLeft s)
  -- The date is one of the calendar also as it is written, not only in UTC.
  if s = [] ∧ firstYear ≤ year ∧ year ≤ lastYear ∧ Calendar.isDate year month day ∧
      hour < 24 ∧ minute < 60 ∧ second ≤ 60 then
    let last := if second = 60 then 59 else second
    let nanos := if second = 60 then nanos + 1000000000 else nanos
    let time : Int := (hour * 3600 + minute * 60 + last : Nat)
    Instant.of? (Calendar.daysOfDate year month day * 86400 + time - offset) nanos
  else none

end ChatRules.Instant
