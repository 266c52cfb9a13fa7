import ChatRules.Instant.Basic

/-!
The written form of an instant, `YYYY-MM-DDTHH:MM:SSZ`, with a fraction of three, six or nine digits
where fewer would lose something. Years outside 0 to 9999 carry a sign. A leap second is second 60.
-/

namespace ChatRules.Instant

def digit (n : Nat) : Char :=
  Char.ofNat (48 + n % 10)

def digits : Nat → Nat → List Char
  | 0, _ => []
  | k + 1, n => digits k (n / 10) ++ [digit n]

def printYear (year : Int) : List Char :=
  let n := year.natAbs
  let plain := if n < 10000 then digits 4 n else if n < 100000 then digits 5 n else digits 6 n
  if year < 0 then '-' :: plain else if n < 10000 then plain else '+' :: plain

def printFraction (nanos : Nat) : List Char :=
  if nanos = 0 then []
  else if nanos % 1000000 = 0 then '.' :: digits 3 (nanos / 1000000)
  else if nanos % 1000 = 0 then '.' :: digits 6 (nanos / 1000)
  else '.' :: digits 9 nanos

def print (t : Instant) : List Char :=
  let (year, month, day) := Calendar.dateOfDays (t.seconds / 86400)
  let second := (t.seconds % 86400).toNat
  let leap := if 1000000000 ≤ t.nanos then 1 else 0
  printYear year ++ '-' :: digits 2 month ++ '-' :: digits 2 day ++
    'T' :: digits 2 (second / 3600) ++ ':' :: digits 2 (second / 60 % 60) ++
    ':' :: digits 2 (second % 60 + leap) ++ printFraction (t.nanos % 1000000000) ++ ['Z']

end ChatRules.Instant
