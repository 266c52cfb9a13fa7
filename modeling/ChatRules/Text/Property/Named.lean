import ChatRules.Text.CharSet

/-!
Sets of characters that go by names. Names are kept in lower case, without separators; the ranges of
code points are written in hexadecimal.
-/

namespace ChatRules.Text.Property

structure Named where
  names : List String
  ranges : String

namespace Named

def hexDigit? (c : Char) : Option Nat :=
  if '0' ≤ c ∧ c ≤ '9' then some (c.toNat - 48)
  else if 'A' ≤ c ∧ c ≤ 'F' then some (c.toNat - 55)
  else none

def readRanges : Option Nat → Option Nat → List Char → List (Nat × Nat)
  | _, none, [] => []
  | first, some n, [] => [(first.getD n, n)]
  | first, read, c :: rest =>
    match hexDigit? c, read with
    | some d, read => readRanges first (some (read.getD 0 * 16 + d)) rest
    | none, none => readRanges none none rest
    | none, some n =>
      if c = '-' then readRanges (some n) none rest
      else (first.getD n, n) :: readRanges none none rest

def set (p : Named) : CharSet :=
  .ofSorted (readRanges none none p.ranges.toList)

def find? (table : List Named) (name : String) : Option CharSet :=
  (table.find? fun p => p.names.contains name).map set

end Named

end ChatRules.Text.Property
