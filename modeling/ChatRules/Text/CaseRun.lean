/-!
Runs of characters that a case map moves by one distance: every code point, or every second one,
from the first to the last.
-/

namespace ChatRules.Text

structure CaseRun where
  first : Nat
  last : Nat
  step : Nat
  shift : Int
  deriving DecidableEq, Repr

namespace CaseRun

def covers (r : CaseRun) (n : Nat) : Bool :=
  r.first ≤ n && n ≤ r.last && (n - r.first) % r.step == 0

def image (r : CaseRun) (n : Nat) : Nat :=
  (Int.ofNat n + r.shift).toNat

def apply : List CaseRun → Nat → Nat
  | [], n => n
  | r :: rest, n =>
    if n < r.first then n else if r.covers n then r.image n else apply rest n

def codes (r : CaseRun) : List Nat :=
  (List.range ((r.last - r.first) / r.step + 1)).map fun k => r.first + k * r.step

def preimages (runs : List CaseRun) (n : Nat) : List Nat :=
  runs.filterMap fun r =>
    let m := (Int.ofNat n - r.shift).toNat
    if r.covers m && r.image m == n then some m else none

end CaseRun

end ChatRules.Text
