/-!
Moments in UTC, to the nanosecond. A second may run on for a leap second, so its nanoseconds reach
up to two thousand million. Dates are those of the proleptic Gregorian calendar.
-/

namespace ChatRules

namespace Calendar

def isLeap (year : Int) : Bool :=
  year % 4 = 0 && (year % 100 != 0 || year % 400 = 0)

def monthLength (year : Int) (month : Nat) : Nat :=
  if month = 2 then (if isLeap year then 29 else 28)
  else if month = 4 ∨ month = 6 ∨ month = 9 ∨ month = 11 then 30
  else 31

def isDate (year : Int) (month day : Nat) : Bool :=
  1 ≤ month && month ≤ 12 && 1 ≤ day && day ≤ monthLength year month

/-- Days from 1 March of the year's own start to the date; a year starts in March here, so that the
leap day is its last. -/
def dayOfYear (month day : Nat) : Int :=
  (153 * ((month + 9) % 12) + 2) / 5 + day - 1

def daysOfDate (year : Int) (month day : Nat) : Int :=
  let y := if month ≤ 2 then year - 1 else year
  let era := y / 400
  let yearOfEra := y % 400
  era * 146097 + (yearOfEra * 365 + yearOfEra / 4 - yearOfEra / 100 + dayOfYear month day) - 719468

def dateOfDays (days : Int) : Int × Nat × Nat :=
  let z := days + 719468
  let era := z / 146097
  let dayOfEra := z % 146097
  let yearOfEra :=
    (dayOfEra - dayOfEra / 1460 + dayOfEra / 36524 - dayOfEra / 146096) / 365
  let day := dayOfEra - (365 * yearOfEra + yearOfEra / 4 - yearOfEra / 100)
  let m := (5 * day + 2) / 153
  let month := if m < 10 then m + 3 else m - 9
  let year := yearOfEra + era * 400 + (if month ≤ 2 then 1 else 0)
  (year, month.toNat, (day - (153 * m + 2) / 5 + 1).toNat)

end Calendar

namespace Instant

def firstYear : Int := -262143

def lastYear : Int := 262142

/-- Seconds since 1970 of the first and the last second of these years. -/
def firstSecond : Int := -8334601228800

def lastSecond : Int := 8210266876799

end Instant

structure Instant where
  seconds : Int
  nanos : Nat
  first_le : Instant.firstSecond ≤ seconds
  le_last : seconds ≤ Instant.lastSecond
  nanos_lt : nanos < 2000000000
  deriving DecidableEq, Repr

namespace Instant

def of? (seconds : Int) (nanos : Nat) : Option Instant :=
  if h : firstSecond ≤ seconds ∧ seconds ≤ lastSecond ∧ nanos < 2000000000 then
    some ⟨seconds, nanos, h.1, h.2.1, h.2.2⟩
  else none

def epoch : Instant :=
  ⟨0, 0, by decide, by decide, by decide⟩

/-- Whole milliseconds since 1970, rounded down; a leap second counts into the next second. -/
def millis (t : Instant) : Int :=
  t.seconds * 1000 + (t.nanos / 1000000 : Nat)

def ofMillis? (ms : Int) : Option Instant :=
  of? (ms / 1000) ((ms % 1000).toNat * 1000000)

end Instant

end ChatRules
