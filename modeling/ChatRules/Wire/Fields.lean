import ChatRules.Json.Value

/-!
Reading records from JSON. A record is an object, in which unknown fields are passed over and known
ones stand once, or an array with the fields in their order, from which the last may be left out.
-/

namespace ChatRules.Json

def isNamed (name : String) (f : Literal × Json) : Bool :=
  f.1 == some name

def fieldsFit (names : List String) (fields : List (Literal × Json)) : Bool :=
  fields.all (fun f => f.1.isSome) &&
    names.all fun name => (fields.filter (isNamed name)).length ≤ 1

def namedFields (names : List String) (fields : List (Literal × Json)) : List (Option Json) :=
  names.map fun name => (fields.find? (isNamed name)).map Prod.snd

def placedFields (names : List String) (items : List Json) : List (Option Json) :=
  items.map some ++ List.replicate (names.length - items.length) none

def fieldValues (names : List String) : Json → Option (List (Option Json))
  | .object fields => if fieldsFit names fields then some (namedFields names fields) else none
  | .array items =>
    if items.length ≤ names.length then some (placedFields names items) else none
  | _ => none

def required {α : Type} (decode : Json → Option α) (value : Option Json) : Option α :=
  value.bind decode

/-- An absent field and a null are the same. -/
def optional {α : Type} (decode : Json → Option α) : Option Json → Option (Option α)
  | none => some none
  | some .null => some none
  | some v => (decode v).map some

def orElse {α : Type} (decode : Json → Option α) (default : α) : Option Json → Option α
  | none => some default
  | some v => decode v

def string? : Json → Option String
  | .string s => s
  | _ => none

def bool? : Json → Option Bool
  | .bool b => some b
  | _ => none

def list? {α : Type} (decode : Json → Option α) : Json → Option (List α)
  | .array items => items.mapM decode
  | _ => none

def word? : Json → Option String
  | .string s => s
  | .object [(name, .null)] => name
  | _ => none

def digitsValue (digits : List Char) : Nat :=
  digits.foldl (fun n c => n * 10 + (c.toNat - 48)) 0

def natBelow? (bound : Nat) : Json → Option Nat
  | .number digits =>
    let n := digitsValue digits.toList
    if (digits.toList.all fun c => '0' ≤ c && c ≤ '9') && n < bound then some n else none
  | _ => none

def isExponentSign (c : Char) : Bool :=
  c = 'e' || c = 'E'

def writtenExponent (digits : List Char) : Int :=
  match (digits.dropWhile fun c => !isExponentSign c).drop 1 with
  | '-' :: power => -(digitsValue power : Int)
  | '+' :: power => digitsValue power
  | power => digitsValue power

def decimalParts (digits : List Char) : Nat × Int :=
  let mantissa := (digits.takeWhile fun c => !isExponentSign c).filter (· ≠ '-')
  let fraction := (mantissa.dropWhile (· ≠ '.')).drop 1
  (digitsValue (mantissa.filter (· ≠ '.')), writtenExponent digits - (fraction.length : Int))

def isFinite (digits : List Char) : Bool :=
  let (n, exponent) := decimalParts digits
  let places := exponent + ((toString n).length : Int)
  let bound := Nat.pow 2 1024 - Nat.pow 2 970
  if n = 0 ∨ places ≤ 308 then true
  else if 309 < places then false
  else if exponent < 0 then n < bound * Nat.pow 10 exponent.natAbs
  else n * Nat.pow 10 exponent.toNat < bound

mutual

/-- Whether a value can be kept before it is known what it is for: strings are spelled and numbers
finite, all the way down. -/
def isKept : Json → Bool
  | .null => true
  | .bool _ => true
  | .number digits => isFinite digits.toList
  | .string s => s.isSome
  | .array items => areKept items
  | .object fields => fieldsKept fields

def areKept : List Json → Bool
  | [] => true
  | v :: rest => v.isKept && areKept rest

def fieldsKept : List (Literal × Json) → Bool
  | [] => true
  | (name, v) :: rest => name.isSome && v.isKept && fieldsKept rest

end

/-- Levels of arrays and objects that a kept value may have, its surroundings counted. -/
def depthLimit : Nat := 127

/-- The word and the other parts of a value that says by a word which case it is. It lies below the
given number of levels. -/
def tagged (tag : String) (level : Nat) (v : Json) : Option (String × Json) :=
  if v.isKept ∧ v.depth + level ≤ depthLimit then
    match v with
    | .object fields =>
      match fields.filter (isNamed tag) with
      | [(_, word)] =>
        word.string?.map fun w => (w, .object (fields.filter fun f => !isNamed tag f))
      | _ => none
    | .array (word :: rest) => word.string?.map fun w => (w, .array rest)
    | _ => none
  else none

def bare? : Json → Option Unit
  | .object _ => some ()
  | .array [] => some ()
  | _ => none

end ChatRules.Json
