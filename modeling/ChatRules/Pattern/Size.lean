import ChatRules.Pattern.Reader
import ChatRules.Pattern.Utf8

/-!
The size of a pattern: the bytes that its automaton takes, whether it reads texts forwards or
backwards. A state takes 32 bytes, a byte range that a state tells apart 8, and a choice that it
offers 4. Patterns above one mebibyte are refused.
-/

namespace ChatRules.Pattern

inductive Direction
  | forwards
  | backwards
  deriving DecidableEq, Repr

def stateSize : Nat := 32

def rangeSize : Nat := 8

def choiceSize : Nat := 4

def stateBytes (state : Utf8.State) : Nat :=
  stateSize + rangeSize * state.length

/-- A set of ASCII characters takes one state; any other an automaton for its bytes. -/
def setSize (d : Direction) (s : CharSet) : Nat :=
  if s.below 128 then 2 * stateSize + rangeSize * s.ranges.length
  else
    let seqs := Utf8.sequences s
    match d with
    | .forwards =>
      stateSize + ((Utf8.automaton 4 seqs []).2.map stateBytes).foldl (· + ·) 0
    | .backwards =>
      2 * stateSize + choiceSize * seqs.length + stateSize * Utf8.beginnings 4 seqs

def repeatSize (min : Nat) (max : Option Nat) (body : Nat) (filled : Bool) : Nat :=
  match max with
  | none =>
    if min = 0 then
      if filled then body + stateSize + 2 * choiceSize
      else body + 3 * stateSize + 4 * choiceSize
    else min * body + stateSize + 2 * choiceSize
  | some max =>
    if min = 0 ∧ max = 1 then body + 2 * stateSize + 2 * choiceSize
    else if min = max then min * body
    else
      (if min = 0 then stateSize else min * body) + stateSize +
        (max - min) * (body + stateSize + 2 * choiceSize)

namespace Node

mutual

def size (d : Direction) : Node → Nat
  | .empty => stateSize
  | .literal text => stateSize * (text.map fun c => (Utf8.encode c.toNat).length).foldl (· + ·) 0
  | .set s => setSize d s
  | .look _ => stateSize
  | .group body =>
    match d with
    | .forwards => 2 * stateSize + body.size d
    | .backwards => body.size d
  | .repeat min max body => repeatSize min max (body.size d) body.isFilled
  | .seq parts => sizes d parts
  | .alt parts => sizes d parts + 2 * stateSize + choiceSize * parts.length

def sizes (d : Direction) : List Node → Nat
  | [] => 0
  | p :: rest => p.size d + sizes d rest

end

/-- Size with what surrounds every pattern: a loop that passes over the text before a match, unless
that starts at the start of the text, and the marks of the match itself. -/
def totalSize (d : Direction) (n : Node) : Nat :=
  let lead := if n.isAnchored then stateSize else 3 * stateSize + rangeSize + 2 * choiceSize
  lead + stateSize + (Node.group n).size d

end Node

def sizeLimit : Nat := Nat.pow 2 20

def fits (n : Node) : Bool :=
  n.totalSize .forwards ≤ sizeLimit && n.totalSize .backwards ≤ sizeLimit

end ChatRules.Pattern

namespace ChatRules

structure Pattern where
  node : Pattern.Node

namespace Pattern

def read (s : List Char) : Except PatternFault Pattern := do
  let node ← readTree s
  if fits node then .ok ⟨node⟩ else .error .tooBig

end Pattern

end ChatRules
