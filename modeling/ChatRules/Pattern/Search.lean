import ChatRules.Pattern.Size

/-!
Searching a text for a pattern. A set of places in the text is a number whose bits are the places,
and a node moves such a set to the places where its matches from there can end.
-/

namespace ChatRules.Pattern
open Text

/-- A node seen against one text: a character to step over and a place to stand at are the sets of
places where the text allows it. -/
inductive Motion
  | stay
  | step (places : Nat)
  | stand (places : Nat)
  | repeat (min : Nat) (max : Option Nat) (body : Motion)
  | seq (parts : List Motion)
  | alt (parts : List Motion)

def placesBefore (p : Char → Bool) (text : List Char) : Nat :=
  text.foldr (fun c n => 2 * n + (if p c then 1 else 0)) 0

namespace Look

def isWordIn (unicode : Bool) (c : Option Char) : Bool :=
  c.any fun c => if unicode then isWord c else asciiWordChars.mem c

def holds (l : Look) (before after : Option Char) : Bool :=
  match l with
  | .start => before.isNone
  | .finish => after.isNone
  | .lineStart => before.isNone || before == some '\n'
  | .lineEnd => after.isNone || after == some '\n'
  | .lineStartCrlf =>
    before.isNone || before == some '\n' || (before == some '\r' && after != some '\n')
  | .lineEndCrlf =>
    after.isNone || after == some '\r' || (after == some '\n' && before != some '\r')
  | .wordEdge u => isWordIn u before != isWordIn u after
  | .notWordEdge u => isWordIn u before == isWordIn u after
  | .wordStart u => !isWordIn u before && isWordIn u after
  | .wordEnd u => isWordIn u before && !isWordIn u after
  | .wordStartHalf u => !isWordIn u before
  | .wordEndHalf u => !isWordIn u after

def places (l : Look) : Option Char → List Char → Nat
  | before, [] => if l.holds before none then 1 else 0
  | before, c :: rest =>
    2 * l.places (some c) rest + (if l.holds before (some c) then 1 else 0)

end Look

namespace Node

mutual

def against (text : List Char) : Node → Motion
  | .empty => .stay
  | .literal cs => .seq (cs.map fun c => .step (placesBefore (· == c) text))
  | .set s => .step (placesBefore s.mem text)
  | .look l => .stand (l.places none text)
  | .group body => body.against text
  | .repeat min max body => .repeat min max (body.against text)
  | .seq parts => .seq (eachAgainst text parts)
  | .alt parts => .alt (eachAgainst text parts)

def eachAgainst (text : List Char) : List Node → List Motion
  | [] => []
  | p :: rest => p.against text :: eachAgainst text rest

end

end Node

namespace Motion

def spread (move : Nat → Nat) : Nat → Nat → Nat → Nat
  | 0, reached, _ => reached
  | rounds + 1, reached, fresh =>
    let next := move fresh
    let new := next ^^^ (next &&& reached)
    if new = 0 then reached else spread move rounds (reached ||| new) new

def rounds (move : Nat → Nat) : Nat → Nat → Nat
  | 0, s => s
  | n + 1, s => if s = 0 then 0 else rounds move n (move s)

mutual

/-- Each round of an unbounded repetition reaches a new place, so the number of places bounds
them. -/
def image (bound : Nat) : Motion → Nat → Nat
  | .stay, s => s
  | .step places, s => (s &&& places) * 2
  | .stand places, s => s &&& places
  | .repeat min max body, s =>
    let start := rounds (image bound body) min s
    spread (image bound body) (max.elim bound (· - min)) start start
  | .seq parts, s => imageSeq bound parts s
  | .alt parts, s => imageAlt bound parts s

def imageSeq (bound : Nat) : List Motion → Nat → Nat
  | [], s => s
  | p :: rest, s => imageSeq bound rest (p.image bound s)

def imageAlt (bound : Nat) : List Motion → Nat → Nat
  | [], _ => 0
  | p :: rest, s => p.image bound s ||| imageAlt bound rest s

end

end Motion

def Node.occursIn (n : Node) (text : List Char) : Bool :=
  (n.against text).image (text.length + 1) (Nat.pow 2 (text.length + 1) - 1) != 0

def occursIn (p : Pattern) (text : List Char) : Bool :=
  p.node.occursIn text

end ChatRules.Pattern
