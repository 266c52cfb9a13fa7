import ChatRules.Text.CharSet

/-!
Patterns as trees. The functions that build them keep one form: no sequence inside a sequence, no
choice inside a choice, single characters as literals, and a choice between sets as one set.
-/

namespace ChatRules.Pattern

/-- What is asked of a place between two characters. Word places know the characters of words in
all of Unicode, or in ASCII only. -/
inductive Look
  | start
  | finish
  | lineStart
  | lineEnd
  | lineStartCrlf
  | lineEndCrlf
  | wordEdge (unicode : Bool)
  | notWordEdge (unicode : Bool)
  | wordStart (unicode : Bool)
  | wordEnd (unicode : Bool)
  | wordStartHalf (unicode : Bool)
  | wordEndHalf (unicode : Bool)
  deriving DecidableEq, Repr

inductive Node
  | empty
  | literal (text : List Char)
  | set (s : CharSet)
  | look (l : Look)
  | group (body : Node)
  | repeat (min : Nat) (max : Option Nat) (body : Node)
  | seq (parts : List Node)
  | alt (parts : List Node)
  deriving Repr

namespace Node

def never : Node := .set CharSet.empty

def ofChar (c : Char) : Node :=
  .literal [c]

def ofSet (s : CharSet) : Node :=
  match s.only? with
  | some c => ofChar c
  | none => .set s

mutual

def isBlank : Node → Bool
  | .empty => true
  | .literal text => text.isEmpty
  | .set _ => false
  | .look _ => true
  | .group body => body.isBlank
  | .repeat _ max body => max == some 0 || body.isBlank
  | .seq parts => areBlank parts
  | .alt parts => areBlank parts

def areBlank : List Node → Bool
  | [] => true
  | p :: rest => p.isBlank && areBlank rest

end

mutual

def isFilled : Node → Bool
  | .empty => false
  | .literal text => !text.isEmpty
  | .set s => !s.isEmpty
  | .look _ => false
  | .group body => body.isFilled
  | .repeat min _ body => min != 0 && body.isFilled
  | .seq parts => anyFilled parts
  | .alt parts => allFilled parts

def anyFilled : List Node → Bool
  | [] => false
  | p :: rest => p.isFilled || anyFilled rest

def allFilled : List Node → Bool
  | [] => true
  | p :: rest => p.isFilled && allFilled rest

end

/-- Repetition; what matches the empty text only is not repeated more than once. -/
def repeated (min : Nat) (max : Option Nat) (body : Node) : Node :=
  let (min, max) :=
    if body.isBlank then (Nat.min min 1, some (max.elim 1 (Nat.min · 1))) else (min, max)
  if min = 0 ∧ max = some 0 then .empty
  else if min = 1 ∧ max = some 1 then body
  else .repeat min max body

def flatSeq : List Node → List Node
  | [] => []
  | .empty :: rest => flatSeq rest
  | .seq parts :: rest => parts ++ flatSeq rest
  | p :: rest => p :: flatSeq rest

def joinLiterals : List Node → List Node
  | [] => []
  | .literal a :: rest =>
    match joinLiterals rest with
    | .literal b :: more => .literal (a ++ b) :: more
    | more => .literal a :: more
  | p :: rest => p :: joinLiterals rest

def sequence (parts : List Node) : Node :=
  match joinLiterals (flatSeq parts) with
  | [] => .empty
  | [p] => p
  | more => .seq more

def flatAlt : List Node → List Node
  | [] => []
  | .alt parts :: rest => parts ++ flatAlt rest
  | p :: rest => p :: flatAlt rest

def charSet? : Node → Option CharSet
  | .literal [c] => some (CharSet.single c)
  | .set s => some s
  | _ => none

def choice (parts : List Node) : Node :=
  match flatAlt parts with
  | [] => never
  | [p] => p
  | more =>
    match more.mapM charSet? with
    | some sets => ofSet (sets.foldl CharSet.union CharSet.empty)
    | none => .alt more

def isAnchored : Node → Bool
  | .look .start => true
  | .group body => body.isAnchored
  | .repeat min _ body => min != 0 && body.isAnchored
  | .seq parts => firstAnchored parts
  | .alt parts => allAnchored parts
  | _ => false
where
  firstAnchored : List Node → Bool
    | [] => false
    | p :: rest => p.isAnchored || (p.isBlank && firstAnchored rest)
  allAnchored : List Node → Bool
    | [] => true
    | p :: rest => p.isAnchored && allAnchored rest

end Node

end ChatRules.Pattern
