import ChatRules.Text.Blank
import ChatRules.Text.Property.Binary
import ChatRules.Text.Property.Category

/-!
Variables from a file of `NAME=value` lines. A value may be quoted, run over several lines inside
its quotes, and name other variables with a dollar sign. The first line that is none ends the
reading; what was read before it stays.
-/

namespace ChatRules

/-- Variables with their values. Of a name that stands twice the first counts. -/
abbrev Variables := List (String × String)

namespace Variables
open Text

def get? (vs : Variables) (name : String) : Option String :=
  (vs.find? fun v => v.1 == name).map Prod.snd

inductive Place
  | plain
  | escape
  | strong
  | strongEscape
  | weak
  | weakEscape
  | gap
  deriving DecidableEq, Repr

def Place.opened (c : Char) : Place :=
  if c = '\\' then .escape else if c = '"' then .weak else if c = '\'' then .strong else .plain

def Place.after (c : Char) : Place → Place
  | .plain => if isBlank c ∧ c ≠ '\n' ∧ c ≠ '\r' then .gap else .opened c
  | .gap => .opened c
  | .escape => .plain
  | .weak => if c = '\\' then .weakEscape else if c = '"' then .plain else .weak
  | .weakEscape => .weak
  | .strong => if c = '\\' then .strongEscape else if c = '\'' then .plain else .strong
  | .strongEscape => .strong

def scanLine : Place → List Char → List Char × Option Place
  | place, [] => ([], some place)
  | place, c :: rest =>
    if place = .gap ∧ c = '#' then ([], none)
    else
      let (text, last) := scanLine (place.after c) rest
      (c :: text, last)

def rawLines : List Char → List (List Char)
  | [] => []
  | c :: rest =>
    if c = '\n' then ['\n'] :: rawLines rest
    else
      match rawLines rest with
      | [] => [[c]]
      | line :: more => if rest = [] then [[c]] else (c :: line) :: more

def withoutLineEnd (s : List Char) : List Char :=
  match s.reverse with
  | '\n' :: '\r' :: rest => rest.reverse
  | '\n' :: rest => rest.reverse
  | _ => s

/-- The logical lines, up to one that does not end. The text and the place in front are those of the
physical lines before. -/
def linesFrom : List Char → Place → List (List Char) → List (List Char)
  | _, _, [] => []
  | before, place, line :: rest =>
    if (trimLeft (before ++ line)).head? = some '#' then [] :: linesFrom [] .plain rest
    else
      match scanLine place line with
      | (text, none) => (before ++ text) :: linesFrom [] .plain rest
      | (text, some .plain) => withoutLineEnd (before ++ text) :: linesFrom [] .plain rest
      | (text, some place) => linesFrom (before ++ text) place rest

inductive Naming
  | none
  | plain
  | braced
  deriving DecidableEq, Repr

structure Draft where
  text : List Char
  strong : Bool
  weak : Bool
  escaped : Bool
  ended : Bool
  naming : Naming
  name : List Char
  deriving DecidableEq, Repr

namespace Draft

def start : Draft :=
  ⟨[], false, false, false, false, .none, []⟩

def push (d : Draft) (c : Char) : Draft :=
  { d with text := c :: d.text }

def escape? (c : Char) : Option Char :=
  if c = '\\' ∨ c = '\'' ∨ c = '"' ∨ c = '$' ∨ c = ' ' then some c
  else if c = 'n' then some '\n'
  else none

def insertNamed (value : String → Option String) (d : Draft) : Draft :=
  let found := ((value (String.ofList d.name.reverse)).getD "").toList
  { d with text := found.reverse ++ d.text, name := [], naming := .none }

def letterSets : List CharSet :=
  [Property.Named.find? Property.binaries "alphabetic",
    Property.Named.find? Property.categories "nd",
    Property.Named.find? Property.categories "nl",
    Property.Named.find? Property.categories "no"].filterMap id

def isLetter (c : Char) : Bool :=
  if c.toNat < 128 then c.isAlphanum else letterSets.any (·.mem c)

def inName (value : String → Option String) (c : Char) (d : Draft) : Draft :=
  if isLetter c then { d with name := c :: d.name }
  else if d.naming = .braced then
    if c = '\x7d' then d.insertNamed value else { d with name := c :: d.name }
  else if c = '\x7b' ∧ d.name = [] then { d with naming := .braced }
  else
    let d := d.insertNamed value
    if c = '$' then { d with naming := .plain } else d.push c

def outside (c : Char) (d : Draft) : Draft :=
  if c = '\'' then { d with strong := true }
  else if c = '"' then { d with weak := true }
  else if c = '\\' then { d with escaped := true }
  else if c = ' ' ∨ c = '\t' then { d with ended := true }
  else d.push c

def inWeak (c : Char) (d : Draft) : Draft :=
  if c = '"' then { d with weak := false }
  else if c = '\\' then { d with escaped := true }
  else d.push c

def step (value : String → Option String) (c : Char) (d : Draft) : Option Draft :=
  if d.escaped then (escape? c).map fun e => { d with escaped := false }.push e
  else if d.strong then some (if c = '\'' then { d with strong := false } else d.push c)
  else if d.naming ≠ .none then some (d.inName value c)
  else if c = '$' then some { d with naming := .plain }
  else if d.weak then some (d.inWeak c)
  else some (d.outside c)

end Draft

def readValue (value : String → Option String) : Draft → List Char → Option (List Char)
  | d, [] =>
    if d.naming = .braced ∨ d.strong ∨ d.weak then none
    else some (d.insertNamed value).text.reverse
  | d, c :: rest =>
    if d.ended then
      if c = ' ' ∨ c = '\t' then readValue value d rest
      else if c = '#' then readValue value d []
      else none
    else (d.step value c).bind fun d => readValue value d rest

def isNameStart (c : Char) : Bool :=
  c.isAlpha || c = '_'

def isNameChar (c : Char) : Bool :=
  c.isAlphanum || c = '_' || c = '.'

def readName (s : List Char) : Option (List Char × List Char) :=
  if (s.head?.map isNameStart).getD false then
    some (s.takeWhile isNameChar, trimLeft (s.dropWhile isNameChar))
  else none

def afterEqual (s : List Char) : Option (List Char) :=
  (after? ['='] s).map trimLeft

def readParts (s : List Char) : Option (List Char × List Char) := do
  let (name, rest) ← readName s
  match afterEqual rest with
  | some value => some (name, value)
  | none =>
    if name = "export".toList then do
      let (name, rest) ← readName rest
      let value ← afterEqual rest
      some (name, value)
    else none

def readLines (outer : String → Option String) : Variables → List (List Char) → Variables
  | vs, [] => vs
  | vs, line :: rest =>
    let line := trim line
    if line = [] ∨ line.head? = some '#' then readLines outer vs rest
    else
      match readParts line with
      | none => vs
      | some (name, written) =>
        let value name := (outer name).or (vs.get? name)
        let read :=
          if written = [] ∨ written.head? = some '#' then some []
          else readValue value .start written
        match read with
        | none => vs
        | some text => readLines outer (vs ++ [(String.ofList name, String.ofList text)]) rest

def afterMark : List Char → List Char
  | '\ufeff' :: rest => rest
  | s => s

def extend (outer : String → Option String) (file : String) : String → Option String :=
  let vs := readLines outer [] (linesFrom [] .plain (rawLines (afterMark file.toList)))
  fun name => (outer name).or (vs.get? name)

def runs (p : Char → Bool) : List Char → List (List Char)
  | [] => []
  | c :: rest =>
    if p c then
      match rest, runs p rest with
      | next :: _, run :: more => if p next then (c :: run) :: more else [c] :: run :: more
      | _, more => [c] :: more
    else runs p rest

def mentioned (file : String) : List String :=
  (runs isNameChar file.toList ++ runs Draft.isLetter file.toList).map String.ofList

end Variables

end ChatRules
