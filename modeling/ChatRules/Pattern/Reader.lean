import ChatRules.Pattern.Class
import ChatRules.Pattern.Node
import ChatRules.Text.Blank

namespace ChatRules.Pattern
open Text

inductive PatternFault
  | unclosedClass
  | badClassItem
  | badClassRange
  | unclosedGroup
  | unopenedGroup
  | badGroupName
  | lookAround
  | badFlag
  | nothingToRepeat
  | badCount
  | badEscape
  | backReference
  | badHex
  | unknownProperty
  | notText
  | tooDeep
  | tooBig
  deriving DecidableEq, Repr

structure Flags where
  ignoreCase : Bool
  multiLine : Bool
  dotAll : Bool
  crlf : Bool
  unicode : Bool
  verbose : Bool
  deriving DecidableEq, Repr

namespace Flags

/-- Letter case is ignored unless the pattern says otherwise. -/
def initial : Flags :=
  ⟨true, false, false, false, true, false⟩

def put (f : Flags) (c : Char) (on : Bool) : Option Flags :=
  if c = 'i' then some { f with ignoreCase := on }
  else if c = 'm' then some { f with multiLine := on }
  else if c = 's' then some { f with dotAll := on }
  else if c = 'R' then some { f with crlf := on }
  else if c = 'u' then some { f with unicode := on }
  else if c = 'x' then some { f with verbose := on }
  else if c = 'U' then some f
  else none

def fold (f : Flags) (s : CharSet) : CharSet :=
  if !f.ignoreCase then s else if f.unicode then s.foldClosure else s.foldClosureAscii

end Flags

structure Item where
  node : Node
  depth : Nat
  /-- Sets flags and matches nothing, so that it cannot be repeated. -/
  isDirective : Bool

namespace Item

def leaf (node : Node) : Item :=
  ⟨node, 0, false⟩

def deeper (node : Node) (depth : Nat) : Item :=
  ⟨node, depth + 1, false⟩

def deepest (items : List Item) : Nat :=
  items.foldl (fun n i => max n i.depth) 0

def sequence (items : List Item) : Item :=
  match items with
  | [] => leaf .empty
  | [i] => { i with isDirective := false }
  | _ => deeper (Node.sequence (items.reverse.map Item.node)) (deepest items)

def choice (branches : List Item) : Item :=
  match branches with
  | [i] => i
  | _ => deeper (Node.choice (branches.reverse.map Item.node)) (deepest branches)

end Item

def skipVerbose (inComment : Bool) : List Char → List Char
  | [] => []
  | c :: rest =>
    if inComment then skipVerbose (c ≠ '\n') rest
    else if isBlank c then skipVerbose false rest
    else if c = '#' then skipVerbose true rest
    else c :: rest

def skip (f : Flags) (s : List Char) : List Char :=
  if f.verbose then skipVerbose false s else s

/-- The character that follows the next one, blanks and one comment sign passed over. -/
def peekSecond (f : Flags) : List Char → Option Char
  | [] => none
  | _ :: rest =>
    if f.verbose then
      match trimLeft rest with
      | '#' :: more => (trimLeft more).head?
      | more => more.head?
    else rest.head?

def isDigit (c : Char) : Bool :=
  '0' ≤ c && c ≤ '9'

def takeDigits (f : Flags) : Nat → List Char → List Char × List Char
  | 0, s => ([], s)
  | fuel + 1, s =>
    match s with
    | c :: rest =>
      if isDigit c then
        let (digits, left) := takeDigits f fuel (skip f rest)
        (c :: digits, left)
      else ([], s)
    | [] => ([], s)

def decimalValue (digits : List Char) : Nat :=
  digits.foldl (fun n c => n * 10 + (c.toNat - 48)) 0

def readDecimal (f : Flags) (s : List Char) : Except PatternFault (Nat × List Char) :=
  let (digits, left) := takeDigits f s.length (trimLeft s)
  if digits = [] ∨ decimalValue digits ≥ Nat.pow 2 32 then .error .badCount
  else .ok (decimalValue digits, trimLeft left)

def readCount (f : Flags) (s : List Char) : Except PatternFault ((Nat × Option Nat) × List Char) := do
  let (min, s) ← readDecimal f (skip f s)
  let ((min, max), s) ←
    match s with
    | ',' :: rest =>
      match skip f rest with
      | '\x7d' :: left => pure ((min, none), '\x7d' :: left)
      | rest => do
        let (max, left) ← readDecimal f rest
        pure ((min, some max), left)
    | _ => pure ((min, some min), s)
  match s with
  | '\x7d' :: left =>
    if max.all (min ≤ ·) then .ok ((min, max), skip f left) else .error .badCount
  | _ => .error .badCount

/-- The sign that asks for as few as possible changes nothing in what matches. -/
def dropLazy : List Char → List Char
  | '?' :: rest => rest
  | s => s

inductive Place
  | lineStart
  | lineEnd
  | textStart
  | textEnd
  | edge
  | notEdge
  | start
  | finish
  | startHalf
  | finishHalf
  deriving DecidableEq, Repr

namespace Place

def look (f : Flags) : Place → Look
  | .lineStart => if !f.multiLine then .start else if f.crlf then .lineStartCrlf else .lineStart
  | .lineEnd => if !f.multiLine then .finish else if f.crlf then .lineEndCrlf else .lineEnd
  | .textStart => .start
  | .textEnd => .finish
  | .edge => .wordEdge f.unicode
  | .notEdge => .notWordEdge f.unicode
  | .start => .wordStart f.unicode
  | .finish => .wordEnd f.unicode
  | .startHalf => .wordStartHalf f.unicode
  | .finishHalf => .wordEndHalf f.unicode

def ofName? (name : String) : Option Place :=
  if name = "start" then some .start
  else if name = "end" then some .finish
  else if name = "start-half" then some .startHalf
  else if name = "end-half" then some .finishHalf
  else none

end Place

inductive Primitive
  | char (c : Char) (asByte : Bool)
  | dot
  | place (p : Place)
  | class (s : CharSet)

def hexValue? (c : Char) : Option Nat :=
  if isDigit c then some (c.toNat - 48)
  else if 'a' ≤ c ∧ c ≤ 'f' then some (c.toNat - 87)
  else if 'A' ≤ c ∧ c ≤ 'F' then some (c.toNat - 55)
  else none

def charOfCode (n : Nat) : Except PatternFault Char :=
  if n.isValidChar then .ok (Char.ofNat n) else .error .badHex

def readHexDigits (f : Flags) : Nat → Nat → List Char → Except PatternFault (Nat × List Char)
  | 0, n, s => .ok (n, s)
  | k + 1, n, s =>
    match s with
    | [] => .error .badHex
    | c :: rest =>
      match hexValue? c with
      | some d => readHexDigits f k (n * 16 + d) (skip f rest)
      | none => .error .badHex

def readHexBraced (f : Flags) : Nat → Bool → Nat → List Char → Except PatternFault (Nat × List Char)
  | 0, _, _, _ => .error .badHex
  | fuel + 1, any, n, s =>
    match s with
    | [] => .error .badHex
    | '\x7d' :: rest => if any then .ok (n, skip f rest) else .error .badHex
    | c :: rest =>
      match hexValue? c with
      | some d => readHexBraced f fuel true (n * 16 + d) (skip f rest)
      | none => .error .badHex

def readHex (f : Flags) (kind : Char) (s : List Char) : Except PatternFault (Primitive × List Char) :=
  match skip f s with
  | '\x7b' :: rest => do
    let (n, left) ← readHexBraced f (rest.length + 1) false 0 (skip f rest)
    .ok (.char (← charOfCode n) false, left)
  | s => do
    let (n, left) ← readHexDigits f (if kind = 'x' then 2 else if kind = 'u' then 4 else 8) 0 s
    .ok (.char (← charOfCode n) (kind == 'x'), left)

def readBraced (f : Flags) : Nat → List Char → Option (List Char × List Char)
  | 0, _ => none
  | fuel + 1, s =>
    match s with
    | [] => none
    | '\x7d' :: rest => some ([], rest)
    | c :: rest => do
      let (name, left) ← readBraced f fuel (skip f rest)
      some (c :: name, left)

def cutAround (mark : List Char) : List Char → Option (List Char × List Char)
  | [] => none
  | c :: rest =>
    match after? mark (c :: rest) with
    | some after => some ([], after)
    | none => (cutAround mark rest).map fun (before, after) => (c :: before, after)

def propertySet? (name : List Char) : Option (CharSet × Bool) :=
  match cutAround ['!', '='] name with
  | some (p, v) => (propertyValue? (plainName p) (plainName v)).map (·, true)
  | none =>
    match (cutAtChar ':' name).or (cutAtChar '=' name) with
    | some (p, v) => (propertyValue? (plainName p) (plainName v)).map (·, false)
    | none => (property? (plainName name)).map (·, false)

def negateIf (negated : Bool) (s : CharSet) : CharSet :=
  if negated then s.compl else s

def readProperty (f : Flags) (negated : Bool) (s : List Char) : Except PatternFault (Primitive × List Char) := do
  let (name, left) ←
    match s with
    | [] => .error .badEscape
    | '\x7b' :: rest =>
      match readBraced f (rest.length + 1) (skip f rest) with
      | some r => pure r
      | none => .error .badEscape
    | '\\' :: _ => .error .badEscape
    | c :: rest => pure ([c], rest)
  if !f.unicode then .error .notText
  else
    match propertySet? name with
    | some (set, other) => .ok (.class (negateIf (negated != other) (f.fold set)), left)
    | none => .error .unknownProperty

/-- The class that an escaped letter stands for. Outside Unicode its complement is not text. -/
def readLetterClass (f : Flags) (c : Char) (s : List Char) : Except PatternFault (Primitive × List Char) :=
  let letter := if c.toNat < 0x61 then Char.ofNat (c.toNat + 32) else c
  let negated := letter != c
  match letterClass? f.unicode letter with
  | some set => if negated && !f.unicode then .error .notText else .ok (.class (negateIf negated set), s)
  | none => .error .badEscape

def isPlaceChar (c : Char) : Bool :=
  ('a' ≤ c && c ≤ 'z') || ('A' ≤ c && c ≤ 'Z') || c = '-'

def takePlace (f : Flags) : Nat → List Char → List Char × List Char
  | 0, s => ([], s)
  | fuel + 1, s =>
    match s with
    | c :: rest =>
      if isPlaceChar c then
        let (name, left) := takePlace f fuel (skip f rest)
        (c :: name, left)
      else ([], s)
    | [] => ([], s)

/-- A word edge; a name in braces makes it one side of a word. Braces that hold no name are left to
be read as a repetition. -/
def readEdge (f : Flags) (s : List Char) : Except PatternFault (Primitive × List Char) :=
  match s with
  | '\x7b' :: rest =>
    match skip f rest with
    | [] => .error .badEscape
    | c :: more =>
      if isPlaceChar c then
        let (name, left) := takePlace f (more.length + 1) (c :: more)
        match left, Place.ofName? (String.ofList name) with
        | '\x7d' :: left, some p => .ok (.place p, left)
        | _, _ => .error .badEscape
      else .ok (.place .edge, s)
  | _ => .ok (.place .edge, s)

def isMeta (c : Char) : Bool :=
  "\\.+*?()|[]\x7b\x7d^$#&-~".toList.contains c

def isEscapable (c : Char) : Bool :=
  isMeta c || (c.toNat < 128 && !c.isAlphanum && c != '<' && c != '>')

def controls : List (Char × Char) :=
  [('a', '\x07'), ('f', '\x0c'), ('t', '\t'), ('n', '\n'), ('r', '\r'), ('v', '\x0b')]

def places : List (Char × Place) :=
  [('A', .textStart), ('z', .textEnd), ('B', .notEdge), ('<', .start), ('>', .finish)]

def readEscape (f : Flags) : List Char → Except PatternFault (Primitive × List Char)
  | [] => .error .badEscape
  | c :: rest =>
    if isDigit c then .error .backReference
    else if c = 'x' ∨ c = 'u' ∨ c = 'U' then readHex f c rest
    else if c = 'p' ∨ c = 'P' then readProperty f (c == 'P') rest
    else if "dswDSW".toList.contains c then readLetterClass f c rest
    else if isEscapable c then .ok (.char c false, rest)
    else if c = 'b' then readEdge f rest
    else
      match controls.lookup c, places.lookup c with
      | some k, _ => .ok (.char k false, rest)
      | none, some p => .ok (.place p, rest)
      | none, none => .error .badEscape

def isText (f : Flags) (c : Char) (asByte : Bool) : Bool :=
  f.unicode || !asByte || c.toNat < 128

def foldedChar (f : Flags) (c : Char) : Node :=
  Node.ofSet (f.fold (CharSet.single c))

def dotSet (f : Flags) : CharSet :=
  if f.dotAll then CharSet.full
  else if f.crlf then (CharSet.ofCodes [0xA, 0xD]).compl
  else (CharSet.single '\n').compl

namespace Primitive

def node (f : Flags) : Primitive → Except PatternFault Node
  | .char c asByte => if isText f c asByte then .ok (foldedChar f c) else .error .notText
  | .dot => if f.unicode then .ok (.set (dotSet f)) else .error .notText
  | .place p => .ok (.look (p.look f))
  | .class s => .ok (Node.ofSet s)

def end? (f : Flags) : Primitive → Except PatternFault Char
  | .char c asByte =>
    if isText f c asByte && (f.unicode || c.toNat < 128) then .ok c else .error .notText
  | _ => .error .badClassRange

def classSet (f : Flags) : Primitive → Except PatternFault CharSet
  | .class s => .ok s
  | .char c asByte => do
    let c ← end? f (.char c asByte)
    .ok (CharSet.single c)
  | _ => .error .badClassItem

end Primitive

structure Union where
  set : CharSet
  count : Nat
  depth : Nat

namespace Union

def empty : Union := ⟨CharSet.empty, 0, 0⟩

def add (u : Union) (set : CharSet) (depth : Nat) : Union :=
  ⟨u.set.union set, u.count + 1, max u.depth depth⟩

/-- More than one member makes a level of its own. -/
def closed (u : Union) : CharSet × Nat :=
  (u.set, if u.count < 2 then u.depth else u.depth + 1)

end Union

inductive ClassOp
  | inter
  | diff
  | symmDiff
  deriving DecidableEq, Repr

namespace ClassOp

def apply : ClassOp → CharSet → CharSet → CharSet
  | .inter => CharSet.inter
  | .diff => CharSet.diff
  | .symmDiff => CharSet.symmDiff

def ofSigns? : List Char → Option (ClassOp × List Char)
  | '&' :: '&' :: rest => some (.inter, rest)
  | '-' :: '-' :: rest => some (.diff, rest)
  | '~' :: '~' :: rest => some (.symmDiff, rest)
  | _ => none

end ClassOp

abbrev Pending := Option (ClassOp × CharSet × Nat)

def settle (f : Flags) (pending : Pending) (u : Union) : CharSet × Nat :=
  let (right, depth) := u.closed
  match pending with
  | none => (right, depth)
  | some (op, left, leftDepth) =>
    (op.apply (f.fold left) (f.fold right), max leftDepth depth + 1)

def readAsciiClass : List Char → Option (CharSet × Bool × List Char)
  | ':' :: rest =>
    let (negated, rest) := match rest with
      | '^' :: more => (true, more)
      | _ => (false, rest)
    let name := rest.takeWhile (· ≠ ':')
    match rest.dropWhile (· ≠ ':') with
    | ':' :: ']' :: left => (asciiClass? (String.ofList name)).map (·, negated, left)
    | _ => none
  | _ => none

def foldAndNegate (f : Flags) (negated : Bool) (s : CharSet) : Except PatternFault CharSet :=
  if negated && !f.unicode then .error .notText else .ok (negateIf negated (f.fold s))

def readClassPrimitive (f : Flags) : List Char → Except PatternFault (Primitive × List Char)
  | [] => .error .unclosedClass
  | '\\' :: rest => readEscape f rest
  | c :: rest => .ok (.char c false, rest)

def readClassItem (f : Flags) (s : List Char) : Except PatternFault (CharSet × List Char) := do
  let (first, s) ← readClassPrimitive f s
  let s := skip f s
  let second := peekSecond f s
  if s = [] then .error .unclosedClass
  else if s.head? ≠ some '-' ∨ second = some ']' ∨ second = some '-' then
    .ok (← first.classSet f, s)
  else
    match skip f (s.drop 1) with
    | [] => .error .unclosedClass
    | s => do
      let (last, s) ← readClassPrimitive f s
      let first ← first.end? f
      let last ← last.end? f
      if first ≤ last then .ok (CharSet.range first.toNat last.toNat, s) else .error .badClassRange

def openingDashes (f : Flags) : Nat → List Char → Nat × List Char
  | 0, s => (0, s)
  | fuel + 1, s =>
    match s with
    | '-' :: rest =>
      let (n, left) := openingDashes f fuel (skip f rest)
      (n + 1, left)
    | _ => (0, s)

def readClassOpen (f : Flags) (s : List Char) : Except PatternFault ((Bool × Union) × List Char) :=
  let s := skip f s
  let (negated, s) := match s with
    | '^' :: rest => (true, skip f rest)
    | _ => (false, s)
  let (dashes, s) := openingDashes f s.length s
  let u : Union := ⟨if dashes = 0 then CharSet.empty else CharSet.single '-', dashes, 0⟩
  match s with
  | [] => .error .unclosedClass
  | ']' :: rest =>
    if dashes = 0 then
      match skip f rest with
      | [] => .error .unclosedClass
      | left => .ok ((negated, Union.empty.add (CharSet.single ']') 0), left)
    else .ok ((negated, u), s)
  | _ => .ok ((negated, u), s)

mutual

def readClass (f : Flags) : Nat → List Char → Except PatternFault ((CharSet × Nat) × List Char)
  | 0, _ => .error .unclosedClass
  | fuel + 1, s => do
    let ((negated, u), s) ← readClassOpen f s
    let ((set, depth), s) ← readClassItems f fuel none u s
    .ok ((← foldAndNegate f negated set, depth + 1), s)

def readClassItems (f : Flags) : Nat → Pending → Union → List Char → Except PatternFault ((CharSet × Nat) × List Char)
  | 0, _, _, _ => .error .unclosedClass
  | fuel + 1, pending, u, s =>
    match skip f s with
    | [] => .error .unclosedClass
    | ']' :: left => .ok (settle f pending u, left)
    | '[' :: rest =>
      match readAsciiClass rest with
      | some (set, negated, left) => do
        let set ← foldAndNegate f negated set
        readClassItems f fuel pending (u.add set 0) left
      | none => do
        let ((set, depth), left) ← readClass f fuel rest
        readClassItems f fuel pending (u.add set depth) left
    | s =>
      match ClassOp.ofSigns? s with
      | some (op, left) =>
        let (set, depth) := settle f pending u
        readClassItems f fuel (some (op, set, depth)) Union.empty left
      | none => do
        let (set, left) ← readClassItem f s
        readClassItems f fuel pending (u.add set 0) left

end

def isAlphabetic (c : Char) : Bool :=
  if c.toNat < 128 then c.isAlpha
  else ((Property.Named.find? Property.binaries "alphabetic").map (·.mem c)).getD false

def isNumeric (c : Char) : Bool :=
  if c.toNat < 128 then c.isDigit else ((category? "n").map (·.mem c)).getD false

def isNameStart (c : Char) : Bool :=
  c = '_' || isAlphabetic c

def isNamePart (c : Char) : Bool :=
  c = '_' || c = '.' || c = '[' || c = ']' || isAlphabetic c || isNumeric c

def readGroupName (names : List (List Char)) (s : List Char) : Except PatternFault ((List Char) × List Char) :=
  match cutAtChar '>' s with
  | none => .error .badGroupName
  | some (name, left) =>
    match name with
    | [] => .error .badGroupName
    | c :: more =>
      if isNameStart c && more.all isNamePart && !names.contains name then .ok (name, left)
      else .error .badGroupName

inductive FlagItem
  | minus
  | flag (c : Char)
  deriving DecidableEq, Repr

def readFlagItems : List FlagItem → List Char → Except PatternFault (List FlagItem × List Char)
  | _, [] => .error .badFlag
  | items, c :: rest =>
    if c = ':' ∨ c = ')' then
      if items.getLast? = some .minus then .error .badFlag else .ok (items, c :: rest)
    else
      let item := if c = '-' then FlagItem.minus else .flag c
      if items.contains item ∨ (c ≠ '-' ∧ (Flags.initial.put c true).isNone) then .error .badFlag
      else readFlagItems (items ++ [item]) rest

def applyFlags (f : Flags) (items : List FlagItem) : Flags :=
  let on := items.takeWhile (· ≠ .minus)
  let off := (items.dropWhile (· ≠ .minus)).drop 1
  let set (value : Bool) (f : Flags) : FlagItem → Flags
    | .flag c => (f.put c value).getD f
    | .minus => f
  off.foldl (set false) (on.foldl (set true) f)

inductive Opening
  | capture (name : Option (List Char))
  | plain (flags : Flags)
  | directive (flags : Flags)

def isLookAround (s : List Char) : Bool :=
  (after? ['?', '='] s).isSome || (after? ['?', '!'] s).isSome ||
    (after? ['?', '<', '='] s).isSome || (after? ['?', '<', '!'] s).isSome

def readOpening (f : Flags) (names : List (List Char)) (s : List Char) : Except PatternFault (Opening × List Char) :=
  let s := skip f s
  if isLookAround s then .error .lookAround
  else
    match (after? ['?', 'P', '<'] s).or (after? ['?', '<'] s) with
    | some rest => (readGroupName names rest).map fun (name, left) => (.capture (some name), left)
    | none =>
      match s with
      | '?' :: rest => do
        let (items, left) ← readFlagItems [] rest
        match left with
        | ')' :: left =>
          if items = [] then .error .nothingToRepeat
          else .ok (.directive (applyFlags f items), left)
        | _ => .ok (.plain (applyFlags f items), left.drop 1)
      | _ => .ok (.capture none, s)

def repeatLast (min : Nat) (max : Option Nat) : List Item → Except PatternFault (List Item)
  | [] => .error .nothingToRepeat
  | item :: rest =>
    if item.isDirective then .error .nothingToRepeat
    else .ok (.deeper (Node.repeated min max item.node) item.depth :: rest)

structure Body where
  item : Item
  names : List (List Char)

/-- Reads up to a closing bracket that is not opened here, or the end. Branches and items are given
last first. -/
def readBody : Nat → Flags → List (List Char) → List Item → List Item → List Char → Except PatternFault (Body × List Char)
  | 0, _, _, _, _, _ => .error .tooDeep
  | fuel + 1, f, names, branches, items, s =>
    match skip f s with
    | [] => .ok (⟨.choice (.sequence items :: branches), names⟩, [])
    | ')' :: rest => .ok (⟨.choice (.sequence items :: branches), names⟩, ')' :: rest)
    | '|' :: rest => readBody fuel f names (.sequence items :: branches) [] rest
    | '(' :: rest => do
      let (opening, rest) ← readOpening f names rest
      match opening with
      | .directive flags => readBody fuel flags names branches (⟨.empty, 0, true⟩ :: items) rest
      | .plain flags => do
        let (inner, rest) ← readBody fuel flags names [] [] rest
        match rest with
        | ')' :: left =>
          readBody fuel f inner.names branches
            (.deeper inner.item.node inner.item.depth :: items) left
        | _ => .error .unclosedGroup
      | .capture name => do
        let (inner, rest) ← readBody fuel f (name.toList ++ names) [] [] rest
        match rest with
        | ')' :: left =>
          readBody fuel f inner.names branches
            (.deeper (.group inner.item.node) inner.item.depth :: items) left
        | _ => .error .unclosedGroup
    | '[' :: rest => do
      let ((set, depth), left) ← readClass f fuel rest
      readBody fuel f names branches (⟨Node.ofSet set, depth, false⟩ :: items) left
    | '?' :: rest => do
      readBody fuel f names branches (← repeatLast 0 (some 1) items) (dropLazy rest)
    | '*' :: rest => do
      readBody fuel f names branches (← repeatLast 0 none items) (dropLazy rest)
    | '+' :: rest => do
      readBody fuel f names branches (← repeatLast 1 none items) (dropLazy rest)
    | '\x7b' :: rest => do
      let ((min, max), left) ← readCount f rest
      readBody fuel f names branches (← repeatLast min max items) (dropLazy left)
    | '\\' :: rest => do
      let (p, left) ← readEscape f rest
      readBody fuel f names branches (.leaf (← p.node f) :: items) left
    | '.' :: rest => do
      readBody fuel f names branches (.leaf (← Primitive.dot.node f) :: items) rest
    | '^' :: rest =>
      readBody fuel f names branches (.leaf (.look (Place.lineStart.look f)) :: items) rest
    | '$' :: rest =>
      readBody fuel f names branches (.leaf (.look (Place.lineEnd.look f)) :: items) rest
    | c :: rest => readBody fuel f names branches (.leaf (foldedChar f c) :: items) rest

def depthLimit : Nat := 250

def readTree (s : List Char) : Except PatternFault Node := do
  let (body, rest) ← readBody (s.length + 1) .initial [] [] [] s
  if rest ≠ [] then .error .unopenedGroup
  else if depthLimit < body.item.depth then .error .tooDeep
  else .ok body.item.node

end ChatRules.Pattern
