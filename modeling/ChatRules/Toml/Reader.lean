import ChatRules.Toml.Quoted
import ChatRules.Toml.Scalar
import ChatRules.Toml.Tree

namespace ChatRules.Toml

def isBare (c : Char) : Bool :=
  ('a' ≤ c && c ≤ 'z') || ('A' ≤ c && c ≤ 'Z') || isDigit c || c = '-' || c = '_'

/-- Levels of nested arrays and tables, and parts of a dotted name, are fewer than this. -/
def limit : Nat := 80

def readName (s : List Char) : Option (String × List Char) :=
  match s with
  | '"' :: _ => (readInline s).map fun r => (String.ofList r.1, r.2)
  | '\'' :: _ => (readInline s).map fun r => (String.ofList r.1, r.2)
  | s =>
    if s.takeWhile isBare = [] then none
    else some (String.ofList (s.takeWhile isBare), s.dropWhile isBare)

def readNames : Nat → List Char → Option (List String × List Char)
  | 0, _ => none
  | fuel + 1, s => do
    let (name, rest) ← readName (skipGap s)
    match skipGap rest with
    | '.' :: more =>
      let (names, left) ← readNames fuel more
      some (name :: names, left)
    | left => some ([name], left)

def readPath (s : List Char) : Option ((List String × String) × List Char) := do
  let (names, rest) ← readNames (limit - 1) s
  let last ← names.getLast?
  some ((names.dropLast, last), rest)

def afterComment : List Char → List Char
  | '#' :: rest => rest.dropWhile isInner
  | s => s

def skipSpace : Nat → List Char → List Char
  | 0, s => s
  | fuel + 1, s =>
    match afterNewline (afterComment (skipGap s)) with
    | some rest => skipSpace fuel rest
    | none => skipGap s

def skipAll (s : List Char) : List Char :=
  skipSpace s.length s

def readTime (s : List Char) : Option (Toml × List Char) :=
  (afterTime s).map fun rest => (.time (String.ofList (spelled s rest)), rest)

def readNumber (s : List Char) : Option (Toml × List Char) :=
  (afterNumber s).map fun rest => (.number (String.ofList (spelled s rest)), rest)

def readScalar (s : List Char) : Option (Toml × List Char) :=
  match s with
  | 't' :: 'r' :: 'u' :: 'e' :: rest => some (.bool true, rest)
  | 'f' :: 'a' :: 'l' :: 's' :: 'e' :: rest => some (.bool false, rest)
  | '"' :: _ => (readString s).map fun r => (.text (String.ofList r.1), r.2)
  | '\'' :: _ => (readString s).map fun r => (.text (String.ofList r.1), r.2)
  | s => readTime s <|> readNumber s

def inlineTable (fields : List ((List String × String) × Toml)) : Option Toml := do
  let made ← fields.foldlM (fun fields f => Fields.put f.1.1 f.1.2 f.2 fields) ([] : Fields)
  some (.table (tomlFields made))

mutual

def readValue : Nat → Nat → List Char → Option (Toml × List Char)
  | 0, _, _ => none
  | fuel + 1, level, s =>
    match s with
    | '[' :: rest =>
      if limit ≤ level + 1 then none
      else do
        let (items, left) ← readItems fuel (level + 1) rest
        some (.array items, left)
    | '\x7b' :: rest =>
      if limit ≤ level + 1 then none
      else
        match skipGap rest with
        | '\x7d' :: left => some (.table [], left)
        | more => do
          let (fields, left) ← readFields fuel (level + 1) more
          let table ← inlineTable fields
          some (table, left)
    | s => readScalar s

def readItems : Nat → Nat → List Char → Option (List Toml × List Char)
  | 0, _, _ => none
  | fuel + 1, level, s =>
    match skipAll s with
    | ']' :: left => some ([], left)
    | s => do
      let (v, rest) ← readValue fuel level s
      match skipAll rest with
      | ']' :: left => some ([v], left)
      | ',' :: more =>
        let (items, left) ← readItems fuel level more
        some (v :: items, left)
      | _ => none

def readFields : Nat → Nat → List Char →
    Option (List ((List String × String) × Toml) × List Char)
  | 0, _, _ => none
  | fuel + 1, level, s => do
    let (path, rest) ← readPath s
    let rest ← afterChar '=' rest
    let (v, rest) ← readValue fuel level (skipGap rest)
    match skipGap rest with
    | '\x7d' :: left => some ([(path, v)], left)
    | ',' :: more =>
      let (fields, left) ← readFields fuel level more
      some ((path, v) :: fields, left)
    | _ => none

end

inductive Entry
  | header (path : List String) (name : String)
  | item (path : List String) (name : String)
  | value (path : List String) (name : String) (v : Toml)
  deriving Repr

def afterLine (s : List Char) : Option (List Char) :=
  match afterComment (skipGap s) with
  | [] => some []
  | s => afterNewline s

def readEntry (s : List Char) : Option (Entry × List Char) :=
  match s with
  | '[' :: '[' :: rest => do
    let ((path, name), rest) ← readPath rest
    let rest ← afterChar ']' rest
    let rest ← afterChar ']' rest
    some (.item path name, rest)
  | '[' :: rest => do
    let ((path, name), rest) ← readPath rest
    let rest ← afterChar ']' rest
    some (.header path name, rest)
  | s => do
    let ((path, name), rest) ← readPath s
    let rest ← afterChar '=' rest
    let rest := skipGap rest
    let (v, rest) ← readValue (2 * rest.length + 2) 0 rest
    some (.value path name v, rest)

def readEntries : Nat → List Char → Option (List Entry)
  | 0, _ => none
  | fuel + 1, s =>
    match skipAll s with
    | [] => some []
    | s =>
      if afterComment s = [] then some []
      else do
        let (entry, rest) ← readEntry s
        let rest ← afterLine rest
        let more ← readEntries fuel rest
        some (entry :: more)

abbrev Draft := Fields × List String

def Draft.add (d : Draft) : Entry → Option Draft
  | .header path name => do
    let fields ← Fields.within .implied (fun _ => Fields.openTable name) path .header d.1
    some (fields, path ++ [name])
  | .item path name => do
    let fields ← Fields.within .implied (fun _ => Fields.openItem name) path .header d.1
    some (fields, path ++ [name])
  | .value path name v => do
    let fields ← Fields.within .implied (fun _ => Fields.put path name v) d.2 .header d.1
    some (fields, d.2)

def afterMark : List Char → List Char
  | '\ufeff' :: rest => rest
  | s => s

def read? (s : List Char) : Option Toml := do
  let s := afterMark s
  let entries ← readEntries (s.length + 1) s
  let (fields, _) ← entries.foldlM Draft.add (([], []) : Draft)
  some (.table (tomlFields fields))

end ChatRules.Toml
