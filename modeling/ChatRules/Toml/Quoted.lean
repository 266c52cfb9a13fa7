namespace ChatRules.Toml

def isInner (c : Char) : Bool :=
  c = '\t' || (' ' ≤ c && c ≠ '\x7f')

def afterNewline : List Char → Option (List Char)
  | '\n' :: rest => some rest
  | '\r' :: '\n' :: rest => some rest
  | _ => none

def isGap (c : Char) : Bool :=
  c = ' ' || c = '\t'

def skipGap (s : List Char) : List Char :=
  s.dropWhile isGap

def hexDigit? (c : Char) : Option Nat :=
  if '0' ≤ c ∧ c ≤ '9' then some (c.toNat - 48)
  else if 'a' ≤ c ∧ c ≤ 'f' then some (c.toNat - 87)
  else if 'A' ≤ c ∧ c ≤ 'F' then some (c.toNat - 55)
  else none

def char? (n : Nat) : Option Char :=
  if h : n.isValidChar then some (Char.ofNatAux n h) else none

def readHex (count : Nat) (s : List Char) : Option (Char × List Char) := do
  let digits ← (s.take count).mapM hexDigit?
  let c ← char? (digits.foldl (fun n d => n * 16 + d) 0)
  if digits.length = count then some (c, s.drop count) else none

def readEscape : List Char → Option (Char × List Char)
  | 'b' :: rest => some ('\x08', rest)
  | 'f' :: rest => some ('\x0c', rest)
  | 'n' :: rest => some ('\n', rest)
  | 'r' :: rest => some ('\r', rest)
  | 't' :: rest => some ('\t', rest)
  | '\\' :: rest => some ('\\', rest)
  | '"' :: rest => some ('"', rest)
  | 'u' :: rest => readHex 4 rest
  | 'U' :: rest => readHex 8 rest
  | _ => none

def readBasic : Nat → List Char → Option (List Char × List Char)
  | 0, _ => none
  | _ + 1, [] => none
  | _ + 1, '"' :: rest => some ([], rest)
  | fuel + 1, '\\' :: rest => do
    let (c, rest) ← readEscape rest
    let (text, left) ← readBasic fuel rest
    some (c :: text, left)
  | fuel + 1, c :: rest =>
    if isInner c then do
      let (text, left) ← readBasic fuel rest
      some (c :: text, left)
    else none

def readLiteral : List Char → Option (List Char × List Char)
  | [] => none
  | '\'' :: rest => some ([], rest)
  | c :: rest =>
    if isInner c then do
      let (text, left) ← readLiteral rest
      some (c :: text, left)
    else none

def skipLines : Nat → List Char → List Char
  | 0, s => s
  | fuel + 1, s =>
    match afterNewline (skipGap s) with
    | some rest => skipLines fuel rest
    | none => skipGap s

def afterLineEscape (s : List Char) : Option (List Char) :=
  (afterNewline (skipGap s)).map fun rest => skipLines rest.length rest

def quoteRun (q : Char) (s : List Char) : Nat :=
  (s.takeWhile (· == q)).length

/-- A run of three to five quotes ends the text; the last three of them are not part of it. -/
def readBlock (q : Char) (escapes : Bool) : Nat → List Char → Option (List Char × List Char)
  | 0, _ => none
  | _ + 1, [] => none
  | fuel + 1, c :: rest =>
    if c = q then
      let n := min (quoteRun q (c :: rest)) 5
      if 3 ≤ n then some (List.replicate (n - 3) q, (c :: rest).drop n)
      else do
        let (text, left) ← readBlock q escapes fuel rest
        some (c :: text, left)
    else if escapes && c = '\\' then
      match afterLineEscape rest with
      | some rest => readBlock q escapes fuel rest
      | none => do
        let (e, rest) ← readEscape rest
        let (text, left) ← readBlock q escapes fuel rest
        some (e :: text, left)
    else
      match afterNewline (c :: rest) with
      | some rest => do
        let (text, left) ← readBlock q escapes fuel rest
        some ('\n' :: text, left)
      | none =>
        if isInner c then do
          let (text, left) ← readBlock q escapes fuel rest
          some (c :: text, left)
        else none

def readLines (q : Char) (escapes : Bool) (s : List Char) : Option (List Char × List Char) :=
  let s := (afterNewline s).getD s
  readBlock q escapes (s.length + 1) s

def readInline : List Char → Option (List Char × List Char)
  | '"' :: rest => readBasic (rest.length + 1) rest
  | '\'' :: rest => readLiteral rest
  | _ => none

def readString : List Char → Option (List Char × List Char)
  | '"' :: '"' :: '"' :: rest => readLines '"' true rest
  | '\'' :: '\'' :: '\'' :: rest => readLines '\'' false rest
  | s => readInline s

end ChatRules.Toml
