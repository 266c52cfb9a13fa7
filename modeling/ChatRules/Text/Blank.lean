namespace ChatRules.Text

def isBlank (c : Char) : Bool :=
  c = ' ' || ('\t' ≤ c && c ≤ '\r') || c = '\u0085' || c = '\u00a0' || c = '\u1680' ||
    ('\u2000' ≤ c && c ≤ '\u200a') || c = '\u2028' || c = '\u2029' || c = '\u202f' ||
    c = '\u205f' || c = '\u3000'

def trimLeft (s : List Char) : List Char :=
  s.dropWhile isBlank

def trimRight (s : List Char) : List Char :=
  (s.reverse.dropWhile isBlank).reverse

def trim (s : List Char) : List Char :=
  trimRight (trimLeft s)

def cutAt (p : Char → Bool) : List Char → Option (List Char × List Char)
  | [] => none
  | c :: rest =>
    if p c then some ([], rest)
    else (cutAt p rest).map fun (before, after) => (c :: before, after)

def cutAtBlank : List Char → Option (List Char × List Char) :=
  cutAt isBlank

def cutAtChar (x : Char) : List Char → Option (List Char × List Char) :=
  cutAt (· == x)

def after? : List Char → List Char → Option (List Char)
  | [], s => some s
  | _ :: _, [] => none
  | x :: xs, c :: s => if x = c then after? xs s else none

def between? (x : Char) (s : List Char) : Option (List Char) :=
  match s with
  | [] => none
  | c :: rest =>
    if c = x ∧ rest.getLast? = some x then some rest.dropLast else none

def isInfix (needle : List Char) : List Char → Bool
  | [] => needle.isEmpty
  | c :: s => needle.isPrefixOf (c :: s) || isInfix needle s

end ChatRules.Text
