import ChatRules.Text.Blank
import ChatRules.Text.CaseFold
import ChatRules.Text.Word

/-!
Phrases: the ways to read the beginning of a text, best first, each with what it read and the text
that is left. A choice that turns out badly later on is thus taken back.
-/

namespace ChatRules.Sentence
open Text

abbrev Phrase (α : Type) := List Char → List (α × List Char)

namespace Phrase
variable {α β : Type}

def give (a : α) : Phrase α :=
  fun s => [(a, s)]

def andThen (p : Phrase α) (f : α → Phrase β) : Phrase β :=
  fun s => (p s).flatMap fun r => f r.1 r.2

instance : Monad Phrase where
  pure := give
  bind := andThen

def either (p q : Phrase α) : Phrase α :=
  fun s => p s ++ q s

def optional (p : Phrase α) : Phrase (Option α) :=
  either (p.andThen fun a => give (some a)) (give none)

def oneOf : List (Phrase α) → Phrase α
  | [] => fun _ => []
  | p :: ps => either p (oneOf ps)

def one (p : Char → Bool) : Phrase Char
  | [] => []
  | c :: rest => if p c then [(c, rest)] else []

def letters : List Char → Phrase Unit
  | [] => give ()
  | x :: xs => (one (sameLetter x)).andThen fun _ => letters xs

def word (w : String) : Phrase Unit :=
  letters w.toList

def run (p : Char → Bool) : Phrase (List Char) :=
  fun s => if s.takeWhile p = [] then [] else [(s.takeWhile p, s.dropWhile p)]

def blanks : Phrase (List Char) :=
  run isBlank

def quotedBy (q : Char) : Phrase (List Char) := do
  let _ ← one (· == q)
  let text ← run (· != q)
  let _ ← one (· == q)
  give text

def quoted : Phrase (List Char) :=
  either (quotedBy '"') (quotedBy '\'')

def isNameChar (c : Char) : Bool :=
  isWord c || c = '-'

def nameRest : Nat → List Char → List Char × List Char
  | 0, s => ([], s)
  | fuel + 1, s =>
    match s with
    | '.' :: rest =>
      let part := rest.takeWhile isNameChar
      if part = [] then ([], s)
      else
        let (more, left) := nameRest fuel (rest.dropWhile isNameChar)
        ('.' :: part ++ more, left)
    | _ => ([], s)

def name : Phrase (List Char) := do
  let first ← run isNameChar
  fun s =>
    let (more, left) := nameRest s.length s
    [(first ++ more, left)]

def nameAfter (sign : Char) : Phrase (List Char) := do
  let _ ← optional (one (· == sign))
  name

def wordEnd : Phrase Unit :=
  fun s => if (s.head?.map isWord).getD false then [] else [((), s)]

/-- The best reading at the first place that has one and does not lie inside a word. -/
def search (p : Phrase α) : Bool → List Char → Option (α × List Char)
  | inWord, [] => if inWord then none else (p []).head?
  | inWord, c :: rest =>
    match if inWord then none else (p (c :: rest)).head? with
    | some reading => some reading
    | none => search p (isWord c) rest

end Phrase

end ChatRules.Sentence
