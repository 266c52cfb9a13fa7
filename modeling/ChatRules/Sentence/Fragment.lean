import ChatRules.Text.Blank
import ChatRules.Text.Lowercase

/-!
Fragments of a sentence: what stands between the words `then` and `and`. A word ends at a blank, so
a word that only contains one of the two does not separate.
-/

namespace ChatRules.Sentence
open Text

def isConnective (word : List Char) : Bool :=
  equalIgnoringAsciiCase word "then".toList || equalIgnoringAsciiCase word "and".toList

structure Word where
  gap : List Char
  letters : List Char
  deriving DecidableEq, Repr

/-- The words of a text; blanks at its end belong to none. The gap and the word in progress are
given last character first. -/
def wordsFrom : List Char → List Char → List Char → List Word
  | gap, word, [] => if word = [] then [] else [⟨gap.reverse, word.reverse⟩]
  | gap, [], c :: rest =>
    if isBlank c then wordsFrom (c :: gap) [] rest else wordsFrom gap [c] rest
  | gap, x :: word, c :: rest =>
    if isBlank c then ⟨gap.reverse, (x :: word).reverse⟩ :: wordsFrom [c] [] rest
    else wordsFrom gap (c :: x :: word) rest

def words (s : List Char) : List Word :=
  wordsFrom [] [] s

/-- Words up to the next connective run into one fragment, with the gaps between them. -/
def join : List Word → List (List Char)
  | [] => []
  | w :: rest =>
    if isConnective w.letters then join rest
    else
      match rest, join rest with
      | next :: _, fragment :: later =>
        if isConnective next.letters then w.letters :: fragment :: later
        else (w.letters ++ next.gap ++ fragment) :: later
      | _, later => w.letters :: later

def fragments (s : List Char) : List (List Char) :=
  join (words s)

end ChatRules.Sentence
