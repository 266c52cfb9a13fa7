import ChatRules.Text.Blank

/-!
Tokens of a command line: blanks separate them, except inside a quoted run. A run starts at a quote
outside any run and ends with the next equal quote, or with the line; its quotes stay in the token.
-/

namespace ChatRules.Token
open Text

def isQuote (c : Char) : Bool :=
  c = '"' || c = '\''

def openAfter : Option Char → Char → Option Char
  | some q, c => if c = q then none else some q
  | none, c => if isQuote c then some c else none

def close (word : List Char) (tokens : List (List Char)) : List (List Char) :=
  if word = [] then tokens else word.reverse :: tokens

def splitFrom : Option Char → List Char → List Char → List (List Char)
  | _, word, [] => close word []
  | run, word, c :: rest =>
    if run = none ∧ isBlank c then close word (splitFrom none [] rest)
    else splitFrom (openAfter run c) (c :: word) rest

def split (line : List Char) : List (List Char) :=
  splitFrom none [] line

def unquote (s : List Char) : List Char :=
  (between? '"' s).getD ((between? '\'' s).getD s)

def unquoteTrimmed (s : List Char) : List Char :=
  let t := trim s
  match between? '"' t with
  | some inner => trim inner
  | none => ((between? '\'' t).map trim).getD t

end ChatRules.Token
