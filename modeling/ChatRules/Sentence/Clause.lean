import ChatRules.Sentence.Phrase
import ChatRules.Sentence.Step
import ChatRules.Text.Lowercase

/-!
The clauses that a sentence is made of: three forms of a cue and three of a response. The first form
that occurs anywhere in the text decides.
-/

namespace ChatRules
open Sentence Sentence.Phrase

namespace Cue

def anyUserWords : List String :=
  ["someone", "somebody", "anybody", "anyone", "everyone"]

def isAnyUser (name : List Char) : Bool :=
  anyUserWords.any fun w => Text.lower name == w.toList

def namedUser (name : Option (List Char)) : Option String :=
  (name.filter fun n => !isAnyUser n).map String.ofList

def saying : Phrase Unit := do
  oneOf [word "say", word "post"]
  let _ ← optional (word "s")
  let _ ← blanks

def inRoom : Phrase (List Char) := do
  word "in"
  let _ ← blanks
  nameAfter '#'

def subject : Phrase (Option (List Char)) :=
  optional do
    let name ← nameAfter '@'
    let _ ← blanks
    give name

def roomBefore : Phrase (Option (List Char)) :=
  optional do
    let room ← inRoom
    let _ ← blanks
    give room

def roomAfter : Phrase (List Char) := do
  let _ ← blanks
  inRoom

def anyoneSaysInRoom : Phrase Cue := do
  word "when"
  let _ ← blanks
  oneOf (anyUserWords.map word)
  let _ ← blanks
  saying
  let text ← quoted
  let room ← roomAfter
  give ⟨.message, String.ofList text, none, some (String.ofList room)⟩

def userSays : Phrase Cue := do
  word "when"
  let _ ← blanks
  let user ← subject
  let before ← roomBefore
  saying
  let text ← quoted
  let after ← optional roomAfter
  give ⟨.message, String.ofList text, namedUser user, (before <|> after).map String.ofList⟩

def mentioned : Phrase Cue := do
  word "when"
  let _ ← blanks
  let user ← subject
  let room ← roomBefore
  let _ ← optional do
    word "is"
    blanks
  word "mentioned"
  wordEnd
  give ⟨.mention, "", namedUser user, room.map String.ofList⟩

def forms : List (Phrase Cue) :=
  [anyoneSaysInRoom, userSays, mentioned]

def find? (s : List Char) : Option (Cue × List Char) :=
  forms.findSome? fun form => form.search false s

end Cue

namespace Response

def notice : String := "You have been notified"

def send : Phrase Unit := do
  oneOf [word "send", do word "reply"; let _ ← blanks; word "with"]
  let _ ← blanks

def article : Phrase Unit := do
  let _ ← optional do
    word "a"
    blanks

def thisRoom : Phrase (Option (List Char)) := do
  let _ ← optional do
    oneOf [word "the", word "this"]
    blanks
  word "channel"
  wordEnd
  give none

def namedRoom : Phrase (Option (List Char)) := do
  let _ ← one (· == '#')
  let room ← name
  give (some room)

def place : Phrase (Option (List Char)) := do
  let _ ← blanks
  oneOf [word "to", word "in"]
  let _ ← blanks
  either thisRoom namedRoom

def sendMessage : Phrase Response := do
  send
  let _ ← optional do
    article
    word "message"
    blanks
  let text ← quoted
  let room ← optional place
  let target := (room.getD none).map String.ofList
  give ⟨.message, String.ofList text, some (target.getD Action.sameRoom)⟩

def sendDirect : Phrase Response := do
  send
  article
  oneOf [do word "direct"; let _ ← blanks; word "message", word "dm"]
  let _ ← blanks
  let text ← quoted
  let _ ← blanks
  word "to"
  let _ ← blanks
  let user ← nameAfter '@'
  give ⟨.direct, String.ofList text, some (String.ofList user)⟩

def notify : Phrase Response := do
  word "notify"
  let _ ← blanks
  let user ← nameAfter '@'
  give ⟨.direct, notice, some (String.ofList user)⟩

def forms : List (Phrase Response) :=
  [sendMessage, sendDirect, notify]

def find? (s : List Char) : Option Response :=
  forms.findSome? fun form => (form.search false s).map Prod.fst

end Response

end ChatRules
