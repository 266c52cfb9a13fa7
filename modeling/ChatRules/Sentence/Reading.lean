import ChatRules.Sentence.Clause
import ChatRules.Sentence.Fragment
import ChatRules.Sentence.Normal

/-!
Reading a sentence into steps. A cue takes the response from its own fragment or else from the next
one, and opens a step; a later response replaces that of the last step. A cue without a response and
a fragment without either is dropped.
-/

namespace ChatRules.Sentence

def amend : List Step → Option Response → List Step
  | last :: earlier, some response => { last with response := response } :: earlier
  | done, _ => done

/-- The steps so far are given last first. -/
def stepsFrom (done : List Step) : List (List Char) → List Step
  | [] => done.reverse
  | fragment :: rest =>
    match Cue.find? fragment with
    | none => stepsFrom (amend done (Response.find? fragment)) rest
    | some (cue, after) =>
      match Response.find? after with
      | some response => stepsFrom (⟨cue, response⟩ :: done) rest
      | none =>
        match rest with
        | [] => done.reverse
        | next :: later =>
          match Response.find? next with
          | some response => stepsFrom (⟨cue, response⟩ :: done) later
          | none => stepsFrom done (next :: later)

def steps (sentence : List Char) : List Step :=
  stepsFrom [] (fragments (normal sentence))

def steps? (sentence : List Char) : Except Fault (List Step) :=
  let sentence := Text.trim sentence
  if sentence = [] then .error (.parse .emptyCommand)
  else
    match steps sentence with
    | [] => .error (.parse .notRecognised)
    | found => .ok found

end ChatRules.Sentence
