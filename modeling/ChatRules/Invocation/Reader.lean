import ChatRules.Invocation.Form
import ChatRules.Text.Blank

/-!
Reading a command line. Options stand before the words of a verb, and the first word ends them. The
value of an option stands in the same argument, after a sign of equality or right after the letter,
or else in the next one. No option is given twice at one level; of the path of the settings, the one
given under the verb counts.
-/

namespace ChatRules.Invocation
open Text

/-- Options given so far with their values, and one whose value is the next argument or was the last
one. -/
structure Given where
  values : List (Opt × String)
  pending : Option (Opt × Option String)
  deriving DecidableEq, Repr

namespace Given

def empty : Given :=
  ⟨[], none⟩

def value? (g : Given) (o : Opt) : Option String :=
  (g.values.find? fun v => v.1 == o).map Prod.snd

def add (o : Opt) (value : String) (g : Given) : Except Fault Given :=
  if (g.value? o).isSome then .error .repeated
  else if !o.accepts value then .error .missingValue
  else .ok { g with values := g.values ++ [(o, value)] }

def settle (g : Given) : Except Fault Given :=
  match g.pending with
  | none => .ok g
  | some (_, none) => .error .missingValue
  | some (o, some value) => add o value { g with pending := none }

def waiting? (g : Given) : Option Opt :=
  match g.pending with
  | some (o, none) => some o
  | _ => none

def flag (level : Level) (long : Bool) (o : Opt) (g : Given) : Except Fault Given := do
  let g ← g.settle
  match o with
  | .help => .error (.help level.topic long)
  | .version => .error .version
  | o => g.add o ""

def attached (o : Opt) (value : String) (g : Given) : Except Fault Given := do
  let g ← g.settle
  g.add o value

def await (o : Opt) (g : Given) : Except Fault Given := do
  let g ← g.settle
  .ok { g with pending := some (o, none) }

end Given

inductive Reading
  | given (g : Given)
  | word

def longParts (s : List Char) : String × Option String :=
  match cutAtChar '=' s with
  | some (name, value) => (String.ofList name, some (String.ofList value))
  | none => (String.ofList s, none)

def readLong (level : Level) (g : Given) (s : List Char) : Except Fault Reading :=
  let (name, value) := longParts s
  match level.named? name, value with
  | none, _ => if level.words = .any then .ok .word else .error .unknownOption
  | some o, some value =>
    if o.takesValue then .given <$> g.attached o value else .error .needlessValue
  | some o, none =>
    if o.takesValue then .given <$> g.await o else .given <$> g.flag level true o

def readLetters (level : Level) : Given → List Char → Except Fault Given
  | g, [] => .ok g
  | g, c :: rest =>
    match level.lettered? c with
    | none => .error .unknownOption
    | some o =>
      if o.takesValue then
        match rest with
        | [] => g.await o
        | '=' :: value => g.attached o (String.ofList value)
        | value => g.attached o (String.ofList value)
      else do
        let g ← g.flag level false o
        readLetters level g rest

def readShort (level : Level) (g : Given) (s : List Char) : Except Fault Reading :=
  if level.words = .any ∧ s.any fun c => (level.lettered? c).isNone then .ok .word
  else .given <$> readLetters level g s

def strayWord (level : Level) (afterDashes : Bool) (word : String) : Fault :=
  match level with
  | .top =>
    if afterDashes && (word == "help" || (Verb.ofWord? word).isSome) then .unknownOption
    else .unknownVerb
  | .under _ => .unknownOption

def startWords (level : Level) (afterDashes : Bool) (g : Given) :
    List String → Except Fault (Given × List String)
  | [] => .ok (g, [])
  | word :: rest =>
    if level.words = .none then .error (strayWord level afterDashes word)
    else do
      let g ← g.settle
      .ok (g, word :: rest)

def isVerb (word : String) : Bool :=
  word == "help" || (Verb.ofWord? word).isSome

def readOptions (level : Level) : Given → List String → Except Fault (Given × List String)
  | g, [] => .ok (g, [])
  | g, arg :: rest =>
    if level = .top ∧ g.waiting? = none ∧ isVerb arg then .ok (g, arg :: rest)
    else
      let asWord : Except Fault (Given × List String) :=
        match g.waiting? with
        | some o => readOptions level { g with pending := some (o, some arg) } rest
        | none => startWords level false g (arg :: rest)
      let continued (reading : Except Fault Reading) : Except Fault (Given × List String) :=
        match reading with
        | .error fault => .error fault
        | .ok (.given g) => readOptions level g rest
        | .ok .word => asWord
      match arg.toList with
      | ['-', '-'] => startWords level true g rest
      | '-' :: '-' :: s => continued (readLong level g s)
      | '-' :: c :: s => continued (readShort level g (c :: s))
      | _ => asWord

def requiredValue (g : Given) (o : Opt) : Except Fault String :=
  match g.value? o with
  | some value => .ok value
  | none => .error .missingArgument

def taskOf (g : Given) (words : List String) : Verb → Except Fault Task
  | .workflow =>
    .ok (.workflow ((g.value? .sender).getD "admin") (g.value? .yes).isSome words)
  | .simulate => do
    let room ← requiredValue g .room
    let user ← requiredValue g .user
    if words = [] then .error .missingArgument else .ok (.simulate room user words)
  | .listen => .ok .listen
  | .examples => .ok .examples

def readVerb (v : Verb) (args : List String) : Except Fault (Option String × Task) := do
  let (g, words) ← readOptions (.under v) .empty args
  let g ← g.settle
  let task ← taskOf g words v
  .ok (g.value? .config, task)

def helpOn : List String → Topic → Fault
  | [], topic => .help topic true
  | word :: rest, .program =>
    if word = "help" then helpOn rest .help
    else
      match Verb.ofWord? word with
      | some v => helpOn rest (.verb v)
      | none => .unknownVerb
  | _ :: _, _ => .unknownVerb

def defaultConfig : String := "config/default.toml"

def readTask (g : Given) : List String → Except Fault Invocation
  | [] => do
    let g ← g.settle
    .error (if g.values = [] then .nothingGiven else .missingVerb)
  | word :: rest =>
    match Verb.ofWord? word with
    | none => .error (helpOn rest .program)
    | some v => do
      let (config, task) ← readVerb v rest
      let g ← g.settle
      .ok ⟨(config <|> g.value? .config).getD defaultConfig, task⟩

def read (args : List String) : Except Fault Invocation := do
  let (g, rest) ← readOptions .top .empty args
  readTask g rest

end ChatRules.Invocation
