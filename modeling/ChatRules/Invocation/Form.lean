namespace ChatRules

inductive Task
  | workflow (sender : String) (yes : Bool) (words : List String)
  | simulate (room user : String) (words : List String)
  | listen
  | examples
  deriving DecidableEq, Repr

structure Invocation where
  config : String
  task : Task
  deriving DecidableEq, Repr

namespace Invocation

inductive Verb
  | workflow
  | simulate
  | listen
  | examples
  deriving DecidableEq, Repr

namespace Verb

def all : List Verb :=
  [.workflow, .simulate, .listen, .examples]

def word : Verb → String
  | .workflow => "workflow"
  | .simulate => "simulate"
  | .listen => "listen"
  | .examples => "examples"

def ofWord? (word : String) : Option Verb :=
  all.find? fun v => v.word == word

end Verb

inductive Topic
  | program
  | verb (v : Verb)
  | help
  deriving DecidableEq, Repr

inductive Fault
  | help (topic : Topic) (long : Bool)
  | version
  | nothingGiven
  | missingVerb
  | unknownVerb
  | unknownOption
  | missingArgument
  | missingValue
  | needlessValue
  | repeated
  deriving DecidableEq, Repr

namespace Fault

def isWish : Fault → Bool
  | .help _ _ | .version => true
  | _ => false

def message : Fault → String
  | .help _ _ => "help"
  | .version => "version"
  | .nothingGiven => "a subcommand is needed; see --help"
  | .missingVerb => "a subcommand is needed"
  | .unknownVerb => "unrecognized subcommand"
  | .unknownOption => "unexpected argument"
  | .missingArgument => "a required argument was not provided"
  | .missingValue => "a value is required"
  | .needlessValue => "unexpected value"
  | .repeated => "an option cannot be used multiple times"

end Fault

inductive Opt
  | config
  | sender
  | yes
  | room
  | user
  | help
  | version
  deriving DecidableEq, Repr

namespace Opt

def name : Opt → String
  | .config => "config"
  | .sender => "as"
  | .yes => "yes"
  | .room => "room"
  | .user => "user"
  | .help => "help"
  | .version => "version"

def letter? : Opt → Option Char
  | .config => some 'c'
  | .sender => none
  | .yes => some 'y'
  | .room => some 'r'
  | .user => some 'u'
  | .help => some 'h'
  | .version => some 'V'

def takesValue : Opt → Bool
  | .yes | .help | .version => false
  | _ => true

def accepts (o : Opt) (value : String) : Bool :=
  o ≠ .config || value ≠ ""

end Opt

inductive Words
  | none
  | plain
  /-- With any word, one that starts with a dash and is no option included. -/
  | any
  deriving DecidableEq, Repr

inductive Level
  | top
  | under (v : Verb)
  deriving DecidableEq, Repr

namespace Level

def options : Level → List Opt
  | .top => [.config, .help, .version]
  | .under .workflow => [.sender, .config, .yes, .help]
  | .under .simulate => [.config, .room, .user, .help]
  | .under .listen => [.config, .help]
  | .under .examples => [.config, .help]

def words : Level → Words
  | .under .workflow => .any
  | .under .simulate => .plain
  | _ => .none

def topic : Level → Topic
  | .top => .program
  | .under v => .verb v

def named? (l : Level) (name : String) : Option Opt :=
  l.options.find? fun o => o.name == name

def lettered? (l : Level) (letter : Char) : Option Opt :=
  l.options.find? fun o => o.letter? == some letter

end Level

end Invocation

end ChatRules
