import ChatRules.Invocation.Form

namespace ChatRules.Invocation

def versionText : String := "chatflow 0.1.0\n"

namespace Verb

def summary : Verb → String
  | .workflow => "Run an authoring command: create, list, delete, enable, disable, english"
  | .simulate => "Run one chat message through the enabled rules"
  | .listen => "Read `#room @user message` lines from stdin and dispatch each one"
  | .examples => "Print the example English commands"

end Verb

namespace Topic

def hasMore : Topic → Bool
  | .program | .verb .listen => true
  | _ => false

def helpSummary : String := "Print this message or the help of the given subcommand(s)"

def about (long : Bool) : Topic → String
  | .program =>
    if long then
      "Author chat automation rules in a compact key=value syntax or in plain English, " ++
        "then run incoming chat messages through them."
    else "chatflow -- chat automation rules from plain English"
  | .verb .listen =>
    if long then
      Verb.listen.summary ++ ".\n\n" ++
        "Messages starting with `/workflow` are treated as authoring commands."
    else Verb.listen.summary
  | .verb v => v.summary
  | .help => helpSummary

def usage : Topic → String
  | .program => "chatflow [OPTIONS] <COMMAND>"
  | .verb .workflow => "chatflow workflow [OPTIONS] [ARGS]..."
  | .verb .simulate => "chatflow simulate [OPTIONS] --room <ROOM> --user <USER> <TEXT>..."
  | .verb .listen => "chatflow listen [OPTIONS]"
  | .verb .examples => "chatflow examples [OPTIONS]"
  | .help => "chatflow help [COMMAND]..."

def words : Topic → List (String × String)
  | .verb .workflow =>
    [("[ARGS]...", "Subcommand and its arguments, e.g. `create contains=hi action=delete`")]
  | .verb .simulate => [("<TEXT>...", "Message text")]
  | .help => [("[COMMAND]...", "Print help for the subcommand(s)")]
  | _ => []

structure Item where
  form : String
  text : String
  default : Option String
  deriving DecidableEq, Repr

def configItem : Item :=
  ⟨"-c, --config <CONFIG>", "Path to the TOML configuration file", some "config/default.toml"⟩

def helpItem (topic : Topic) (long : Bool) : Item :=
  let more :=
    if !topic.hasMore then ""
    else if long then " (see a summary with '-h')"
    else " (see more with '--help')"
  ⟨"-h, --help", "Print help" ++ more, none⟩

def items (topic : Topic) (long : Bool) : List Item :=
  let help := topic.helpItem long
  match topic with
  | .program => [configItem, help, ⟨"-V, --version", "Print version", none⟩]
  | .verb .workflow =>
    [⟨"    --as <USER>", "Handle or id of the user issuing the command", some "admin"⟩, configItem,
      ⟨"-y, --yes", "Create rules from an English command without asking for confirmation", none⟩,
      help]
  | .verb .simulate =>
    [configItem, ⟨"-r, --room <ROOM>", "Room name or id the message was posted in", none⟩,
      ⟨"-u, --user <USER>", "Handle or id of the sender", none⟩, help]
  | .verb .listen => [configItem, help]
  | .verb .examples => [configItem, help]
  | .help => []

def padded (width : Nat) (s : String) : String :=
  s ++ String.ofList (List.replicate (width - s.length) ' ')

def columns (entries : List (String × String)) : String :=
  let width := (entries.map fun e => e.1.length).foldl max 0
  String.join (entries.map fun e => "  " ++ padded width e.1 ++ "  " ++ e.2 ++ "\n")

def Item.short (i : Item) : String × String :=
  (i.form, i.text ++ ((i.default.map fun d => " [default: " ++ d ++ "]").getD ""))

def Item.long (i : Item) : String :=
  let indent := "          "
  let default := (i.default.map fun d =>
    indent ++ "\n" ++ indent ++ "[default: " ++ d ++ "]\n").getD ""
  "  " ++ i.form ++ "\n" ++ indent ++ i.text ++ "\n" ++ default

def verbs : List (String × String) :=
  Verb.all.map (fun v => (v.word, v.summary)) ++ [("help", helpSummary)]

def titled (title body : String) : String :=
  if body = "" then "" else "\n" ++ title ++ ":\n" ++ body

def text (topic : Topic) (long : Bool) : String :=
  let long := long && topic.hasMore
  let items := topic.items long
  let options :=
    if long then String.intercalate "\n" (items.map Item.long) else columns (items.map Item.short)
  topic.about long ++ "\n\nUsage: " ++ topic.usage ++ "\n" ++
    titled "Commands" (if topic = .program then columns verbs else "") ++
    titled "Arguments" (columns topic.words) ++ titled "Options" options

end Topic

def Fault.answer? : Fault → Option String
  | .help topic long => some (topic.text long)
  | .version => some versionText
  | _ => none

end ChatRules.Invocation
