import ChatRules.Console.Directory
import ChatRules.Text.Blank
import ChatRules.Toml.Reader

namespace ChatRules

inductive LogFormat
  | compact
  | json
  deriving DecidableEq, Repr

structure Settings where
  database : String
  app : Option String
  logLevel : String
  logFormat : LogFormat
  directory : Directory
  deriving DecidableEq, Repr

namespace Settings
open Toml

def default : Settings :=
  ⟨"data/chatflow.db", none, "info", .compact, ⟨[], []⟩⟩

def fieldValues (names : List String) : Toml → Option (List (Option Toml))
  | .table fields => some (names.map fun n => (fields.find? fun f => f.1 == n).map Prod.snd)
  | .time _ => some (names.map fun _ => none)
  | .array items =>
    some ((items.take names.length).map some ++
      List.replicate (names.length - items.length) none)
  | _ => none

def orElse {α : Type} (decode : Toml → Option α) (default : α) : Option Toml → Option α
  | none => some default
  | some v => decode v

def text? : Toml → Option String
  | .text s => some s
  | _ => none

def list? {α : Type} (decode : Toml → Option α) : Toml → Option (List α)
  | .array items => items.mapM decode
  | _ => none

def pair? {α : Type} (first second : String) (make : String → String → α) (v : Toml) : Option α := do
  let [a, b] ← fieldValues [first, second] v | none
  some (make (← a.bind text?) (← b.bind text?))

def user? : Toml → Option User :=
  pair? "id" "handle" User.mk

def room? : Toml → Option Room :=
  pair? "id" "name" Room.mk

def directory? (v : Toml) : Option Directory := do
  let [users, rooms] ← fieldValues ["users", "rooms"] v | none
  some ⟨← orElse (list? user?) [] users, ← orElse (list? room?) [] rooms⟩

def word? : Toml → Option String
  | .text s => some s
  | .table [(name, .table [])] => some name
  | _ => none

def logFormat? (v : Toml) : Option LogFormat := do
  let word ← word? v
  if word = "compact" then some .compact
  else if word = "json" then some .json
  else none

def database? (v : Toml) : Option String := do
  let [path] ← fieldValues ["path"] v | none
  orElse text? default.database path

def app? (v : Toml) : Option (Option String) := do
  let [app] ← fieldValues ["app_user"] v | none
  orElse (fun v => (text? v).map some) none app

def logging? (v : Toml) : Option (String × LogFormat) := do
  let [level, format] ← fieldValues ["level", "format"] v | none
  some (← orElse text? default.logLevel level, ← orElse logFormat? default.logFormat format)

def ofToml? (v : Toml) : Option Settings := do
  let [database, bot, logging, directory] ←
    fieldValues ["database", "bot", "logging", "directory"] v | none
  let database ← orElse database? default.database database
  let app ← orElse app? none bot
  let (level, format) ← orElse logging? (default.logLevel, default.logFormat) logging
  some ⟨database, app, level, format, ← orElse directory? default.directory directory⟩

def read? (text : String) : Option Settings :=
  (Toml.read? text.toList).bind ofToml?

def variableNames : List String :=
  ["CHATFLOW_DB", "CHATFLOW_APP_USER", "CHATFLOW_LOG"]

def setting? (env : String → Option String) (name : String) : Option String :=
  (env name).filter fun v => Text.trim v.toList ≠ []

def override (env : String → Option String) (s : Settings) : Settings :=
  { s with
    database := (setting? env "CHATFLOW_DB").getD s.database
    app := setting? env "CHATFLOW_APP_USER" <|> s.app
    logLevel := (setting? env "CHATFLOW_LOG").getD s.logLevel }

end Settings

end ChatRules
