import ChatRules.Text.Lowercase

/-!
The schema of the rule table and its migrations. Applied versions are recorded. Each pending
migration runs its statements one by one in a transaction of its own, which is rolled back where one
of them fails; the migrations after that one are not tried.
-/

namespace ChatRules

inductive Cell
  | null
  | int (n : Int)
  | text (s : String)
  deriving DecidableEq, Repr

structure Relation where
  columns : List String
  rows : List (List Cell)
  indexes : List String
  deriving DecidableEq, Repr

namespace Relation

def sameName (a b : String) : Bool :=
  Text.equalIgnoringAsciiCase a.toList b.toList

def position? (name : String) (r : Relation) : Option Nat :=
  r.columns.findIdx? fun c => sameName c name

def has (name : String) (r : Relation) : Bool :=
  (r.position? name).isSome

def cell (row : List Cell) (i : Nat) : Cell :=
  row.getD i .null

def addColumn (name : String) (r : Relation) : Option Relation :=
  if r.has name then none
  else some { r with columns := r.columns ++ [name], rows := r.rows.map (· ++ [.null]) }

/-- The relation with the values of one column written over those of another. They are taken as they
are: a text is not made a number, whatever the column is declared to hold. -/
def copyColumn (source target : String) (r : Relation) : Option Relation := do
  let i ← r.position? source
  let j ← r.position? target
  some { r with rows := r.rows.map fun row => row.set j (cell row i) }

def addIndex (name column : String) (r : Relation) : Option Relation :=
  if r.indexes.any (fun i => sameName i name) || !r.has column then none
  else some { r with indexes := r.indexes ++ [name] }

end Relation

structure Contents where
  versions : Option (List Int)
  rules : Option Relation
  deriving DecidableEq, Repr

structure Database extends Contents where
  inTransaction : Bool
  /-- What the open transaction began on. Without one it has no meaning. -/
  begunOn : Contents
  deriving DecidableEq, Repr

inductive MigrationStage
  | readVersion
  | beginTransaction
  | execution
  | recording
  | commit
  deriving DecidableEq, Repr

namespace MigrationStage

def message : MigrationStage → String
  | .readVersion => "failed to read current version"
  | .beginTransaction => "failed to begin transaction"
  | .execution => "SQL execution failed"
  | .recording => "failed to record migration"
  | .commit => "failed to commit"

end MigrationStage

structure MigrationFault where
  version : Nat
  stage : MigrationStage
  deriving DecidableEq, Repr

abbrev Statement := Option Relation → Option (Option Relation)

namespace Statement

def ruleColumns : List String :=
  ["seq", "id", "name", "created_by", "created_at", "enabled", "trigger", "actions"]

def createRules : Statement
  | none => some (some ⟨ruleColumns, [], []⟩)
  | some _ => none

def alter (change : Relation → Option Relation) : Statement
  | none => none
  | some r => (change r).map some

end Statement

structure Migration where
  version : Nat
  statements : List Statement

namespace Migration
open Statement

def all : List Migration :=
  [⟨1, [createRules]⟩,
    ⟨2, [alter (·.addColumn "updated_at"), alter (·.copyColumn "created_at" "updated_at"),
      alter (·.addIndex "idx_rules_enabled" "enabled")]⟩]

end Migration

namespace Database

def empty : Database :=
  ⟨⟨none, none⟩, false, ⟨none, none⟩⟩

def latest : List Int → Int
  | [] => 0
  | v :: rest => rest.foldl max v

def version (d : Database) : Except MigrationFault Nat :=
  match d.versions with
  | none => .error ⟨0, .readVersion⟩
  | some vs =>
    if 0 ≤ latest vs ∧ latest vs < 0x100000000 then .ok (latest vs).toNat
    else .error ⟨0, .readVersion⟩

def ensureVersions (d : Database) : Database :=
  { d with versions := some (d.versions.getD []) }

def mark (v : Int) (d : Database) : Database :=
  let vs := d.versions.getD []
  { d with versions := some (if vs.contains v then vs else vs ++ [v]) }

def unmark (v : Int) (d : Database) : Database :=
  { d with versions := some ((d.versions.getD []).filter (· ≠ v)) }

def begin? (d : Database) : Option Database :=
  if d.inTransaction then none
  else some { d with inTransaction := true, begunOn := d.toContents }

def commit? (d : Database) : Option Database :=
  if d.inTransaction then some { d with inTransaction := false } else none

/-- Goes back to where the open transaction began, whoever began it. -/
def rollBack (d : Database) : Database :=
  if d.inTransaction then { d with toContents := d.begunOn, inTransaction := false } else d

/-- The statements in order, up to the first that fails; what those before it did is not undone. -/
def execute : List Statement → Database → Bool × Database
  | [], d => (true, d)
  | statement :: rest, d =>
    match statement d.rules with
    | some rules => execute rest { d with rules := rules }
    | none => (false, d)

def record? (v : Int) (d : Database) : Option Database :=
  match d.versions with
  | none => none
  | some vs => if vs.contains v then none else some { d with versions := some (vs ++ [v]) }

def carryOut (m : Migration) (d : Database) : Except MigrationFault Unit × Database :=
  match d.execute m.statements with
  | (false, d) => (.error ⟨m.version, .execution⟩, d)
  | (true, d) =>
    match d.record? m.version with
    | none => (.error ⟨m.version, .recording⟩, d)
    | some d => (.ok (), d)

def apply (m : Migration) (d : Database) : Except MigrationFault Unit × Database :=
  match d.begin? with
  | none => (.error ⟨m.version, .beginTransaction⟩, d)
  | some d =>
    match d.carryOut m with
    | (.error fault, d) => (.error fault, d.rollBack)
    | (.ok (), d) =>
      match d.commit? with
      | none => (.error ⟨m.version, .commit⟩, d)
      | some d => (.ok (), d)

def applyAll : List Migration → Database → Except MigrationFault Unit × Database
  | [], d => (.ok (), d)
  | m :: rest, d =>
    match d.apply m with
    | (.ok (), d) => applyAll rest d
    | (.error fault, d) => (.error fault, d)

def migrateBy (migrations : List Migration) (d : Database) :
    Except MigrationFault Unit × Database :=
  let d := d.ensureVersions
  match d.version with
  | .error fault => (.error fault, d)
  | .ok current => applyAll (migrations.filter fun m => current < m.version) d

def migrate (d : Database) : Except MigrationFault Unit × Database :=
  d.migrateBy Migration.all

end Database

end ChatRules
