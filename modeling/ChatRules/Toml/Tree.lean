import ChatRules.Toml.Value

/-!
Tables as they grow line by line. A table is opened by its own header once, or comes about on the
way to another one, by a header or by a dotted name; what came about in one way is not added to in
the other.
-/

namespace ChatRules.Toml

inductive Origin
  | header
  | implied
  | dotted
  deriving DecidableEq, Repr

inductive Node
  | leaf (v : Toml)
  | table (origin : Origin) (fields : List (String × Node))
  | tables (earlier : List (List (String × Node))) (last : List (String × Node))
  deriving Repr

abbrev Fields := List (String × Node)

namespace Fields

def get? (name : String) (fields : Fields) : Option Node :=
  (fields.find? fun f => f.1 == name).map Prod.snd

def set (name : String) (node : Node) : Fields → Fields
  | [] => [(name, node)]
  | f :: rest => if f.1 = name then (name, node) :: rest else f :: set name node rest

/-- What a change does to the table at the end of a path; tables that are not there are made. Dotted
paths do not pass through tables with a header of their own. -/
def within (origin : Origin) (change : Origin → Fields → Option Fields) :
    List String → Origin → Fields → Option Fields
  | [], own, fields => change own fields
  | name :: path, _, fields => do
    let node ← match get? name fields with
      | none => (within origin change path origin []).map (Node.table origin)
      | some (.leaf _) => none
      | some (.table own inner) =>
        if origin = .dotted ∧ own = .header then none
        else (within origin change path own inner).map (Node.table own)
      | some (.tables earlier last) =>
        (within origin change path .header last).map (Node.tables earlier)
    some (set name node fields)

def addNew (name : String) (v : Toml) (fields : Fields) : Option Fields :=
  if (get? name fields).isSome then none else some (set name (.leaf v) fields)

def put (path : List String) (name : String) (v : Toml) (fields : Fields) : Option Fields :=
  within .dotted (fun own fields =>
    if path ≠ [] ∧ own ≠ .dotted then none else addNew name v fields) path .header fields

def openTable (name : String) (fields : Fields) : Option Fields :=
  match get? name fields with
  | none => some (set name (.table .header []) fields)
  | some (.table .implied inner) => some (set name (.table .header inner) fields)
  | some _ => none

def openItem (name : String) (fields : Fields) : Option Fields :=
  match get? name fields with
  | none => some (set name (.tables [] []) fields)
  | some (.tables earlier last) => some (set name (.tables (earlier ++ [last]) []) fields)
  | some _ => none

end Fields

mutual

def Node.toml : Node → Toml
  | .leaf v => v
  | .table _ fields => .table (tomlFields fields)
  | .tables earlier last => .array (tomlTables earlier ++ [.table (tomlFields last)])

def tomlFields : List (String × Node) → List (String × Toml)
  | [] => []
  | (name, node) :: rest => (name, node.toml) :: tomlFields rest

def tomlTables : List (List (String × Node)) → List Toml
  | [] => []
  | fields :: rest => .table (tomlFields fields) :: tomlTables rest

end

end ChatRules.Toml
