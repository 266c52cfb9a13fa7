import ChatRules.Store.Call

namespace ChatRules

abbrev Memory := List Rule

namespace Memory

def create (rule : Rule) (m : Memory) : Except Fault Memory := do
  rule.check
  if m.any (·.id == rule.id) then .error (.store ("duplicate rule id " ++ rule.id))
  else .ok (m ++ [rule])

def replace (rule : Rule) : Memory → Memory
  | [] => []
  | r :: rest => if r.id = rule.id then rule :: rest else r :: replace rule rest

def update (rule : Rule) (m : Memory) : Except Fault Memory :=
  if m.any (·.id == rule.id) then .ok (m.replace rule) else .error (.ruleNotFound rule.id)

def delete (id : String) (m : Memory) : Except Fault Memory :=
  if m.any (·.id == id) then .ok (m.filter (·.id != id)) else .error (.ruleNotFound id)

def get (id : String) (m : Memory) : Option Rule :=
  m.find? (·.id == id)

def commit {σ : Type} (old : σ) : Except Fault σ → Except Fault Unit × σ
  | .ok new => (.ok (), new)
  | .error fault => (.error fault, old)

def backend : Backend Memory
  | .all, m => (.ok m, m)
  | .get id, m => (.ok (m.get id), m)
  | .create rule, m => commit m (m.create rule)
  | .update rule, m => commit m (m.update rule)
  | .delete id, m => commit m (m.delete id)

end Memory

end ChatRules
