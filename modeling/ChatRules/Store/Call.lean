import ChatRules.Fault

/-!
The calls that a rule store answers, and scripts, which are the calls that a command makes one after
another. A script says nothing of how the store works, so the same one runs on any store.
-/

namespace ChatRules

inductive StoreCall
  | all
  | get (id : String)
  | create (rule : Rule)
  | update (rule : Rule)
  | delete (id : String)
  deriving DecidableEq, Repr

namespace StoreCall

abbrev Answer : StoreCall → Type
  | .all => List Rule
  | .get _ => Option Rule
  | .create _ => Unit
  | .update _ => Unit
  | .delete _ => Unit

end StoreCall

/-- A store whose state is a value: each call gives an answer, or a fault, and the next state. -/
abbrev Backend (σ : Type) :=
  (call : StoreCall) → σ → Except Fault call.Answer × σ

inductive Script (α : Type)
  | done (a : α)
  | call (c : StoreCall) (next : Except Fault c.Answer → Script α)

namespace Script
variable {α β σ : Type}

def andThen : Script α → (α → Script β) → Script β
  | .done a, f => f a
  | .call c next, f => .call c fun answer => (next answer).andThen f

instance : Monad Script where
  pure := .done
  bind := andThen

def ask (c : StoreCall) : Script (Except Fault c.Answer) :=
  .call c .done

def run (backend : Backend σ) : Script α → σ → α × σ
  | .done a, s => (a, s)
  | .call c next, s =>
    let (answer, s) := backend c s
    (next answer).run backend s

theorem run_andThen (backend : Backend σ) (p : Script α) (f : α → Script β) (s : σ) :
    (p.andThen f).run backend s = (f (p.run backend s).1).run backend (p.run backend s).2 := by
  induction p generalizing s with
  | done a => rfl
  | call c next ih => simp only [andThen, run, ih]

end Script

end ChatRules
