import ChatRules.Dispatch
import ChatRules.Proofs.Intent
import ChatRules.Store.Table

namespace ChatRules

namespace Script
variable {α β σ : Type}

def succeeds (backend : Backend σ) : Script α → σ → Bool
  | .done _, _ => true
  | .call c next, s =>
    let (answer, s) := backend c s
    Host.isOk answer && (next answer).succeeds backend s

theorem succeeds_andThen (backend : Backend σ) (p : Script α) (f : α → Script β) (s : σ) :
    (p.andThen f).succeeds backend s =
      (p.succeeds backend s &&
        (f (p.run backend s).1).succeeds backend (p.run backend s).2) := by
  induction p generalizing s with
  | done a => rfl
  | call c next ih => simp only [andThen, succeeds, run, ih, Bool.and_assoc]

end Script

inductive StoreKind
  | memory
  | table
  deriving DecidableEq, Repr

namespace StoreKind

def State : StoreKind → Type
  | .memory => Memory
  | .table => Table

def backend : (kind : StoreKind) → Backend kind.State
  | .memory => Memory.backend
  | .table => Table.backend

def empty : (kind : StoreKind) → kind.State
  | .memory => ([] : Memory)
  | .table => ([] : Table)

end StoreKind

inductive Move
  | words (stamp : Stamp) (sender : User) (tokens : List (List Char))
  | line (stamp : Stamp) (sender : User) (text : List Char)
  | approve (stamps : Nat → Stamp) (sender : User) (steps : List Step)
  | cancel
  | event (host : Host) (message : Message)

inductive Told
  | reply (answer : Except Fault Reply)
  | dispatch (work : Work Dispatch)

namespace Command

def told (command : Script (Except Fault Reply)) : Script Told :=
  command.andThen fun answer => .done (.reply answer)

end Command

namespace Dispatch

def script (host : Host) (message : Message) : Script Told :=
  (cycle host message).andThen fun work => .done (.dispatch work)

theorem script_eq (host : Host) (message : Message) :
    script host message =
      if isOwn host message then .done (.dispatch (run host (.ok []) message))
      else .call .all fun rules => .done (.dispatch (run host rules message)) := by
  rw [script, cycle]
  split <;> rfl

end Dispatch

namespace Move

def script : Move → Script Told
  | .words stamp sender tokens => Command.told (Command.execute stamp sender tokens)
  | .line stamp sender text => Command.told (Command.executeLine stamp sender text)
  | .approve stamps sender steps => Command.told (Command.approve stamps sender steps)
  | .cancel => .done (.reply (.ok Command.cancel))
  | .event host message => Dispatch.script host message

end Move

namespace Session
variable {σ : Type} (backend : Backend σ)

def trace : List Move → σ → List (Told × σ)
  | [], _ => []
  | move :: rest, s =>
    let step := move.script.run backend s
    step :: trace rest step.2

def stateAfter (moves : List Move) (s : σ) : σ :=
  moves.foldl (fun s move => (move.script.run backend s).2) s

def succeeds : List Move → σ → Bool
  | [], _ => true
  | move :: rest, s =>
    move.script.succeeds backend s && succeeds rest (move.script.run backend s).2

theorem trace_append (moves later : List Move) (s : σ) :
    trace backend (moves ++ later) s =
      trace backend moves s ++ trace backend later (stateAfter backend moves s) := by
  induction moves generalizing s with
  | nil => rfl
  | cons move rest ih => rw [List.cons_append, trace, ih]; rfl

theorem length_trace (moves : List Move) (s : σ) :
    (trace backend moves s).length = moves.length := by
  induction moves generalizing s with
  | nil => rfl
  | cons move rest ih => rw [trace, List.length_cons, ih, List.length_cons]

theorem getElem_trace (before later : List Move) (move : Move) (s : σ) :
    (trace backend (before ++ move :: later) s)[before.length]? =
      some (move.script.run backend (stateAfter backend before s)) := by
  rw [trace_append, List.getElem?_append_right (Nat.le_of_eq (length_trace backend before s)),
    length_trace, Nat.sub_self]
  rfl

theorem succeeds_append (moves later : List Move) (s : σ) :
    succeeds backend (moves ++ later) s =
      (succeeds backend moves s && succeeds backend later (stateAfter backend moves s)) := by
  induction moves generalizing s with
  | nil => rfl
  | cons move rest ih =>
    rw [List.cons_append, succeeds, ih, succeeds, Bool.and_assoc]
    rfl

def willingHost : Host where
  post _ _ _ := .ok ()
  direct _ _ _ := .ok ()
  remove _ := .ok ()
  userByHandle _ := .ok none
  roomByName _ := .ok none
  roomById _ := .ok none
  appUser := .ok (some ⟨"BOT", "chatflow"⟩)

def ping : Message :=
  ⟨"m1", "Ping!", ⟨"U1", "john"⟩, ⟨"R1", "support"⟩⟩

def epoch : Instant :=
  (Instant.ofMillis? 0).get rfl

def twoRules : List Move :=
  let author : User := ⟨"U9", "admin"⟩
  [.words ⟨"r1", epoch⟩ author ["create".toList, "contains=ping".toList, "action=delete".toList],
    .line ⟨"r2", epoch⟩ author "create contains=ping action=post:channel=pong".toList,
    .line ⟨"r3", epoch⟩ author "Disable r1".toList]

end Session

end ChatRules
