import ChatRules.Console.Listener
import ChatRules.Store.Memory
import Mathlib.Data.List.Induction

namespace ChatRules

/-- A line as it is typed, and the store that it finds, which may fail in any way. -/
structure Hearing (σ : Type) where
  line : List Char
  stamps : Nat → Stamp
  backend : Backend σ

namespace Listener
open Text

section Waiting
variable (l : Listener) {author other : String}

theorem drop_of_preview?_eq_none (h : l.preview? author = none) : l.drop author = l := by
  have hw : ∀ w ∈ l.waiting, (w.1 != author) = true := by
    simpa [preview?] using h
  rw [drop, List.filter_eq_self.mpr hw]

end Waiting

def previewIn : Except Fault Reply → Option (List Step)
  | .ok reply => reply.preview
  | .error _ => none

section Handling
variable {σ : Type} (c : Console) (stamps : Nat → Stamp) (sender : User) (room : Room)
variable (backend : Backend σ) (s : σ)

def brought (text : List Char) : Option (List Step) :=
  (after? commandSign text).bind fun command =>
    previewIn ((Command.executeLine (stamps 0) sender command).run backend s).1

theorem handle_eq (text : List Char) (l : Listener) :
    handle c stamps sender room text l =
      match l.preview? sender.id, Decision.ofText text with
      | some steps, .approve => approve c stamps sender room steps (l.drop sender.id)
      | some _, .cancel => .done (cancel c room (l.drop sender.id))
      | _, _ => ordinary c stamps sender room text (l.drop sender.id) := by
  cases hp : l.preview? sender.id with
  | none => simp only [handle, hp, drop_of_preview?_eq_none l hp]
  | some steps =>
    simp only [handle, hp]
    cases Decision.ofText text <;> rfl

end Handling

section History
variable {σ : Type} (c : Console)

structure Entry where
  author : String
  preview : Option (List Step)
  deriving DecidableEq, Repr

def recorded (h : Hearing σ) (s : σ) : Option Entry :=
  (Line.read? h.line).map fun line =>
    let sender := c.directory.user (String.ofList line.user)
    ⟨sender.id, brought h.stamps sender h.backend s line.text⟩

def step (talk : Listener × σ) (h : Hearing σ) : Listener × σ :=
  let (turn, s) := (hear c h.stamps h.line talk.1).run h.backend talk.2
  (turn.2, s)

def after (hs : List (Hearing σ)) (talk : Listener × σ) : Listener × σ :=
  hs.foldl (step c) talk

def entries : List (Hearing σ) → Listener × σ → List Entry
  | [], _ => []
  | h :: rest, talk => (recorded c h talk.2).toList ++ entries rest (step c talk h)

end History

def opsConsole : Console :=
  .ofDirectory ⟨[⟨"U1", "admin"⟩, ⟨"BOT", "chatflow"⟩], [⟨"R1", "ops"⟩]⟩ (some "BOT")

def typed (line : String) : Hearing Memory :=
  ⟨line.toList, fun n => ⟨toString n, (Instant.ofMillis? 1000).get rfl⟩, Memory.backend⟩

def greetStep : Step :=
  ⟨⟨.message, "hi", some "john", none⟩, ⟨.message, "hello", some "ops"⟩⟩

def admin : User := ⟨"U1", "admin"⟩

end Listener

end ChatRules
