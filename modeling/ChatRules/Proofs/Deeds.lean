import ChatRules.Proofs.Session

namespace ChatRules

inductive Deed
  | created (rule : Rule)
  | deleted (id : String)
  | switched (id : String) (enabled : Bool)
  deriving DecidableEq, Repr

def Deed.IsSound : Deed → Prop
  | .created rule => rule.IsNew
  | _ => True

namespace Command

def approvedRules (stamps : Nat → Stamp) (author : String) : Nat → List Step → List Rule
  | _, [] => []
  | n, step :: rest =>
    match step.rule (stamps n) author with
    | .ok rule => rule :: approvedRules stamps author (n + 1) rest
    | .error _ => []

def Intent.deeds : Intent → List Deed
  | .answer _ => []
  | .store rule => [.created rule]
  | .list => []
  | .delete id => [.deleted id]
  | .switch id enabled => [.switched id enabled]

end Command

def Move.deeds : Move → List Deed
  | .words stamp sender tokens => (Command.Intent.ofWords stamp sender tokens).deeds
  | .line stamp sender text => (Command.Intent.ofLine stamp sender text).deeds
  | .approve stamps sender steps =>
    (Command.approvedRules stamps sender.id 0 steps).map Deed.created
  | .cancel => []
  | .event _ _ => []

def Session.deeds (moves : List Move) : List Deed :=
  moves.flatMap Move.deeds

namespace Script

/-- The scripts of the moves, each with the deeds that it is to do. -/
inductive Means : {α : Type} → List Deed → Script α → Prop
  | done {α : Type} (a : α) : Means [] (.done a)
  | answer {α β : Type} {deeds : List Deed} {p : Script α} (h : Means deeds p) (f : α → β) :
    Means deeds (p.andThen fun a => .done (f a))
  | store {rule : Rule} {deeds : List Deed} {next : Script (Except Fault Reply)}
    (hr : rule.IsNew) (hn : Means deeds next) :
    Means (.created rule :: deeds) (Command.store rule next)
  | list : Means [] Command.list
  | delete (id : String) : Means [.deleted id] (Command.delete id)
  | switch (id : String) (enabled : Bool) :
    Means [.switched id enabled] (Command.setEnabled id enabled)
  | event (host : Host) (message : Message) : Means [] (Dispatch.script host message)

theorem Means.isSound {α : Type} {deeds : List Deed} {p : Script α} (h : Means deeds p) :
    ∀ deed ∈ deeds, deed.IsSound := by
  induction h with
  | done a => exact List.forall_mem_nil _
  | answer h f ih => exact ih
  | store hr hn ih => exact List.forall_mem_cons.mpr ⟨hr, ih⟩
  | list => exact List.forall_mem_nil _
  | delete id => exact List.forall_mem_singleton.mpr trivial
  | switch id enabled => exact List.forall_mem_singleton.mpr trivial
  | event host message => exact List.forall_mem_nil _

end Script

namespace Command
open Script

theorem means_intent {intent : Intent} (h : intent.IsSound) : Means intent.deeds intent.script := by
  cases intent with
  | answer reply => exact .done reply
  | store rule => exact .store h (.done _)
  | list => exact .list
  | delete id => exact .delete id
  | switch id enabled => exact .switch id enabled

theorem means_approve (stamps : Nat → Stamp) (sender : User) (ids : List String)
    (steps : List Step) :
    Means ((approvedRules stamps sender.id ids.length steps).map Deed.created)
      (approveFrom stamps sender ids steps) := by
  induction steps generalizing ids with
  | nil => exact .done _
  | cons step rest ih =>
    rw [approveFrom, approvedRules]
    cases hr : step.rule (stamps ids.length) sender.id with
    | error fault => exact .done _
    | ok rule => exact .store (Step.isNew_of_rule hr) (ih (rule.id :: ids))

end Command

theorem Move.means (move : Move) : Script.Means move.deeds move.script := by
  cases move with
  | words stamp sender tokens =>
    refine .answer ?_ _
    rw [Command.execute_eq_script]
    exact Command.means_intent (Command.Intent.isSound_ofWords stamp sender tokens)
  | line stamp sender text =>
    refine .answer ?_ _
    rw [Command.executeLine_eq_script]
    exact Command.means_intent (Command.Intent.isSound_ofLine stamp sender text)
  | approve stamps sender steps => exact .answer (Command.means_approve stamps sender [] steps) _
  | cancel => exact .done _
  | event host message => exact .event host message

theorem Session.isSound_deeds (moves : List Move) : ∀ deed ∈ deeds moves, deed.IsSound := by
  intro deed hd
  obtain ⟨move, _, hm⟩ := List.mem_flatMap.mp hd
  exact move.means.isSound deed hm

end ChatRules
