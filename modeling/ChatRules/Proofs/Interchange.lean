import ChatRules.Proofs.Deeds
import ChatRules.Proofs.StoreCalls

/-!
The table in place of the list. A session is answered by the table as by the list, and leaves in its
rows the rules that it leaves in the list. The two part ways on other calls: the list takes a rule
over whole, and the table only in part. A session updates no rule but one that it has just read.
-/

namespace ChatRules

namespace Script
variable {α β : Type}

theorem of_succeeds_call {σ : Type} {backend : Backend σ} {c : StoreCall}
    {next : Except Fault c.Answer → Script α} {s : σ}
    (h : (call c next).succeeds backend s = true) :
    Host.isOk (backend c s).1 = true ∧
      (next (backend c s).1).succeeds backend (backend c s).2 = true := by
  rw [succeeds] at h
  exact Bool.and_eq_true_iff.mp h

structure Mirrors (p q : Script α) (m : Memory) : Prop where
  succeeds : q.succeeds Memory.backend m = true
  distinct : ((q.run Memory.backend m).2.map Rule.id).Nodup
  run_eq : p.run Table.backend (.ofRules m) =
    ((q.run Memory.backend m).1, .ofRules (q.run Memory.backend m).2)

theorem Mirrors.done {m : Memory} (hn : (m.map Rule.id).Nodup) (a : α) :
    Mirrors (.done a) (.done a) m :=
  ⟨rfl, hn, rfl⟩

theorem Mirrors.call {c c' : StoreCall} {next : Except Fault c.Answer → Script α}
    {next' : Except Fault c'.Answer → Script α} {b : c.Answer} {a : c'.Answer} {m m' : Memory}
    (ht : Table.backend c (.ofRules m) = (.ok b, .ofRules m'))
    (hm : Memory.backend c' m = (.ok a, m')) (h : Mirrors (next (.ok b)) (next' (.ok a)) m') :
    Mirrors (.call c next) (.call c' next') m := by
  constructor
  · simp only [Script.succeeds, hm, h.succeeds]
    rfl
  · simp only [run, hm]
    exact h.distinct
  · simp only [run, hm, ht]
    exact h.run_eq

theorem Mirrors.andThen {p q : Script α} {f g : α → Script β} {m : Memory} (h : Mirrors p q m)
    (hf : Mirrors (f (q.run Memory.backend m).1) (g (q.run Memory.backend m).1)
      (q.run Memory.backend m).2) :
    Mirrors (p.andThen f) (q.andThen g) m := by
  constructor
  · rw [succeeds_andThen, h.succeeds, hf.succeeds]
    rfl
  · rw [run_andThen]
    exact hf.distinct
  · rw [run_andThen, run_andThen, h.run_eq]
    exact hf.run_eq

/-- Where the table answers all calls of the script, the script does on it as on the list. -/
def IsMirrored (p : Script α) : Prop :=
  ∀ m : Memory, (m.map Rule.id).Nodup → p.succeeds Table.backend (.ofRules m) = true →
    Mirrors p p m

theorem isMirrored_done (a : α) : IsMirrored (.done a) :=
  fun _ hn _ => .done hn a

theorem isMirrored_andThen {p : Script α} {f : α → Script β} (hp : IsMirrored p)
    (hf : ∀ a, IsMirrored (f a)) : IsMirrored (p.andThen f) := by
  intro m hn hs
  rw [succeeds_andThen, Bool.and_eq_true] at hs
  have h := hp m hn hs.1
  refine h.andThen (hf _ _ h.distinct ?_)
  rw [h.run_eq] at hs
  exact hs.2

end Script

namespace Command
open Script

theorem isMirrored_store {rule : Rule} {next : Script (Except Fault Reply)}
    (ha : rule.actions ≠ []) (hn : IsMirrored next) : IsMirrored (store rule next) := by
  intro m hd hs
  obtain ⟨hc, hs⟩ := of_succeeds_call hs
  have hi := Table.new_of_isOk_create ha hc
  have ht := Table.backend_create ha hi
  rw [ht] at hs
  exact .call ht (Memory.backend_create ha hi) (hn _ (Memory.nodup_append hd hi) hs)

theorem listText_rounded (rules : List Rule) : listText (rules.map Rule.rounded) = listText rules := by
  have hl : listedText ∘ Rule.rounded = listedText := rfl
  rw [listText, listText, List.map_map, hl]
  simp only [List.map_eq_nil_iff]

theorem isMirrored_list : IsMirrored list := by
  intro m hd hs
  obtain ⟨hc, -⟩ := of_succeeds_call hs
  refine .call (Table.backend_all (Table.not_beyond_of_isOk_all hc)) rfl ?_
  simp only [need, listText_rounded]
  exact .done hd _

theorem isMirrored_delete (id : String) : IsMirrored (delete id) := by
  intro m hd hs
  obtain ⟨hc, hs⟩ := of_succeeds_call hs
  have ht := Table.backend_get (Table.not_beyond_of_isOk_get hc)
  rw [ht] at hs
  refine .call ht rfl ?_
  cases hg : m.get id with
  | none => exact .done hd _
  | some rule =>
    rw [hg] at hs
    exact .call (Table.backend_delete hg) (Memory.backend_delete hg)
      (.done (Memory.nodup_filter hd id) _)

theorem isMirrored_setEnabled (id : String) (enabled : Bool) :
    IsMirrored (setEnabled id enabled) := by
  intro m hd hs
  obtain ⟨hc, hs⟩ := of_succeeds_call hs
  have ht := Table.backend_get (Table.not_beyond_of_isOk_get hc)
  rw [ht] at hs
  refine .call ht rfl ?_
  cases hg : m.get id with
  | none => exact .done hd _
  | some rule =>
    rw [hg] at hs
    obtain ⟨hc, -⟩ := of_succeeds_call hs
    have ha := Table.actions_of_isOk_update hc
    exact .call (Table.backend_switch hd hg ha enabled) (Memory.backend_switch hd hg enabled)
      (.done (Memory.nodup_switch hd id enabled) _)

end Command

namespace Dispatch
open Script

theorem runRules_rounded (host : Host) (m : Message) (d : Dispatch) (rules : List Rule) :
    runRules host m d (rules.map Rule.rounded) = runRules host m d rules := by
  induction rules generalizing d with
  | nil => rfl
  | cons rule rest ih =>
    simp only [List.map_cons, runRules, ih]
    rfl

theorem isMirrored_script (host : Host) (message : Message) :
    IsMirrored (script host message) := by
  rw [script_eq]
  split
  · exact isMirrored_done _
  · intro m hd hs
    obtain ⟨hc, -⟩ := of_succeeds_call hs
    refine .call (Table.backend_all (Table.not_beyond_of_isOk_all hc)) rfl ?_
    have hr : run host (.ok (m.map Rule.rounded)) message = run host (.ok m) message := by
      simp only [run, runRules_rounded]
    rw [hr]
    exact .done hd _

end Dispatch

theorem Script.Means.isMirrored {α : Type} {deeds : List Deed} {p : Script α}
    (h : Means deeds p) : IsMirrored p := by
  induction h with
  | done a => exact isMirrored_done a
  | answer h f ih => exact isMirrored_andThen ih fun _ => isMirrored_done _
  | store hr hn ih => exact Command.isMirrored_store hr.actions ih
  | list => exact Command.isMirrored_list
  | delete id => exact Command.isMirrored_delete id
  | switch id enabled => exact Command.isMirrored_setEnabled id enabled
  | event host message => exact Dispatch.isMirrored_script host message

namespace Session

theorem trace_ofRules {moves : List Move} {m : Memory} (hn : (m.map Rule.id).Nodup)
    (h : succeeds Table.backend moves (.ofRules m) = true) :
    succeeds Memory.backend moves m = true ∧
      trace Table.backend moves (.ofRules m) =
        (trace Memory.backend moves m).map fun step => (step.1, .ofRules step.2) := by
  induction moves generalizing m with
  | nil => exact ⟨rfl, rfl⟩
  | cons move rest ih =>
    rw [succeeds, Bool.and_eq_true] at h
    have hm := move.means.isMirrored m hn h.1
    rw [hm.run_eq] at h
    obtain ⟨hs, ht⟩ := ih hm.distinct h.2
    constructor
    · rw [succeeds, hm.succeeds, hs]
      rfl
    · simp only [trace, hm.run_eq, ht, List.map_cons]

def seen {σ : Type} (list : σ → Except TableFault (List Rule)) (steps : List (Told × σ)) :
    List (Told × Except TableFault (List Rule)) :=
  steps.map fun step => (step.1, list step.2)

/-- A session that the table answers throughout is the same session on the list, and what can be
read of the table is the list with its times in whole milliseconds. -/
theorem table_session_eq_memory_session (moves : List Move)
    (h : succeeds Table.backend moves [] = true) :
    succeeds Memory.backend moves [] = true ∧
      seen Table.list (trace Table.backend moves []) =
        seen (fun m => m.mapM Rule.reread) (trace Memory.backend moves []) := by
  obtain ⟨hs, ht⟩ := trace_ofRules (m := []) List.nodup_nil h
  refine ⟨hs, ?_⟩
  have ht : trace Table.backend moves [] =
      (trace Memory.backend moves []).map fun step => (step.1, Table.ofRules step.2) := ht
  rw [seen, seen, ht, List.map_map]
  refine List.map_congr_left fun step _ => ?_
  rw [Function.comp_apply, Table.list_ofRules]

theorem two_rules_session_eq :
    succeeds Table.backend (twoRules ++ [.event willingHost ping]) [] = true ∧
      seen Table.list (trace Table.backend (twoRules ++ [.event willingHost ping]) []) =
        seen (fun m => m.mapM Rule.reread)
          (trace Memory.backend (twoRules ++ [.event willingHost ping]) []) := by
  have hs : succeeds Table.backend (twoRules ++ [.event willingHost ping]) [] = true := by
    decide +kernel
  exact ⟨hs, (table_session_eq_memory_session _ hs).2⟩

end Session

end ChatRules
