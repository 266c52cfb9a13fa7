import ChatRules.Proofs.Interchange
import Mathlib.Data.List.Induction

namespace ChatRules

namespace Deed

def deletes (id : String) : Deed → Bool
  | .deleted other => other == id
  | _ => false

def switch? (id : String) : Deed → Option Bool
  | .switched other enabled => if other = id then some enabled else none
  | _ => none

def apply (rules : List Rule) : Deed → List Rule
  | .created rule => rules ++ [rule]
  | .deleted id => rules.filter (·.id != id)
  | .switched id enabled => switchRule id enabled rules

end Deed

def lastSwitch (id : String) (deeds : List Deed) : Bool :=
  (deeds.filterMap (Deed.switch? id)).getLast?.getD true

def standing : List Deed → List Rule
  | [] => []
  | .created rule :: later =>
    if later.any (Deed.deletes rule.id) then standing later
    else { rule with enabled := lastSwitch rule.id later } :: standing later
  | .deleted _ :: later => standing later
  | .switched _ _ :: later => standing later

theorem lastSwitch_append_of_none {id : String} {deed : Deed} (h : deed.switch? id = none)
    (deeds : List Deed) : lastSwitch id (deeds ++ [deed]) = lastSwitch id deeds := by
  rw [lastSwitch, lastSwitch, List.filterMap_append, List.filterMap_cons_none h,
    List.filterMap_nil, List.append_nil]

theorem lastSwitch_append_switched (id : String) (enabled : Bool) (deeds : List Deed) :
    lastSwitch id (deeds ++ [.switched id enabled]) = enabled := by
  have hs : (Deed.switched id enabled).switch? id = some enabled := if_pos rfl
  rw [lastSwitch, List.filterMap_append, List.filterMap_cons_some hs, List.filterMap_nil,
    List.getLast?_concat, Option.getD_some]

theorem standing_append_created {rule : Rule} (he : rule.enabled = true) (deeds : List Deed) :
    standing (deeds ++ [.created rule]) = standing deeds ++ [rule] := by
  induction deeds with
  | nil =>
    obtain ⟨id, name, createdBy, createdAt, enabled, trigger, actions⟩ := rule
    obtain rfl : enabled = true := he
    rfl
  | cons deed later ih =>
    cases deed with
    | created first =>
      have hd : (later ++ [Deed.created rule]).any (Deed.deletes first.id) =
          later.any (Deed.deletes first.id) := by
        rw [List.any_append]
        exact Bool.or_false _
      rw [List.cons_append, standing, standing, hd, lastSwitch_append_of_none rfl, ih]
      split <;> rfl
    | deleted id => exact ih
    | switched id enabled => exact ih

theorem standing_append_deleted (id : String) (deeds : List Deed) :
    standing (deeds ++ [.deleted id]) = (standing deeds).filter (·.id != id) := by
  induction deeds with
  | nil => rfl
  | cons deed later ih =>
    cases deed with
    | created first =>
      have hd : (later ++ [Deed.deleted id]).any (Deed.deletes first.id) =
          (later.any (Deed.deletes first.id) || id == first.id) := by
        rw [List.any_append]
        exact congrArg _ (Bool.or_false _)
      rw [List.cons_append, standing, standing, hd, lastSwitch_append_of_none rfl, ih]
      cases later.any (Deed.deletes first.id) with
      | true => rfl
      | false =>
        rw [Bool.false_or, if_neg Bool.false_ne_true]
        by_cases hid : id = first.id
        · rw [if_pos (beq_iff_eq.mpr hid), List.filter_cons_of_neg]
          simp [hid]
        · rw [if_neg (by simpa using hid), List.filter_cons_of_pos]
          simpa using Ne.symm hid
    | deleted other => exact ih
    | switched other enabled => exact ih

theorem standing_append_switched (id : String) (enabled : Bool) (deeds : List Deed) :
    standing (deeds ++ [.switched id enabled]) =
      switchRule id enabled (standing deeds) := by
  induction deeds with
  | nil => rfl
  | cons deed later ih =>
    cases deed with
    | created first =>
      have hd : (later ++ [Deed.switched id enabled]).any (Deed.deletes first.id) =
          later.any (Deed.deletes first.id) := by
        rw [List.any_append]
        exact Bool.or_false _
      rw [List.cons_append, standing, standing, hd, ih]
      cases later.any (Deed.deletes first.id) with
      | true => rfl
      | false =>
        rw [if_neg Bool.false_ne_true, if_neg Bool.false_ne_true, switchRule_cons]
        by_cases hid : first.id = id
        · rw [if_pos hid, hid, lastSwitch_append_switched]
        · have hs : (Deed.switched id enabled).switch? first.id = none := if_neg (Ne.symm hid)
          rw [if_neg hid, lastSwitch_append_of_none hs]
    | deleted other => exact ih
    | switched other flag => exact ih

theorem standing_append {deed : Deed} (hd : deed.IsSound) (deeds : List Deed) :
    standing (deeds ++ [deed]) = deed.apply (standing deeds) := by
  cases deed with
  | created rule => exact standing_append_created hd.enabled deeds
  | deleted id => exact standing_append_deleted id deeds
  | switched id enabled => exact standing_append_switched id enabled deeds

theorem standing_eq_foldl {deeds : List Deed} (h : ∀ deed ∈ deeds, deed.IsSound) :
    standing deeds = deeds.foldl Deed.apply [] := by
  -- `standing` looks ahead from each creation, so the induction is on the last deed.
  induction deeds using List.reverseRecOn with
  | nil => rfl
  | append_singleton deeds deed ih =>
    rw [standing_append (h deed (List.mem_append_right _ List.mem_cons_self)),
      ih fun d hd => h d (List.mem_append_left _ hd), List.foldl_append]
    rfl

namespace Script
variable {α β : Type}

/-- Where the list takes all calls of the script, the deeds are what the script leaves of it. -/
def Does (deeds : List Deed) (p : Script α) : Prop :=
  ∀ m : Memory, (m.map Rule.id).Nodup → p.succeeds Memory.backend m = true →
    (p.run Memory.backend m).2 = deeds.foldl Deed.apply m ∧
      ((p.run Memory.backend m).2.map Rule.id).Nodup

theorem does_done (a : α) : Does [] (.done a) :=
  fun _ hn _ => ⟨rfl, hn⟩

theorem does_andThen_done {deeds : List Deed} {p : Script α} (hp : Does deeds p) (f : α → β) :
    Does deeds (p.andThen fun a => .done (f a)) := by
  intro m hn hs
  rw [succeeds_andThen, Bool.and_eq_true] at hs
  rw [run_andThen]
  exact hp m hn hs.1

end Script

namespace Command
open Script

theorem does_store {rule : Rule} {deeds : List Deed} {next : Script (Except Fault Reply)}
    (ha : rule.actions ≠ []) (hn : Does deeds next) :
    Does (.created rule :: deeds) (store rule next) := by
  intro m hd hs
  obtain ⟨hc, hs⟩ := of_succeeds_call hs
  have hi := Memory.of_isOk_create ha hc
  have hm := Memory.backend_create ha hi
  rw [hm] at hs
  simp only [store, run, hm, need]
  exact hn _ (Memory.nodup_append hd hi) hs

theorem does_list : Does [] list :=
  fun _ hd _ => ⟨rfl, hd⟩

theorem does_delete (id : String) : Does [.deleted id] (delete id) := by
  intro m hd _
  rw [List.foldl_cons, List.foldl_nil, Deed.apply]
  cases hg : m.get id with
  | none =>
    have hf : m.filter (·.id != id) = m := Memory.filter_of_not_mem (Memory.not_mem_of_get hg)
    simp only [delete, run, Memory.backend, hg, need, hf, true_and]
    exact hd
  | some rule =>
    have hm := Memory.backend_delete hg
    simp only [delete, run, show Memory.backend (.get id) m = (.ok (m.get id), m) from rfl, hg,
      need, hm, true_and]
    exact Memory.nodup_filter hd id

theorem does_setEnabled (id : String) (enabled : Bool) :
    Does [.switched id enabled] (setEnabled id enabled) := by
  intro m hd _
  rw [List.foldl_cons, List.foldl_nil, Deed.apply]
  cases hg : m.get id with
  | none =>
    have hc : switchRule id enabled m = m := changeRule_of_not_mem (Memory.not_mem_of_get hg)
    simp only [setEnabled, run, Memory.backend, hg, need, hc, true_and]
    exact hd
  | some rule =>
    have hm := Memory.backend_switch hd hg enabled
    simp only [setEnabled, run, show Memory.backend (.get id) m = (.ok (m.get id), m) from rfl, hg,
      need, hm, true_and]
    exact Memory.nodup_switch hd id enabled

end Command

theorem Dispatch.does_script (host : Host) (message : Message) :
    Script.Does [] (script host message) := by
  intro m hd _
  rw [script_eq]
  split <;> exact ⟨rfl, hd⟩

theorem Script.Means.does {α : Type} {deeds : List Deed} {p : Script α} (h : Means deeds p) :
    Does deeds p := by
  induction h with
  | done a => exact does_done a
  | answer h f ih => exact does_andThen_done ih f
  | store hr hn ih => exact Command.does_store hr.actions ih
  | list => exact Command.does_list
  | delete id => exact Command.does_delete id
  | switch id enabled => exact Command.does_setEnabled id enabled
  | event host message => exact Dispatch.does_script host message

end ChatRules
