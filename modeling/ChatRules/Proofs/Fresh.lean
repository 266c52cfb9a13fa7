import ChatRules.Proofs.Authored

namespace ChatRules

namespace Deed

def createdId? : Deed → Option String
  | .created rule => some rule.id
  | _ => none

end Deed

def createdIds (deeds : List Deed) : List String :=
  deeds.filterMap Deed.createdId?

theorem createdIds_append (deeds later : List Deed) :
    createdIds (deeds ++ later) = createdIds deeds ++ createdIds later :=
  List.filterMap_append

theorem ids_apply_sublist (deed : Deed) (rules : List Rule) :
    ((deed.apply rules).map Rule.id).Sublist (rules.map Rule.id ++ createdIds [deed]) := by
  cases deed with
  | created rule =>
    rw [Deed.apply, List.map_append]
    exact List.Sublist.refl _
  | deleted id =>
    exact (List.filter_sublist.map Rule.id).trans (List.sublist_append_left _ _)
  | switched id enabled =>
    rw [Deed.apply, ids_switchRule]
    exact List.sublist_append_left _ _

theorem ids_foldl_sublist (deeds : List Deed) (rules : List Rule) :
    ((deeds.foldl Deed.apply rules).map Rule.id).Sublist
      (rules.map Rule.id ++ createdIds deeds) := by
  induction deeds generalizing rules with
  | nil => exact List.sublist_append_left _ _
  | cons deed rest ih =>
    have hc : createdIds (deed :: rest) = createdIds [deed] ++ createdIds rest :=
      createdIds_append [deed] rest
    rw [List.foldl_cons, hc, ← List.append_assoc]
    exact (ih _).trans ((ids_apply_sublist deed rules).append_right _)

structure Rule.IsKeepable (rule : Rule) : Prop where
  time : rule.isBeyond = false
  actions : rule.actions ≠ []

theorem isKeepable_apply {deed : Deed} {rules : List Rule} (h : ∀ rule ∈ rules, rule.IsKeepable)
    (hd : ∀ rule, deed = .created rule → rule.IsKeepable) :
    ∀ rule ∈ deed.apply rules, rule.IsKeepable := by
  intro rule hr
  cases deed with
  | created new =>
    rcases List.mem_append.mp hr with hr | hr
    · exact h rule hr
    · obtain rfl := List.mem_singleton.mp hr
      exact hd rule rfl
  | deleted id => exact h rule (List.mem_of_mem_filter hr)
  | switched id enabled =>
    obtain ⟨old, ho, rfl⟩ := List.mem_map.mp hr
    split
    · exact ⟨(h old ho).time, (h old ho).actions⟩
    · exact h old ho

theorem isKeepable_foldl {deeds : List Deed} {rules : List Rule}
    (h : ∀ rule ∈ rules, rule.IsKeepable)
    (hd : ∀ rule, .created rule ∈ deeds → rule.IsKeepable) :
    ∀ rule ∈ deeds.foldl Deed.apply rules, rule.IsKeepable := by
  induction deeds generalizing rules with
  | nil => exact h
  | cons deed rest ih =>
    refine ih (isKeepable_apply h ?_) fun rule hr => hd rule (List.mem_cons_of_mem _ hr)
    rintro rule rfl
    exact hd rule List.mem_cons_self

theorem any_beyond_of_keepable {rules : List Rule} (h : ∀ rule ∈ rules, rule.IsKeepable) :
    rules.any Rule.isBeyond = false :=
  List.any_eq_false.mpr fun rule hr => Bool.eq_false_iff.mp (h rule hr).time

theorem get_beyond_of_keepable {rules : List Rule} (h : ∀ rule ∈ rules, rule.IsKeepable)
    (id : String) : (Memory.get id rules).any Rule.isBeyond = false := by
  cases hg : Memory.get id rules with
  | none => rfl
  | some rule => exact (h rule (List.mem_of_find?_eq_some hg)).time

theorem not_any_of_not_mem {id : String} {rules : List Rule} (h : id ∉ rules.map Rule.id) :
    ¬ rules.any (·.id == id) = true := by
  intro ha
  obtain ⟨rule, hr, hid⟩ := List.any_eq_true.mp ha
  exact h (beq_iff_eq.mp hid ▸ List.mem_map_of_mem hr)

namespace Script
variable {α β : Type}

theorem succeeds_call {σ : Type} {backend : Backend σ} {c : StoreCall}
    {next : Except Fault c.Answer → Script α} {s s' : σ} {a : c.Answer}
    (hc : backend c s = (.ok a, s')) (h : (next (.ok a)).succeeds backend s' = true) :
    (call c next).succeeds backend s = true := by
  simp only [succeeds, hc, h]
  rfl

/-- What the deeds create are rules that can be kept, none by an id that is taken. -/
structure Fits (deeds : List Deed) (m : Memory) : Prop where
  ids : (m.map Rule.id ++ createdIds deeds).Nodup
  kept : ∀ rule ∈ m, rule.IsKeepable
  created : ∀ rule, .created rule ∈ deeds → rule.IsKeepable

theorem Fits.distinct {deeds : List Deed} {m : Memory} (h : Fits deeds m) :
    (m.map Rule.id).Nodup :=
  h.ids.sublist (List.sublist_append_left _ _)

theorem Fits.later {deeds later : List Deed} {m : Memory} (h : Fits (deeds ++ later) m) :
    Fits later (deeds.foldl Deed.apply m) := by
  refine ⟨?_, isKeepable_foldl h.kept fun rule hr => h.created rule (List.mem_append_left _ hr),
    fun rule hr => h.created rule (List.mem_append_right _ hr)⟩
  have hi := h.ids
  rw [createdIds_append, ← List.append_assoc] at hi
  exact hi.sublist ((ids_foldl_sublist deeds m).append_right _)

theorem Fits.earlier {deeds later : List Deed} {m : Memory} (h : Fits (deeds ++ later) m) :
    Fits deeds m := by
  refine ⟨?_, h.kept, fun rule hr => h.created rule (List.mem_append_left _ hr)⟩
  have hi := h.ids
  rw [createdIds_append, ← List.append_assoc] at hi
  exact hi.sublist (List.sublist_append_left _ _)

def IsTaken (deeds : List Deed) (p : Script α) : Prop :=
  ∀ m : Memory, Fits deeds m → p.succeeds Table.backend (.ofRules m) = true

theorem isTaken_done {deeds : List Deed} (a : α) : IsTaken deeds (.done a) :=
  fun _ _ => rfl

theorem isTaken_andThen_done {deeds : List Deed} {p : Script α} (hp : IsTaken deeds p)
    (f : α → β) : IsTaken deeds (p.andThen fun a => .done (f a)) := by
  intro m hf
  rw [succeeds_andThen, hp m hf]
  rfl

end Script

namespace Command
open Script

theorem isTaken_store {rule : Rule} {deeds : List Deed} {next : Script (Except Fault Reply)}
    (hn : IsTaken deeds next) : IsTaken (.created rule :: deeds) (store rule next) := by
  intro m hf
  have hr := hf.created rule List.mem_cons_self
  have hi : rule.id ∉ m.map Rule.id := fun hm =>
    (List.nodup_append.mp hf.ids).2.2 _ hm _ List.mem_cons_self rfl
  have hc : Fits ([.created rule] ++ deeds) m := hf
  exact succeeds_call (Table.backend_create hr.actions (not_any_of_not_mem hi))
    (hn _ hc.later)

theorem isTaken_list : IsTaken [] list :=
  fun _ hf => succeeds_call (Table.backend_all (any_beyond_of_keepable hf.kept)) rfl

theorem isTaken_delete (id : String) : IsTaken [.deleted id] (delete id) := by
  intro m hf
  refine succeeds_call (Table.backend_get (get_beyond_of_keepable hf.kept id)) ?_
  cases hg : m.get id with
  | none => rfl
  | some rule => exact succeeds_call (Table.backend_delete hg) rfl

theorem isTaken_setEnabled (id : String) (enabled : Bool) :
    IsTaken [.switched id enabled] (setEnabled id enabled) := by
  intro m hf
  refine succeeds_call (Table.backend_get (get_beyond_of_keepable hf.kept id)) ?_
  cases hg : m.get id with
  | none => rfl
  | some rule =>
    have ha := (hf.kept rule (List.mem_of_find?_eq_some hg)).actions
    exact succeeds_call (Table.backend_switch hf.distinct hg ha enabled) rfl

end Command

theorem Dispatch.isTaken_script (host : Host) (message : Message) :
    Script.IsTaken [] (script host message) := by
  intro m hf
  rw [script_eq]
  split
  · rfl
  · exact Script.succeeds_call (Table.backend_all (any_beyond_of_keepable hf.kept)) rfl

theorem Script.Means.isTaken {α : Type} {deeds : List Deed} {p : Script α} (h : Means deeds p) :
    IsTaken deeds p := by
  induction h with
  | done a => exact isTaken_done a
  | answer h f ih => exact isTaken_andThen_done ih f
  | store hr hn ih => exact Command.isTaken_store ih
  | list => exact Command.isTaken_list
  | delete id => exact Command.isTaken_delete id
  | switch id enabled => exact Command.isTaken_setEnabled id enabled
  | event host message => exact Dispatch.isTaken_script host message

namespace Session
open Script (Fits)

theorem succeeds_of_fits {moves : List Move} {m : Memory} (h : Fits (deeds moves) m) :
    succeeds Table.backend moves (.ofRules m) = true := by
  induction moves generalizing m with
  | nil => rfl
  | cons move rest ih =>
    have hf : Fits (move.deeds ++ deeds rest) m := h
    have hs := move.means.isTaken m hf.earlier
    have hm := move.means.isMirrored m hf.distinct hs
    have hd := (move.means.does m hf.distinct hm.succeeds).1
    rw [succeeds, hs, hm.run_eq, hd, ih hf.later]
    rfl

theorem succeeds_of_fresh (kind : StoreKind) {moves : List Move}
    (hi : (createdIds (deeds moves)).Nodup)
    (ht : ∀ rule, .created rule ∈ deeds moves → rule.isBeyond = false) :
    succeeds kind.backend moves kind.empty = true := by
  have hk : ∀ rule, .created rule ∈ deeds moves → rule.IsKeepable := fun rule hr =>
    ⟨ht rule hr, (isSound_deeds moves _ hr).actions⟩
  have hs := succeeds_of_fits (m := []) ⟨hi, List.forall_mem_nil _, hk⟩
  cases kind with
  | memory => exact (trace_ofRules (m := []) List.nodup_nil hs).1
  | table => exact hs

end Session

end ChatRules
