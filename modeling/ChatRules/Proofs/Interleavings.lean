import ChatRules.Proofs.Fresh
import ChatRules.Proofs.Workable
import Mathlib.Data.List.Perm.Subperm

/-!
Many handlers at one store. Each call is made by itself, and between two calls of one handler any
others may be made, so what a handler has read may be old when it writes it back. Still no rule
comes back and none changes but for its flag.
-/

namespace ChatRules

namespace Memory

theorem get_of_mem {rule : Rule} {m : Memory} (hn : (m.map Rule.id).Nodup) (hr : rule ∈ m) :
    m.get rule.id = some rule := by
  cases hg : m.get rule.id with
  | none => exact absurd (List.mem_map_of_mem hr) (not_mem_of_get hg)
  | some found => rw [eq_of_find hn hg hr rfl]

end Memory

namespace StoreKind
variable {kind : StoreKind} {rules : List Rule} {rule : Rule} {id : String}

def holding : (kind : StoreKind) → List Rule → kind.State
  | .memory => fun rules => rules
  | .table => Table.ofRules

def copy : StoreKind → Rule → Rule
  | .memory => fun rule => rule
  | .table => Rule.rounded

theorem holding_nil (kind : StoreKind) : kind.empty = kind.holding [] := by
  cases kind <;> rfl

theorem copy_switched (kind : StoreKind) (rule : Rule) (enabled : Bool) :
    kind.copy { rule with enabled := enabled } = { kind.copy rule with enabled := enabled } := by
  cases kind <;> rfl

theorem copy_id (kind : StoreKind) (rule : Rule) : (kind.copy rule).id = rule.id := by
  cases kind <;> rfl

theorem backend_create (ha : rule.actions ≠ []) (h : rule.id ∉ rules.map Rule.id) :
    kind.backend (.create rule) (kind.holding rules) =
      (.ok (), kind.holding (rules ++ [rule])) := by
  cases kind with
  | memory => exact Memory.backend_create ha (not_any_of_not_mem h)
  | table => exact Table.backend_create ha (not_any_of_not_mem h)

theorem exists_of_backend_get {found : Rule}
    (h : (kind.backend (.get id) (kind.holding rules)).1 = .ok (some found)) :
    ∃ rule ∈ rules, rule.id = id ∧ found = kind.copy rule := by
  cases kind with
  | memory =>
    have hg : Memory.get id rules = some found := Except.ok.inj h
    exact ⟨found, List.mem_of_find?_eq_some hg, Memory.id_of_get hg, rfl⟩
  | table =>
    have ho : Host.isOk (backend .table (.get id) (holding .table rules)).1 = true :=
      isOk_of_eq_ok h
    rw [backend, holding, Table.backend_get (Table.not_beyond_of_isOk_get ho)] at h
    obtain ⟨rule, hg, hr⟩ := Option.map_eq_some_iff.mp (Except.ok.inj h)
    exact ⟨rule, List.mem_of_find?_eq_some hg, Memory.id_of_get hg, hr.symm⟩

theorem backend_switch (hn : (rules.map Rule.id).Nodup) (hr : rule ∈ rules)
    (ha : rule.actions ≠ []) (enabled : Bool) :
    kind.backend (.update { kind.copy rule with enabled := enabled }) (kind.holding rules) =
      (.ok (), kind.holding (switchRule rule.id enabled rules)) := by
  have hg := Memory.get_of_mem hn hr
  cases kind with
  | memory => exact Memory.backend_switch hn hg enabled
  | table => exact Table.backend_switch hn hg ha enabled

theorem backend_update_absent (h : rule.id ∉ rules.map Rule.id) :
    ∃ fault, (kind.backend (.update rule) (kind.holding rules)).1 = .error fault := by
  have hn := not_any_of_not_mem h
  cases kind with
  | memory =>
    refine ⟨.ruleNotFound rule.id, ?_⟩
    rw [backend, holding, Memory.backend, Memory.update, if_neg hn]
    rfl
  | table =>
    rw [backend, holding, Table.backend, Rule.check]
    by_cases ha : rule.actions = []
    · rw [if_pos ha]
      exact ⟨_, rfl⟩
    · rw [if_neg ha, Table.update, if_neg ha, Table.has_ofRules, if_neg hn]
      exact ⟨_, rfl⟩

theorem backend_delete (hn : (rules.map Rule.id).Nodup) (hr : rule ∈ rules) :
    kind.backend (.delete rule.id) (kind.holding rules) =
      (.ok (), kind.holding (rules.filter (·.id != rule.id))) := by
  have hg := Memory.get_of_mem hn hr
  cases kind with
  | memory => exact Memory.backend_delete hg
  | table => exact Table.backend_delete hg

theorem backend_delete_absent (h : id ∉ rules.map Rule.id) :
    ∃ fault, (kind.backend (.delete id) (kind.holding rules)).1 = .error fault := by
  have hn := not_any_of_not_mem h
  refine ⟨.ruleNotFound id, ?_⟩
  cases kind with
  | memory =>
    rw [backend, holding, Memory.backend, Memory.delete, if_neg hn]
    rfl
  | table =>
    rw [backend, holding, Table.backend, Table.delete, Table.has_ofRules, if_neg hn]
    rfl

end StoreKind

def StoreCall.done : (call : StoreCall) → Except Fault call.Answer → List Deed
  | .create rule, .ok _ => [.created rule]
  | .update rule, .ok _ => [.switched rule.id rule.enabled]
  | .delete id, .ok _ => [.deleted id]
  | _, _ => []

theorem StoreCall.done_sublist {call : StoreCall} (a : call.Answer)
    (answer : Except Fault call.Answer) : (call.done answer).Sublist (call.done (.ok a)) := by
  cases answer with
  | ok b => cases call <;> exact .refl _
  | error fault => cases call <;> exact List.nil_sublist _

namespace Script
variable {α β : Type} {deeds : List Deed} {read : List Rule}

/-- Scripts that do no more than their deeds, in this order. They write over no rule but one that
they have read, and not but for its flag. -/
inductive Careful {α : Type} : List Deed → List Rule → Script α → Prop
  | done (deeds : List Deed) (read : List Rule) (a : α) : Careful deeds read (.done a)
  | all {deeds : List Deed} {read : List Rule} {next : Except Fault (List Rule) → Script α}
    (h : ∀ answer, Careful deeds read (next answer)) : Careful deeds read (.call .all next)
  | get {deeds : List Deed} {read : List Rule} {id : String}
    {next : Except Fault (Option Rule) → Script α}
    (hf : ∀ fault, Careful deeds read (next (.error fault)))
    (hn : Careful deeds read (next (.ok none)))
    (hr : ∀ rule, rule.id = id → Careful deeds (rule :: read) (next (.ok (some rule)))) :
    Careful deeds read (.call (.get id) next)
  | create {deeds : List Deed} {read : List Rule} {rule : Rule}
    {next : Except Fault Unit → Script α} (hr : rule.IsNew)
    (h : ∀ answer, Careful deeds read (next answer)) :
    Careful (.created rule :: deeds) read (.call (.create rule) next)
  | switch {deeds : List Deed} {read : List Rule} {rule : Rule} {enabled : Bool}
    {next : Except Fault Unit → Script α} (hr : rule ∈ read)
    (h : ∀ answer, Careful deeds read (next answer)) :
    Careful (.switched rule.id enabled :: deeds) read
      (.call (.update { rule with enabled := enabled }) next)
  | delete {deeds : List Deed} {read : List Rule} {id : String}
    {next : Except Fault Unit → Script α} (h : ∀ answer, Careful deeds read (next answer)) :
    Careful (.deleted id :: deeds) read (.call (.delete id) next)

theorem Careful.andThen_done {p : Script α} (h : Careful deeds read p) (f : α → β) :
    Careful deeds read (p.andThen fun a => .done (f a)) := by
  induction h with
  | done deeds read a => exact .done deeds read (f a)
  | all _ ih => exact .all ih
  | get _ _ _ ihf ihn ihr => exact .get ihf ihn ihr
  | create hr _ ih => exact .create hr ih
  | switch hr _ ih => exact .switch hr ih
  | delete _ ih => exact .delete ih

theorem Careful.need {γ : Type} {answer : Except Fault β} {next : β → Script (Except Fault γ)}
    (h : ∀ b, Careful deeds read (next b)) : Careful deeds read (Command.need answer next) := by
  cases answer with
  | ok b => exact h b
  | error fault => exact .done _ _ _

theorem Careful.of_create {rule : Rule} {next : Except Fault Unit → Script α}
    (h : Careful deeds read (.call (.create rule) next)) : rule.IsNew ∧ .created rule ∈ deeds := by
  cases h with
  | create hr _ => exact ⟨hr, List.mem_cons_self⟩

theorem Means.careful {p : Script α} (h : Means deeds p) : Careful deeds [] p := by
  induction h with
  | done a => exact .done _ _ a
  | answer _ f ih => exact ih.andThen_done f
  | store hr _ ih => exact .create hr fun _ => .need fun _ => ih
  | list => exact .all fun _ => .need fun _ => .done _ _ _
  | delete id =>
    refine .get (fun _ => .done _ _ _) (.done _ _ _) fun rule _ => ?_
    exact .delete fun _ => .need fun _ => .done _ _ _
  | switch id enabled =>
    refine .get (fun _ => .done _ _ _) (.done _ _ _) ?_
    rintro rule rfl
    exact .switch List.mem_cons_self fun _ => .need fun _ => .done _ _ _
  | event host message =>
    rw [Dispatch.script_eq]
    split
    · exact .done _ _ _
    · exact .all fun _ => .done _ _ _

end Script

section Logs
variable {kind : StoreKind} {log : List Deed} {s : kind.State}

theorem ids_standing_sublist (h : ∀ deed ∈ log, deed.IsSound) :
    ((standing log).map Rule.id).Sublist (createdIds log) := by
  rw [standing_eq_foldl h]
  exact ids_foldl_sublist log []

theorem exists_made_of_mem_standing (h : ∀ deed ∈ log, deed.IsSound) {rule : Rule}
    (hr : rule ∈ standing log) : ∃ made, .created made ∈ log ∧ rule.IsVersionOf made := by
  rw [standing_eq_foldl h] at hr
  obtain ⟨made, hm | hm, hv⟩ := exists_version_of_foldl hr
  · cases hm
  · exact ⟨made, hm, hv⟩

theorem mem_createdIds {rule : Rule} (h : .created rule ∈ log) : rule.id ∈ createdIds log :=
  List.mem_filterMap.mpr ⟨_, h, rfl⟩

theorem eq_of_created {rule made : Rule} (hn : (createdIds log).Nodup) (hr : .created rule ∈ log)
    (hm : .created made ∈ log) (hid : rule.id = made.id) : rule = made := by
  induction log with
  | nil => cases hr
  | cons deed log ih =>
    have hlater : (createdIds log).Nodup := hn.sublist ((List.sublist_cons_self _ _).filterMap _)
    rcases List.mem_cons.mp hr with rfl | hr' <;> rcases List.mem_cons.mp hm with hm' | hm'
    · exact (Deed.created.inj hm').symm
    · exact absurd (hid ▸ mem_createdIds hm') (List.nodup_cons.mp hn).1
    · subst hm'
      exact absurd (hid ▸ mem_createdIds hr') (List.nodup_cons.mp hn).1
    · exact ih hlater hr' hm'

def StoreKind.IsCopy (kind : StoreKind) (log : List Deed) (rule : Rule) : Prop :=
  ∃ made, .created made ∈ log ∧ rule.IsVersionOf (kind.copy made)

structure StoreKind.Logs (kind : StoreKind) (log : List Deed) (s : kind.State) : Prop where
  sound : ∀ deed ∈ log, deed.IsSound
  fresh : (createdIds log).Nodup
  store : s = kind.holding (standing log)
  gone : ∀ id, .deleted id ∈ log → id ∈ createdIds log ∧ id ∉ (standing log).map Rule.id

namespace StoreKind

theorem logs_nil (kind : StoreKind) : kind.Logs [] kind.empty :=
  ⟨List.forall_mem_nil _, List.nodup_nil, kind.holding_nil, fun _ h => nomatch h⟩

theorem Logs.distinct (h : kind.Logs log s) : ((standing log).map Rule.id).Nodup :=
  h.fresh.sublist (ids_standing_sublist h.sound)

theorem Logs.snoc {deed : Deed} (h : kind.Logs log s) (hd : deed.IsSound)
    (hf : (createdIds (log ++ [deed])).Nodup)
    (hg : ∀ id, deed = .deleted id → id ∈ createdIds log) :
    kind.Logs (log ++ [deed]) (kind.holding (deed.apply (standing log))) := by
  have happly := standing_append hd log
  refine ⟨?_, hf, congrArg kind.holding happly.symm, fun id hid => ?_⟩
  · exact List.forall_mem_append.mpr ⟨h.sound, List.forall_mem_singleton.mpr hd⟩
  rw [createdIds_append] at hf ⊢
  rw [happly]
  rcases List.mem_append.mp hid with hid | hid
  · obtain ⟨hin, hout⟩ := h.gone id hid
    refine ⟨List.mem_append_left _ hin, fun hm => ?_⟩
    -- The id would have to be that of a new rule, but it was given before.
    rcases List.mem_append.mp ((ids_apply_sublist deed _).subset hm) with hm | hm
    · exact hout hm
    · exact (List.nodup_append.mp hf).2.2 id hin id hm rfl
  · obtain rfl := List.mem_singleton.mp hid
    refine ⟨List.mem_append_left _ (hg id rfl), fun hm => ?_⟩
    obtain ⟨rule, hr, hid⟩ := List.mem_map.mp hm
    have hne := (List.mem_filter.mp hr).2
    simp [hid] at hne

theorem Logs.version_of_copy (h : kind.Logs log s) {rule current : Rule}
    (hc : kind.IsCopy log rule) (hs : current ∈ standing log) (hid : rule.id = current.id) :
    rule.IsVersionOf (kind.copy current) := by
  obtain ⟨made, hm, hv⟩ := hc
  obtain ⟨other, ho, hvo⟩ := exists_made_of_mem_standing h.sound hs
  have hids : made.id = other.id := by
    rw [Rule.IsVersionOf] at hv hvo
    rw [hv, hvo] at hid
    exact (kind.copy_id made).symm.trans hid
  obtain rfl := eq_of_created h.fresh hm ho hids
  rw [Rule.IsVersionOf] at hv hvo ⊢
  rw [hvo, copy_switched]
  exact hv

theorem IsCopy.mono {later : List Deed} {rule : Rule} (h : kind.IsCopy log rule) :
    kind.IsCopy (log ++ later) rule := by
  obtain ⟨made, hm, hv⟩ := h
  exact ⟨made, List.mem_append_left _ hm, hv⟩

theorem Logs.isCopy_of_get (h : kind.Logs log s) {id : String} {found : Rule}
    (hg : (kind.backend (.get id) s).1 = .ok (some found)) :
    found.id = id ∧ kind.IsCopy log found := by
  rw [h.store] at hg
  obtain ⟨rule, hr, rfl, rfl⟩ := exists_of_backend_get hg
  obtain ⟨made, hm, hv⟩ := exists_made_of_mem_standing h.sound hr
  refine ⟨kind.copy_id rule, made, hm, ?_⟩
  rw [Rule.IsVersionOf] at hv ⊢
  rw [hv, copy_switched]

def Serves (kind : StoreKind) (log : List Deed) (call : StoreCall) (s : kind.State) : Prop :=
  kind.Logs (log ++ call.done (kind.backend call s).1) (kind.backend call s).2

theorem Logs.read {call : StoreCall} (h : kind.Logs log s)
    (hd : call.done (kind.backend call s).1 = []) (hs : (kind.backend call s).2 = s) :
    kind.Serves log call s := by
  rw [Serves, hd, hs, List.append_nil]
  exact h

theorem Logs.refuses {call : StoreCall} (h : kind.Logs log s)
    (hf : ∃ fault, (kind.backend call s).1 = .error fault) : kind.Serves log call s := by
  obtain ⟨fault, hf⟩ := hf
  refine h.read ?_ (backend_of_error hf)
  rw [hf]
  cases call <;> rfl

theorem Logs.takes {call : StoreCall} {deed : Deed} {s' : kind.State} {a : call.Answer}
    (hb : kind.backend call s = (.ok a, s')) (hd : call.done (.ok a) = [deed])
    (h : kind.Logs (log ++ [deed]) s') : kind.Serves log call s := by
  rw [Serves, hb, hd]
  exact h

theorem Logs.create_eq {rule : Rule} (h : kind.Logs log s) (hr : rule.IsNew)
    (hf : (createdIds (log ++ [.created rule])).Nodup) :
    kind.backend (.create rule) s = (.ok (), kind.holding (standing log ++ [rule])) := by
  rw [createdIds_append] at hf
  have hnew : rule.id ∉ (standing log).map Rule.id := fun hm =>
    (List.nodup_append.mp hf).2.2 _ ((ids_standing_sublist h.sound).subset hm) _
      List.mem_cons_self rfl
  rw [h.store]
  exact backend_create hr.actions hnew

theorem Logs.create {rule : Rule} (h : kind.Logs log s) (hr : rule.IsNew)
    (hf : (createdIds (log ++ [.created rule])).Nodup) : kind.Serves log (.create rule) s :=
  .takes (h.create_eq hr hf) rfl (h.snoc hr hf nofun)

theorem Logs.switch {rule : Rule} (h : kind.Logs log s) (hc : kind.IsCopy log rule)
    (enabled : Bool) : kind.Serves log (.update { rule with enabled := enabled }) s := by
  by_cases hin : rule.id ∈ (standing log).map Rule.id
  · obtain ⟨current, hs, hid⟩ := List.mem_map.mp hin
    have hv := h.version_of_copy hc hs hid.symm
    rw [Rule.IsVersionOf] at hv
    -- Whatever the flag was when the rule was read, all else is as it is now.
    have hrule : { rule with enabled := enabled } =
        { kind.copy current with enabled := enabled } := by
      rw [hv]
    have hb : kind.backend (.update { kind.copy current with enabled := enabled }) s =
        (.ok (), kind.holding (switchRule current.id enabled (standing log))) := by
      rw [h.store]
      exact backend_switch h.distinct hs (actions_of_mem_standing h.sound hs) enabled
    have hd : (StoreCall.update { kind.copy current with enabled := enabled }).done (.ok ()) =
        [.switched current.id enabled] := by
      rw [StoreCall.done, copy_id]
    have hf : (createdIds (log ++ [.switched current.id enabled])).Nodup := by
      rw [createdIds_append]
      exact (List.append_nil _).symm ▸ h.fresh
    rw [hrule]
    exact .takes hb hd (h.snoc trivial hf fun _ he => by cases he)
  · exact h.refuses (h.store ▸ backend_update_absent hin)

theorem Logs.delete (h : kind.Logs log s) (id : String) : kind.Serves log (.delete id) s := by
  by_cases hin : id ∈ (standing log).map Rule.id
  · obtain ⟨rule, hr, rfl⟩ := List.mem_map.mp hin
    have hb : kind.backend (.delete rule.id) s =
        (.ok (), kind.holding ((standing log).filter (·.id != rule.id))) := by
      rw [h.store]
      exact backend_delete h.distinct hr
    have hf : (createdIds (log ++ [.deleted rule.id])).Nodup := by
      rw [createdIds_append]
      exact (List.append_nil _).symm ▸ h.fresh
    refine .takes hb rfl (h.snoc trivial hf ?_)
    rintro id ⟨⟩
    exact (ids_standing_sublist h.sound).subset hin
  · exact h.refuses (h.store ▸ backend_delete_absent hin)

end StoreKind

structure Handler where
  script : Script Told
  deeds : List Deed
  read : List Rule

structure Handler.IsSteady (kind : StoreKind) (log : List Deed) (h : Handler) : Prop where
  careful : h.script.Careful h.deeds h.read
  copies : ∀ rule ∈ h.read, kind.IsCopy log rule

theorem Handler.IsSteady.serves {handler : Handler} {call : StoreCall}
    {next : Except Fault call.Answer → Script Told} (h : handler.IsSteady kind log)
    (hs : handler.script = .call call next) (hl : kind.Logs log s)
    (hf : (createdIds (log ++ handler.deeds)).Nodup) :
    kind.Serves log call s ∧ ∃ new : Handler, new.script = next (kind.backend call s).1 ∧
      (call.done (kind.backend call s).1 ++ new.deeds).Sublist handler.deeds ∧
      new.IsSteady kind log := by
  obtain ⟨script, deeds, read⟩ := handler
  obtain ⟨hcareful, hr⟩ := h
  obtain rfl : script = .call call next := hs
  cases hcareful with
  | all hc =>
    have hd : StoreCall.all.done (kind.backend .all s).1 = [] := by
      cases (kind.backend .all s).1 <;> rfl
    refine ⟨hl.read hd StoreKind.backend_all_snd, ⟨_, deeds, read⟩, rfl, ?_, hc _, hr⟩
    rw [hd, List.nil_append]
  | @get _ _ id _ hfault hnone hfound =>
    have hd : (StoreCall.get id).done (kind.backend (.get id) s).1 = [] := by
      cases (kind.backend (.get id) s).1 <;> rfl
    refine ⟨hl.read hd (StoreKind.backend_get_snd id), ?_⟩
    rw [hd]
    cases hg : (kind.backend (.get id) s).1 with
    | error fault => exact ⟨⟨_, deeds, read⟩, rfl, .refl _, hfault fault, hr⟩
    | ok found =>
      cases found with
      | none => exact ⟨⟨_, deeds, read⟩, rfl, .refl _, hnone, hr⟩
      | some rule =>
        obtain ⟨hid, hcopy⟩ := hl.isCopy_of_get hg
        exact ⟨⟨_, deeds, rule :: read⟩, rfl, .refl _, hfound rule hid,
          List.forall_mem_cons.mpr ⟨hcopy, hr⟩⟩
  | @create later _ rule _ hnew hc =>
    have hfirst : [Deed.created rule].Sublist (.created rule :: later) :=
      List.singleton_sublist.mpr List.mem_cons_self
    exact ⟨hl.create hnew (hf.sublist ((hfirst.append_left log).filterMap _)),
      ⟨_, later, read⟩, rfl, (StoreCall.done_sublist () _).append_right later, hc _, hr⟩
  | @switch later _ rule enabled _ hread hc =>
    exact ⟨hl.switch (hr rule hread) enabled, ⟨_, later, read⟩, rfl,
      (StoreCall.done_sublist () _).append_right later, hc _, hr⟩
  | @delete later _ id _ hc =>
    exact ⟨hl.delete id, ⟨_, later, read⟩, rfl,
      (StoreCall.done_sublist () _).append_right later, hc _, hr⟩

end Logs

/-- A store with the handlers at it, each with the rest of its script, and a log of what their calls
have done. -/
structure Crowd (σ : Type) where
  store : σ
  scripts : List (Script Told)
  log : List Deed

namespace Crowd
variable {σ : Type}

def answered (backend : Backend σ) (c : Crowd σ) (n : Nat) (call : StoreCall)
    (next : Except Fault call.Answer → Script Told) : Crowd σ where
  store := (backend call c.store).2
  scripts := c.scripts.set n (next (backend call c.store).1)
  log := c.log ++ call.done (backend call c.store).1

def turn (backend : Backend σ) (c : Crowd σ) (n : Nat) : Crowd σ :=
  match c.scripts[n]? with
  | some (.call call next) => c.answered backend n call next
  | _ => c

def start (kind : StoreKind) (moves : List Move) : Crowd kind.State :=
  ⟨kind.empty, moves.map Move.script, []⟩

def after (kind : StoreKind) (moves : List Move) (turns : List Nat) : Crowd kind.State :=
  turns.foldl (turn kind.backend) (start kind moves)

theorem turn_cases (backend : Backend σ) (c : Crowd σ) (n : Nat) :
    c.turn backend n = c ∨
      ∃ (call : StoreCall) (next : Except Fault call.Answer → Script Told),
        c.scripts[n]? = some (.call call next) ∧
          c.turn backend n = c.answered backend n call next := by
  rw [turn]
  split
  · next call next hn => exact .inr ⟨call, next, hn, rfl⟩
  · exact .inl rfl

end Crowd

namespace Handler
variable {kind : StoreKind} {log later : List Deed} {pre post : List Handler} {old new : Handler}

theorem isSteady_replace (h : ∀ other ∈ pre ++ old :: post, other.IsSteady kind log)
    (hn : new.IsSteady kind log) :
    ∀ other ∈ pre ++ new :: post, other.IsSteady kind (log ++ later) := by
  intro other ho
  have hs : other.IsSteady kind log := by
    rcases List.mem_append.mp ho with ho | ho
    · exact h other (List.mem_append_left _ ho)
    · rcases List.mem_cons.mp ho with rfl | ho
      · exact hn
      · exact h other (List.mem_append_right _ (List.mem_cons_of_mem _ ho))
  exact ⟨hs.careful, fun rule hr => (hs.copies rule hr).mono⟩

theorem subperm_replace {done : List Deed} (h : (done ++ new.deeds).Sublist old.deeds)
    (log : List Deed) (pre post : List Handler) :
    (log ++ done ++ (pre ++ new :: post).flatMap deeds).Subperm
      (log ++ (pre ++ old :: post).flatMap deeds) := by
  simp only [List.flatMap_append, List.flatMap_cons, List.append_assoc, List.subperm_append_left]
  have hperm := List.perm_append_comm_assoc done (pre.flatMap deeds)
    (new.deeds ++ post.flatMap deeds)
  have hsub := (h.append_right (post.flatMap deeds)).append_left (pre.flatMap deeds)
  rw [List.append_assoc] at hsub
  exact hperm.subperm.trans hsub.subperm

end Handler

theorem nodup_createdIds_of_subperm {deeds deeds' : List Deed} (h : deeds.Subperm deeds')
    (hn : (createdIds deeds').Nodup) : (createdIds deeds).Nodup := by
  obtain ⟨some, hperm, hsub⟩ := h
  exact (hperm.filterMap _).nodup_iff.mp (hn.sublist (hsub.filterMap _))

namespace Crowd
variable {kind : StoreKind} {moves : List Move} {handlers : List Handler} {c : Crowd kind.State}

structure Orderly (moves : List Move) (handlers : List Handler) (c : Crowd kind.State) : Prop where
  scripts : c.scripts = handlers.map Handler.script
  steady : ∀ h ∈ handlers, h.IsSteady kind c.log
  fresh : (createdIds (c.log ++ handlers.flatMap Handler.deeds)).Nodup
  promised : c.log ++ handlers.flatMap Handler.deeds ⊆ Session.deeds moves
  logs : kind.Logs c.log c.store

theorem orderly_start (kind : StoreKind) {moves : List Move}
    (h : (createdIds (Session.deeds moves)).Nodup) :
    Orderly moves (moves.map fun move => ⟨move.script, move.deeds, []⟩) (start kind moves) := by
  have hdeeds : (moves.map fun move => (⟨move.script, move.deeds, []⟩ : Handler)).flatMap
      Handler.deeds = Session.deeds moves := by
    rw [List.flatMap_map, Session.deeds]
  refine ⟨?_, ?_, ?_, ?_, kind.logs_nil⟩
  · rw [List.map_map]
    rfl
  · intro h hh
    obtain ⟨move, -, rfl⟩ := List.mem_map.mp hh
    exact ⟨move.means.careful, List.forall_mem_nil _⟩
  · rw [hdeeds]
    exact h
  · rw [hdeeds]
    exact List.Subset.refl _

theorem Orderly.fresh_own (h : c.Orderly moves handlers) {handler : Handler}
    (hh : handler ∈ handlers) : (createdIds (c.log ++ handler.deeds)).Nodup := by
  have hown : handler.deeds.Sublist (handlers.flatMap Handler.deeds) :=
    List.sublist_flatten_of_mem (List.mem_map_of_mem hh)
  exact h.fresh.sublist ((hown.append_left c.log).filterMap _)

theorem Orderly.answered {pre post : List Handler} {handler : Handler} {call : StoreCall}
    {next : Except Fault call.Answer → Script Told}
    (h : c.Orderly moves (pre ++ handler :: post)) (hs : handler.script = .call call next) :
    ∃ handlers', (c.answered kind.backend pre.length call next).Orderly moves handlers' := by
  have hin : handler ∈ pre ++ handler :: post := by simp
  obtain ⟨hserves, new, hscript, hdone, hnew⟩ :=
    (h.steady handler hin).serves hs h.logs (h.fresh_own hin)
  have hsub := Handler.subperm_replace hdone c.log pre post
  refine ⟨pre ++ new :: post, ?_, ?_, ?_, ?_, hserves⟩
  · simp [Crowd.answered, h.scripts, hscript]
  · exact Handler.isSteady_replace h.steady hnew
  · exact nodup_createdIds_of_subperm hsub h.fresh
  · exact fun deed hd => h.promised (hsub.subset hd)

theorem Orderly.turn (h : c.Orderly moves handlers) (n : Nat) :
    ∃ handlers', (c.turn kind.backend n).Orderly moves handlers' := by
  rcases turn_cases kind.backend c n with hself | ⟨call, next, hn, hturn⟩
  · rw [hself]
    exact ⟨handlers, h⟩
  · rw [h.scripts, List.getElem?_map, Option.map_eq_some_iff] at hn
    obtain ⟨handler, hget, hscript⟩ := hn
    obtain ⟨hlt, hget⟩ := List.getElem?_eq_some_iff.mp hget
    obtain ⟨pre, post, hsplit, rfl, -⟩ := @List.exists_of_set Handler n handler handlers hlt
    rw [hget] at hsplit
    subst hsplit
    rw [hturn]
    exact h.answered hscript

theorem after_concat (kind : StoreKind) (moves : List Move) (turns : List Nat) (n : Nat) :
    after kind moves (turns ++ [n]) = (after kind moves turns).turn kind.backend n :=
  List.foldl_concat _ _ _ _

theorem orderly_after (kind : StoreKind) {moves : List Move}
    (h : (createdIds (Session.deeds moves)).Nodup) (turns : List Nat) :
    ∃ handlers, (after kind moves turns).Orderly moves handlers := by
  induction turns using List.reverseRecOn with
  | nil => exact ⟨_, orderly_start kind h⟩
  | append_singleton turns n ih =>
    obtain ⟨handlers, ho⟩ := ih
    rw [after_concat]
    exact ho.turn n

theorem Orderly.create_taken (h : c.Orderly moves handlers) {rule : Rule}
    {next : Except Fault Unit → Script Told} (hs : .call (.create rule) next ∈ c.scripts) :
    (kind.backend (.create rule) c.store).1 = .ok () := by
  rw [h.scripts] at hs
  obtain ⟨handler, hh, hscript⟩ := List.mem_map.mp hs
  have hcareful := (h.steady handler hh).careful
  rw [hscript] at hcareful
  obtain ⟨hnew, hdeed⟩ := hcareful.of_create
  have hfirst := (List.singleton_sublist.mpr hdeed).append_left c.log
  exact congrArg Prod.fst
    (h.logs.create_eq hnew ((h.fresh_own hh).sublist (hfirst.filterMap _)))

theorem log_subset_turn {σ : Type} (backend : Backend σ) (c : Crowd σ) (n : Nat) :
    c.log ⊆ (c.turn backend n).log := by
  rcases turn_cases backend c n with hself | ⟨call, next, -, hturn⟩
  · rw [hself]
    exact List.Subset.refl _
  · rw [hturn]
    exact List.subset_append_left _ _

theorem log_subset_after (kind : StoreKind) (moves : List Move) (turns later : List Nat) :
    (after kind moves turns).log ⊆ (after kind moves (turns ++ later)).log := by
  induction later using List.reverseRecOn with
  | nil =>
    rw [List.append_nil]
    exact List.Subset.refl _
  | append_singleton later n ih =>
    rw [← List.append_assoc, after_concat]
    exact fun _ hd => log_subset_turn kind.backend _ n (ih hd)

/-- Whatever the order of the calls, a store holds the rules that were created and not deleted
since, in the order of their creation, each as it was created but for its flag, which is as it was
written last. -/
theorem any_order_keeps_standing_rules (kind : StoreKind) (moves : List Move)
    (hfresh : (createdIds (Session.deeds moves)).Nodup) (turns : List Nat) :
    (after kind moves turns).store = kind.holding (standing (after kind moves turns).log) ∧
    ((standing (after kind moves turns).log).map Rule.id).Nodup ∧
    (∀ rule ∈ standing (after kind moves turns).log,
      ∃ made, .created made ∈ (after kind moves turns).log ∧ rule.IsVersionOf made) ∧
    (∀ id, .deleted id ∈ (after kind moves turns).log → ∀ later,
      id ∉ (standing (after kind moves (turns ++ later)).log).map Rule.id) ∧
    (after kind moves turns).log ⊆ Session.deeds moves ∧
    ∀ rule next, .call (.create rule) next ∈ (after kind moves turns).scripts →
      (kind.backend (.create rule) (after kind moves turns).store).1 = .ok () := by
  obtain ⟨handlers, h⟩ := orderly_after kind hfresh turns
  refine ⟨h.logs.store, h.logs.distinct,
    fun rule hr => exists_made_of_mem_standing h.logs.sound hr, fun id hd later => ?_,
    fun deed hd => h.promised (List.mem_append_left _ hd), fun rule next hs => h.create_taken hs⟩
  obtain ⟨handlers', h'⟩ := orderly_after kind hfresh (turns ++ later)
  exact (h'.logs.gone id (log_subset_after kind moves turns later hd)).2

def racing : List Move :=
  let author : User := ⟨"U9", "admin"⟩
  Session.twoRules ++
    [.line ⟨"r4", Session.epoch⟩ author "enable r1".toList,
      .words ⟨"r5", Session.epoch⟩ author ["delete".toList, "r2".toList],
      .line ⟨"r6", Session.epoch⟩ author "disable r2".toList]

def racingTurns : List Nat :=
  [0, 1, 2, 3, 4, 5, 3, 2, 4, 5]

def firstRule : Rule :=
  ⟨"r1", none, "U9", Session.epoch, true, { Trigger.onMessage with contains := some "ping" },
    [.delete]⟩

def secondRule : Rule :=
  { firstRule with id := "r2", actions := [.post Action.sameRoom "pong"] }

/-- Two handlers read the first rule before either writes its flag. The second rule is deleted
between the two calls of a handler that disables it. -/
theorem racing_leaves_first_rule_off :
    (createdIds (Session.deeds racing)).Nodup ∧
    (after .table racing racingTurns).log =
      [.created firstRule, .created secondRule, .switched "r1" true, .switched "r1" false,
        .deleted "r2"] ∧
    (after .table racing racingTurns).store =
      Table.ofRules [{ firstRule with enabled := false }] := by
  have hfresh : (createdIds (Session.deeds racing)).Nodup := by decide +kernel
  have hlog : (after .table racing racingTurns).log =
      [.created firstRule, .created secondRule, .switched "r1" true, .switched "r1" false,
        .deleted "r2"] := by
    decide +kernel
  have hstore := (any_order_keeps_standing_rules .table racing hfresh racingTurns).1
  rw [hlog] at hstore
  exact ⟨hfresh, hlog, hstore⟩

end Crowd

end ChatRules
