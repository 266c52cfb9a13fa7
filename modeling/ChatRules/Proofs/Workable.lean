import ChatRules.Proofs.Authored
import ChatRules.Proofs.Contents
import ChatRules.Proofs.Effect

namespace ChatRules

namespace Action

variable (host : Host) (message : Message)

def OnlyCompletes (w : Work Outcome) : Prop :=
  ∀ outcome, w.result = .ok outcome → outcome = .completed

theorem onlyCompletes_bind {α : Type} {w : Work α} {f : α → Work Outcome}
    (h : ∀ a, OnlyCompletes (f a)) : OnlyCompletes (w >>= f) := by
  intro outcome ho
  obtain ⟨calls, result⟩ := w
  cases result with
  | error fault => cases ho
  | ok a => exact h a outcome ho

theorem onlyCompletes_done : OnlyCompletes (Work.done .completed) :=
  fun _ ho => (Except.ok.inj ho).symm

theorem IsFull.onlyCompletes {a : Action} (h : a.IsFull) :
    OnlyCompletes (a.attempt host message) := by
  cases a with
  | direct target text =>
    rw [attempt, if_neg (not_or.mpr h)]
    exact onlyCompletes_bind fun _ => onlyCompletes_bind fun _ => onlyCompletes_bind fun _ =>
      onlyCompletes_done
  | post target text =>
    rw [attempt, if_neg (not_or.mpr h)]
    exact onlyCompletes_bind fun _ => onlyCompletes_bind fun _ => onlyCompletes_bind fun _ =>
      onlyCompletes_done
  | delete => exact onlyCompletes_bind fun _ => onlyCompletes_done

def lackings : List Outcome :=
  [.skipped "direct message needs target and text", .skipped "post needs target and text"]

theorem IsFull.outcome_not_lacking {a : Action} (h : a.IsFull) :
    (a.perform host message).2 ∉ lackings := by
  have hc := h.onlyCompletes host message
  simp only [perform]
  cases hr : (a.attempt host message).result with
  | ok outcome =>
    rw [hc outcome hr]
    decide
  | error fault =>
    cases fault with
    | targetNotFound target =>
      have ht : ("target not found: " ++ target).toList.head? = some 't' := by
        rw [String.toList_append]
        rfl
      simp only [Outcome.ofResult, lackings, List.mem_cons, Outcome.skipped.injEq,
        List.not_mem_nil, or_false, not_or]
      constructor <;> intro he <;> rw [he] at ht <;> exact absurd ht (by decide)
    | _ => simp [Outcome.ofResult, lackings]

end Action

structure Rule.IsWorkable (rule : Rule) : Prop where
  acts : rule.actions ≠ []
  full : ∀ a ∈ rule.actions, a.IsFull

namespace Response

theorem postTarget_ne_empty {target : String} (h : target ≠ "") :
    postTarget (some target) ≠ "" := by
  simp only [postTarget]
  split
  · exact h
  split
  · exact h
  · intro he
    have hl := congrArg String.toList he
    rw [String.toList_append] at hl
    cases hl

theorem IsFull.action {r : Response} (h : r.IsFull) : ∃ a, r.action = .ok a ∧ a.IsFull := by
  obtain ⟨hc, target, ht, hn⟩ := h
  rw [Response.action]
  cases r.kind with
  | message => exact ⟨_, rfl, ht ▸ postTarget_ne_empty hn, hc⟩
  | direct =>
    refine ⟨.direct target r.content, ?_, hn, hc⟩
    simp only [directMessage, ht, Action.needed, if_neg hn, if_neg hc]
    rfl

end Response

theorem Cue.Listens.trigger {cue : Cue} (h : cue.Listens) (hk : cue.trigger.kind = .message) :
    cue.trigger.isEmpty = false := by
  have hp : cue.pattern ≠ "" := h hk
  have hm : some cue.pattern ∈ cue.trigger.conditions.filter
      fun c => (Trigger.populated? c).isSome := by
    refine List.mem_filter.mpr ⟨?_, by simp [Trigger.populated?, Option.filter, hp]⟩
    simp [Trigger.conditions, Cue.trigger, hp]
  rw [Trigger.isEmpty, Trigger.conditionCount, decide_eq_false_iff_not]
  exact Nat.ne_of_gt (List.length_pos_of_mem hm)

theorem Step.IsReady.rule {step : Step} (h : step.IsReady) (stamp : Stamp) (author : String) :
    ∃ rule, step.rule stamp author = .ok rule ∧ rule.IsWorkable ∧
      (rule.trigger.kind = .message → rule.trigger.isEmpty = false) := by
  obtain ⟨a, ha, hf⟩ := h.response.action
  refine ⟨⟨stamp.id, none, author, stamp.time, true, step.cue.trigger, [a]⟩, ?_, ?_, ?_⟩
  · rw [Step.rule, ha]
    rfl
  · exact ⟨List.cons_ne_nil a [], List.forall_mem_singleton.mpr hf⟩
  · exact h.cue.trigger

namespace Script
variable {α β σ : Type}

def Always (P : α → Prop) : Script α → Prop
  | .done a => P a
  | .call _ next => ∀ answer, (next answer).Always P

theorem Always.run {P : α → Prop} {p : Script α} (h : p.Always P) (backend : Backend σ) (s : σ) :
    P (p.run backend s).1 := by
  induction p generalizing s with
  | done a => exact h
  | call c next ih => exact ih _ (h _) _

theorem Always.andThen_done {P : β → Prop} {f : α → β} {p : Script α}
    (h : p.Always fun a => P (f a)) : (p.andThen fun a => .done (f a)).Always P := by
  induction p with
  | done a => exact h
  | call c next ih => exact fun answer => ih answer (h answer)

end Script

namespace Told

def preview? : Told → Option (List Step)
  | .reply (.ok told) => told.preview
  | _ => none

def report? : Told → Option Dispatch
  | .dispatch work => work.result.toOption
  | .reply _ => none

theorem report?_dispatch {work : Work Dispatch} {d : Dispatch} :
    (dispatch work).report? = some d ↔ work.result = .ok d := by
  rw [report?]
  cases work.result <;> simp [Except.toOption]

def IsReady (told : Told) : Prop :=
  ∀ steps ∈ told.preview?, ∀ step ∈ steps, step.IsReady

end Told

namespace Command
open Script

def IsReady (answer : Except Fault Reply) : Prop :=
  (Told.reply answer).IsReady

theorem isReady_error (fault : Fault) : IsReady (.error fault) :=
  fun _ hs => nomatch hs

theorem isReady_say (text : String) : IsReady (.ok (.say text)) :=
  fun _ hs => nomatch hs

theorem isReady_english (sentence : List Char) : IsReady (.ok (english sentence)) := by
  rw [english]
  split
  · exact isReady_say _
  · split
    · next steps hs =>
      intro found hf
      obtain rfl := Option.some.inj hf
      exact Sentence.isReady_of_steps_eq_ok hs
    · exact isReady_say _

theorem always_call {c : StoreCall} {next : c.Answer → Script (Except Fault Reply)}
    (h : ∀ a, (next a).Always IsReady) :
    (Script.call c fun answer => need answer next).Always IsReady := by
  intro answer
  cases answer with
  | error fault => exact isReady_error fault
  | ok a => exact h a

theorem Intent.Arises.always_ready {intent : Intent} {stamp : Stamp} {sender : User}
    (h : intent.Arises stamp sender) : intent.script.Always IsReady := by
  cases h with
  | say text => exact isReady_say text
  | english sentence => exact isReady_english sentence
  | store hv ha => exact always_call fun _ => isReady_say _
  | list => exact always_call fun _ => isReady_say _
  | delete id =>
    refine always_call fun found => ?_
    cases found with
    | none => exact isReady_say _
    | some rule => exact always_call fun _ => isReady_say _
  | switch id enabled =>
    refine always_call fun found => ?_
    cases found with
    | none => exact isReady_say _
    | some rule => exact always_call fun _ => isReady_say _

theorem always_approveFrom (stamps : Nat → Stamp) (sender : User) (ids : List String)
    (steps : List Step) : (approveFrom stamps sender ids steps).Always IsReady := by
  induction steps generalizing ids with
  | nil => exact isReady_say _
  | cons step rest ih =>
    rw [approveFrom]
    cases step.rule (stamps ids.length) sender.id with
    | error fault => exact isReady_error fault
    | ok rule => exact always_call fun _ => ih (rule.id :: ids)

end Command

theorem Move.always_ready (move : Move) : move.script.Always Told.IsReady := by
  cases move with
  | words stamp sender tokens =>
    refine Script.Always.andThen_done ?_
    rw [Command.execute_eq_script]
    exact (Command.Intent.arises_ofWords stamp sender tokens).always_ready
  | line stamp sender text =>
    refine Script.Always.andThen_done ?_
    rw [Command.executeLine_eq_script]
    exact (Command.Intent.arises_ofLine stamp sender text).always_ready
  | approve stamps sender steps =>
    exact Script.Always.andThen_done (Command.always_approveFrom stamps sender [] steps)
  | cancel => exact Command.isReady_say _
  | event host message =>
    rw [Move.script, Dispatch.script_eq]
    split
    · intro _ hs
      cases hs
    · intro _ _ hs
      cases hs

namespace Rule

def IsVersionOf (rule made : Rule) : Prop :=
  rule = { made with enabled := rule.enabled }

theorem isVersionOf_self (rule : Rule) : rule.IsVersionOf rule :=
  rfl

theorem IsVersionOf.trans {rule old made : Rule} (h : rule.IsVersionOf old)
    (ho : old.IsVersionOf made) : rule.IsVersionOf made := by
  rw [IsVersionOf] at *
  rw [h, ho]

variable {rule made : Rule} (h : rule.IsVersionOf made)
include h

theorem IsVersionOf.trigger_eq : rule.trigger = made.trigger := by
  rw [IsVersionOf] at h
  rw [h]

theorem IsVersionOf.isWorkable (hw : made.IsWorkable) : rule.IsWorkable := by
  rw [IsVersionOf] at h
  rw [h]
  exact ⟨hw.acts, hw.full⟩

end Rule

theorem exists_version_of_apply {deed : Deed} {rules : List Rule} {rule : Rule}
    (hr : rule ∈ deed.apply rules) :
    ∃ old, (old ∈ rules ∨ deed = .created old) ∧ rule.IsVersionOf old := by
  cases deed with
  | created new =>
    refine ⟨rule, ?_, rule.isVersionOf_self⟩
    rcases List.mem_append.mp hr with hr | hr
    · exact .inl hr
    · exact .inr (congrArg Deed.created (List.mem_singleton.mp hr).symm)
  | deleted id => exact ⟨rule, .inl (List.mem_of_mem_filter hr), rule.isVersionOf_self⟩
  | switched id enabled =>
    obtain ⟨old, ho, rfl⟩ := List.mem_map.mp hr
    refine ⟨old, .inl ho, ?_⟩
    split <;> rfl

theorem exists_version_of_foldl {deeds : List Deed} {rules : List Rule} {rule : Rule}
    (hr : rule ∈ deeds.foldl Deed.apply rules) :
    ∃ made, (made ∈ rules ∨ .created made ∈ deeds) ∧ rule.IsVersionOf made := by
  induction deeds generalizing rules with
  | nil => exact ⟨rule, .inl hr, rule.isVersionOf_self⟩
  | cons deed rest ih =>
    obtain ⟨made, hm | hm, hv⟩ := ih hr
    · obtain ⟨old, ho, hvo⟩ := exists_version_of_apply hm
      refine ⟨old, ho.imp id ?_, hv.trans hvo⟩
      rintro rfl
      exact List.mem_cons_self
    · exact ⟨made, .inr (List.mem_cons_of_mem _ hm), hv⟩

section Unsteady
variable {kind : StoreKind} {rules : List Rule} {u : Unsteady kind.State}
open Script Command

/-- The store keeps what some of the deeds make of the rules, in their order. -/
def DoesPart (deeds : List Deed) (rules : List Rule) (s : kind.State) : Prop :=
  ∃ done : List Deed, done.Sublist deeds ∧ kind.Keeps (done.foldl Deed.apply rules) s

theorem doesPart_self (hk : kind.Keeps rules u.state) (deeds : List Deed) :
    DoesPart deeds rules u.state :=
  ⟨[], List.nil_sublist deeds, hk⟩

theorem Command.Ends.doesPart {p : Script (Except Fault Reply)} {deeds : List Deed}
    (h : Ends p deeds rules u) (hk : kind.Keeps rules u.state) :
    DoesPart deeds rules (p.run kind.backend.unsteady u).2.state := by
  cases h with
  | refused _ _ hu => exact hu ▸ doesPart_self hk deeds
  | served _ _ hk' => exact ⟨deeds, List.Sublist.refl deeds, hk'⟩

theorem Script.Means.doesPart {α : Type} {deeds : List Deed} {p : Script α} (h : Means deeds p)
    (hk : kind.Keeps rules u.state) :
    DoesPart deeds rules (p.run kind.backend.unsteady u).2.state := by
  induction h generalizing rules u with
  | done a => exact doesPart_self hk []
  | answer h f ih =>
    rw [run_andThen]
    exact ih hk
  | @store rule deeds next hr hn ih =>
    rcases call_cases (.create rule) (fun _ => next) u with ⟨fault, he, -⟩ | ⟨a, ha, he, -⟩
    · -- A refused rule ends the approval, so the deeds behind it are left undone too.
      rw [Command.store, he]
      exact doesPart_self hk _
    · rw [Command.store, he]
      obtain ⟨done, hd, hk'⟩ := ih (u := u.next _) (hk.create hr.actions ha)
      exact ⟨.created rule :: done, hd.cons_cons _, hk'⟩
  | list => exact (ends_list hk).doesPart hk
  | delete id => exact (ends_delete hk id).doesPart hk
  | switch id enabled => exact (ends_setEnabled hk id enabled).doesPart hk
  | event host message =>
    rw [Dispatch.script_eq]
    split
    · exact doesPart_self hk []
    · refine ⟨[], List.nil_sublist [], ?_⟩
      simp only [run, StoreKind.unsteady_snd_of_read StoreKind.backend_all_snd]
      exact hk

theorem Session.doesPart_stateAfter (moves : List Move) (hk : kind.Keeps rules u.state) :
    DoesPart (deeds moves) rules (stateAfter kind.backend.unsteady moves u).state := by
  induction moves generalizing rules u with
  | nil => exact doesPart_self hk []
  | cons move rest ih =>
    obtain ⟨done, hd, hk⟩ := move.means.doesPart hk
    obtain ⟨later, hl, hk⟩ := ih hk
    refine ⟨done ++ later, hd.append hl, ?_⟩
    rw [List.foldl_append]
    exact hk

end Unsteady

theorem Command.Intent.Arises.isWorkable {intent : Command.Intent} {stamp : Stamp} {sender : User}
    (h : intent.Arises stamp sender) {made : Rule} (hm : .created made ∈ intent.deeds) :
    made.IsWorkable := by
  cases h with
  | store hv ha =>
    obtain rfl := Deed.created.inj (List.mem_singleton.mp hm)
    exact ⟨ha, hv.isFull⟩
  | say | english | list => cases hm
  | delete | switch => cases List.mem_singleton.mp hm

namespace Command

theorem exists_of_mem_approvedRules {stamps : Nat → Stamp} {author : String} {n : Nat}
    {steps : List Step} {made : Rule} (h : made ∈ approvedRules stamps author n steps) :
    ∃ step ∈ steps, ∃ k, step.rule (stamps k) author = .ok made := by
  induction steps generalizing n with
  | nil => cases h
  | cons step rest ih =>
    rw [approvedRules] at h
    cases hr : step.rule (stamps n) author with
    | error fault =>
      rw [hr] at h
      cases h
    | ok rule =>
      rw [hr] at h
      rcases List.mem_cons.mp h with rfl | h
      · exact ⟨step, List.mem_cons_self, n, hr⟩
      · obtain ⟨other, ho, k, hk⟩ := ih h
        exact ⟨other, List.mem_cons_of_mem _ ho, k, hk⟩

theorem approveFrom_replies {kind : StoreKind} {steps : List Step}
    (h : ∀ step ∈ steps, step.IsReady) (stamps : Nat → Stamp) (sender : User)
    (ids : List String) (u : Unsteady kind.State)
    (hs : (approveFrom stamps sender ids steps).succeeds kind.backend.unsteady u = true) :
    ∃ reply, ((approveFrom stamps sender ids steps).run kind.backend.unsteady u).1 = .ok reply := by
  induction steps generalizing ids u with
  | nil => exact ⟨_, rfl⟩
  | cons step rest ih =>
    obtain ⟨hready, hrest⟩ := List.forall_mem_cons.mp h
    obtain ⟨rule, hr, -⟩ := hready.rule (stamps ids.length) sender.id
    have hstore : approveFrom stamps sender ids (step :: rest) =
        store rule (approveFrom stamps sender (rule.id :: ids) rest) := by
      rw [approveFrom, hr]
      rfl
    rw [hstore, store] at hs ⊢
    rcases call_cases (.create rule) (fun _ => approveFrom stamps sender (rule.id :: ids) rest) u
      with ⟨fault, -, hf⟩ | ⟨a, -, he, hn⟩
    · rw [hf] at hs
      cases hs
    · rw [he]
      rw [hn] at hs
      exact ih hrest _ _ hs

end Command

namespace Session
variable {σ : Type} {backend : Backend σ} {moves : List Move} {s : σ}

/-- Each approval is of a preview that a reply earlier in the session brought. -/
def ApprovesPreviews (backend : Backend σ) (moves : List Move) (s : σ) : Prop :=
  ∀ before stamps sender steps later, moves = before ++ .approve stamps sender steps :: later →
    some steps ∈ (trace backend before s).map fun shown => shown.1.preview?

theorem isReady_of_mem_trace {shown : Told × σ} (h : shown ∈ trace backend moves s) :
    shown.1.IsReady := by
  induction moves generalizing s with
  | nil => cases h
  | cons move rest ih =>
    rcases List.mem_cons.mp h with rfl | h
    · exact move.always_ready.run backend s
    · exact ih h

theorem ApprovesPreviews.isReady (h : ApprovesPreviews backend moves s) {before later : List Move}
    {stamps : Nat → Stamp} {sender : User} {steps : List Step}
    (hm : moves = before ++ .approve stamps sender steps :: later) :
    ∀ step ∈ steps, step.IsReady := by
  obtain ⟨shown, hs, hp⟩ := List.mem_map.mp (h before stamps sender steps later hm)
  exact isReady_of_mem_trace hs steps hp

theorem ApprovesPreviews.of_approvedRules (h : ApprovesPreviews backend moves s)
    {stamps : Nat → Stamp} {sender : User} {steps : List Step}
    (hm : .approve stamps sender steps ∈ moves) {made : Rule}
    (hc : .created made ∈ (Move.approve stamps sender steps).deeds) :
    made.IsWorkable ∧ (made.trigger.kind = .message → made.trigger.isEmpty = false) := by
  obtain ⟨before, later, hsplit⟩ := List.append_of_mem hm
  obtain ⟨rule, hr, he⟩ := List.mem_map.mp hc
  obtain rfl := Deed.created.inj he
  obtain ⟨step, hstep, k, hk⟩ := Command.exists_of_mem_approvedRules hr
  obtain ⟨rule', hrule, hw⟩ := (h.isReady hsplit step hstep).rule (stamps k) sender.id
  obtain rfl := Except.ok.inj (hk.symm.trans hrule)
  exact hw

theorem ApprovesPreviews.isWorkable (h : ApprovesPreviews backend moves s) {move : Move}
    (hm : move ∈ moves) {made : Rule} (hc : .created made ∈ move.deeds) : made.IsWorkable := by
  cases move with
  | words stamp sender tokens =>
    exact (Command.Intent.arises_ofWords stamp sender tokens).isWorkable hc
  | line stamp sender text => exact (Command.Intent.arises_ofLine stamp sender text).isWorkable hc
  | approve stamps sender steps => exact (h.of_approvedRules hm hc).1
  | cancel => cases hc
  | event host message => cases hc

/-- Some move made the rule, but for its flag, with something to do that can all be done. If it
comes of a sentence about messages, it asks for something. -/
structure Authored (moves : List Move) (rule : Rule) : Prop where
  made : ∃ move ∈ moves, ∃ made, .created made ∈ move.deeds ∧ rule.IsVersionOf made
  workable : rule.IsWorkable
  asks : ∀ stamps sender steps, .approve stamps sender steps ∈ moves →
    ∀ made, .created made ∈ (Move.approve stamps sender steps).deeds → rule.IsVersionOf made →
      rule.trigger.kind = .message → rule.trigger.isEmpty = false

theorem ApprovesPreviews.authored (h : ApprovesPreviews backend moves s) {move : Move}
    (hm : move ∈ moves) {made rule : Rule} (hc : .created made ∈ move.deeds)
    (hv : rule.IsVersionOf made) : Authored moves rule where
  made := ⟨move, hm, made, hc, hv⟩
  workable := hv.isWorkable (h.isWorkable hm hc)
  asks _ _ _ hm' _ hc' hv' := hv'.trigger_eq ▸ (h.of_approvedRules hm' hc').2

end Session

namespace Dispatch
variable {host : Host} {message : Message}

structure IsClean (d : Dispatch) : Prop where
  failed : d.failed = []
  executed : ∀ report ∈ d.executed, ∀ outcome ∈ report.outcomes, outcome ∉ Action.lackings

theorem isClean_of_run {listed : List Rule} (h : ∀ rule ∈ listed, rule.IsWorkable) {d : Dispatch}
    (hd : (run host (.ok listed) message).result = .ok d) : d.IsClean := by
  cases ho : isOwn host message with
  | true =>
    rw [run, ho, if_pos rfl] at hd
    cases hd
    exact ⟨rfl, List.forall_mem_nil _⟩
  | false =>
    rw [run_eq_served ho fun rule hr => (h rule hr).acts] at hd
    cases hd
    refine ⟨rfl, fun report hreport outcome ho => ?_⟩
    obtain ⟨rule, hr, rfl⟩ := List.mem_map.mp hreport
    obtain ⟨a, ha, rfl⟩ := List.mem_map.mp ho
    exact ((h rule (List.mem_of_mem_filter hr)).full a ha).outcome_not_lacking host message

theorem isClean_of_keeps {kind : StoreKind} {rules : List Rule} {u : Unsteady kind.State}
    (hk : kind.Keeps rules u.state) (h : ∀ rule ∈ rules, rule.IsWorkable) {d : Dispatch}
    (hd : ((script host message).run kind.backend.unsteady u).1.report? = some d) :
    d.IsClean := by
  rw [script_eq] at hd
  split at hd
  · exact isClean_of_run (List.forall_mem_nil _) (Told.report?_dispatch.mp hd)
  · rename_i ho
    rcases StoreKind.unsteady_cases .all u with ⟨fault, hf⟩ | ⟨listed, hl, hb⟩
    · rw [Script.run, hf] at hd
      have hd := Told.report?_dispatch.mp hd
      rw [run, if_neg ho] at hd
      cases hd
    · rw [Script.run, hb] at hd
      refine isClean_of_run (fun r hr => ?_) (Told.report?_dispatch.mp hd)
      obtain ⟨rule, hm, he⟩ := hk.mem_all hl r hr
      exact ⟨he ▸ (h rule hm).acts, he ▸ (h rule hm).full⟩

end Dispatch

namespace Session

/-- Whatever a session types and approves, and whatever calls the store refuses, the rules that are
held can be run: each has actions, all of them full, and one from a sentence has a condition. An
approval fails only with a call of the store, and no event finds a rule at fault. -/
theorem authored_rules_can_run (kind : StoreKind) (plan : Nat → Option Fault) (moves : List Move)
    (h : ApprovesPreviews kind.backend.unsteady moves ⟨plan, kind.empty⟩) :
    let store := kind.backend.unsteady
    let start : Unsteady kind.State := ⟨plan, kind.empty⟩
    (∃ rules, kind.Keeps rules (stateAfter store moves start).state ∧
      ∀ rule ∈ rules, Authored moves rule) ∧
    (∀ before stamps sender steps later, moves = before ++ .approve stamps sender steps :: later →
      let approval := Command.approve stamps sender steps
      approval.succeeds store (stateAfter store before start) = true →
      ∃ reply, (approval.run store (stateAfter store before start)).1 = .ok reply) ∧
    ∀ host message d,
      ((Dispatch.script host message).run store (stateAfter store moves start)).1.report? = some d →
      d.IsClean := by
  intro store start
  -- Which deeds were done depends on the plan; each rule comes of one that was.
  obtain ⟨done, hdone, hk⟩ := doesPart_stateAfter moves (u := start) kind.keeps_empty
  have hrules : ∀ rule ∈ done.foldl Deed.apply [], Authored moves rule := by
    intro rule hr
    obtain ⟨made, hm | hm, hv⟩ := exists_version_of_foldl hr
    · cases hm
    · obtain ⟨move, hmove, hc⟩ := List.mem_flatMap.mp (hdone.subset hm)
      exact h.authored hmove hc hv
  refine ⟨⟨_, hk, hrules⟩, ?_, ?_⟩
  · intro before stamps sender steps later hm approval hs
    exact Command.approveFrom_replies (h.isReady hm) stamps sender [] _ hs
  · intro host message d hd
    exact Dispatch.isClean_of_keeps hk (fun rule hr => (hrules rule hr).workable) hd

def greetingSteps : List Step :=
  [⟨⟨.message, "ping", some "john", none⟩, ⟨.message, "pong", some "channel"⟩⟩,
    ⟨⟨.mention, "", some "mary", none⟩, ⟨.direct, "You have been notified", some "ann"⟩⟩]

def author : User :=
  ⟨"U9", "admin"⟩

def greetingLine : Move :=
  .line ⟨"p", epoch⟩ author
    "English when @john says 'ping' send 'pong' then when @mary is mentioned notify @ann".toList

def stampsOf (first second : String) (n : Nat) : Stamp :=
  ⟨if n = 0 then first else second, epoch⟩

def greeting : List Move :=
  [greetingLine, .approve (stampsOf "r1" "r2") author greetingSteps,
    .approve (stampsOf "r3" "r4") author greetingSteps]

def lockedOnce : Unsteady StoreKind.table.State :=
  ⟨fun n => if n = 1 then some (.store "database is locked") else none, StoreKind.table.empty⟩

def afterGreeting : Unsteady StoreKind.table.State :=
  stateAfter StoreKind.table.backend.unsteady greeting lockedOnce

theorem approvesPreviews_greeting :
    ApprovesPreviews StoreKind.table.backend.unsteady greeting lockedOnce := by
  have hshown : (greetingLine.script.run StoreKind.table.backend.unsteady lockedOnce).1.preview? =
      some greetingSteps := by
    decide +kernel
  intro before stamps sender steps later hm
  have hsteps : steps = greetingSteps := by
    have hmem : .approve stamps sender steps ∈ greeting :=
      hm ▸ List.mem_append_right before List.mem_cons_self
    rcases hmem with _ | ⟨_, _ | ⟨_, _ | ⟨_, ⟨⟩⟩⟩⟩ <;> rfl
  cases before with
  | nil => cases (List.cons.inj hm).1
  | cons first rest =>
    obtain rfl : greetingLine = first := (List.cons.inj hm).1
    rw [hsteps, ← hshown]
    exact List.mem_cons_self

theorem greeting_can_run :
    (∃ rules, StoreKind.table.Keeps rules afterGreeting.state ∧
      ∀ rule ∈ rules, Authored greeting rule) ∧
    (∃ reply, ((Command.approve (stampsOf "r3" "r4") author greetingSteps).run
      StoreKind.table.backend.unsteady
      (stateAfter StoreKind.table.backend.unsteady (greeting.take 2) lockedOnce)).1 = .ok reply) ∧
    ∃ d, ((Dispatch.script willingHost ping).run StoreKind.table.backend.unsteady
      afterGreeting).1.report? = some d ∧ d.matched = ["r1", "r3"] ∧ d.IsClean := by
  have hs : (Command.approve (stampsOf "r3" "r4") author greetingSteps).succeeds
      StoreKind.table.backend.unsteady
      (stateAfter StoreKind.table.backend.unsteady (greeting.take 2) lockedOnce) = true := by
    decide +kernel
  have hd : ((Dispatch.script willingHost ping).run StoreKind.table.backend.unsteady
      afterGreeting).1.report?.map Dispatch.matched = some ["r1", "r3"] := by
    decide +kernel
  obtain ⟨hrules, happroved, hclean⟩ := authored_rules_can_run .table lockedOnce.plan greeting
    approvesPreviews_greeting
  obtain ⟨d, hd, hm⟩ := Option.map_eq_some_iff.mp hd
  exact ⟨hrules, happroved (greeting.take 2) _ _ _ [] rfl hs, d, hd, hm, hclean _ _ d hd⟩

end Session

end ChatRules
