import ChatRules.Proofs.Effect
import ChatRules.Proofs.Isolation

namespace ChatRules

def HostCall.isDeed : HostCall → Bool
  | .post _ _ _ => true
  | .direct _ _ _ => true
  | .remove _ => true
  | _ => false

def deedsIn (calls : List HostCall) : List HostCall :=
  calls.filter HostCall.isDeed

theorem deedsIn_of_lookups {calls : List HostCall} (h : ∀ call ∈ calls, call.isDeed = false) :
    deedsIn calls = [] :=
  List.filter_eq_nil_iff.mpr fun call hc => by rw [h call hc]; exact Bool.false_ne_true

theorem deedsIn_append_deed {calls : List HostCall} {deed : HostCall}
    (h : ∀ call ∈ calls, call.isDeed = false) (hd : deed.isDeed = true) :
    deedsIn (calls ++ [deed]) = [deed] := by
  have hc : deedsIn calls = [] := deedsIn_of_lookups h
  rw [deedsIn] at hc ⊢
  rw [List.filter_append, hc, List.nil_append, List.filter_cons_of_pos hd, List.filter_nil]

namespace Host

def OwnFault {α : Type} (answer : Except Fault α) : Prop :=
  ∀ fault, answer = .error fault → ∃ reason, fault = .host reason

structure ReportsOwn (h : Host) : Prop where
  post : ∀ room sender text, OwnFault (h.post room sender text)
  direct : ∀ sender recipient text, OwnFault (h.direct sender recipient text)
  remove : ∀ message, OwnFault (h.remove message)
  userByHandle : ∀ handle, OwnFault (h.userByHandle handle)
  roomByName : ∀ name, OwnFault (h.roomByName name)
  roomById : ∀ id, OwnFault (h.roomById id)

end Host

namespace Action

inductive Follows (host : Host) (aim : Work (Option HostCall)) : List HostCall × Outcome → Prop
  | lookupFailed {fault : Fault} {reason : String} (h : aim.result = .error fault) :
    Follows host aim (aim.calls, .failed reason)
  | notFound {reason : String} (h : aim.result = .ok none) :
    Follows host aim (aim.calls, .skipped reason)
  | accepted {deed : HostCall} (h : aim.result = .ok (some deed))
    (ha : host.accepts deed = true) : Follows host aim (aim.calls ++ [deed], .completed)
  | refused {deed : HostCall} {reason : String} (h : aim.result = .ok (some deed))
    (ha : host.accepts deed = false) : Follows host aim (aim.calls ++ [deed], .failed reason)

variable {α : Type} {host : Host} {m : Message}

def pursue (target : String) (lookup : Work (Option α)) (deed : α → HostCall)
    (answer : α → Except Fault Unit) : Work Outcome := do
  let a ← lookup
  let a ← found target a
  Work.ask (deed a) (answer a)
  Work.done .completed

theorem follows_pursue {target : String} {lookup : Work (Option α)} {deed : α → HostCall}
    {answer : α → Except Fault Unit} (hl : Host.OwnFault lookup.result)
    (ha : ∀ a, Host.OwnFault (answer a)) (hd : ∀ a, host.accepts (deed a) = Host.isOk (answer a)) :
    Follows host ⟨lookup.calls, lookup.result.map (Option.map deed)⟩
      ((pursue target lookup deed answer).calls,
        .ofResult (pursue target lookup deed answer).result) := by
  obtain ⟨calls, result⟩ := lookup
  cases result with
  | error fault =>
    obtain ⟨reason, rfl⟩ := hl fault rfl
    exact .lookupFailed rfl
  | ok sought =>
    cases sought with
    | none =>
      have hp : pursue target ⟨calls, .ok none⟩ deed answer =
          ⟨calls, .error (.targetNotFound target)⟩ :=
        congrArg (Work.mk · _) (List.append_nil calls)
      rw [hp]
      exact .notFound rfl
    | some a =>
      have hp : pursue target ⟨calls, .ok (some a)⟩ deed answer =
          ⟨calls ++ [deed a], (answer a).map fun _ => .completed⟩ := by
        simp only [pursue, bind, Work.andThen, found, Work.done, Work.ask, List.nil_append]
        cases answer a <;> rfl
      rw [hp]
      cases hr : answer a with
      | ok _ => exact .accepted rfl (by rw [hd, hr]; rfl)
      | error fault =>
        obtain ⟨reason, rfl⟩ := ha a fault hr
        exact .refused rfl (by rw [hd, hr]; rfl)

def aim (host : Host) (m : Message) : Action → Work (Option HostCall)
  | .direct target text =>
    ⟨[.userByHandle (stripSign '@' target)],
      (host.userByHandle (stripSign '@' target)).map (Option.map (.direct m.sender · text))⟩
  | .post target text =>
    ⟨(roomOf host m target).calls,
      (roomOf host m target).result.map (Option.map (.post · m.sender text))⟩
  | .delete => ⟨[], .ok (some (.remove m))⟩

theorem ownFault_roomOf (hh : host.ReportsOwn) (target : String) :
    Host.OwnFault (roomOf host m target).result := by
  rw [roomOf]
  split
  · exact hh.roomByName _
  · split
    · intro fault h
      cases h
    · exact hh.roomById _

theorem follows_perform (hh : host.ReportsOwn) {a : Action} (hf : a.IsFull) :
    Follows host (a.aim host m) (a.perform host m) := by
  cases a with
  | direct target text =>
    have hp : (direct target text).attempt host m =
        pursue target (Work.ask (.userByHandle (stripSign '@' target)) _)
          (.direct m.sender · text) (host.direct m.sender · text) :=
      if_neg (not_or.mpr hf)
    have hl : Host.OwnFault (Work.ask (.userByHandle (stripSign '@' target))
        (host.userByHandle (stripSign '@' target))).result := hh.userByHandle _
    rw [perform, hp]
    exact follows_pursue hl (hh.direct m.sender · text) fun _ => rfl
  | post target text =>
    have hp : (post target text).attempt host m =
        pursue target (roomOf host m target) (.post · m.sender text)
          (host.post · m.sender text) :=
      if_neg (not_or.mpr hf)
    rw [perform, hp]
    exact follows_pursue (ownFault_roomOf hh target) (hh.post · m.sender text) fun _ => rfl
  | delete =>
    have hp : delete.attempt host m = ⟨[.remove m], (host.remove m).map fun _ => .completed⟩ := by
      rw [attempt]
      cases host.remove m <;> rfl
    have haim : (delete.aim host m).result = .ok (some (.remove m)) := rfl
    rw [perform, hp]
    cases hr : host.remove m with
    | ok _ => exact .accepted haim (by rw [Host.accepts, hr]; rfl)
    | error fault =>
      obtain ⟨reason, rfl⟩ := hh.remove m fault hr
      exact .refused haim (by rw [Host.accepts, hr]; rfl)

theorem perform_of_not_full {a : Action} (h : ¬ a.IsFull) :
    ∃ reason, a.perform host m = ([], .skipped reason) := by
  cases a with
  | direct target text =>
    have hl : target = "" ∨ text = "" := by rwa [IsFull, ← not_or, not_not] at h
    exact ⟨_, by rw [perform, attempt, if_pos hl]; rfl⟩
  | post target text =>
    have hl : target = "" ∨ text = "" := by rwa [IsFull, ← not_or, not_not] at h
    exact ⟨_, by rw [perform, attempt, if_pos hl]; rfl⟩
  | delete => exact absurd trivial h

theorem not_deed_of_mem_aim {a : Action} :
    ∀ call ∈ (a.aim host m).calls, call.isDeed = false := by
  cases a with
  | direct target text => exact List.forall_mem_singleton.mpr rfl
  | post target text =>
    rw [aim, roomOf]
    split
    · exact List.forall_mem_singleton.mpr rfl
    · split
      · exact List.forall_mem_nil _
      · exact List.forall_mem_singleton.mpr rfl
  | delete => exact List.forall_mem_nil _

theorem exists_of_map_eq {β : Type} {answer : Except Fault (Option α)} {f : α → β} {b : β}
    (h : answer.map (Option.map f) = .ok (some b)) : ∃ a, f a = b := by
  obtain fault | found := answer
  · cases h
  · obtain ⟨a, -, ha⟩ := Option.map_eq_some_iff.mp (Except.ok.inj h)
    exact ⟨a, ha⟩

theorem isDeed_of_aim {a : Action} {deed : HostCall}
    (h : (a.aim host m).result = .ok (some deed)) : deed.isDeed = true := by
  cases a with
  | direct target text =>
    obtain ⟨user, rfl⟩ := exists_of_map_eq h
    rfl
  | post target text =>
    obtain ⟨room, rfl⟩ := exists_of_map_eq h
    rfl
  | delete =>
    cases h
    rfl

structure Accounts (host : Host) (m : Message) (a : Action) (calls : List HostCall)
    (outcome : Outcome) : Prop where
  atMostOneDeed : (deedsIn calls).length ≤ 1
  lacking : ¬ a.IsFull → calls = []
  lookedUpFirst : a.IsFull → calls = (a.aim host m).calls ++ deedsIn calls
  deeds_eq_nil : (∀ deed, (a.aim host m).result ≠ .ok (some deed)) → deedsIn calls = []
  deeds_eq_singleton : a.IsFull → ∀ deed, (a.aim host m).result = .ok (some deed) →
    deedsIn calls = [deed]
  completed_iff : outcome = .completed ↔ ∃ deed, deedsIn calls = [deed] ∧ host.accepts deed = true
  skipped_iff : (∃ reason, outcome = .skipped reason) ↔
    ¬ a.IsFull ∨ (a.aim host m).result = .ok none
  failed_iff : (∃ reason, outcome = .failed reason) ↔
    a.IsFull ∧ ((∃ fault, (a.aim host m).result = .error fault) ∨
      ∃ deed, deedsIn calls = [deed] ∧ host.accepts deed = false)

theorem accounts_perform (hh : host.ReportsOwn) (a : Action) :
    a.Accounts host m (a.perform host m).1 (a.perform host m).2 := by
  by_cases hf : a.IsFull
  · have hn : ∀ call ∈ (a.aim host m).calls, call.isDeed = false := not_deed_of_mem_aim
    have hnil := deedsIn_of_lookups hn
    generalize hp : a.perform host m = performed
    have hc := hp ▸ follows_perform (m := m) hh hf
    cases hc with
    | lookupFailed h => constructor <;> simp [hf, h, hnil]
    | notFound h => constructor <;> simp [hf, h, hnil]
    | accepted h ha =>
      have hd := deedsIn_append_deed hn (isDeed_of_aim h)
      constructor <;> simp [hf, h, hd, ha]
    | refused h ha =>
      have hd := deedsIn_append_deed hn (isDeed_of_aim h)
      constructor <;> simp [hf, h, hd, ha]
  · obtain ⟨reason, hp⟩ : ∃ reason, a.perform host m = ([], .skipped reason) :=
      perform_of_not_full hf
    rw [hp]
    constructor <;> simp [hf, deedsIn]

theorem countP_deeds (hh : host.ReportsOwn) (a : Action) :
    (deedsIn (a.perform host m).1).countP host.accepts =
      if (a.perform host m).2 = .completed then 1 else 0 := by
  have ha := accounts_perform (m := m) hh a
  cases hd : deedsIn (a.perform host m).1 with
  | nil =>
    have hc : ¬ (a.perform host m).2 = .completed := by simp [ha.completed_iff, hd]
    rw [if_neg hc]
    rfl
  | cons deed rest =>
    have hle := ha.atMostOneDeed
    rw [hd, List.length_cons] at hle
    obtain rfl : rest = [] := List.length_eq_zero_iff.mp (by omega)
    have hc : (a.perform host m).2 = .completed ↔ host.accepts deed = true := by
      simp [ha.completed_iff, hd]
    rw [List.countP_singleton]
    exact if_congr hc.symm rfl rfl

end Action

namespace Rule
variable {host : Host} {m : Message}

theorem deedsIn_append (calls later : List HostCall) :
    deedsIn (calls ++ later) = deedsIn calls ++ deedsIn later :=
  List.filter_append ..

theorem countP_completed (hh : host.ReportsOwn) (actions : List Action) :
    (actions.map fun a => (a.perform host m).2).countP (· == .completed) =
      (deedsIn (actions.flatMap fun a => (a.perform host m).1)).countP host.accepts := by
  induction actions with
  | nil => rfl
  | cons a rest ih =>
    rw [List.map_cons, List.countP_cons, ih, List.flatMap_cons, deedsIn_append, List.countP_append,
      Action.countP_deeds hh, Nat.add_comm]
    simp only [beq_iff_eq]

/-- A rule that has actions runs them all, in order, and reports one outcome for each. Every action
answers for itself, and as many are completed as calls that do something in the chat are accepted. -/
theorem actions_answer_for_themselves (hh : host.ReportsOwn) (m : Message) {rule : Rule}
    (hr : rule.actions ≠ []) :
    (∃ report, rule.run host m = ⟨rule.actions.flatMap fun a => (a.perform host m).1, .ok report⟩ ∧
      report.ruleId = rule.id ∧
      report.outcomes = rule.actions.map (fun a => (a.perform host m).2) ∧
      report.outcomes.length = rule.actions.length ∧
      report.completed = (deedsIn (rule.run host m).calls).countP host.accepts) ∧
    ∀ a : Action, a.Accounts host m (a.perform host m).1 (a.perform host m).2 := by
  refine ⟨⟨rule.report host m, run_eq_report hr host m, rfl, rfl, rule.length_outcomes host m, ?_⟩,
    Action.accounts_perform hh⟩
  rw [calls_run, RuleReport.completed, ← List.countP_eq_length_filter]
  exact countP_completed hh rule.actions

theorem reportsOwn_crossHost : Dispatch.crossHost.ReportsOwn where
  post _ _ text fault h := by
    have hc : (if text = "boom" then .error (.host "text rejected")
        else .ok () : Except Fault Unit) = .error fault := h
    split at hc
    · exact ⟨_, (Except.error.inj hc).symm⟩
    · cases hc
  direct _ _ _ := nofun
  remove _ := nofun
  userByHandle _ _ h := ⟨_, (Except.error.inj h).symm⟩
  roomByName _ := nofun
  roomById _ := nofun

def fiveActions : Rule :=
  Dispatch.ruleOf "r1" Trigger.onMessage
    [.post Action.sameRoom "boom", .direct "@lead" "help", .post "#nowhere" "x", .direct "@lead" "",
      .delete]

theorem last_of_five_actions_completed :
    Dispatch.crossHost.ReportsOwn ∧ fiveActions.actions ≠ [] ∧
      ∃ report, (fiveActions.run Dispatch.crossHost Dispatch.go).result = .ok report ∧
        report.outcomes = [.failed "host error: text rejected", .failed "host error: user rejected",
          .skipped "target not found: #nowhere",
          .skipped "direct message needs target and text", .completed] ∧
        report.completed = 1 := by
  have hr : fiveActions.actions ≠ [] := List.cons_ne_nil _ _
  obtain ⟨⟨report, hrun, -, hout, -, hcompleted⟩, -⟩ :=
    actions_answer_for_themselves reportsOwn_crossHost Dispatch.go hr
  refine ⟨reportsOwn_crossHost, hr, report, by rw [hrun], ?_, ?_⟩
  · rw [hout]
    decide +kernel
  · have hcalls : (deedsIn (fiveActions.actions.flatMap fun a =>
        (a.perform Dispatch.crossHost Dispatch.go).1)).countP Dispatch.crossHost.accepts = 1 := by
      decide +kernel
    rw [hcompleted, hrun, hcalls]

end Rule

end ChatRules
