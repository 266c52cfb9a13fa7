import ChatRules.Dispatch

namespace ChatRules

namespace Work
variable {α β : Type}

theorem forall_calls_bind {P : HostCall → Prop} {w : Work α} {f : α → Work β}
    (hw : ∀ call ∈ w.calls, P call) (hf : ∀ a, ∀ call ∈ (f a).calls, P call) :
    ∀ call ∈ (w >>= f).calls, P call := by
  obtain ⟨calls, result⟩ := w
  cases result with
  | error fault => exact hw
  | ok a => exact List.forall_mem_append.mpr ⟨hw, hf a⟩

end Work

namespace HostCall

inductive IsOn (m : Message) : HostCall → Prop
  | post (room : Room) (text : String) : IsOn m (.post room m.sender text)
  | direct (recipient : User) (text : String) : IsOn m (.direct m.sender recipient text)
  | remove : IsOn m (.remove m)
  | userByHandle (handle : String) : IsOn m (.userByHandle handle)
  | roomByName (name : String) : IsOn m (.roomByName name)
  | roomById (id : String) : IsOn m (.roomById id)

end HostCall

namespace Action
variable (host : Host) (m : Message)

theorem isOn_roomOf (target : String) :
    ∀ call ∈ (roomOf host m target).calls, call.IsOn m := by
  rw [roomOf]
  split
  · exact List.forall_mem_singleton.mpr (.roomByName _)
  · split
    · exact List.forall_mem_nil _
    · exact List.forall_mem_singleton.mpr (.roomById _)

theorem isOn_found {α : Type} (target : String) (a : Option α) :
    ∀ call ∈ (found target a).calls, call.IsOn m := by
  cases a <;> exact List.forall_mem_nil _

theorem isOn_attempt (a : Action) : ∀ call ∈ (a.attempt host m).calls, call.IsOn m := by
  cases a with
  | direct target text =>
    rw [attempt]
    split
    · exact List.forall_mem_nil _
    · refine Work.forall_calls_bind (List.forall_mem_singleton.mpr (.userByHandle _)) ?_
      intro user
      refine Work.forall_calls_bind (isOn_found m target user) fun user => ?_
      exact Work.forall_calls_bind (List.forall_mem_singleton.mpr (.direct _ _))
        fun _ => List.forall_mem_nil _
  | post target text =>
    rw [attempt]
    split
    · exact List.forall_mem_nil _
    · refine Work.forall_calls_bind (isOn_roomOf host m target) fun room => ?_
      refine Work.forall_calls_bind (isOn_found m target room) fun room => ?_
      exact Work.forall_calls_bind (List.forall_mem_singleton.mpr (.post _ _))
        fun _ => List.forall_mem_nil _
  | delete =>
    exact Work.forall_calls_bind (List.forall_mem_singleton.mpr .remove)
      fun _ => List.forall_mem_nil _

end Action

namespace Rule

def calls (host : Host) (message : Message) (rule : Rule) : List HostCall :=
  rule.actions.flatMap fun a => (a.perform host message).1

def report (host : Host) (message : Message) (rule : Rule) : RuleReport :=
  ⟨rule.id, rule.actions.map fun a => (a.perform host message).2⟩

def acts (rule : Rule) : Bool :=
  !rule.actions.isEmpty

def failure (rule : Rule) : RuleFailure :=
  ⟨rule.id, (Fault.emptyRule rule.id).message⟩

variable (host : Host) (message : Message)

theorem run_eq_report {rule : Rule} (h : rule.actions ≠ []) (host : Host) (message : Message) :
    rule.run host message = ⟨rule.calls host message, .ok (rule.report host message)⟩ := by
  simp only [run, if_neg h, calls, report, List.flatMap_map, List.map_map]
  rfl

theorem run_eq_fail {rule : Rule} (h : rule.actions = []) (host : Host) (message : Message) :
    rule.run host message = ⟨rule.calls host message, .error (.emptyRule rule.id)⟩ := by
  simp only [run, if_pos h, Work.fail]
  rw [calls, h, List.flatMap_nil]

theorem calls_run (rule : Rule) : (rule.run host message).calls = rule.calls host message := by
  by_cases h : rule.actions = []
  · rw [run_eq_fail h]
  · rw [run_eq_report h]

theorem length_outcomes (rule : Rule) :
    (rule.report host message).outcomes.length = rule.actions.length :=
  List.length_map _

theorem isOn_calls (rule : Rule) :
    ∀ call ∈ rule.calls host message, call.IsOn message := by
  intro call h
  obtain ⟨a, _, hc⟩ := List.mem_flatMap.mp h
  exact a.isOn_attempt host message call hc

theorem run_congr_appUser (rule : Rule) (answer : Except Fault (Option User)) :
    rule.run { host with appUser := answer } message = rule.run host message := by
  have ha : Action.perform { host with appUser := answer } message =
      Action.perform host message := by
    funext a
    cases a <;> rfl
  simp only [run, ha]

end Rule

namespace Dispatch

def due (message : Message) (rules : List Rule) : List Rule :=
  rules.filter fun rule =>
    rule.enabled && rule.trigger.kind == .message && rule.trigger.fires message

def beside (d e : Dispatch) : Dispatch :=
  { d with
    considered := d.considered + e.considered
    matched := d.matched ++ e.matched
    executed := d.executed ++ e.executed
    failed := d.failed ++ e.failed }

def callsOf (host : Host) (message : Message) (rules : List Rule) : List HostCall :=
  (due message rules).flatMap (Rule.calls host message)

def ofRules (host : Host) (message : Message) (rules : List Rule) : Dispatch where
  eventId := message.id
  ignoredSelf := false
  considered := (rules.filter isTried).length
  matched := (due message rules).map Rule.id
  executed := ((due message rules).filter Rule.acts).map (Rule.report host message)
  failed := ((due message rules).filter fun rule => !rule.acts).map Rule.failure

variable (host : Host) (message : Message)

theorem beside_assoc (d e f : Dispatch) : (d.beside e).beside f = d.beside (e.beside f) := by
  simp only [beside, Nat.add_assoc, List.append_assoc]

theorem due_append (rules later : List Rule) :
    due message (rules ++ later) = due message rules ++ due message later :=
  List.filter_append ..

theorem callsOf_append (rules later : List Rule) :
    callsOf host message (rules ++ later) =
      callsOf host message rules ++ callsOf host message later := by
  rw [callsOf, due_append, List.flatMap_append]
  rfl

theorem ofRules_append (rules later : List Rule) :
    ofRules host message (rules ++ later) =
      (ofRules host message rules).beside (ofRules host message later) := by
  simp only [ofRules, beside, due_append, List.filter_append, List.map_append, List.length_append]

theorem due_eq_singleton {rule : Rule} (ht : isTried rule = true)
    (hf : rule.trigger.fires message = true) : due message [rule] = [rule] :=
  List.filter_cons_of_pos (Bool.and_eq_true_iff.mpr ⟨ht, hf⟩)

theorem due_eq_nil {rule : Rule} (h : ¬ (isTried rule = true ∧ rule.trigger.fires message = true)) :
    due message [rule] = [] :=
  List.filter_cons_of_neg fun hp => h (Bool.and_eq_true_iff.mp hp)

theorem beside_ofRules_of_not_tried (d : Dispatch) {rule : Rule} (ht : ¬ isTried rule = true) :
    d.beside (ofRules host message [rule]) = d := by
  have hd : due message [rule] = [] := due_eq_nil message fun h => ht h.1
  simp [beside, ofRules, hd, ht]

theorem beside_ofRules_of_not_fires (d : Dispatch) {rule : Rule} (ht : isTried rule = true)
    (hf : ¬ rule.trigger.fires message = true) :
    d.beside (ofRules host message [rule]) = { d with considered := d.considered + 1 } := by
  have hd : due message [rule] = [] := due_eq_nil message fun h => hf h.2
  simp [beside, ofRules, hd, ht]

theorem beside_ofRules_of_fires (d : Dispatch) {rule : Rule} (ht : isTried rule = true)
    (hf : rule.trigger.fires message = true) :
    d.beside (ofRules host message [rule]) =
      { d with considered := d.considered + 1 }.note rule (rule.run host message).result := by
  have hd : due message [rule] = [rule] := due_eq_singleton message ht hf
  by_cases ha : rule.actions = []
  · have hn : rule.acts = false := by simp [Rule.acts, ha]
    simp [beside, ofRules, hd, ht, hn, Rule.run_eq_fail ha, note, Rule.failure]
  · have hn : rule.acts = true := by simp [Rule.acts, ha]
    simp [beside, ofRules, hd, ht, hn, Rule.run_eq_report ha, note]

theorem runRules_eq_ofRules (d : Dispatch) (rules : List Rule) :
    runRules host message d rules =
      (callsOf host message rules, d.beside (ofRules host message rules)) := by
  induction rules generalizing d with
  | nil => simp [runRules, callsOf, due, beside, ofRules]
  | cons rule rest ih =>
    have hs : d.beside (ofRules host message (rule :: rest)) =
        (d.beside (ofRules host message [rule])).beside (ofRules host message rest) := by
      rw [beside_assoc, ← ofRules_append, List.singleton_append]
    have hc : callsOf host message (rule :: rest) =
        callsOf host message [rule] ++ callsOf host message rest :=
      callsOf_append host message [rule] rest
    rw [runRules, hs, hc]
    by_cases ht : isTried rule = true
    · by_cases hf : rule.trigger.fires message = true
      · have hr : callsOf host message [rule] = rule.calls host message := by
          rw [callsOf, due_eq_singleton message ht hf, List.flatMap_singleton]
        rw [if_pos ht, beside_ofRules_of_fires host message d ht hf, hr]
        simp only [if_pos hf, ih, Rule.calls_run]
      · have hr : callsOf host message [rule] = [] := by
          rw [callsOf, due_eq_nil message fun h => hf h.2, List.flatMap_nil]
        rw [if_pos ht, beside_ofRules_of_not_fires host message d ht hf, hr, List.nil_append]
        simp only [if_neg hf, ih]
    · have hr : callsOf host message [rule] = [] := by
        rw [callsOf, due_eq_nil message fun h => ht h.1, List.flatMap_nil]
      rw [if_neg ht, beside_ofRules_of_not_tried host message d ht, hr, List.nil_append, ih]

theorem run_eq_ofRules (ho : isOwn host message = false) (rules : List Rule) :
    run host (.ok rules) message =
      ⟨.appUser :: callsOf host message rules, .ok (ofRules host message rules)⟩ := by
  have hs :
      (start message.id).beside (ofRules host message rules) = ofRules host message rules := by
    simp [beside, start, ofRules]
  rw [run, ho, if_neg Bool.false_ne_true]
  simp only [runRules_eq_ofRules, hs]

theorem appUser_not_mem_callsOf (rules : List Rule) :
    .appUser ∉ callsOf host message rules := by
  intro h
  obtain ⟨rule, _, hc⟩ := List.mem_flatMap.mp h
  cases rule.isOn_calls host message _ hc

theorem length_executed_add_failed (rules : List Rule) :
    (ofRules host message rules).executed.length + (ofRules host message rules).failed.length =
      (ofRules host message rules).matched.length := by
  simp only [ofRules, List.length_map]
  rw [← List.countP_eq_length_filter, ← List.countP_eq_length_filter,
    List.length_eq_countP_add_countP Rule.acts]
  simp

theorem of_mem_executed {rules : List Rule} {report : RuleReport}
    (h : report ∈ (ofRules host message rules).executed) :
    ∃ rule ∈ due message rules, rule.actions ≠ [] ∧ report.ruleId = rule.id ∧
      report.outcomes.length = rule.actions.length := by
  obtain ⟨rule, hr, rfl⟩ := List.mem_map.mp h
  obtain ⟨hd, ha⟩ := List.mem_filter.mp hr
  have hn : rule.actions ≠ [] := by simpa [Rule.acts] using ha
  exact ⟨rule, hd, hn, rfl, rule.length_outcomes host message⟩

theorem result_eq_error_iff (loaded : Except Fault (List Rule)) (fault : Fault) :
    (run host loaded message).result = .error fault ↔
      isOwn host message = false ∧ loaded = .error fault := by
  rw [run.eq_def]
  cases ho : isOwn host message with
  | true => simp
  | false => cases loaded <;> simp

theorem calls_of_nothing_loaded {loaded : Except Fault (List Rule)}
    (h : isOwn host message = true ∨ Host.isOk loaded = false) :
    (run host loaded message).calls = [.appUser] := by
  rw [run.eq_def]
  cases ho : isOwn host message with
  | true => rfl
  | false =>
    cases loaded with
    | error fault => rfl
    | ok rules => simp [ho, Host.isOk] at h

theorem runRules_congr_appUser (answer : Except Fault (Option User)) (d : Dispatch)
    (rules : List Rule) :
    runRules { host with appUser := answer } message d rules = runRules host message d rules := by
  induction rules generalizing d with
  | nil => rfl
  | cons rule rest ih => simp only [runRules, ih, Rule.run_congr_appUser]

theorem run_of_lookup_fails {fault : Fault} (h : host.appUser = .error fault)
    (loaded : Except Fault (List Rule)) :
    run host loaded message = run { host with appUser := .ok none } loaded message := by
  have ho : isOwn host message = false := by rw [isOwn, h]
  have hn : isOwn { host with appUser := .ok none } message = false := rfl
  rw [run.eq_def, run.eq_def, ho, hn]
  cases loaded with
  | error fault => rfl
  | ok rules => simp only [runRules_congr_appUser]

/-- No rule adds, takes away or moves anything of another, and a dispatch fails only where no rules
were loaded. -/
theorem rules_run_side_by_side (host : Host) (message : Message) :
    (isOwn host message = false → ∀ rules later : List Rule,
      run host (.ok rules) message =
        ⟨.appUser :: callsOf host message rules, .ok (ofRules host message rules)⟩ ∧
      run host (.ok (rules ++ later)) message =
        ⟨.appUser :: (callsOf host message rules ++ callsOf host message later),
          .ok ((ofRules host message rules).beside (ofRules host message later))⟩ ∧
      .appUser ∉ callsOf host message rules ∧
      (ofRules host message rules).executed.length + (ofRules host message rules).failed.length =
        (ofRules host message rules).matched.length ∧
      ∀ report ∈ (ofRules host message rules).executed, ∃ rule ∈ due message rules,
        rule.actions ≠ [] ∧ report.ruleId = rule.id ∧
          report.outcomes.length = rule.actions.length) ∧
    (∀ loaded fault, (run host loaded message).result = .error fault ↔
      isOwn host message = false ∧ loaded = .error fault) ∧
    (∀ loaded, isOwn host message = true ∨ Host.isOk loaded = false →
      (run host loaded message).calls = [.appUser]) ∧
    ∀ fault, host.appUser = .error fault → ∀ loaded,
      run host loaded message = run { host with appUser := .ok none } loaded message := by
  refine ⟨?_, result_eq_error_iff host message, ?_, ?_⟩
  · intro ho rules later
    refine ⟨run_eq_ofRules host message ho rules, ?_, appUser_not_mem_callsOf host message rules,
      length_executed_add_failed host message rules, ?_⟩
    · rw [run_eq_ofRules host message ho, callsOf_append, ofRules_append]
    · intro report hr
      exact of_mem_executed host message hr
  · intro loaded h
    exact calls_of_nothing_loaded host message h
  · intro fault h loaded
    exact run_of_lookup_fails host message h loaded

def crossHost : Host where
  post _ _ text := if text = "boom" then .error (.host "text rejected") else .ok ()
  direct _ _ _ := .ok ()
  remove _ := .ok ()
  userByHandle _ := .error (.host "user rejected")
  roomByName _ := .ok none
  roomById _ := .ok none
  appUser := .error (.host "app_user rejected")

def go : Message :=
  ⟨"m1", "Go!", ⟨"U1", "john"⟩, ⟨"R1", "support"⟩⟩

def ruleOf (id : String) (trigger : Trigger) (actions : List Action) : Rule :=
  ⟨id, none, "author", (Instant.ofMillis? 1).get rfl, true, trigger, actions⟩

def troubledRules : List Rule :=
  [ruleOf "r1" { Trigger.onMessage with regex := some "[" } [.delete],
    ruleOf "r2" { Trigger.onMessage with contains := some "go" } [],
    ruleOf "r3" { Trigger.onMessage with contains := some "go" }
      [.post Action.sameRoom "boom", .direct "@lead" "help"]]

def healthyRules : List Rule :=
  [ruleOf "r4" { Trigger.onMessage with room := some "#support" } [.post Action.sameRoom "fine"]]

theorem troubled_and_healthy_run_side_by_side :
    isOwn crossHost go = false ∧
      run crossHost (.ok (troubledRules ++ healthyRules)) go =
        ⟨[.appUser, .post go.room go.sender "boom", .userByHandle "lead",
            .post go.room go.sender "fine"],
          .ok ⟨"m1", false, 4, ["r2", "r3", "r4"],
            [⟨"r3", [.failed "host error: text rejected", .failed "host error: user rejected"]⟩,
              ⟨"r4", [.completed]⟩],
            [⟨"r2", "invalid rule state for r2: rule has no actions"⟩]⟩⟩ ∧
      (run crossHost (.error (.store "disk on fire")) go).calls = [.appUser] ∧
      run crossHost (.ok healthyRules) go =
        run { crossHost with appUser := .ok none } (.ok healthyRules) go := by
  have ho : isOwn crossHost go = false := by decide
  have hf : crossHost.appUser = .error (.host "app_user rejected") := rfl
  obtain ⟨hapart, -, hcalls, hlookup⟩ := rules_run_side_by_side crossHost go
  refine ⟨ho, ?_, hcalls _ (.inr rfl), hlookup _ hf _⟩
  obtain ⟨-, hboth, -⟩ := hapart ho troubledRules healthyRules
  rw [hboth]
  have hc : callsOf crossHost go troubledRules =
      [.post go.room go.sender "boom", .userByHandle "lead"] := by
    decide +kernel
  have hh : callsOf crossHost go healthyRules = [.post go.room go.sender "fine"] := by
    decide +kernel
  have hd : (ofRules crossHost go troubledRules).beside (ofRules crossHost go healthyRules) =
      ⟨"m1", false, 4, ["r2", "r3", "r4"],
        [⟨"r3", [.failed "host error: text rejected", .failed "host error: user rejected"]⟩,
          ⟨"r4", [.completed]⟩],
        [⟨"r2", "invalid rule state for r2: rule has no actions"⟩]⟩ := by
    decide +kernel
  rw [hc, hh, hd]
  rfl

end Dispatch

end ChatRules
