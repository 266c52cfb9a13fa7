import ChatRules.Proofs.Outages

namespace ChatRules

namespace StoreKind

def extend : (kind : StoreKind) → kind.State → List Rule → kind.State
  | .memory => fun m rules => (show Memory from m) ++ rules
  | .table => fun t rules => (show Table from t) ++ Table.ofRules rules

variable {kind : StoreKind}

theorem extend_nil (s : kind.State) : kind.extend s [] = s := by
  cases kind <;> exact List.append_nil _

theorem extend_append (s : kind.State) (rules later : List Rule) :
    kind.extend (kind.extend s rules) later = kind.extend s (rules ++ later) := by
  cases kind with
  | memory => exact List.append_assoc ..
  | table =>
    show (show Table from s) ++ Table.ofRules rules ++ Table.ofRules later = _ ++ Table.ofRules _
    rw [Table.ofRules, Table.ofRules, Table.ofRules, List.map_append, List.append_assoc]

theorem create_eq_extend {s : kind.State} {rule : Rule} (ha : rule.actions ≠ [])
    (h : (kind.backend (.create rule) s).1 = .ok ()) :
    (kind.backend (.create rule) s).2 = kind.extend s [rule] := by
  have ho := isOk_of_eq_ok h
  cases kind with
  | memory => exact congrArg Prod.snd (Memory.backend_create ha (Memory.of_isOk_create ha ho))
  | table => exact congrArg Prod.snd (Table.backend_append ha (Table.not_has_of_isOk_create ha ho))

end StoreKind

namespace Unsteady
variable {kind : StoreKind}

def taken (u : Unsteady kind.State) (rules : List Rule) : Unsteady kind.State :=
  ⟨fun n => u.plan (n + rules.length), kind.extend u.state rules⟩

theorem taken_nil (u : Unsteady kind.State) : u.taken [] = u := by
  rw [taken, StoreKind.extend_nil]
  rfl

theorem taken_cons (u : Unsteady kind.State) (rule : Rule) (rules : List Rule) :
    (u.taken [rule]).taken rules = u.taken (rule :: rules) := by
  simp only [taken, StoreKind.extend_append]
  rfl

theorem create_cases (u : Unsteady kind.State) {rule : Rule} (ha : rule.actions ≠ []) :
    (∃ fault, kind.backend.unsteady (.create rule) u = (.error fault, u.next u.state)) ∨
      kind.backend.unsteady (.create rule) u = (.ok (), u.taken [rule]) := by
  rcases StoreKind.unsteady_cases (.create rule) u with hf | ⟨_, ho, hu⟩
  · exact .inl hf
  · rw [StoreKind.create_eq_extend ha ho] at hu
    exact .inr hu

end Unsteady

namespace Step
variable {kind : StoreKind} {step : Step} {u : Unsteady kind.State} {stamp : Stamp}
  {author : String} {rule : Rule} {fault : Fault}

def tried (step : Step) (u : Unsteady kind.State) (stamp : Stamp) (author : String) :
    Except Fault Rule :=
  match step.rule stamp author with
  | .error fault => .error fault
  | .ok rule => (kind.backend.unsteady (.create rule) u).1.map fun _ => rule

theorem tried_eq_ok (h : step.tried u stamp author = .ok rule) :
    step.rule stamp author = .ok rule := by
  rw [tried] at h
  cases hr : step.rule stamp author with
  | error fault =>
    rw [hr] at h
    cases h
  | ok made =>
    simp only [hr] at h
    cases hc : (kind.backend.unsteady (.create made) u).1 with
    | error fault =>
      rw [hc] at h
      cases h
    | ok _ =>
      rw [hc] at h
      exact congrArg Except.ok (Except.ok.inj h)

end Step

namespace Command
variable {kind : StoreKind} {stamps : Nat → Stamp} {sender : User} {ids : List String} {step : Step}
  {u : Unsteady kind.State}

theorem run_of_tried_ok {rule : Rule} (rest : List Step)
    (h : step.tried u (stamps ids.length) sender.id = .ok rule) :
    (approveFrom stamps sender ids (step :: rest)).run kind.backend.unsteady u =
      (approveFrom stamps sender (rule.id :: ids) rest).run kind.backend.unsteady
        (u.taken [rule]) := by
  have hr := Step.tried_eq_ok h
  rw [Step.tried] at h
  simp only [hr] at h
  rw [approveFrom, hr, need, store, Script.run]
  rcases u.create_cases (Step.isNew_of_rule hr).actions with ⟨fault, hc⟩ | hc
  · rw [hc] at h
    cases h
  · rw [hc]
    rfl

theorem run_of_tried_error {fault : Fault} (rest : List Step)
    (h : step.tried u (stamps ids.length) sender.id = .error fault) :
    ∃ u', (approveFrom stamps sender ids (step :: rest)).run kind.backend.unsteady u =
      (.error fault, u') ∧ u'.state = u.state := by
  rw [Step.tried] at h
  rw [approveFrom]
  cases hr : step.rule (stamps ids.length) sender.id with
  | error cause =>
    simp only [hr] at h
    cases h
    exact ⟨u, rfl, rfl⟩
  | ok rule =>
    simp only [hr] at h
    rw [need, store, Script.run]
    rcases u.create_cases (Step.isNew_of_rule hr).actions with ⟨cause, hc⟩ | hc
    · rw [hc] at h ⊢
      cases h
      exact ⟨u.next u.state, rfl, rfl⟩
    · rw [hc] at h
      cases h

theorem approveFrom_stores (stamps : Nat → Stamp) (sender : User) (ids : List String)
    (steps : List Step) (u : Unsteady kind.State) :
    ∃ (rules : List Rule) (result : Except Fault Reply) (u' : Unsteady kind.State),
      (approveFrom stamps sender ids steps).run kind.backend.unsteady u = (result, u') ∧
      u'.state = kind.extend u.state rules ∧
      (∀ i (hi : i < rules.length), ∃ step, steps[i]? = some step ∧
        step.tried (u.taken (rules.take i)) (stamps (ids.length + i)) sender.id = .ok rules[i]) ∧
      (rules.length = steps.length ∧
          result = .ok (.say (approvedText (ids.reverse ++ rules.map Rule.id))) ∨
        ∃ step fault, steps[rules.length]? = some step ∧ result = .error fault ∧
          step.tried (u.taken rules) (stamps (ids.length + rules.length)) sender.id =
            .error fault) := by
  induction steps generalizing ids u with
  | nil =>
    refine ⟨[], _, u, rfl, (StoreKind.extend_nil _).symm, nofun, .inl ⟨rfl, ?_⟩⟩
    rw [List.map_nil, List.append_nil]
  | cons step rest ih =>
    cases ht : step.tried u (stamps ids.length) sender.id with
    | error fault =>
      obtain ⟨u', hrun, hstate⟩ := run_of_tried_error rest ht
      refine ⟨[], _, u', hrun, ?_, nofun, .inr ⟨step, fault, rfl, rfl, ?_⟩⟩
      · rw [hstate, StoreKind.extend_nil]
      · rw [Unsteady.taken_nil]
        exact ht
    | ok rule =>
      obtain ⟨rules, result, u', hrun, hstate, hrules, hend⟩ := ih (rule.id :: ids) (u.taken [rule])
      refine ⟨rule :: rules, result, u', ?_, ?_, ?_, ?_⟩
      · rw [run_of_tried_ok rest ht, hrun]
      · rw [hstate]
        exact StoreKind.extend_append _ [rule] rules
      · rintro (_ | i) hi
        · refine ⟨step, rfl, ?_⟩
          rw [List.take_zero, Unsteady.taken_nil]
          exact ht
        · obtain ⟨next, hn, hnext⟩ := hrules i (Nat.lt_of_succ_lt_succ hi)
          refine ⟨next, hn, ?_⟩
          rw [Unsteady.taken_cons, List.length_cons, Nat.add_right_comm] at hnext
          exact hnext
      · rw [Unsteady.taken_cons, List.length_cons, Nat.add_right_comm] at hend
        rcases hend with ⟨hlen, hresult⟩ | ⟨next, fault, hn, hresult, hnext⟩
        · refine .inl ⟨by rw [List.length_cons, List.length_cons, hlen], ?_⟩
          rw [hresult, List.reverse_cons, List.append_assoc]
          rfl
        · exact .inr ⟨next, fault, hn, hresult, hnext⟩

/-- An approval stores the rules of the steps in front of the first that makes no rule or is
refused, in order, and nothing else, and hands on what stopped it; where nothing does, it tells the
ids of all rules in order. -/
theorem approval_stores_prefix (kind : StoreKind) (u : Unsteady kind.State)
    (stamps : Nat → Stamp) (sender : User) (steps : List Step) :
    ∃ (rules : List Rule) (result : Except Fault Reply) (u' : Unsteady kind.State),
      (approve stamps sender steps).run kind.backend.unsteady u = (result, u') ∧
      u'.state = kind.extend u.state rules ∧
      (∀ i (hi : i < rules.length), ∃ step action, steps[i]? = some step ∧
        step.tried (u.taken (rules.take i)) (stamps i) sender.id = .ok rules[i] ∧
        step.response.action = .ok action ∧
        rules[i] = ⟨(stamps i).id, none, sender.id, (stamps i).time, true, step.cue.trigger,
          [action]⟩) ∧
      (rules.length = steps.length ∧
          result = .ok ⟨"Created " ++ toString rules.length ++ " workflow(s) successfully!" ++
            String.join (rules.map fun rule => "\n  " ++ rule.id), none⟩ ∨
        ∃ step fault, steps[rules.length]? = some step ∧ result = .error fault ∧
          step.tried (u.taken rules) (stamps rules.length) sender.id = .error fault) := by
  obtain ⟨rules, result, u', hrun, hstate, hrules, hend⟩ :=
    approveFrom_stores stamps sender [] steps u
  simp only [List.length_nil, Nat.zero_add] at hrules hend
  refine ⟨rules, result, u', hrun, hstate, ?_, ?_⟩
  · intro i hi
    obtain ⟨step, hs, ht⟩ := hrules i hi
    obtain ⟨action, ha, hrule⟩ := Step.rule_eq_ok (Step.tried_eq_ok ht)
    exact ⟨step, action, hs, ht, ha, hrule⟩
  · refine hend.imp (fun h => ⟨h.1, ?_⟩) id
    rw [h.2, Reply.say, approvedText, List.reverse_nil, List.nil_append, List.length_map,
      List.map_map]
    rfl

end Command

end ChatRules
