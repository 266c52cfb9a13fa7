import ChatRules.Proofs.Isolation
import ChatRules.Proofs.Standing

namespace ChatRules

namespace Dispatch

def served (host : Host) (message : Message) (rules : List Rule) : Work Dispatch where
  calls := .appUser :: (due message rules).flatMap (Rule.calls host message)
  result := .ok
    { eventId := message.id
      ignoredSelf := false
      considered := (rules.filter isTried).length
      matched := (due message rules).map Rule.id
      executed := (due message rules).map (Rule.report host message)
      failed := [] }

theorem run_eq_served {host : Host} {message : Message} {rules : List Rule}
    (ho : isOwn host message = false) (h : ∀ rule ∈ rules, rule.actions ≠ []) :
    run host (.ok rules) message = served host message rules := by
  have ha : ∀ rule ∈ due message rules, rule.acts = true := by
    intro rule hr
    simpa [Rule.acts] using h rule (List.mem_of_mem_filter hr)
  have he : (due message rules).filter Rule.acts = due message rules :=
    List.filter_eq_self.mpr ha
  have hf : (due message rules).filter (fun rule => !rule.acts) = [] :=
    List.filter_eq_nil_iff.mpr fun rule hr => by simp [ha rule hr]
  rw [run_eq_ofRules host message ho]
  simp only [ofRules, he, hf, List.map_nil]
  rfl

end Dispatch

theorem actions_of_mem_standing {deeds : List Deed} (h : ∀ deed ∈ deeds, deed.IsSound)
    {rule : Rule} (hr : rule ∈ standing deeds) : rule.actions ≠ [] := by
  induction deeds with
  | nil => cases hr
  | cons deed later ih =>
    obtain ⟨hd, hl⟩ := List.forall_mem_cons.mp h
    cases deed with
    | created first =>
      rw [standing] at hr
      split at hr
      · exact ih hl hr
      · rcases List.mem_cons.mp hr with rfl | hr
        · exact hd.actions
        · exact ih hl hr
    | deleted id => exact ih hl hr
    | switched id enabled => exact ih hl hr

namespace Session

theorem stateAfter_memory {moves : List Move} {m : Memory} (hn : (m.map Rule.id).Nodup)
    (h : succeeds Memory.backend moves m = true) :
    stateAfter Memory.backend moves m = (deeds moves).foldl Deed.apply m := by
  induction moves generalizing m with
  | nil => rfl
  | cons move rest ih =>
    rw [succeeds, Bool.and_eq_true] at h
    obtain ⟨hs, hd⟩ := move.means.does m hn h.1
    rw [stateAfter, List.foldl_cons, deeds, List.flatMap_cons, List.foldl_append, ← hs]
    exact ih hd h.2

theorem stateAfter_memory_eq_standing {moves : List Move}
    (h : succeeds Memory.backend moves [] = true) :
    stateAfter Memory.backend moves [] = standing (deeds moves) := by
  rw [standing_eq_foldl (isSound_deeds moves)]
  exact stateAfter_memory (m := []) List.nodup_nil h

theorem told_eq_memory {kind : StoreKind} {moves : List Move}
    (h : succeeds kind.backend moves kind.empty = true) :
    succeeds Memory.backend moves [] = true ∧
      (trace kind.backend moves kind.empty).map Prod.fst =
        (trace Memory.backend moves []).map Prod.fst := by
  cases kind with
  | memory => exact ⟨h, rfl⟩
  | table =>
    obtain ⟨hs, ht⟩ := trace_ofRules (m := []) List.nodup_nil h
    refine ⟨hs, (congrArg (List.map Prod.fst) ht).trans ?_⟩
    rw [List.map_map]
    rfl

theorem stateAfter_event (kind : StoreKind) (before : List Move) (host : Host)
    (message : Message) (s : kind.State) :
    stateAfter kind.backend (before ++ [.event host message]) s =
      stateAfter kind.backend before s := by
  rw [stateAfter, List.foldl_append, List.foldl_cons, List.foldl_nil, Move.script,
    Dispatch.script_eq]
  split
  · rfl
  · cases kind <;> rfl

/-- A message is answered by the rules that stand when it comes, in the order of their creation, and
leaves the rules as they are. -/
theorem event_runs_standing_rules (kind : StoreKind) (before later : List Move) (host : Host)
    (message : Message) (ho : Dispatch.isOwn host message = false)
    (h : succeeds kind.backend (before ++ .event host message :: later) kind.empty = true) :
    ((trace kind.backend (before ++ .event host message :: later) kind.empty).map
        Prod.fst)[before.length]? =
      some (.dispatch (Dispatch.served host message (standing (deeds before)))) ∧
    ∀ (host' : Host) (message' : Message),
      stateAfter kind.backend (before ++ [.event host' message']) kind.empty =
        stateAfter kind.backend before kind.empty := by
  refine ⟨?_, fun host' message' => stateAfter_event kind before host' message' kind.empty⟩
  -- The table answers as the list does, so only the list is followed from here on.
  obtain ⟨hs, ht⟩ := told_eq_memory h
  rw [succeeds_append, Bool.and_eq_true] at hs
  have hm := stateAfter_memory_eq_standing hs.1
  have ha : ∀ rule ∈ standing (deeds before), rule.actions ≠ [] :=
    fun _ hr => actions_of_mem_standing (isSound_deeds before) hr
  rw [ht, List.getElem?_map, getElem_trace, hm, Move.script, Dispatch.script_eq, ho,
    if_neg Bool.false_ne_true]
  exact congrArg (fun work => some (Told.dispatch work)) (Dispatch.run_eq_served ho ha)

theorem event_runs_the_rule_left_on :
    succeeds StoreKind.table.backend (twoRules ++ .event willingHost ping :: []) [] = true ∧
      ((trace StoreKind.table.backend (twoRules ++ .event willingHost ping :: [])
          StoreKind.table.empty).map Prod.fst)[3]? =
        some (.dispatch
          ⟨[.appUser, .post ping.room ping.sender "pong"],
            .ok ⟨"m1", false, 1, ["r2"], [⟨"r2", [.completed]⟩], []⟩⟩) := by
  have ho : Dispatch.isOwn willingHost ping = false := by decide
  have hs : succeeds StoreKind.table.backend (twoRules ++ .event willingHost ping :: [])
      StoreKind.table.empty = true := by
    decide +kernel
  refine ⟨hs, ?_⟩
  have h := (event_runs_standing_rules .table twoRules [] willingHost ping ho hs).1
  have hd : Dispatch.due ping (standing (deeds twoRules)) =
      [⟨"r2", none, "U9", epoch, true, { Trigger.onMessage with contains := some "ping" },
        [.post Action.sameRoom "pong"]⟩] := by
    decide +kernel
  have hc : ((standing (deeds twoRules)).filter Dispatch.isTried).length = 1 := by
    decide +kernel
  simp only [Dispatch.served, hd, hc] at h
  exact h

end Session

end ChatRules
