import ChatRules.Proofs.WireForm
import ChatRules.Store.File
import Mathlib.Data.List.Nodup

namespace ChatRules

namespace Instant

/-- The leap second after the last second there is. -/
def isBeyond (t : Instant) : Bool :=
  t.seconds = lastSecond && 1000000000 ≤ t.nanos

def rounded (t : Instant) : Instant :=
  (ofMillis? t.millis).getD t

theorem millis_ediv (t : Instant) :
    t.millis / 1000 = t.seconds + (t.nanos / 1000000000 : Nat) := by
  simp only [millis]
  omega

theorem ofMillis_isSome_iff (ms : Int) :
    (ofMillis? ms).isSome ↔ firstSecond ≤ ms / 1000 ∧ ms / 1000 ≤ lastSecond := by
  have hn : (ms % 1000).toNat * 1000000 < 2000000000 := by omega
  rw [ofMillis?, of?]
  split_ifs with h
  · exact iff_of_true rfl ⟨h.1, h.2.1⟩
  · exact iff_of_false (by simp) fun hr => h ⟨hr.1, hr.2, hn⟩

theorem ofMillis_eq_none_iff (t : Instant) : ofMillis? t.millis = none ↔ t.isBeyond = true := by
  have h1 := t.first_le
  have h2 := t.le_last
  have h3 := t.nanos_lt
  rw [← Option.not_isSome_iff_eq_none, ofMillis_isSome_iff, millis_ediv, isBeyond,
    Bool.and_eq_true, decide_eq_true_eq, decide_eq_true_eq]
  omega

theorem millis_of_ofMillis {ms : Int} {t : Instant} (h : ofMillis? ms = some t) :
    t.millis = ms := by
  rw [ofMillis?, of?] at h
  split_ifs at h with hr
  cases h
  simp only [millis]
  omega

@[simp]
theorem millis_rounded (t : Instant) : t.rounded.millis = t.millis := by
  rw [rounded]
  cases h : ofMillis? t.millis with
  | none => rfl
  | some u => exact millis_of_ofMillis h

@[simp]
theorem rounded_rounded (t : Instant) : t.rounded.rounded = t.rounded := by
  rw [rounded, millis_rounded]
  cases h : ofMillis? t.millis with
  | none => rfl
  | some u => simp [rounded, h]

theorem ofMillis_millis {t : Instant} (h : t.isBeyond = false) :
    ofMillis? t.millis = some t.rounded := by
  cases hm : ofMillis? t.millis with
  | none =>
    rw [(ofMillis_eq_none_iff t).mp hm] at h
    cases h
  | some u => rw [rounded, hm]; rfl

end Instant

namespace Rule

def rounded (r : Rule) : Rule :=
  { r with createdAt := r.createdAt.rounded }

def isBeyond (r : Rule) : Bool :=
  r.createdAt.isBeyond

def revisedBy (old new : Rule) : Rule :=
  { old with
    name := new.name
    enabled := new.enabled
    trigger := new.trigger
    actions := new.actions }

def reread (r : Rule) : Except TableFault Rule :=
  if r.isBeyond then .error (.badTime r.id r.createdAt.millis) else .ok r.rounded

theorem reread_of_beyond {r : Rule} (h : r.isBeyond = true) :
    r.reread = .error (.badTime r.id r.createdAt.millis) := by
  rw [reread, if_pos h]

theorem reread_of_not_beyond {r : Rule} (h : r.isBeyond = false) : r.reread = .ok r.rounded := by
  rw [reread, h, if_neg Bool.false_ne_true]

theorem mapM_reread {rules : List Rule} (h : rules.any isBeyond = false) :
    rules.mapM reread = .ok (rules.map rounded) := by
  induction rules with
  | nil => rfl
  | cons rule rules ih =>
    rw [List.any_cons, Bool.or_eq_false_iff] at h
    rw [List.mapM_cons, reread_of_not_beyond h.1, ih h.2]
    rfl

theorem mapM_reread_beyond {rules : List Rule} (h : rules.any isBeyond = true) :
    ∃ fault, rules.mapM reread = .error fault := by
  induction rules with
  | nil => cases h
  | cons rule rules ih =>
    rw [List.mapM_cons]
    cases hb : rule.isBeyond with
    | true =>
      rw [reread_of_beyond hb]
      exact ⟨_, rfl⟩
    | false =>
      rw [List.any_cons, hb, Bool.false_or] at h
      obtain ⟨fault, hf⟩ := ih h
      rw [reread_of_not_beyond hb, hf]
      exact ⟨fault, rfl⟩

end Rule

namespace Row

theorem trigger_ofRule (r : Rule) : (ofRule r).trigger? = some r.trigger := by
  rw [trigger?, ofRule, Json.read_printed r.trigger.spelled_toJson, Option.bind_some,
    Trigger.ofJson_toJson]

theorem actions_ofRule (r : Rule) : (ofRule r).actions? = some r.actions := by
  rw [actions?, ofRule, Json.read_printed (Action.spelled_listToJson r.actions),
    Option.bind_some, Action.listOfJson_listToJson (by decide)]

theorem rule_ofRule (r : Rule) : (ofRule r).rule = r.reread := by
  rw [rule, trigger_ofRule, actions_ofRule, Rule.reread, Rule.isBeyond]
  cases hb : r.createdAt.isBeyond with
  | true =>
    have hm := (Instant.ofMillis_eq_none_iff r.createdAt).mpr hb
    simp only [ofRule, hm]
    rfl
  | false =>
    have hm := Instant.ofMillis_millis hb
    simp only [ofRule, hm]
    rfl

theorem ofRule_rounded (r : Rule) : ofRule r.rounded = ofRule r := by
  simp [ofRule, Rule.rounded]

end Row

def changeRule (id : String) (f : Rule → Rule) (rules : List Rule) : List Rule :=
  rules.map fun r => if r.id = id then f r else r

theorem changeRule_cons (id : String) (f : Rule → Rule) (rule : Rule) (rules : List Rule) :
    changeRule id f (rule :: rules) =
      (if rule.id = id then f rule else rule) :: changeRule id f rules :=
  rfl

theorem ids_changeRule {id : String} {f : Rule → Rule} (hf : ∀ r, (f r).id = r.id)
    (rules : List Rule) : (changeRule id f rules).map Rule.id = rules.map Rule.id := by
  rw [changeRule, List.map_map]
  refine List.map_congr_left fun r _ => ?_
  rw [Function.comp_apply]
  split
  · exact hf r
  · rfl

theorem changeRule_congr {id : String} {f g : Rule → Rule} {rules : List Rule}
    (h : ∀ r ∈ rules, r.id = id → f r = g r) : changeRule id f rules = changeRule id g rules := by
  refine List.map_congr_left fun r hr => ?_
  split
  · exact h r hr ‹_›
  · rfl

theorem changeRule_of_not_mem {id : String} {f : Rule → Rule} {rules : List Rule}
    (h : id ∉ rules.map Rule.id) : changeRule id f rules = rules := by
  have hr : ∀ rule ∈ rules, (if rule.id = id then f rule else rule) = rule := by
    intro rule hm
    refine if_neg fun hid : rule.id = id => h ?_
    rw [← hid]
    exact List.mem_map_of_mem hm
  exact (List.map_congr_left hr).trans (List.map_id' rules)

def switchRule (id : String) (enabled : Bool) (rules : List Rule) : List Rule :=
  changeRule id (fun rule => { rule with enabled := enabled }) rules

theorem switchRule_cons (id : String) (enabled : Bool) (rule : Rule) (rules : List Rule) :
    switchRule id enabled (rule :: rules) =
      (if rule.id = id then { rule with enabled := enabled } else rule) ::
        switchRule id enabled rules :=
  rfl

theorem ids_switchRule (id : String) (enabled : Bool) (rules : List Rule) :
    (switchRule id enabled rules).map Rule.id = rules.map Rule.id := by
  have hid : ∀ rule : Rule, ({ rule with enabled := enabled } : Rule).id = rule.id := fun _ => rfl
  exact ids_changeRule hid rules

theorem eq_of_find {id : String} {rules : List Rule} (hn : (rules.map Rule.id).Nodup)
    {r found : Rule} (hf : rules.find? (·.id == id) = some found) (hr : r ∈ rules)
    (hid : r.id = id) : r = found := by
  have hfid : found.id = id := by simpa using List.find?_some hf
  exact List.inj_on_of_nodup_map hn hr (List.mem_of_find?_eq_some hf) (hid.trans hfid.symm)

namespace Table

def ofRules (rules : List Rule) : Table :=
  rules.map Row.ofRule

theorem has_ofRules (id : String) (rules : List Rule) :
    (ofRules rules).has id = rules.any (·.id == id) := by
  rw [has, ofRules, List.any_map]
  rfl

theorem find_ofRules (id : String) (rules : List Rule) :
    (ofRules rules).find? (·.id == id) = (rules.find? (·.id == id)).map Row.ofRule := by
  rw [ofRules, List.find?_map]
  rfl

theorem get_ofRules (id : String) (rules : List Rule) :
    (ofRules rules).get id =
      match rules.find? (·.id == id) with
      | none => .ok none
      | some r => r.reread.map some := by
  rw [get, find_ofRules]
  cases rules.find? (·.id == id) with
  | none => rfl
  | some r => simp only [Option.map_some, Row.rule_ofRule]

theorem list_ofRules (rules : List Rule) : (ofRules rules).list = rules.mapM Rule.reread := by
  rw [list, ofRules]
  induction rules with
  | nil => rfl
  | cons r rules ih => rw [List.map_cons, List.mapM_cons, List.mapM_cons, ih, Row.rule_ofRule]

theorem append_ofRules (r : Rule) (rules : List Rule) :
    ofRules (rules ++ [r]) = ofRules rules ++ [Row.ofRule r] := by
  rw [ofRules, ofRules, List.map_append, List.map_singleton]

theorem filter_ofRules (id : String) (rules : List Rule) :
    (ofRules rules).filter (·.id != id) = ofRules (rules.filter (·.id != id)) := by
  rw [ofRules, ofRules, List.filter_map]
  rfl

theorem change_ofRules {f : Row → Row} {g : Rule → Rule}
    (h : ∀ r, f (Row.ofRule r) = Row.ofRule (g r)) (id : String) (rules : List Rule) :
    (ofRules rules).change id f = ofRules (changeRule id g rules) := by
  rw [change, ofRules, ofRules, changeRule, List.map_map, List.map_map]
  refine List.map_congr_left fun r _ => ?_
  rw [Function.comp_apply, Function.comp_apply]
  by_cases hr : r.id = id
  · rw [if_pos hr, if_pos (show (Row.ofRule r).id = id from hr), h]
  · rw [if_neg hr, if_neg (show ¬ (Row.ofRule r).id = id from hr)]

theorem revise_ofRules (new : Rule) (id : String) (rules : List Rule) :
    (ofRules rules).change id (·.revise (Row.ofRule new)) =
      ofRules (changeRule id (·.revisedBy new) rules) :=
  change_ofRules (fun _ => rfl) id rules

theorem switch_ofRules {id : String} {rule : Rule} {rules : List Rule}
    (hn : (rules.map Rule.id).Nodup) (hf : rules.find? (·.id == id) = some rule)
    (enabled : Bool) :
    (ofRules rules).change id (·.revise (Row.ofRule { rule with enabled := enabled })) =
      ofRules (switchRule id enabled rules) := by
  have hc : changeRule id (·.revisedBy { rule with enabled := enabled }) rules =
      switchRule id enabled rules := by
    refine changeRule_congr fun old ho hid => ?_
    obtain rfl := eq_of_find hn hf ho hid
    rfl
  rw [revise_ofRules, hc]

end Table

end ChatRules
