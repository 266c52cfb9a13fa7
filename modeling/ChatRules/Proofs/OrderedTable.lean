import ChatRules.Proofs.ColumnCheck

/-!
The table of rows is an ordered register: rules with different ids, in the order of their creation.
Every answer of the table is that of the register, except where a rule of the leap second after the
last second there is would be read.
-/

namespace ChatRules

namespace Rule

theorem rounded_of_rounded {old : Rule} (h : old.rounded = old) (new : Rule) :
    (old.revisedBy new).rounded = old.revisedBy new := by
  have ht : old.createdAt.rounded = old.createdAt := congrArg Rule.createdAt h
  simp only [rounded, revisedBy, ht]

theorem rounded_rounded (r : Rule) : r.rounded.rounded = r.rounded := by
  simp only [rounded, Instant.rounded_rounded]

end Rule

namespace Table

inductive Request
  | create (rule : Rule)
  | update (rule : Rule)
  | setEnabled (id : String) (enabled : Bool)
  | delete (id : String)
  | get (id : String)
  | list
  | count
  | reopen
  deriving DecidableEq, Repr

inductive Answer
  | done
  | rule (found : Option Rule)
  | rules (all : List Rule)
  | number (n : Nat)
  deriving DecidableEq, Repr

def commit (t : Table) : Except TableFault Table → Except TableFault Answer × Table
  | .ok new => (.ok .done, new)
  | .error fault => (.error fault, t)

def reopened (t : Table) : Table :=
  (ofText? t.toText).getD []

def serve : Request → Table → Except TableFault Answer × Table
  | .create rule, t => commit t (t.create rule)
  | .update rule, t => commit t (t.update rule)
  | .setEnabled id enabled, t => commit t (t.setEnabled id enabled)
  | .delete id, t => commit t (t.delete id)
  | .get id, t => ((t.get id).map .rule, t)
  | .list, t => (t.list.map .rules, t)
  | .count, t => (.ok (.number t.count), t)
  | .reopen, t => (.ok .done, t.reopened)

def answers {σ : Type} (step : Request → σ → Except TableFault Answer × σ) :
    List Request → σ → List (Except TableFault Answer)
  | [], _ => []
  | q :: rest, s => (step q s).1 :: answers step rest (step q s).2

end Table

structure Register where
  rules : List Rule
  distinct : (rules.map Rule.id).Nodup
  acting : ∀ rule ∈ rules, rule.actions ≠ []
  whole : ∀ rule ∈ rules, rule.rounded = rule

namespace Register
open Table (Request Answer)

def empty : Register :=
  ⟨[], List.nodup_nil, by simp, by simp⟩

def has (id : String) (r : Register) : Bool :=
  r.rules.any (·.id == id)

def find? (id : String) (r : Register) : Option Rule :=
  r.rules.find? (·.id == id)

theorem not_mem_ids {id : String} {r : Register} (h : ¬ r.has id = true) :
    id ∉ r.rules.map Rule.id := by
  intro hm
  obtain ⟨rule, hr, rfl⟩ := List.mem_map.mp hm
  exact h (List.any_eq_true.mpr ⟨rule, hr, beq_self_eq_true rule.id⟩)

def add (rule : Rule) (r : Register) (ha : rule.actions ≠ []) (h : ¬ r.has rule.id = true) :
    Register where
  rules := r.rules ++ [rule.rounded]
  distinct := by
    rw [List.map_append, List.map_singleton, List.nodup_append_comm]
    exact List.nodup_cons.mpr ⟨not_mem_ids h, r.distinct⟩
  acting := by
    intro x hx
    rcases List.mem_append.mp hx with hx | hx
    · exact r.acting x hx
    · exact List.mem_singleton.mp hx ▸ ha
  whole := by
    intro x hx
    rcases List.mem_append.mp hx with hx | hx
    · exact r.whole x hx
    · exact List.mem_singleton.mp hx ▸ rule.rounded_rounded

theorem mem_revise {new old : Rule} {rules : List Rule}
    (h : old ∈ changeRule new.id (·.revisedBy new) rules) :
    ∃ r ∈ rules, old = r ∨ old = r.revisedBy new := by
  obtain ⟨r, hr, rfl⟩ := List.mem_map.mp h
  split
  · exact ⟨r, hr, .inr rfl⟩
  · exact ⟨r, hr, .inl rfl⟩

def revise (new : Rule) (r : Register) (ha : new.actions ≠ []) : Register where
  rules := changeRule new.id (·.revisedBy new) r.rules
  distinct := by
    have hid : ∀ old : Rule, (old.revisedBy new).id = old.id := fun _ => rfl
    rw [ids_changeRule hid]
    exact r.distinct
  acting := by
    intro x hx
    obtain ⟨old, ho, rfl | rfl⟩ := mem_revise hx
    · exact r.acting x ho
    · exact ha
  whole := by
    intro x hx
    obtain ⟨old, ho, rfl | rfl⟩ := mem_revise hx
    · exact r.whole x ho
    · exact Rule.rounded_of_rounded (r.whole old ho) new

def remove (id : String) (r : Register) : Register where
  rules := r.rules.filter (·.id != id)
  distinct := r.distinct.sublist (List.filter_sublist.map Rule.id)
  acting := fun x hx => r.acting x (List.mem_of_mem_filter hx)
  whole := fun x hx => r.whole x (List.mem_of_mem_filter hx)

def create (rule : Rule) (r : Register) : Except TableFault Answer × Register :=
  if ha : rule.actions = [] then (.error .noActions, r)
  else if h : r.has rule.id then (.error .duplicateId, r)
  else (.ok .done, r.add rule ha h)

def update (rule : Rule) (r : Register) : Except TableFault Answer × Register :=
  if ha : rule.actions = [] then (.error .noActions, r)
  else if r.has rule.id then (.ok .done, r.revise rule ha)
  else (.error (.notFound rule.id), r)

def setEnabled (id : String) (enabled : Bool) (r : Register) :
    Except TableFault Answer × Register :=
  match r.find? id with
  | some rule => r.update { rule with enabled := enabled }
  | none => (.error (.notFound id), r)

def delete (id : String) (r : Register) : Except TableFault Answer × Register :=
  if r.has id then (.ok .done, r.remove id) else (.error (.notFound id), r)

def serve : Request → Register → Except TableFault Answer × Register
  | .create rule, r => r.create rule
  | .update rule, r => r.update rule
  | .setEnabled id enabled, r => r.setEnabled id enabled
  | .delete id, r => r.delete id
  | .get id, r => (.ok (.rule (r.find? id)), r)
  | .list, r => (.ok (.rules r.rules), r)
  | .count, r => (.ok (.number r.rules.length), r)
  | .reopen, r => (.ok .done, r)

def rows (r : Register) : Table :=
  .ofRules r.rules

theorem has_rows (id : String) (r : Register) : r.rows.has id = r.has id :=
  Table.has_ofRules id r.rules

theorem has_eq_find (id : String) (r : Register) : r.has id = (r.find? id).isSome := by
  rw [Bool.eq_iff_iff, has, find?, List.find?_isSome, List.any_eq_true]

theorem rows_add (rule : Rule) (r : Register) (ha : rule.actions ≠ [])
    (h : ¬ r.has rule.id = true) : (r.add rule ha h).rows = r.rows ++ [Row.ofRule rule] := by
  rw [rows, rows, add, Table.append_ofRules, Row.ofRule_rounded]

theorem rows_revise (new : Rule) (r : Register) (ha : new.actions ≠ []) :
    (r.revise new ha).rows = r.rows.change new.id (·.revise (Row.ofRule new)) :=
  (Table.revise_ofRules new new.id r.rules).symm

theorem rows_remove (id : String) (r : Register) :
    (r.remove id).rows = r.rows.filter (·.id != id) :=
  (Table.filter_ofRules id r.rules).symm

theorem rows_switch {id : String} {rule : Rule} {r : Register} (enabled : Bool)
    (h : r.find? id = some rule) (ha : rule.actions ≠ []) :
    (r.revise { rule with enabled := enabled } ha).rows =
      r.rows.change id fun row => { row with enabled := enabled } := by
  obtain rfl : rule.id = id := by simpa using List.find?_some h
  rw [rows_revise, rows, Table.switch_ofRules r.distinct h]
  exact (Table.change_ofRules (fun _ => rfl) rule.id r.rules).symm

theorem serve_create (rule : Rule) (r : Register) :
    Table.serve (.create rule) r.rows = ((r.create rule).1, (r.create rule).2.rows) := by
  rw [Table.serve, Table.create, create]
  by_cases ha : rule.actions = []
  · rw [if_pos ha, dif_pos ha]
    rfl
  · have hh : r.rows.has (Row.ofRule rule).id = r.has rule.id := has_rows rule.id r
    rw [if_neg ha, dif_neg ha, Table.append, hh]
    by_cases h : r.has rule.id = true
    · rw [if_pos h, dif_pos h]
      rfl
    · rw [if_neg h, dif_neg h, rows_add]
      rfl

theorem serve_update (rule : Rule) (r : Register) :
    Table.serve (.update rule) r.rows = ((r.update rule).1, (r.update rule).2.rows) := by
  rw [Table.serve, Table.update, update, has_rows]
  by_cases ha : rule.actions = []
  · rw [if_pos ha, dif_pos ha]
    rfl
  · rw [if_neg ha, dif_neg ha]
    by_cases h : r.has rule.id = true
    · rw [if_pos h, if_pos h, rows_revise]
      rfl
    · rw [if_neg h, if_neg h]
      rfl

theorem serve_setEnabled (id : String) (enabled : Bool) (r : Register) :
    Table.serve (.setEnabled id enabled) r.rows =
      ((r.setEnabled id enabled).1, (r.setEnabled id enabled).2.rows) := by
  rw [Table.serve, Table.setEnabled, setEnabled, has_rows, has_eq_find]
  cases hf : r.find? id with
  | none => rfl
  | some rule =>
    have ha : rule.actions ≠ [] := r.acting rule (List.mem_of_find?_eq_some hf)
    have hid : rule.id = id := by simpa using List.find?_some hf
    have hh : r.has rule.id = true := by rw [hid, has_eq_find, hf, Option.isSome_some]
    simp only [update, dif_neg ha, if_pos hh, rows_switch enabled hf]
    rfl

theorem serve_delete (id : String) (r : Register) :
    Table.serve (.delete id) r.rows = ((r.delete id).1, (r.delete id).2.rows) := by
  rw [Table.serve, Table.delete, delete, has_rows]
  by_cases h : r.has id = true
  · rw [if_pos h, if_pos h, rows_remove]
    rfl
  · rw [if_neg h, if_neg h]
    rfl

theorem serve_reopen (r : Register) : Table.serve .reopen r.rows = (.ok .done, r.rows) := by
  rw [Table.serve, Table.reopened, Table.ofText_toText, Option.getD_some]

def readsBeyond : Request → Register → Bool
  | .get id, r => (r.find? id).any Rule.isBeyond
  | .list, r => r.rules.any Rule.isBeyond
  | _, _ => false

theorem get_rows {id : String} {r : Register} (h : (r.find? id).any Rule.isBeyond = false) :
    r.rows.get id = .ok (r.find? id) := by
  rw [rows, Table.get_ofRules]
  cases hf : r.rules.find? (·.id == id) with
  | none => rw [find?, hf]
  | some rule =>
    have hb : rule.isBeyond = false := by rwa [find?, hf] at h
    simp only [find?, hf, Rule.reread_of_not_beyond hb, r.whole rule (List.mem_of_find?_eq_some hf)]
    rfl

theorem get_rows_beyond {id : String} {r : Register} (h : (r.find? id).any Rule.isBeyond = true) :
    ∃ fault, r.rows.get id = .error fault := by
  rw [rows, Table.get_ofRules]
  cases hf : r.rules.find? (·.id == id) with
  | none =>
    rw [find?, hf] at h
    cases h
  | some rule =>
    have hb : rule.isBeyond = true := by rwa [find?, hf] at h
    simp only [Rule.reread_of_beyond hb]
    exact ⟨_, rfl⟩

theorem list_rows {r : Register} (h : r.rules.any Rule.isBeyond = false) :
    r.rows.list = .ok r.rules := by
  have hw : r.rules.map Rule.rounded = r.rules :=
    (List.map_congr_left r.whole).trans (List.map_id' r.rules)
  rw [rows, Table.list_ofRules, Rule.mapM_reread h, hw]

theorem list_rows_beyond {r : Register} (h : r.rules.any Rule.isBeyond = true) :
    ∃ fault, r.rows.list = .error fault := by
  rw [rows, Table.list_ofRules]
  exact Rule.mapM_reread_beyond h

theorem serve_snd (q : Request) (r : Register) : (Table.serve q r.rows).2 = (r.serve q).2.rows := by
  cases q with
  | create rule => rw [serve_create]; rfl
  | update rule => rw [serve_update]; rfl
  | setEnabled id enabled => rw [serve_setEnabled]; rfl
  | delete id => rw [serve_delete]; rfl
  | reopen => rw [serve_reopen]; rfl
  | get id => rfl
  | list => rfl
  | count => rfl

theorem serve_fst_iff (q : Request) (r : Register) :
    (Table.serve q r.rows).1 = (r.serve q).1 ↔ readsBeyond q r = false := by
  cases q with
  | create rule => rw [serve_create]; exact iff_of_true rfl rfl
  | update rule => rw [serve_update]; exact iff_of_true rfl rfl
  | setEnabled id enabled => rw [serve_setEnabled]; exact iff_of_true rfl rfl
  | delete id => rw [serve_delete]; exact iff_of_true rfl rfl
  | reopen => exact iff_of_true rfl rfl
  | get id =>
    rw [Table.serve, serve, readsBeyond]
    cases h : (r.find? id).any Rule.isBeyond with
    | false => rw [get_rows h]; exact iff_of_true rfl rfl
    | true =>
      obtain ⟨fault, hf⟩ := get_rows_beyond h
      rw [hf]
      exact iff_of_false (by rintro ⟨⟩) (by decide)
  | list =>
    rw [Table.serve, serve, readsBeyond]
    cases h : r.rules.any Rule.isBeyond with
    | false => rw [list_rows h]; exact iff_of_true rfl rfl
    | true =>
      obtain ⟨fault, hf⟩ := list_rows_beyond h
      rw [hf]
      exact iff_of_false (by rintro ⟨⟩) (by decide)
  | count =>
    refine iff_of_true ?_ rfl
    rw [Table.serve, serve, Table.count, rows, Table.ofRules, List.length_map]

def everReadsBeyond : List Request → Register → Bool
  | [], _ => false
  | q :: rest, r => readsBeyond q r || everReadsBeyond rest (r.serve q).2

theorem answers_rows_iff (requests : List Request) (r : Register) :
    Table.answers Table.serve requests r.rows = Table.answers serve requests r ↔
      everReadsBeyond requests r = false := by
  induction requests generalizing r with
  | nil => exact iff_of_true rfl rfl
  | cons q requests ih =>
    rw [Table.answers, Table.answers, everReadsBeyond, List.cons.injEq, serve_fst_iff, serve_snd,
      ih, Bool.or_eq_false_iff]

/-- From the empty table on, the answers are those of the register exactly as long as no rule of
the leap second after the last second there is would be read. -/
theorem table_serves_as_register_iff (requests : List Request) :
    Table.answers Table.serve requests [] = Table.answers serve requests empty ↔
      everReadsBeyond requests empty = false :=
  answers_rows_iff requests empty

end Register

end ChatRules
