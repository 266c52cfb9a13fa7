import ChatRules.Proofs.Sequences
import ChatRules.Proofs.Standing
import Mathlib.Data.List.Forall2

namespace ChatRules

/-- A store, and which of the calls to come it refuses, with what fault. -/
structure Unsteady (σ : Type) where
  plan : Nat → Option Fault
  state : σ

namespace Unsteady
variable {σ : Type}

def next (u : Unsteady σ) (s : σ) : Unsteady σ :=
  ⟨fun n => u.plan (n + 1), s⟩

end Unsteady

def Backend.unsteady {σ : Type} (backend : Backend σ) : Backend (Unsteady σ) := fun c u =>
  match u.plan 0 with
  | some fault => (.error fault, u.next u.state)
  | none => ((backend c u.state).1, u.next (backend c u.state).2)

namespace Instant

theorem of_ofMillis {ms : Int} {t : Instant} (h : ofMillis? ms = some t) :
    t.isBeyond = false ∧ t.rounded = t := by
  have hm : ofMillis? t.millis = some t := by rw [millis_of_ofMillis h, h]
  constructor
  · rw [Bool.eq_false_iff, ne_eq, ← ofMillis_eq_none_iff, hm]
    exact Option.some_ne_none t
  · rw [rounded, hm, Option.getD_some]

end Instant

theorem Rule.of_reread_eq_ok {rule r : Rule} (h : rule.reread = .ok r) :
    rule.isBeyond = false ∧ rule.rounded = r := by
  cases hb : rule.isBeyond with
  | true =>
    rw [reread_of_beyond hb] at h
    cases h
  | false =>
    rw [reread_of_not_beyond hb] at h
    exact ⟨rfl, Except.ok.inj h⟩

namespace Row
variable {row : Row} {rule r : Rule}

theorem rule_eq_ok_iff : row.rule = .ok r ↔
    Instant.ofMillis? row.createdAt = some r.createdAt ∧ row.trigger? = some r.trigger ∧
      row.actions? = some r.actions ∧
      (row.id, row.name, row.createdBy, row.enabled) = (r.id, r.name, r.createdBy, r.enabled) := by
  obtain ⟨id, name, createdBy, createdAt, enabled, trigger, actions⟩ := r
  rw [Row.rule]
  cases Instant.ofMillis? row.createdAt with
  | none => simp
  | some time =>
    cases row.trigger? with
    | none => simp
    | some read =>
      cases row.actions? with
      | none => simp
      | some reads =>
        simp only [Except.ok.injEq, Rule.mk.injEq, Option.some.injEq, Prod.mk.injEq]
        tauto

def IsOf (row : Row) (rule : Rule) : Prop :=
  row.rule = rule.reread

theorem isOf_ofRule (rule : Rule) : (ofRule rule).IsOf rule :=
  rule_ofRule rule

theorem reread_of_rule_eq (h : row.rule = .ok r) : r.reread = .ok r := by
  obtain ⟨hb, hr⟩ := Instant.of_ofMillis (rule_eq_ok_iff.mp h).1
  have hself : r.rounded = r := by rw [Rule.rounded, hr]
  rw [Rule.reread_of_not_beyond hb, hself]

theorem isOf_of_rule_eq (h : row.rule = .ok r) : row.IsOf r := by
  rw [IsOf, reread_of_rule_eq h, h]

theorem IsOf.id_eq (h : row.IsOf rule) : row.id = rule.id := by
  rw [IsOf, Rule.reread] at h
  split at h
  · rw [Row.rule] at h
    split at h
    · simp only [Except.error.injEq, TableFault.badTime.injEq] at h
      exact h.1
    · split at h <;> cases h
  · obtain ⟨-, -, -, he⟩ := rule_eq_ok_iff.mp h
    exact congrArg Prod.fst he

theorem IsOf.revise (h : row.IsOf rule) (hr : row.rule = .ok r) (enabled : Bool) :
    (row.revise (ofRule { r with enabled := enabled })).IsOf { rule with enabled := enabled } := by
  obtain ⟨ht, -, -, he⟩ := rule_eq_ok_iff.mp hr
  obtain ⟨hb, hro⟩ := Rule.of_reread_eq_ok (h.symm.trans hr)
  have hreread : ({ rule with enabled := enabled } : Rule).reread =
      .ok { r with enabled := enabled } := by
    rw [← hro]
    exact Rule.reread_of_not_beyond hb
  simp only [Prod.mk.injEq] at he
  rw [IsOf, hreread]
  refine rule_eq_ok_iff.mpr ⟨ht, ?_, ?_, ?_⟩
  · exact trigger_ofRule { r with enabled := enabled }
  · exact actions_ofRule { r with enabled := enabled }
  · simp [Row.revise, ofRule, he]

end Row

namespace Table
variable {t : Table} {rules : List Rule}

def Holds (rules : List Rule) (t : Table) : Prop :=
  List.Forall₂ Row.IsOf t rules

theorem forall₂_of_list (h : t.list = .ok rules) :
    List.Forall₂ (fun row rule => row.rule = .ok rule) t rules :=
  mapM_eq_ok_iff.mp h

theorem holds_of_list (h : t.list = .ok rules) : t.Holds rules :=
  (forall₂_of_list h).imp fun _ _ hr => Row.isOf_of_rule_eq hr

theorem reread_of_forall₂ (h : List.Forall₂ (fun row rule => Row.rule row = .ok rule) t rules) :
    ∀ rule ∈ rules, rule.reread = .ok rule := by
  induction h with
  | nil => exact List.forall_mem_nil _
  | cons hr _ ih => exact List.forall_mem_cons.mpr ⟨Row.reread_of_rule_eq hr, ih⟩

theorem Holds.has_eq (h : t.Holds rules) (id : String) :
    t.has id = rules.any (·.id == id) := by
  rw [has]
  induction h with
  | nil => rfl
  | cons hr _ ih => rw [List.any_cons, List.any_cons, ih, hr.id_eq]

theorem Holds.change {id : String} {f : Row → Row} {g : Rule → Rule} (h : t.Holds rules)
    (hf : ∀ row ∈ t, ∀ rule ∈ rules, rule.id = id → row.IsOf rule → (f row).IsOf (g rule)) :
    (t.change id f).Holds (changeRule id g rules) := by
  induction h with
  | nil => exact .nil
  | @cons row rule t rules hr _ ih =>
    refine .cons ?_ (ih fun row' hrow rule' hrule => hf row' (.tail _ hrow) rule' (.tail _ hrule))
    simp only [hr.id_eq]
    split
    · next hid => exact hf row (.head _) rule (.head _) hid hr
    · exact hr

theorem Holds.filter (h : t.Holds rules) (id : String) :
    Table.Holds (rules.filter (·.id != id)) (t.filter (·.id != id)) := by
  refine List.rel_filter (fun row rule hr => ?_) h
  simp only [hr.id_eq]

theorem Holds.append (h : t.Holds rules) (rule : Rule) :
    Table.Holds (rules ++ [rule]) (t ++ [Row.ofRule rule]) :=
  List.rel_append h (.cons (Row.isOf_ofRule rule) .nil)

theorem Holds.ids_eq (h : t.Holds rules) : t.map Row.id = rules.map Rule.id := by
  induction h with
  | nil => rfl
  | cons hr _ ih => rw [List.map_cons, List.map_cons, ih, hr.id_eq]

theorem Holds.mem_list {listed : List Rule} (h : t.Holds rules) (hl : t.list = .ok listed) :
    ∀ r ∈ listed, ∃ rule ∈ rules, r = rule.rounded := by
  have hf := forall₂_of_list hl
  clear hl
  induction h generalizing listed with
  | nil =>
    cases hf
    exact List.forall_mem_nil _
  | @cons row rule t rules hr _ ih =>
    cases hf with
    | @cons _ r _ rest hrow hrest =>
      obtain ⟨-, he⟩ := Rule.of_reread_eq_ok (hr.symm.trans hrow)
      refine List.forall_mem_cons.mpr ⟨⟨rule, List.mem_cons_self, he.symm⟩, fun r hr => ?_⟩
      obtain ⟨rule, hm, he⟩ := ih hrest r hr
      exact ⟨rule, List.mem_cons_of_mem _ hm, he⟩

theorem list_of_all (h : (backend .all t).1 = .ok rules) : t.list = .ok rules := by
  rw [backend] at h
  cases hl : t.list with
  | error fault =>
    rw [hl] at h
    cases h
  | ok read =>
    rw [hl] at h
    exact congrArg Except.ok (Except.ok.inj h)

theorem find_of_get {id : String} {found : Option Rule}
    (h : (backend (.get id) t).1 = .ok found) :
    (t.find? (·.id == id)).map Row.rule = found.map .ok := by
  rw [backend, get] at h
  cases hf : t.find? (·.id == id) with
  | none =>
    rw [hf] at h
    cases h
    rfl
  | some row =>
    rw [hf] at h
    cases hr : row.rule with
    | error fault =>
      simp only [hr] at h
      cases h
    | ok r =>
      simp only [hr] at h
      cases h
      rw [Option.map_some, hr]
      rfl

theorem exists_row_of_get {id : String} {r : Rule} (h : (backend (.get id) t).1 = .ok (some r)) :
    ∃ row ∈ t, row.id = id ∧ row.rule = .ok r := by
  obtain ⟨row, hf, hr⟩ := Option.map_eq_some_iff.mp (find_of_get h)
  exact ⟨row, List.mem_of_find?_eq_some hf, by simpa using List.find?_some hf, hr⟩

theorem backend_update_snd {rule : Rule} (h : Host.isOk (backend (.update rule) t).1 = true) :
    (backend (.update rule) t).2 = t.change rule.id (·.revise (Row.ofRule rule)) := by
  have ha := actions_of_isOk_update h
  rw [backend, Rule.check, if_neg ha, update, if_neg ha] at h ⊢
  by_cases hh : t.has rule.id = true
  · rw [if_pos hh]
    rfl
  · rw [if_neg hh] at h
    cases h

theorem backend_delete_snd {id : String} (h : Host.isOk (backend (.delete id) t).1 = true) :
    (backend (.delete id) t).2 = t.filter (·.id != id) := by
  rw [backend, delete] at h ⊢
  by_cases hh : t.has id = true
  · rw [if_pos hh]
    rfl
  · rw [if_neg hh] at h
    cases h

end Table

namespace Memory
variable {m : Memory}

theorem commit_of_error {σ : Type} {old : σ} {result : Except Fault σ} {fault : Fault}
    (h : (commit old result).1 = .error fault) : (commit old result).2 = old := by
  cases result with
  | error _ => rfl
  | ok new => cases h

theorem backend_delete_snd {id : String} (h : Host.isOk (backend (.delete id) m).1 = true) :
    (backend (.delete id) m).2 = m.filter (·.id != id) := by
  rw [backend, delete] at h ⊢
  by_cases hh : m.any (·.id == id) = true
  · rw [if_pos hh]
    rfl
  · rw [if_neg hh] at h
    cases h

end Memory

namespace StoreKind

def list : (kind : StoreKind) → kind.State → Except TableFault (List Rule)
  | .memory => .ok
  | .table => Table.list

def kept : StoreKind → Rule → Except TableFault Rule
  | .memory => .ok
  | .table => Rule.reread

def Holds : (kind : StoreKind) → List Rule → kind.State → Prop
  | .memory => fun rules m => m = rules
  | .table => Table.Holds

structure Keeps (kind : StoreKind) (rules : List Rule) (s : kind.State) : Prop where
  held : kind.Holds rules s
  distinct : (rules.map Rule.id).Nodup

variable {kind : StoreKind} {s : kind.State} {rules : List Rule}

theorem holds_of_list (h : kind.list s = .ok rules) : kind.Holds rules s := by
  cases kind with
  | memory => exact Except.ok.inj h
  | table => exact Table.holds_of_list h

theorem kept_of_mem_list (h : kind.list s = .ok rules) {rule : Rule} (hr : rule ∈ rules) :
    kind.kept rule = .ok rule := by
  cases kind with
  | memory => rfl
  | table => exact Table.reread_of_forall₂ (Table.forall₂_of_list h) rule hr

theorem keeps_empty (kind : StoreKind) : kind.Keeps [] kind.empty := by
  cases kind with
  | memory => exact ⟨rfl, List.nodup_nil⟩
  | table => exact ⟨.nil, List.nodup_nil⟩

theorem backend_of_error {c : StoreCall} {fault : Fault}
    (h : (kind.backend c s).1 = .error fault) : (kind.backend c s).2 = s := by
  cases kind <;> cases c
  all_goals first | rfl | exact Memory.commit_of_error h

@[simp]
theorem backend_all_snd : (kind.backend .all s).2 = s := by
  cases kind <;> rfl

@[simp]
theorem backend_get_snd (id : String) : (kind.backend (.get id) s).2 = s := by
  cases kind <;> rfl

theorem unsteady_cases (c : StoreCall) (u : Unsteady kind.State) :
    (∃ fault, kind.backend.unsteady c u = (.error fault, u.next u.state)) ∨
      ∃ a, (kind.backend c u.state).1 = .ok a ∧
        kind.backend.unsteady c u = (.ok a, u.next (kind.backend c u.state).2) := by
  rw [Backend.unsteady]
  cases u.plan 0 with
  | some fault => exact .inl ⟨fault, rfl⟩
  | none =>
    cases hc : (kind.backend c u.state).1 with
    | error fault => exact .inl ⟨fault, by rw [backend_of_error hc]⟩
    | ok a => exact .inr ⟨a, rfl, rfl⟩

theorem unsteady_snd_of_read {c : StoreCall} {u : Unsteady kind.State}
    (h : (kind.backend c u.state).2 = u.state) :
    (kind.backend.unsteady c u).2 = u.next u.state := by
  rcases unsteady_cases c u with ⟨fault, hf⟩ | ⟨a, -, ha⟩
  · rw [hf]
  · rw [ha, h]

theorem isOk_of_eq_ok {c : StoreCall} {a : c.Answer} (h : (kind.backend c s).1 = .ok a) :
    Host.isOk (kind.backend c s).1 = true := by
  rw [h]
  rfl

theorem Keeps.create {rule : Rule} (hk : kind.Keeps rules s) (ha : rule.actions ≠ [])
    (h : (kind.backend (.create rule) s).1 = .ok ()) :
    kind.Keeps (rules ++ [rule]) (kind.backend (.create rule) s).2 := by
  have ho := isOk_of_eq_ok h
  obtain ⟨hh, hn⟩ := hk
  cases kind with
  | memory =>
    obtain rfl : s = rules := hh
    have hi := Memory.of_isOk_create ha ho
    exact ⟨congrArg Prod.snd (Memory.backend_create ha hi), Memory.nodup_append hn hi⟩
  | table =>
    have hh : Table.Holds rules s := hh
    have hi := Table.not_has_of_isOk_create ha ho
    have hb := congrArg Prod.snd (Table.backend_append ha hi)
    rw [hh.has_eq] at hi
    exact ⟨hb ▸ hh.append rule, Memory.nodup_append hn hi⟩

theorem Keeps.get_none {id : String} (hk : kind.Keeps rules s)
    (h : (kind.backend (.get id) s).1 = .ok none) : id ∉ rules.map Rule.id := by
  obtain ⟨hh, -⟩ := hk
  cases kind with
  | memory =>
    obtain rfl : s = rules := hh
    exact Memory.not_mem_of_get (Except.ok.inj h)
  | table =>
    have hf := List.find?_eq_none.mp (Option.map_eq_none_iff.mp (Table.find_of_get h))
    rw [← Table.Holds.ids_eq hh]
    intro hm
    obtain ⟨row, hr, hid⟩ := List.mem_map.mp hm
    exact hf row hr (beq_iff_eq.mpr hid)

theorem Keeps.get_some {id : String} {r : Rule} (hk : kind.Keeps rules s)
    (h : (kind.backend (.get id) s).1 = .ok (some r)) : id ∈ rules.map Rule.id := by
  obtain ⟨hh, -⟩ := hk
  cases kind with
  | memory =>
    obtain rfl : s = rules := hh
    have hg : Memory.get id s = some r := Except.ok.inj h
    exact Memory.id_of_get hg ▸ List.mem_map_of_mem (List.mem_of_find?_eq_some hg)
  | table =>
    obtain ⟨row, hm, hid, -⟩ := Table.exists_row_of_get h
    rw [← Table.Holds.ids_eq hh, ← hid]
    exact List.mem_map_of_mem hm

theorem Keeps.mem_all {listed : List Rule} (hk : kind.Keeps rules s)
    (h : (kind.backend .all s).1 = .ok listed) :
    ∀ r ∈ listed, ∃ rule ∈ rules, r.actions = rule.actions := by
  obtain ⟨hh, -⟩ := hk
  cases kind with
  | memory =>
    obtain rfl : s = rules := hh
    obtain rfl : s = listed := Except.ok.inj h
    exact fun r hr => ⟨r, hr, rfl⟩
  | table =>
    intro r hr
    obtain ⟨rule, hm, rfl⟩ := Table.Holds.mem_list hh (Table.list_of_all h) r hr
    exact ⟨rule, hm, rfl⟩

theorem Keeps.switch {id : String} {r : Rule} {enabled : Bool} (hk : kind.Keeps rules s)
    (hg : (kind.backend (.get id) s).1 = .ok (some r))
    (h : (kind.backend (.update { r with enabled := enabled }) s).1 = .ok ()) :
    kind.Keeps (switchRule id enabled rules)
      (kind.backend (.update { r with enabled := enabled }) s).2 := by
  have ho := isOk_of_eq_ok h
  obtain ⟨hh, hn⟩ := hk
  refine ⟨?_, Memory.nodup_switch hn id enabled⟩
  cases kind with
  | memory =>
    obtain rfl : s = rules := hh
    exact congrArg Prod.snd (Memory.backend_switch hn (Except.ok.inj hg) enabled)
  | table =>
    have hh : Table.Holds rules s := hh
    obtain ⟨row, hm, hrow, hr⟩ := Table.exists_row_of_get hg
    have hrid : row.id = r.id := (Row.isOf_of_rule_eq hr).id_eq
    have ht : (List.map Row.id s).Nodup := hh.ids_eq ▸ hn
    refine (Table.backend_update_snd ho) ▸ ?_
    show Table.Holds _ (Table.change r.id _ s)
    rw [← hrid, hrow]
    refine hh.change fun other ho rule _ hid his => ?_
    -- No other row has the id, so this is the row that was read.
    obtain rfl : other = row :=
      List.inj_on_of_nodup_map ht ho hm ((his.id_eq.trans hid).trans hrow.symm)
    exact his.revise hr enabled

theorem Keeps.delete {id : String} (hk : kind.Keeps rules s)
    (h : (kind.backend (.delete id) s).1 = .ok ()) :
    kind.Keeps (rules.filter (·.id != id)) (kind.backend (.delete id) s).2 := by
  have ho := isOk_of_eq_ok h
  obtain ⟨hh, hn⟩ := hk
  refine ⟨?_, Memory.nodup_filter hn id⟩
  cases kind with
  | memory =>
    obtain rfl : s = rules := hh
    exact Memory.backend_delete_snd ho
  | table => exact (Table.backend_delete_snd ho) ▸ Table.Holds.filter hh id

end StoreKind

theorem Command.call_cases {β : Type} {kind : StoreKind} (c : StoreCall)
    (next : c.Answer → Script (Except Fault β)) (u : Unsteady kind.State) :
    (∃ fault,
      (Script.call c fun answer => need answer next).run kind.backend.unsteady u =
        (.error fault, u.next u.state) ∧
      (Script.call c fun answer => need answer next).succeeds kind.backend.unsteady u = false) ∨
    ∃ a, (kind.backend c u.state).1 = .ok a ∧
      (Script.call c fun answer => need answer next).run kind.backend.unsteady u =
        (next a).run kind.backend.unsteady (u.next (kind.backend c u.state).2) ∧
      (Script.call c fun answer => need answer next).succeeds kind.backend.unsteady u =
        (next a).succeeds kind.backend.unsteady (u.next (kind.backend c u.state).2) := by
  simp only [Script.run, Script.succeeds]
  rcases StoreKind.unsteady_cases c u with ⟨fault, hf⟩ | ⟨a, ha, hb⟩
  · exact .inl ⟨fault, by rw [hf]; exact ⟨rfl, rfl⟩⟩
  · exact .inr ⟨a, ha, by rw [hb]; exact ⟨rfl, rfl⟩⟩

end ChatRules
