import ChatRules.Proofs.OrderedTable
import ChatRules.Proofs.StoreCalls
import Mathlib.Data.List.Induction

namespace ChatRules

def Backend.after {σ : Type} (backend : Backend σ) (calls : List StoreCall) (s : σ) : σ :=
  calls.foldl (fun s call => (backend call s).2) s

theorem Backend.after_append_singleton {σ : Type} (backend : Backend σ) (calls : List StoreCall)
    (call : StoreCall) (s : σ) :
    backend.after (calls ++ [call]) s = (backend call (backend.after calls s)).2 := by
  rw [Backend.after, List.foldl_append]
  rfl

theorem Rule.check_eq_ok_iff (r : Rule) : r.check = .ok () ↔ r.actions ≠ [] := by
  rw [check]
  split
  · exact iff_of_false (by rintro ⟨⟩) (fun h => h ‹_›)
  · exact iff_of_true rfl ‹_›

namespace Memory

theorem ids_replace (new : Rule) (m : Memory) : (m.replace new).map Rule.id = m.map Rule.id := by
  induction m with
  | nil => rfl
  | cons rule rest ih =>
    rw [replace]
    split
    · next hid => rw [List.map_cons, List.map_cons, hid]
    · rw [List.map_cons, List.map_cons, ih]

theorem mem_replace {new rule : Rule} {m : Memory} (h : rule ∈ m.replace new) :
    rule = new ∨ rule ∈ m := by
  induction m with
  | nil => exact .inr h
  | cons first rest ih =>
    rw [replace] at h
    split at h
    · rcases List.mem_cons.mp h with rfl | h
      · exact .inl rfl
      · exact .inr (List.mem_cons_of_mem _ h)
    · rcases List.mem_cons.mp h with rfl | h
      · exact .inr List.mem_cons_self
      · exact (ih h).imp_right (List.mem_cons_of_mem _)

theorem new_mem_replace {new : Rule} {m : Memory} (h : m.any (·.id == new.id) = true) :
    new ∈ m.replace new := by
  induction m with
  | nil => cases h
  | cons first rest ih =>
    rw [replace]
    split
    · exact List.mem_cons_self
    · next hid =>
      rw [List.any_cons, beq_eq_false_iff_ne.mpr hid, Bool.false_or] at h
      exact List.mem_cons_of_mem _ (ih h)

inductive Takes (m : Memory) : StoreCall → Memory → Prop
  | all : Takes m .all m
  | get (id : String) : Takes m (.get id) m
  | create {rule : Rule} (hc : rule.check = .ok ()) (hn : ¬ m.any (·.id == rule.id) = true) :
    Takes m (.create rule) (m ++ [rule])
  | update {rule : Rule} (hf : m.any (·.id == rule.id) = true) :
    Takes m (.update rule) (m.replace rule)
  | delete {id : String} (hf : m.any (·.id == id) = true) :
    Takes m (.delete id) (m.filter (·.id != id))

theorem refuses_or_takes (call : StoreCall) (m : Memory) :
    (∃ fault, (backend call m).1 = .error fault) ∧ (backend call m).2 = m ∨
      (∃ answer, (backend call m).1 = .ok answer) ∧ Takes m call (backend call m).2 := by
  cases call with
  | all => exact .inr ⟨⟨_, rfl⟩, .all⟩
  | get id => exact .inr ⟨⟨_, rfl⟩, .get id⟩
  | create rule =>
    by_cases ha : rule.actions = []
    · have hc : m.create rule = .error .noActions := by
        rw [create, Rule.check, if_pos ha]
        rfl
      rw [backend, hc]
      exact .inl ⟨⟨_, rfl⟩, rfl⟩
    · by_cases hn : m.any (·.id == rule.id) = true
      · rw [backend, create_of_taken ha hn]
        exact .inl ⟨⟨_, rfl⟩, rfl⟩
      · rw [backend_create ha hn]
        exact .inr ⟨⟨(), rfl⟩, .create (rule.check_eq_ok_iff.mpr ha) hn⟩
  | update rule =>
    rw [backend, update]
    by_cases hf : m.any (·.id == rule.id) = true
    · rw [if_pos hf]
      exact .inr ⟨⟨(), rfl⟩, .update hf⟩
    · rw [if_neg hf]
      exact .inl ⟨⟨_, rfl⟩, rfl⟩
  | delete id =>
    rw [backend, delete]
    by_cases hf : m.any (·.id == id) = true
    · rw [if_pos hf]
      exact .inr ⟨⟨(), rfl⟩, .delete hf⟩
    · rw [if_neg hf]
      exact .inl ⟨⟨_, rfl⟩, rfl⟩

section Steps
variable {m m' : Memory} {call : StoreCall}

theorem Takes.nodup (h : Takes m call m') (hn : (m.map Rule.id).Nodup) :
    (m'.map Rule.id).Nodup := by
  cases h with
  | all => exact hn
  | get => exact hn
  | create _ hnew => exact nodup_append hn hnew
  | update =>
    rw [ids_replace]
    exact hn
  | delete => exact nodup_filter hn _

theorem Takes.checked (h : Takes m call m') (hm : ∀ rule ∈ m, rule.check = .ok ())
    (hu : ∀ rule, call = .update rule → rule.check = .ok ()) :
    ∀ rule ∈ m', rule.check = .ok () := by
  intro rule hr
  cases h with
  | all => exact hm rule hr
  | get => exact hm rule hr
  | create hc =>
    rcases List.mem_append.mp hr with hr | hr
    · exact hm rule hr
    · exact List.mem_singleton.mp hr ▸ hc
  | @update new =>
    rcases mem_replace hr with rfl | hr
    · exact hu rule rfl
    · exact hm rule hr
  | delete => exact hm rule (List.mem_of_mem_filter hr)

theorem nodup_step (call : StoreCall) (hn : (m.map Rule.id).Nodup) :
    ((backend call m).2.map Rule.id).Nodup := by
  rcases refuses_or_takes call m with ⟨-, hs⟩ | ⟨-, ht⟩
  · rw [hs]
    exact hn
  · exact ht.nodup hn

theorem checked_step (hm : ∀ rule ∈ m, rule.check = .ok ())
    (hu : ∀ rule, call = .update rule → (backend (.update rule) m).1 = .ok () →
      rule.check = .ok ()) :
    ∀ rule ∈ (backend call m).2, rule.check = .ok () := by
  rcases refuses_or_takes call m with ⟨-, hs⟩ | ⟨⟨answer, ha⟩, ht⟩
  · rw [hs]
    exact hm
  · refine ht.checked hm fun rule hc => hu rule hc ?_
    subst hc
    exact ha

theorem mem_of_updated {rule : Rule} (h : (backend (.update rule) m).1 = .ok ()) :
    rule ∈ (backend (.update rule) m).2 := by
  rcases refuses_or_takes (.update rule) m with ⟨⟨fault, hf⟩, -⟩ | ⟨-, ht⟩
  · rw [hf] at h
    cases h
  · generalize (backend (.update rule) m).2 = m' at ht
    cases ht with
    | update hf => exact new_mem_replace hf

end Steps

theorem nodup_after (calls : List StoreCall) :
    ((backend.after calls []).map Rule.id).Nodup := by
  induction calls using List.reverseRecOn with
  | nil => exact List.nodup_nil
  | append_singleton calls call ih =>
    rw [Backend.after_append_singleton]
    exact nodup_step call ih

theorem checked_after {calls : List StoreCall}
    (hu : ∀ before rule, before ++ [.update rule] <+: calls →
      (backend (.update rule) (backend.after before [])).1 = .ok () → rule.check = .ok ()) :
    ∀ rule ∈ backend.after calls [], rule.check = .ok () := by
  induction calls using List.reverseRecOn with
  | nil => exact List.forall_mem_nil _
  | append_singleton calls call ih =>
    rw [Backend.after_append_singleton]
    refine checked_step (ih fun before rule hb => hu before rule ?_) ?_
    · exact hb.trans (List.prefix_append calls [call])
    · rintro rule rfl
      exact hu calls rule (List.prefix_refl _)

end Memory

namespace Table

theorem backend_snd (call : StoreCall) (t : Table) :
    (backend call t).2 = t ∨ ∃ request, (backend call t).2 = (serve request t).2 := by
  cases call with
  | all => exact .inl rfl
  | get id => exact .inl rfl
  | create rule =>
    by_cases ha : rule.actions = []
    · left
      rw [backend, Rule.check, if_pos ha]
      rfl
    · refine .inr ⟨.create rule, ?_⟩
      rw [backend, Rule.check, if_neg ha, serve]
      cases t.create rule <;> rfl
  | update rule =>
    by_cases ha : rule.actions = []
    · left
      rw [backend, Rule.check, if_pos ha]
      rfl
    · refine .inr ⟨.update rule, ?_⟩
      rw [backend, Rule.check, if_neg ha, serve]
      cases t.update rule <;> rfl
  | delete id =>
    refine .inr ⟨.delete id, ?_⟩
    rw [backend, serve]
    cases t.delete id <;> rfl

theorem after_eq_rows (calls : List StoreCall) :
    ∃ register : Register, backend.after calls [] = register.rows := by
  induction calls using List.reverseRecOn with
  | nil => exact ⟨Register.empty, rfl⟩
  | append_singleton calls call ih =>
    obtain ⟨register, hr⟩ := ih
    rw [Backend.after_append_singleton, hr]
    rcases backend_snd call register.rows with hs | ⟨request, hs⟩
    · exact ⟨register, hs⟩
    · exact ⟨_, hs.trans (register.serve_snd request)⟩

end Table

/-- The ids in the list stay different, and a refused call changes nothing. All rules pass their
check for as long as no update that is taken brings one that does not; in the table they always do. -/
theorem rules_pass_until_one_is_emptied (calls : List StoreCall) :
    ((Memory.backend.after calls []).map Rule.id).Nodup ∧
    (∀ call m fault, (Memory.backend call m).1 = .error fault → (Memory.backend call m).2 = m) ∧
    ((∀ before, before <+: calls → ∀ rule ∈ Memory.backend.after before [], rule.check = .ok ()) ↔
      ∀ before rule, before ++ [.update rule] <+: calls →
        (Memory.backend (.update rule) (Memory.backend.after before [])).1 = .ok () →
        rule.check = .ok ()) ∧
    ∃ rules, Table.backend.after calls [] = .ofRules rules ∧ (rules.map Rule.id).Nodup ∧
      ∀ rule ∈ rules, rule.check = .ok () := by
  refine ⟨Memory.nodup_after calls, ?_, ⟨?_, ?_⟩, ?_⟩
  · intro call m fault hf
    rcases Memory.refuses_or_takes call m with ⟨-, hs⟩ | ⟨⟨answer, ha⟩, -⟩
    · exact hs
    · rw [ha] at hf
      cases hf
  · intro h before rule hp hok
    refine h _ hp rule ?_
    rw [Backend.after_append_singleton]
    exact Memory.mem_of_updated hok
  · intro h before hp
    exact Memory.checked_after fun earlier rule he => h earlier rule (he.trans hp)
  · obtain ⟨register, hr⟩ := Table.after_eq_rows calls
    exact ⟨register.rules, hr, register.distinct,
      fun rule hm => rule.check_eq_ok_iff.mpr (register.acting rule hm)⟩

example :
    let rule : Rule := ⟨"r1", none, "u", (Instant.ofMillis? 0).get rfl, true, .onMessage, [.delete]⟩
    let calls : List StoreCall := [.create rule, .update { rule with actions := [] }]
    Memory.backend.after calls [] = [{ rule with actions := [] }] ∧
      Table.backend.after calls [] = .ofRules [rule] := by
  decide +kernel

end ChatRules
