import ChatRules.Proofs.RowForm
import ChatRules.Dispatch

namespace ChatRules

namespace Memory

theorem replace_eq_changeRule {new : Rule} {m : Memory} (hn : (m.map Rule.id).Nodup) :
    m.replace new = changeRule new.id (fun _ => new) m := by
  induction m with
  | nil => rfl
  | cons rule rest ih =>
    obtain ⟨hr, hn⟩ := List.nodup_cons.mp hn
    rw [replace, changeRule_cons]
    by_cases hid : rule.id = new.id
    · rw [hid] at hr
      rw [if_pos hid, if_pos hid, changeRule_of_not_mem hr]
    · rw [if_neg hid, if_neg hid, ih hn]

theorem id_of_get {id : String} {rule : Rule} {m : Memory} (h : m.get id = some rule) :
    rule.id = id := by
  simpa using List.find?_some h

theorem any_of_get {id : String} {rule : Rule} {m : Memory} (h : m.get id = some rule) :
    m.any (·.id == id) = true :=
  List.any_eq_true.mpr ⟨rule, List.mem_of_find?_eq_some h, beq_iff_eq.mpr (id_of_get h)⟩

theorem backend_create {rule : Rule} {m : Memory} (ha : rule.actions ≠ [])
    (h : ¬ m.any (·.id == rule.id) = true) :
    backend (.create rule) m = (.ok (), m ++ [rule]) := by
  have hc : m.create rule = .ok (m ++ [rule]) := by
    rw [create, Rule.check, if_neg ha]
    exact if_neg h
  rw [backend, hc, commit]

theorem create_of_taken {rule : Rule} {m : Memory} (ha : rule.actions ≠ [])
    (h : m.any (·.id == rule.id) = true) :
    m.create rule = .error (.store ("duplicate rule id " ++ rule.id)) := by
  rw [create, Rule.check, if_neg ha]
  exact if_pos h

theorem of_isOk_create {rule : Rule} {m : Memory} (ha : rule.actions ≠ [])
    (h : Host.isOk (backend (.create rule) m).1 = true) : ¬ m.any (·.id == rule.id) = true := by
  intro hd
  rw [backend, create_of_taken ha hd] at h
  cases h

theorem nodup_append {rule : Rule} {m : Memory} (hn : (m.map Rule.id).Nodup)
    (h : ¬ m.any (·.id == rule.id) = true) : ((m ++ [rule]).map Rule.id).Nodup := by
  rw [List.map_append, List.map_singleton, List.nodup_append_comm]
  refine List.nodup_cons.mpr ⟨fun hm => h ?_, hn⟩
  obtain ⟨r, hr, hid⟩ := List.mem_map.mp hm
  exact List.any_eq_true.mpr ⟨r, hr, beq_iff_eq.mpr hid⟩

theorem nodup_filter {m : Memory} (hn : (m.map Rule.id).Nodup) (id : String) :
    ((m.filter (·.id != id)).map Rule.id).Nodup :=
  hn.sublist (List.filter_sublist.map Rule.id)

theorem nodup_switch {m : Memory} (hn : (m.map Rule.id).Nodup) (id : String) (enabled : Bool) :
    ((switchRule id enabled m).map Rule.id).Nodup := by
  rw [ids_switchRule]
  exact hn

theorem not_mem_of_get {id : String} {m : Memory} (h : m.get id = none) :
    id ∉ m.map Rule.id := by
  intro hm
  obtain ⟨rule, hr, hid⟩ := List.mem_map.mp hm
  exact List.find?_eq_none.mp h rule hr (beq_iff_eq.mpr hid)

theorem filter_of_not_mem {id : String} {m : Memory} (h : id ∉ m.map Rule.id) :
    m.filter (·.id != id) = m := by
  refine List.filter_eq_self.mpr fun rule hr => bne_iff_ne.mpr fun hid => h ?_
  exact hid ▸ List.mem_map_of_mem hr

theorem backend_switch {id : String} {rule : Rule} {m : Memory} (hn : (m.map Rule.id).Nodup)
    (hg : m.get id = some rule) (enabled : Bool) :
    backend (.update { rule with enabled := enabled }) m =
      (.ok (), switchRule id enabled m) := by
  obtain rfl := id_of_get hg
  have hc : changeRule rule.id (fun _ => { rule with enabled := enabled }) m =
      switchRule rule.id enabled m := by
    refine changeRule_congr fun old ho hid => ?_
    obtain rfl := eq_of_find hn hg ho hid
    rfl
  have hu : m.update { rule with enabled := enabled } =
      .ok (switchRule rule.id enabled m) := by
    rw [update, if_pos (any_of_get hg), replace_eq_changeRule hn, hc]
  rw [backend, hu, commit]

theorem backend_delete {id : String} {rule : Rule} {m : Memory} (hg : m.get id = some rule) :
    backend (.delete id) m = (.ok (), m.filter (·.id != id)) := by
  rw [backend, delete, if_pos (any_of_get hg), commit]

end Memory

namespace Table
open Host (isOk)
variable {rules : List Rule}

theorem backend_all (h : rules.any Rule.isBeyond = false) :
    backend .all (ofRules rules) = (.ok (rules.map Rule.rounded), ofRules rules) := by
  rw [backend, list_ofRules, Rule.mapM_reread h]
  rfl

theorem not_beyond_of_isOk_all (h : isOk (backend .all (ofRules rules)).1 = true) :
    rules.any Rule.isBeyond = false := by
  rw [Bool.eq_false_iff]
  intro hb
  obtain ⟨fault, hf⟩ := Rule.mapM_reread_beyond hb
  rw [backend, list_ofRules, hf] at h
  cases h

theorem backend_get {id : String} (h : (Memory.get id rules).any Rule.isBeyond = false) :
    backend (.get id) (ofRules rules) =
      (.ok ((Memory.get id rules).map Rule.rounded), ofRules rules) := by
  rw [backend, get_ofRules]
  rw [Memory.get] at h ⊢
  cases hf : rules.find? (·.id == id) with
  | none => rfl
  | some rule =>
    rw [hf] at h
    simp only [Rule.reread_of_not_beyond h]
    rfl

theorem not_beyond_of_isOk_get {id : String}
    (h : isOk (backend (.get id) (ofRules rules)).1 = true) :
    (Memory.get id rules).any Rule.isBeyond = false := by
  rw [backend, get_ofRules] at h
  rw [Memory.get]
  cases hf : rules.find? (·.id == id) with
  | none => rfl
  | some rule =>
    refine Bool.eq_false_iff.mpr fun hb : rule.isBeyond = true => ?_
    simp only [hf, Rule.reread_of_beyond hb] at h
    cases h

theorem backend_append {rule : Rule} {t : Table} (ha : rule.actions ≠ [])
    (h : ¬ t.has rule.id = true) :
    backend (.create rule) t = (.ok (), t ++ [Row.ofRule rule]) := by
  have hr : ¬ t.has (Row.ofRule rule).id = true := h
  rw [backend, Rule.check, if_neg ha, create, if_neg ha, append, if_neg hr]
  rfl

theorem backend_create {rule : Rule} (ha : rule.actions ≠ [])
    (h : ¬ rules.any (·.id == rule.id) = true) :
    backend (.create rule) (ofRules rules) = (.ok (), ofRules (rules ++ [rule])) := by
  rw [append_ofRules]
  exact backend_append ha (has_ofRules rule.id rules ▸ h)

theorem not_has_of_isOk_create {rule : Rule} {t : Table} (ha : rule.actions ≠ [])
    (h : isOk (backend (.create rule) t).1 = true) : ¬ t.has rule.id = true := by
  intro hd
  have hh : t.has (Row.ofRule rule).id = true := hd
  rw [backend, Rule.check, if_neg ha, create, if_neg ha, append, if_pos hh] at h
  cases h

theorem new_of_isOk_create {rule : Rule} (ha : rule.actions ≠ [])
    (h : isOk (backend (.create rule) (ofRules rules)).1 = true) :
    ¬ rules.any (·.id == rule.id) = true :=
  has_ofRules rule.id rules ▸ not_has_of_isOk_create ha h

theorem backend_switch {id : String} {rule : Rule} (hn : (rules.map Rule.id).Nodup)
    (hg : Memory.get id rules = some rule) (ha : rule.actions ≠ []) (enabled : Bool) :
    backend (.update { rule.rounded with enabled := enabled }) (ofRules rules) =
      (.ok (), ofRules (switchRule id enabled rules)) := by
  obtain rfl := Memory.id_of_get hg
  have ha' : ¬ rule.rounded.actions = [] := ha
  have hh : (ofRules rules).has rule.id = true := by
    rw [has_ofRules]
    exact Memory.any_of_get hg
  have hu : (ofRules rules).update { rule.rounded with enabled := enabled } =
      .ok (ofRules (switchRule rule.id enabled rules)) := by
    rw [update, if_neg ha', ← switch_ofRules hn hg]
    exact if_pos hh
  rw [backend, Rule.check, if_neg ha', hu]
  rfl

theorem actions_of_isOk_update {rule : Rule} {t : Table}
    (h : isOk (backend (.update rule) t).1 = true) : rule.actions ≠ [] := by
  intro ha
  rw [backend, Rule.check, if_pos ha] at h
  cases h

theorem backend_delete {id : String} {rule : Rule} (hg : Memory.get id rules = some rule) :
    backend (.delete id) (ofRules rules) = (.ok (), ofRules (rules.filter (·.id != id))) := by
  have hh : (ofRules rules).has id = true := by
    rw [has_ofRules]
    exact Memory.any_of_get hg
  rw [backend, delete, if_pos hh, filter_ofRules]
  rfl

end Table

end ChatRules
