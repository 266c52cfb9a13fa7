import Mathlib.Data.List.Forall2

namespace ChatRules

section Sequences
variable {α β ε : Type} {f : α → Except ε β} {l : List α} {results : List β} {fault : ε}

theorem mapM_cons_eq (f : α → Except ε β) (a : α) (l : List α) :
    (a :: l).mapM f = (f a).bind fun b => (l.mapM f).map (b :: ·) := by
  rw [List.mapM_cons]
  cases f a with
  | error _ => rfl
  | ok b => cases l.mapM f <;> rfl

theorem mapM_eq_ok_iff :
    l.mapM f = .ok results ↔ List.Forall₂ (fun a b => f a = .ok b) l results := by
  constructor
  · intro h
    induction l generalizing results with
    | nil =>
      cases h
      exact .nil
    | cons a l ih =>
      rw [mapM_cons_eq] at h
      cases ha : f a with
      | error _ =>
        rw [ha] at h
        cases h
      | ok b =>
        cases hl : l.mapM f with
        | error _ =>
          rw [ha, hl] at h
          cases h
        | ok rest =>
          rw [ha, hl] at h
          cases h
          exact .cons ha (ih hl)
  · intro h
    induction h with
    | nil => rfl
    | cons ha _ ih =>
      rw [mapM_cons_eq, ha, ih]
      rfl

theorem exists_mapM_iff : (∃ results, l.mapM f = .ok results) ↔ ∀ a ∈ l, ∃ b, f a = .ok b := by
  constructor
  · rintro ⟨results, h⟩ a ha
    have hall := mapM_eq_ok_iff.mp h
    induction hall with
    | nil => cases ha
    | cons hb hrest ih =>
      rcases List.mem_cons.mp ha with rfl | ha
      · exact ⟨_, hb⟩
      · exact ih (mapM_eq_ok_iff.mpr hrest) ha
  · intro h
    induction l with
    | nil => exact ⟨[], rfl⟩
    | cons a l ih =>
      obtain ⟨⟨b, hb⟩, hl⟩ := List.forall_mem_cons.mp h
      obtain ⟨results, hr⟩ := ih hl
      exact ⟨b :: results, mapM_eq_ok_iff.mpr (.cons hb (mapM_eq_ok_iff.mp hr))⟩

theorem mapM_append_error {before after : List α} {a : α}
    (hb : ∀ b ∈ before, ∃ c, f b = .ok c) (ha : f a = .error fault) :
    (before ++ a :: after).mapM f = .error fault := by
  induction before with
  | nil =>
    rw [List.nil_append, mapM_cons_eq, ha]
    rfl
  | cons b before ih =>
    obtain ⟨⟨c, hc⟩, hb⟩ := List.forall_mem_cons.mp hb
    rw [List.cons_append, mapM_cons_eq, hc, ih hb]
    rfl

theorem mapM_eq_error_iff :
    l.mapM f = .error fault ↔ ∃ before a after, l = before ++ a :: after ∧
      (∀ b ∈ before, ∃ c, f b = .ok c) ∧ f a = .error fault := by
  constructor
  · intro h
    induction l with
    | nil => cases h
    | cons a l ih =>
      rw [mapM_cons_eq] at h
      cases ha : f a with
      | error _ =>
        rw [ha] at h
        cases h
        exact ⟨[], a, l, rfl, List.forall_mem_nil _, ha⟩
      | ok b =>
        cases hl : l.mapM f with
        | ok _ =>
          rw [ha, hl] at h
          cases h
        | error _ =>
          rw [ha, hl] at h
          cases h
          obtain ⟨before, bad, after, rfl, hb, hf⟩ := ih hl
          exact ⟨a :: before, bad, after, rfl, List.forall_mem_cons.mpr ⟨⟨b, ha⟩, hb⟩, hf⟩
  · rintro ⟨before, a, after, rfl, hb, ha⟩
    exact mapM_append_error hb ha

end Sequences

end ChatRules
