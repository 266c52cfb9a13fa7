import Mathlib.Data.List.Basic

namespace ChatRules

section Parts
variable {α : Type} {p : α → Bool} {l part : List α}

/-- The longest parts without members of the kind, less empty ones. -/
def parts (p : α → Bool) (l : List α) : List (List α) :=
  (l.splitOnP p).filter fun part => !part.isEmpty

theorem parts_induction {P : List α → Prop} (clear : ∀ part, (∀ a ∈ part, p a = false) → P part)
    (parted : ∀ part a rest, (∀ b ∈ part, p b = false) → p a = true → P rest →
      P (part ++ a :: rest)) (l : List α) : P l := by
  have hpart : ∀ part : List α, (∀ a ∈ part, p a = false) → P (part ++ l) := by
    induction l with
    | nil => exact fun part hc => (List.append_nil part).symm ▸ clear part hc
    | cons a rest ih =>
      intro part hc
      cases ha : p a with
      | true => exact parted part a rest hc ha (ih [] (List.forall_mem_nil _))
      | false =>
        rw [List.append_cons]
        exact ih _ (List.forall_mem_append.mpr ⟨hc, by simpa using ha⟩)
  exact hpart [] (List.forall_mem_nil _)

theorem parts_of_clear (h : ∀ a ∈ l, p a = false) : parts p l = if l = [] then [] else [l] := by
  rw [parts, List.splitOnP_eq_singleton h]
  cases l <;> rfl

theorem parts_append_cons {a : α} (ha : p a = true) (l rest : List α) :
    parts p (l ++ a :: rest) = parts p l ++ parts p rest := by
  rw [parts, List.splitOnP_append_cons _ _ ha, List.filter_append]
  rfl

theorem flatten_parts (p : α → Bool) (l : List α) :
    (parts p l).flatten = l.filter fun a => !p a := by
  have hclear : ∀ l : List α, (∀ a ∈ l, p a = false) →
      (parts p l).flatten = l.filter fun a => !p a := by
    intro l h
    rw [parts, List.flatten_filter_not_isEmpty, List.splitOnP_eq_singleton h,
      List.flatten_singleton, List.filter_eq_self.mpr (by simpa using h)]
  induction l using parts_induction (p := p) with
  | clear part hc => exact hclear part hc
  | parted part a rest hc ha ih =>
    rw [parts_append_cons ha, List.flatten_append, hclear part hc, ih]
    simp [ha]

theorem ne_nil_of_mem_parts (h : part ∈ parts p l) : part ≠ [] := by
  have he := (List.mem_filter.mp h).2
  simpa using he

theorem mem_of_mem_parts (h : part ∈ parts p l) {a : α} (ha : a ∈ part) : a ∈ l := by
  have hf : a ∈ (parts p l).flatten := List.mem_flatten.mpr ⟨part, h, ha⟩
  rw [flatten_parts] at hf
  exact List.mem_of_mem_filter hf

end Parts

section Sorted
variable {p : Nat → Bool} {l before after part : List Nat} {a i j k : Nat}

theorem mem_sides_iff (h : (before ++ a :: after).Pairwise (· < ·)) :
    (k ∈ before ↔ k ∈ before ++ a :: after ∧ k < a) ∧
      (k ∈ after ↔ k ∈ before ++ a :: after ∧ a < k) := by
  obtain ⟨-, hafter, hbefore⟩ := List.pairwise_append.mp h
  have hb : ∀ k ∈ before, k < a := fun k hk => hbefore k hk a List.mem_cons_self
  have ha : ∀ k ∈ after, a < k := (List.pairwise_cons.mp hafter).1
  simp only [List.mem_append, List.mem_cons]
  constructor
  · refine ⟨fun hk => ⟨.inl hk, hb k hk⟩, ?_⟩
    rintro ⟨hk | rfl | hk, hlt⟩
    · exact hk
    · exact absurd hlt (Nat.lt_irrefl k)
    · exact absurd hlt (Nat.lt_asymm (ha k hk))
  · refine ⟨fun hk => ⟨.inr (.inr hk), ha k hk⟩, ?_⟩
    rintro ⟨hk | rfl | hk, hlt⟩
    · exact absurd hlt (Nat.lt_asymm (hb k hk))
    · exact absurd hlt (Nat.lt_irrefl k)
    · exact hk

theorem clear_between_of_same_part (hl : l.Pairwise (· < ·)) (hp : part ∈ parts p l)
    (hi : i ∈ part) (hj : j ∈ part) (hk : k ∈ l) (hik : i < k) (hkj : k < j) : p k = false := by
  induction l using parts_induction (p := p) with
  | clear l hc => exact hc k hk
  | parted l a rest hc ha ih =>
    rw [parts_append_cons ha] at hp
    rcases List.mem_append.mp hp with hp | hp
    · have hja := ((mem_sides_iff hl).1.mp (mem_of_mem_parts hp hj)).2
      exact hc k ((mem_sides_iff hl).1.mpr ⟨hk, Nat.lt_trans hkj hja⟩)
    · have hai := ((mem_sides_iff hl).2.mp (mem_of_mem_parts hp hi)).2
      have hrest := (List.pairwise_append.mp hl).2.1.of_cons
      exact ih hrest hp ((mem_sides_iff hl).2.mpr ⟨hk, Nat.lt_trans hai hik⟩)

theorem same_part_of_clear_between (hl : l.Pairwise (· < ·)) (hi : i ∈ l) (hj : j ∈ l)
    (hij : i < j) (hpi : p i = false) (hpj : p j = false)
    (h : ∀ k ∈ l, i < k → k < j → p k = false) : ∃ part ∈ parts p l, i ∈ part ∧ j ∈ part := by
  induction l using parts_induction (p := p) with
  | clear l hc =>
    rw [parts_of_clear hc, if_neg (List.ne_nil_of_mem hi)]
    exact ⟨l, List.mem_singleton_self l, hi, hj⟩
  | parted l a rest hc ha ih =>
    have ham : a ∈ l ++ a :: rest := List.mem_append_right _ List.mem_cons_self
    have hia : i ≠ a := by
      rintro rfl
      simp [hpi] at ha
    have hja : j ≠ a := by
      rintro rfl
      simp [hpj] at ha
    rw [parts_append_cons ha]
    rcases Nat.lt_or_gt_of_ne hia with hlt | hlt
    · -- Were the other behind the member of the kind, that one would lie between them.
      have hjlt : j < a := by
        refine Nat.lt_of_not_le fun hle => ?_
        rw [h a ham hlt (Nat.lt_of_le_of_ne hle hja.symm)] at ha
        cases ha
      have hil := (mem_sides_iff hl).1.mpr ⟨hi, hlt⟩
      refine ⟨l, ?_, hil, (mem_sides_iff hl).1.mpr ⟨hj, hjlt⟩⟩
      rw [parts_of_clear hc, if_neg (List.ne_nil_of_mem hil)]
      exact List.mem_cons_self
    · have hrest := (List.pairwise_append.mp hl).2.1.of_cons
      have hir := (mem_sides_iff hl).2.mpr ⟨hi, hlt⟩
      have hjr := (mem_sides_iff hl).2.mpr ⟨hj, Nat.lt_trans hlt hij⟩
      obtain ⟨part, hp, hip, hjp⟩ := ih hrest hir hjr fun k hk =>
        h k (List.mem_append_right _ (List.mem_cons_of_mem _ hk))
      exact ⟨part, List.mem_append_right _ hp, hip, hjp⟩

end Sorted

end ChatRules
