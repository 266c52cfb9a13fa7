import ChatRules.Proofs.Readings

namespace ChatRules.Sentence.Phrase
variable {α : Type} {p : Bool → Phrase α} {a : α} {c : Char} {part s t u : List Char}

/-- The parts of a text, each with what is read behind it; behind the last nothing is. The phrase may
ask whether the text begins where it stands. Given first are how many characters are still to be
passed over and whether the text begins here, then the part in progress, last character first. -/
def cutFrom (p : Bool → Phrase α) :
    Nat → Bool → List Char → List Char → List (List Char × Option α)
  | _, _, part, [] => [(part.reverse, none)]
  | passing + 1, _, part, _ :: rest => cutFrom p passing false part rest
  | 0, first, part, c :: rest =>
    match (p first (c :: rest)).head? with
    | some (a, left) =>
      (part.reverse, some a) :: cutFrom p (rest.length - left.length) false [] rest
    | none => cutFrom p 0 false (c :: part) rest

def cut (p : Bool → Phrase α) (s : List Char) : List (List Char × Option α) :=
  cutFrom p 0 true [] s

theorem cutFrom_nil (passing : Nat) (first : Bool) (part : List Char) :
    cutFrom p passing first part [] = [(part.reverse, none)] := by
  cases passing <;> rfl

theorem cutFrom_length (part u t : List Char) :
    cutFrom p u.length false part (u ++ t) = cutFrom p 0 false part t := by
  induction u with
  | nil => rfl
  | cons c u ih => exact ih

theorem cutFrom_of_reads {first : Bool} (h : Reads (p first) (u ++ t) a t) (hu : u ≠ []) :
    cutFrom p 0 first part (u ++ t) = (part.reverse, some a) :: cutFrom p 0 false [] t := by
  obtain ⟨c, u, rfl⟩ := List.exists_cons_of_ne_nil hu
  rw [Reads, List.cons_append] at h
  have hlen : (u ++ t).length - t.length = u.length := by
    rw [List.length_append, Nat.add_sub_cancel]
  rw [List.cons_append, cutFrom, h]
  simp only [hlen, cutFrom_length]

theorem cutFrom_of_eq_nil {first : Bool} (h : p first (c :: s) = []) :
    cutFrom p 0 first part (c :: s) = cutFrom p 0 false (c :: part) s := by
  rw [cutFrom, h]
  rfl

theorem cutFrom_append (h : ∀ v, v ≠ [] → v <:+ u → p false (v ++ t) = []) (part : List Char) :
    cutFrom p 0 false part (u ++ t) = cutFrom p 0 false (u.reverse ++ part) t := by
  induction u generalizing part with
  | nil => rfl
  | cons c u ih =>
    have hc := h (c :: u) (List.cons_ne_nil _ _) (List.suffix_refl _)
    rw [List.cons_append] at hc ⊢
    rw [cutFrom_of_eq_nil hc, ih fun v hn hv => h v hn (hv.trans (List.suffix_cons c u))]
    simp

theorem cutFrom_append_of_first {first : Bool} (hu : u ≠ []) (hf : p first (u ++ t) = [])
    (h : ∀ v, v ≠ [] → v <:+ u → p false (v ++ t) = []) (part : List Char) :
    cutFrom p 0 first part (u ++ t) = cutFrom p 0 false (u.reverse ++ part) t := by
  obtain ⟨c, u, rfl⟩ := List.exists_cons_of_ne_nil hu
  rw [List.cons_append] at hf ⊢
  rw [cutFrom_of_eq_nil hf, cutFrom_append fun v hn hv => h v hn (hv.trans (List.suffix_cons c u))]
  simp

end ChatRules.Sentence.Phrase
