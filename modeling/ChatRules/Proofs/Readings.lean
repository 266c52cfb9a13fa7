import ChatRules.Proofs.Letters

namespace ChatRules.Sentence.Phrase
open Text
variable {α β : Type} {p q : Phrase α} {f : α → Phrase β} {a : α} {b : β} {s t u : List Char}

theorem bind_apply : (p >>= f) s = (p s).flatMap fun r => f r.1 r.2 := rfl

theorem optional_apply (p : Phrase α) (s : List Char) :
    optional p s = (p s).map (fun r => (some r.1, r.2)) ++ [(none, s)] := by
  simp only [optional, either, andThen, give]
  rw [List.map_eq_flatMap]

theorem mem_bind {r : β × List Char} : r ∈ (p >>= f) s ↔ ∃ x ∈ p s, r ∈ f x.1 x.2 := by
  rw [bind_apply, List.mem_flatMap]

theorem bind_eq_nil (h : p s = []) : (p >>= f) s = [] := by
  rw [bind_apply, h, List.flatMap_nil]

theorem bind_of_eq_singleton (h : p s = [(a, t)]) : (p >>= f) s = f a t := by
  rw [bind_apply, h, List.flatMap_singleton]

theorem mem_one {k : Char → Bool} {r : Char × List Char} (h : r ∈ one k s) :
    s = r.1 :: r.2 ∧ k r.1 = true := by
  cases s with
  | nil => cases h
  | cons c rest =>
    rw [one] at h
    split at h
    · next hc =>
      rw [List.mem_singleton.mp h]
      exact ⟨rfl, hc⟩
    · cases h

theorem mem_run {k : Char → Bool} {r : List Char × List Char} (h : r ∈ run k s) :
    s = r.1 ++ r.2 ∧ r.1 ≠ [] ∧ ∀ c ∈ r.1, k c = true := by
  rw [run] at h
  split at h
  · cases h
  · next hn =>
    rw [List.mem_singleton.mp h]
    exact ⟨List.takeWhile_append_dropWhile.symm, hn, List.all_eq_true.mp List.all_takeWhile⟩

theorem optional_of_eq_nil (h : p s = []) : optional p s = [(none, s)] := by
  rw [optional_apply, h, List.map_nil, List.nil_append]

section Best

/-- The best reading of a text, and what it leaves. -/
def Reads (p : Phrase α) (s : List Char) (a : α) (t : List Char) : Prop :=
  (p s).head? = some (a, t)

theorem Reads.of_eq_cons {l : List (α × List Char)} (h : p s = (a, t) :: l) : Reads p s a t := by
  rw [Reads, h, List.head?_cons]

theorem Reads.eq_cons (h : Reads p s a t) : ∃ l, p s = (a, t) :: l :=
  List.head?_eq_some_iff.mp h

theorem reads_give (a : α) (s : List Char) : Reads (give a) s a s := rfl

theorem Reads.bind (hp : Reads p s a t) (hf : Reads (f a) t b u) : Reads (p >>= f) s b u := by
  obtain ⟨l, hl⟩ := hp.eq_cons
  obtain ⟨m, hm⟩ := hf.eq_cons
  rw [Reads, bind_apply, hl, List.flatMap_cons, hm]
  rfl

theorem Reads.either (h : Reads p s a t) : Reads (either p q) s a t := by
  obtain ⟨l, hl⟩ := h.eq_cons
  rw [Reads, Phrase.either, hl]
  rfl

theorem reads_either_of_eq_nil (hp : p s = []) (hq : Reads q s a t) : Reads (either p q) s a t := by
  rw [Reads, Phrase.either, hp, List.nil_append]
  exact hq

theorem Reads.optional (h : Reads p s a t) : Reads (optional p) s (some a) t := by
  obtain ⟨l, hl⟩ := h.eq_cons
  rw [Reads, optional_apply, hl]
  rfl

theorem reads_optional_of_eq_nil (h : p s = []) : Reads (Phrase.optional p) s none s :=
  .of_eq_cons (optional_of_eq_nil h)

end Best

section Parts

theorem letters_cons_cons (x c : Char) (xs rest : List Char) :
    letters (x :: xs) (c :: rest) = if sameLetter x c then letters xs rest else [] := by
  simp only [letters, andThen, one]
  split <;> simp

theorem letters_eq_nil_of_head {x : Char} (h : ∀ c ∈ s.head?, sameLetter x c = false)
    (xs : List Char) : letters (x :: xs) s = [] := by
  cases s with
  | nil => rfl
  | cons c rest => simp [letters_cons_cons, h c rfl]

theorem letters_append (w rest : List Char) : letters w (w ++ rest) = [((), rest)] := by
  induction w with
  | nil => rfl
  | cons x xs ih => rw [List.cons_append, letters_cons_cons, if_pos (sameLetter_self x), ih]

theorem word_append (w : String) (rest : List Char) : word w (w.toList ++ rest) = [((), rest)] :=
  letters_append w.toList rest

section Runs
variable {k : Char → Bool} {xs rest : List Char}

theorem takeWhile_append_of_stop (hk : ∀ c ∈ xs, k c = true) (hr : ∀ c ∈ rest.head?, k c = false) :
    (xs ++ rest).takeWhile k = xs := by
  have ht : rest.takeWhile k = [] := by
    cases rest with
    | nil => rfl
    | cons c rest => simp [hr c rfl]
  rw [List.takeWhile_append_of_pos hk, ht, List.append_nil]

theorem dropWhile_append_of_stop (hk : ∀ c ∈ xs, k c = true) (hr : ∀ c ∈ rest.head?, k c = false) :
    (xs ++ rest).dropWhile k = rest := by
  have hd : rest.dropWhile k = rest := by
    cases rest with
    | nil => rfl
    | cons c rest => simp [hr c rfl]
  rw [List.dropWhile_append_of_pos hk, hd]

theorem run_append (hx : xs ≠ []) (hk : ∀ c ∈ xs, k c = true)
    (hr : ∀ c ∈ rest.head?, k c = false) : run k (xs ++ rest) = [(xs, rest)] := by
  rw [run, takeWhile_append_of_stop hk hr, dropWhile_append_of_stop hk hr, if_neg hx]

end Runs

theorem run_eq_nil {k : Char → Bool} (h : ∀ c ∈ s.head?, k c = false) : run k s = [] := by
  cases s with
  | nil => rfl
  | cons c rest => simp [run, h c rfl]

theorem blanks_cons (h : ∀ c ∈ s.head?, isBlank c = false) : blanks (' ' :: s) = [([' '], s)] := by
  rw [blanks, ← List.singleton_append]
  exact run_append (by simp) (by simp [isBlank]) h

theorem quotedBy_eq_nil {x : Char} (h : ∀ c ∈ s.head?, c ≠ x) : quotedBy x s = [] := by
  refine bind_eq_nil ?_
  cases s with
  | nil => rfl
  | cons c rest => simp [one, h c rfl]

theorem quotedBy_append {x : Char} {text rest : List Char} (ht : text ≠ []) (hx : x ∉ text) :
    quotedBy x (x :: (text ++ x :: rest)) = [(text, rest)] := by
  have ho : one (· == x) (x :: (text ++ x :: rest)) = [(x, text ++ x :: rest)] := by simp [one]
  have hr : run (· != x) (text ++ x :: rest) = [(text, x :: rest)] := by
    refine run_append ht ?_ (by simp)
    intro c hc
    exact bne_iff_ne.mpr fun h => hx (h ▸ hc)
  have hc : one (· == x) (x :: rest) = [(x, rest)] := by simp [one]
  rw [quotedBy, bind_of_eq_singleton ho, bind_of_eq_singleton hr, bind_of_eq_singleton hc]
  rfl

theorem quoted_append {text : List Char} (ht : text ≠ []) (hq : '"' ∉ text) (rest : List Char) :
    quoted ('"' :: (text ++ '"' :: rest)) = [(text, rest)] := by
  rw [quoted, either, quotedBy_append ht hq, quotedBy_eq_nil (by simp), List.append_nil]

end Parts

section Names

inductive IsName : List Char → Prop
  | part {s : List Char} : s ≠ [] → (∀ c ∈ s, isNameChar c = true) → IsName s
  | dotted {s more : List Char} : s ≠ [] → (∀ c ∈ s, isNameChar c = true) → IsName more →
      IsName (s ++ '.' :: more)

theorem isName_of_all {n : List Char} (hn : n ≠ []) (h : n.all isNameChar = true) : IsName n :=
  .part hn (List.all_eq_true.mp h)

theorem IsName.ne_nil {n : List Char} (h : IsName n) : n ≠ [] := by
  cases h <;> simp [*]

theorem IsName.of_mem {n : List Char} (h : IsName n) {c : Char} (hc : c ∈ n) :
    isNameChar c = true ∨ c = '.' := by
  induction h with
  | part _ hs => exact .inl (hs c hc)
  | dotted _ hs _ ih =>
    rcases List.mem_append.mp hc with hc | hc
    · exact .inl (hs c hc)
    · rcases List.mem_cons.mp hc with rfl | hc
      · exact .inr rfl
      · exact ih hc

theorem IsName.not_mem {n : List Char} (h : IsName n) {x : Char} (hx : isNameChar x = false)
    (hd : x ≠ '.') : x ∉ n := by
  intro hm
  rcases h.of_mem hm with hn | hn
  · rw [hx] at hn
    cases hn
  · exact hd hn

theorem IsName.mark_not_mem {n : List Char} (h : IsName n) : ∀ c ∈ marks, c ∉ n := by
  intro c hc
  refine h.not_mem (isNameChar_mark c hc) ?_
  rintro rfl
  exact absurd hc (by decide)

theorem IsName.isBlank_eq_false {n : List Char} (h : IsName n) {c : Char} (hc : c ∈ n) :
    isBlank c = false := by
  rcases h.of_mem hc with hn | rfl
  · exact isBlank_of_isNameChar hn
  · decide

variable {n rest : List Char}

theorem isNameChar_of_blank_head (hr : ∀ c ∈ rest.head?, isBlank c = true) :
    ∀ c ∈ rest.head?, isNameChar c = false := by
  intro c hc
  refine Bool.eq_false_iff.mpr fun hn => ?_
  have hb := hr c hc
  rw [isBlank_of_isNameChar hn] at hb
  cases hb

theorem nameRest_of_blank_head (hr : ∀ c ∈ rest.head?, isBlank c = true) (fuel : Nat) :
    nameRest fuel rest = ([], rest) := by
  cases fuel with
  | zero => rfl
  | succ fuel =>
    cases rest with
    | nil => rfl
    | cons c rest =>
      have hc : c ≠ '.' := by
        rintro rfl
        exact absurd (hr '.' rfl) (by decide)
      simp [nameRest, hc]

theorem nameRest_dot (hn : IsName n) (hr : ∀ c ∈ rest.head?, isBlank c = true) {fuel : Nat}
    (hf : n.length < fuel) : nameRest fuel ('.' :: (n ++ rest)) = ('.' :: n, rest) := by
  induction hn generalizing fuel with
  | part hs hc =>
    obtain ⟨fuel, rfl⟩ := Nat.exists_eq_succ_of_ne_zero (Nat.ne_zero_of_lt hf)
    have hstop := isNameChar_of_blank_head hr
    simp only [nameRest, takeWhile_append_of_stop hc hstop, dropWhile_append_of_stop hc hstop,
      if_neg hs, nameRest_of_blank_head hr, List.append_nil]
  | @dotted s more hs hc hm ih =>
    obtain ⟨fuel, rfl⟩ := Nat.exists_eq_succ_of_ne_zero (Nat.ne_zero_of_lt hf)
    have hstop : ∀ c ∈ ('.' :: (more ++ rest)).head?, isNameChar c = false := by
      intro c h
      rw [← Option.some.inj h]
      decide
    have hlen : more.length < fuel := by
      simp only [List.length_append, List.length_cons] at hf
      omega
    rw [List.append_assoc, List.cons_append]
    simp only [nameRest, takeWhile_append_of_stop hc hstop, dropWhile_append_of_stop hc hstop,
      if_neg hs, ih hlen, List.cons_append]

theorem name_append (hn : IsName n) (hr : ∀ c ∈ rest.head?, isBlank c = true) :
    name (n ++ rest) = [(n, rest)] := by
  cases hn with
  | part hs hc =>
    rw [name, bind_of_eq_singleton (run_append hs hc (isNameChar_of_blank_head hr))]
    simp only [nameRest_of_blank_head hr, List.append_nil]
  | @dotted s more hs hc hm =>
    have hstop : ∀ c ∈ ('.' :: (more ++ rest)).head?, isNameChar c = false := by
      intro c h
      rw [← Option.some.inj h]
      decide
    have hlen : more.length < ('.' :: (more ++ rest)).length := by
      simp only [List.length_append, List.length_cons]
      omega
    rw [List.append_assoc, List.cons_append, name,
      bind_of_eq_singleton (run_append hs hc hstop)]
    simp only [nameRest_dot hm hr hlen]

theorem reads_nameAfter (sign : Char) (hn : IsName n) (hr : ∀ c ∈ rest.head?, isBlank c = true) :
    Reads (nameAfter sign) (sign :: (n ++ rest)) n rest := by
  have ho : Reads (one (· == sign)) (sign :: (n ++ rest)) sign (n ++ rest) :=
    .of_eq_cons (l := []) (by simp [one])
  exact ho.optional.bind (.of_eq_cons (name_append hn hr))

end Names

section Search

theorem search_of_reads (h : Reads p s a t) : search p false s = some (a, t) := by
  cases s with
  | nil => simpa [search, Reads] using h
  | cons c rest =>
    rw [Reads] at h
    simp [search, h]

theorem search_eq_none (h : ∀ t, t <:+ s → p t = []) (inWord : Bool) :
    search p inWord s = none := by
  induction s generalizing inWord with
  | nil => simp [search, h [] (List.suffix_refl [])]
  | cons c rest ih =>
    have hs := h (c :: rest) (List.suffix_refl _)
    have hr := ih fun t ht => h t (ht.trans (List.suffix_cons c rest))
    simp [search, hs, hr]

end Search

section Left

def Consumes (p : Phrase α) : Prop :=
  ∀ s, ∀ r ∈ p s, r.2 <:+ s

theorem consumes_give (a : α) : Consumes (give a) := by
  intro s r hr
  obtain rfl := List.mem_singleton.mp hr
  exact List.suffix_refl s

theorem Consumes.bind (hp : Consumes p) (hf : ∀ a, Consumes (f a)) : Consumes (p >>= f) := by
  intro s r hr
  obtain ⟨x, hx, hr⟩ := mem_bind.mp hr
  exact (hf x.1 x.2 r hr).trans (hp s x hx)

theorem Consumes.either (hp : Consumes p) (hq : Consumes q) : Consumes (either p q) := by
  intro s r hr
  rcases List.mem_append.mp hr with hr | hr
  · exact hp s r hr
  · exact hq s r hr

theorem Consumes.optional (hp : Consumes p) : Consumes (optional p) :=
  .either (hp.bind fun a => consumes_give (some a)) (consumes_give none)

theorem consumes_oneOf {ps : List (Phrase α)} (h : ∀ p ∈ ps, Consumes p) : Consumes (oneOf ps) := by
  induction ps with
  | nil => exact fun _ _ hr => absurd hr List.not_mem_nil
  | cons p ps ih =>
    have ⟨hp, hps⟩ := List.forall_mem_cons.mp h
    exact hp.either (ih hps)

theorem consumes_one (k : Char → Bool) : Consumes (one k) := by
  intro s r hr
  rw [(mem_one hr).1]
  exact List.suffix_cons r.1 r.2

theorem consumes_letters (w : List Char) : Consumes (letters w) := by
  induction w with
  | nil => exact consumes_give ()
  | cons x xs ih => exact (consumes_one _).bind fun _ => ih

theorem consumes_word (w : String) : Consumes (word w) :=
  consumes_letters w.toList

theorem consumes_run (k : Char → Bool) : Consumes (run k) := by
  intro s r hr
  rw [(mem_run hr).1]
  exact List.suffix_append r.1 r.2

theorem nameRest_suffix (fuel : Nat) (s : List Char) : (nameRest fuel s).2 <:+ s := by
  induction fuel generalizing s with
  | zero => exact List.suffix_refl s
  | succ fuel ih =>
    simp only [nameRest]
    split
    · next rest =>
      split
      · exact List.suffix_refl _
      · exact (ih _).trans ((List.dropWhile_suffix _).trans (List.suffix_cons _ rest))
    · exact List.suffix_refl _

theorem consumes_name : Consumes name := by
  refine (consumes_run _).bind fun first => ?_
  intro s r hr
  rw [List.mem_singleton.mp hr]
  exact nameRest_suffix s.length s

theorem consumes_nameAfter (sign : Char) : Consumes (nameAfter sign) :=
  (consumes_one _).optional.bind fun _ => consumes_name

end Left

section Quotes

def NeedsQuote (p : Phrase α) : Prop :=
  ∀ s, '"' ∉ s → '\'' ∉ s → p s = []

theorem NeedsQuote.bind (hp : NeedsQuote p) (f : α → Phrase β) : NeedsQuote (p >>= f) :=
  fun s hd hs => bind_eq_nil (hp s hd hs)

theorem Consumes.needsQuote (hp : Consumes p) (hf : ∀ a, NeedsQuote (f a)) :
    NeedsQuote (p >>= f) := by
  intro s hd hs
  refine List.flatMap_eq_nil_iff.mpr fun r hr => ?_
  have hsub := (hp s r hr).subset
  exact hf r.1 r.2 (fun h => hd (hsub h)) (fun h => hs (hsub h))

theorem needsQuote_quoted : NeedsQuote quoted := by
  intro s hd hs
  have h : ∀ x ∈ ['"', '\''], quotedBy x s = [] := by
    intro x hx
    refine quotedBy_eq_nil fun c hc hcx => ?_
    have hm : x ∈ s := hcx ▸ List.mem_of_mem_head? hc
    simp only [List.mem_cons, List.not_mem_nil, or_false] at hx
    rcases hx with rfl | rfl
    · exact hd hm
    · exact hs hm
  rw [quoted, either, h _ (by simp), h _ (by simp), List.append_nil]

theorem NeedsQuote.search_eq_none (h : NeedsQuote p) (hd : '"' ∉ s) (hs : '\'' ∉ s)
    (inWord : Bool) : search p inWord s = none := by
  refine Phrase.search_eq_none (fun t ht => ?_) inWord
  exact h t (fun hm => hd (ht.subset hm)) (fun hm => hs (ht.subset hm))

end Quotes

end ChatRules.Sentence.Phrase
