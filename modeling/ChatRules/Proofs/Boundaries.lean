import ChatRules.Proofs.Readings
import ChatRules.Sentence.Clause

namespace ChatRules
open Text Sentence Phrase

namespace Sentence.Phrase

section Boundary
variable {α β : Type} {p : Phrase α} {s t : List Char}

def inWordAfter : Bool → List Char → Bool
  | inWord, [] => inWord
  | _, c :: rest => inWordAfter (isWord c) rest

theorem inWordAfter_append (inWord : Bool) (s t : List Char) :
    inWordAfter inWord (s ++ t) = inWordAfter (inWordAfter inWord s) t := by
  induction s generalizing inWord with
  | nil => rfl
  | cons c rest ih => exact ih (isWord c)

theorem isSome_search_append {inWord : Bool}
    (h : (search p (inWordAfter inWord s) t).isSome = true) :
    (search p inWord (s ++ t)).isSome = true := by
  induction s generalizing inWord with
  | nil => exact h
  | cons c rest ih =>
    have hr := ih h
    simp only [List.cons_append, search]
    split
    · rfl
    · exact hr

theorem exists_of_search_eq_some {inWord : Bool} {r : α × List Char}
    (h : search p inWord s = some r) :
    ∃ u v, s = u ++ v ∧ inWordAfter inWord u = false ∧ r ∈ p v := by
  induction s generalizing inWord with
  | nil =>
    cases inWord with
    | true => cases h
    | false => exact ⟨[], [], rfl, rfl, List.mem_of_mem_head? h⟩
  | cons c rest ih =>
    rw [search] at h
    split at h
    next found hf =>
      cases inWord with
      | true => cases hf
      | false =>
        cases h
        exact ⟨[], c :: rest, rfl, rfl, List.mem_of_mem_head? hf⟩
    next =>
      obtain ⟨u, v, rfl, hu, hv⟩ := ih h
      exact ⟨c :: u, v, rfl, hu, hv⟩

def StartsWord (p : Phrase α) : Prop :=
  ∀ s, (∀ c ∈ s.head?, isWord c = false) → p s = []

theorem StartsWord.bind (hp : StartsWord p) (f : α → Phrase β) : StartsWord (p >>= f) :=
  fun s hs => bind_eq_nil (hp s hs)

theorem startsWord_oneOf {ps : List (Phrase α)} (h : ∀ p ∈ ps, StartsWord p) :
    StartsWord (oneOf ps) := by
  induction ps with
  | nil => exact fun _ _ => rfl
  | cons p ps ih =>
    have ⟨hp, hps⟩ := List.forall_mem_cons.mp h
    intro s hs
    rw [oneOf, either, hp s hs, ih hps s hs, List.append_nil]

theorem startsWord_letters {x : Char} (hx : x ∈ ['s', 'r', 'n', 'w']) (xs : List Char) :
    StartsWord (letters (x :: xs)) := by
  have hall : ['s', 'r', 'n', 'w'].all (fun x => isFolded x &&
      (x.toNat :: CaseRun.preimages foldRuns x.toNat).all wordChars.memCode) = true := by
    decide +kernel
  have hf := List.all_eq_true.mp hall x hx
  rw [Bool.and_eq_true, List.all_eq_true] at hf
  intro s hs
  refine letters_eq_nil_of_head (fun c hc => ?_) xs
  refine Bool.eq_false_iff.mpr fun hl => ?_
  have hw : isWord c = true := by
    refine hf.2 _ ?_
    rcases of_sameLetter hf.1 hl with rfl | h
    · exact List.mem_cons_self
    · exact List.mem_cons_of_mem _ h
  rw [hs c hc] at hw
  cases hw

theorem StartsWord.search_eq (hp : StartsWord p) (hs : ∀ c ∈ s.head?, isWord c = false)
    (inWord : Bool) : search p inWord s = search p false s := by
  have hn := hp s hs
  cases s with
  | nil => cases inWord <;> simp [search, hn]
  | cons c rest => cases inWord <;> simp [search, hn]

/-- A reading does not stop inside a word that goes on behind it. -/
def EndsApart (p : Phrase α) : Prop :=
  ∀ s, ∀ r ∈ p s, ∃ u, s = u ++ r.2 ∧
    ∀ inWord, inWordAfter inWord u = true → ∀ c ∈ r.2.head?, isWord c = false

theorem Consumes.endsApart (hp : Consumes p) {f : α → Phrase β} (hf : ∀ a, EndsApart (f a)) :
    EndsApart (p >>= f) := by
  intro s r hr
  obtain ⟨x, hx, hr⟩ := mem_bind.mp hr
  obtain ⟨u, hu⟩ := hp s x hx
  obtain ⟨v, hv, ha⟩ := hf x.1 x.2 r hr
  refine ⟨u ++ v, ?_, fun inWord => ?_⟩
  · rw [← hu, hv, List.append_assoc]
  · rw [inWordAfter_append]
    exact ha _

theorem EndsApart.consumes (hp : EndsApart p) : Consumes p := by
  intro s r hr
  obtain ⟨u, hu, -⟩ := hp s r hr
  exact ⟨u, hu.symm⟩

theorem EndsApart.map (hp : EndsApart p) (g : α → β) :
    EndsApart (p >>= fun a => give (g a)) := by
  intro s r hr
  obtain ⟨x, hx, hr⟩ := mem_bind.mp hr
  rw [List.mem_singleton.mp hr]
  exact hp s x hx

theorem EndsApart.bind_optional {γ : Type} (hp : EndsApart p) {q : Phrase β} (hq : EndsApart q)
    (g : α → Option β → γ) :
    EndsApart (p >>= fun a => optional q >>= fun b => give (g a b)) := by
  intro s r hr
  obtain ⟨x, hx, hr⟩ := mem_bind.mp hr
  obtain ⟨y, hy, hr⟩ := mem_bind.mp hr
  rw [List.mem_singleton.mp hr]
  obtain ⟨u, hu, ha⟩ := hp s x hx
  rw [optional_apply] at hy
  rcases List.mem_append.mp hy with hy | hy
  · obtain ⟨z, hz, rfl⟩ := List.mem_map.mp hy
    obtain ⟨v, hv, hb⟩ := hq x.2 z hz
    refine ⟨u ++ v, ?_, fun inWord => ?_⟩
    · rw [hu, hv, List.append_assoc]
    · rw [inWordAfter_append]
      exact hb _
  · rw [List.mem_singleton.mp hy]
    exact ⟨u, hu, ha⟩

theorem endsApart_quotedBy {x : Char} (hx : isWord x = false) : EndsApart (quotedBy x) := by
  have hone : EndsApart (one (· == x)) := by
    intro s r hr
    cases s with
    | nil => cases hr
    | cons c rest =>
      rw [one] at hr
      split at hr
      next hc =>
        rw [List.mem_singleton.mp hr]
        refine ⟨[c], rfl, fun inWord hw => ?_⟩
        rw [inWordAfter, inWordAfter, beq_iff_eq.mp hc, hx] at hw
        cases hw
      next => cases hr
  exact (consumes_one _).endsApart fun _ => (consumes_run _).endsApart fun _ => hone.map _

theorem endsApart_quoted : EndsApart quoted := by
  intro s r hr
  rcases List.mem_append.mp hr with hr | hr
  · exact endsApart_quotedBy (isWord_mark (by decide)) s r hr
  · exact endsApart_quotedBy (isWord_mark (by decide)) s r hr

theorem Consumes.endsApart_of_stop (hp : Consumes p)
    (hs : ∀ s, ∀ r ∈ p s, ∀ c ∈ r.2.head?, isWord c = false) : EndsApart p := by
  intro s r hr
  obtain ⟨u, hu⟩ := hp s r hr
  exact ⟨u, hu.symm, fun _ _ => hs s r hr⟩

theorem isNameChar_of_head?_nameRest (fuel : Nat) (hs : ∀ c ∈ s.head?, isNameChar c = false) :
    ∀ c ∈ (nameRest fuel s).2.head?, isNameChar c = false := by
  induction fuel generalizing s with
  | zero => exact hs
  | succ fuel ih =>
    simp only [nameRest]
    split
    next rest =>
      split
      · exact hs
      · refine ih fun c hc => ?_
        have hd := List.head?_dropWhile_not isNameChar rest
        rw [hc] at hd
        exact hd
    next => exact hs

theorem endsApart_name : EndsApart name := by
  refine consumes_name.endsApart_of_stop fun s r hr c hc => ?_
  obtain ⟨x, hx, hr⟩ := mem_bind.mp hr
  have hstop : ∀ d ∈ x.2.head?, isNameChar d = false := by
    intro d hd
    rw [run] at hx
    split at hx
    · cases hx
    · have hn := List.head?_dropWhile_not isNameChar s
      rw [List.mem_singleton.mp hx] at hd
      rw [hd] at hn
      exact hn
  rw [List.mem_singleton.mp hr] at hc
  have hn := isNameChar_of_head?_nameRest x.2.length hstop c hc
  rw [isNameChar, Bool.or_eq_false_iff] at hn
  exact hn.1

theorem endsApart_nameAfter (sign : Char) : EndsApart (nameAfter sign) :=
  (consumes_one _).optional.endsApart fun _ => endsApart_name

theorem endsApart_wordEnd : EndsApart wordEnd := by
  have hc : Consumes wordEnd := by
    intro s r hr
    rw [wordEnd] at hr
    split at hr
    · cases hr
    · obtain rfl := List.mem_singleton.mp hr
      exact List.suffix_refl s
  refine hc.endsApart_of_stop fun s r hr c hc => ?_
  rw [wordEnd] at hr
  split at hr
  next => cases hr
  next hw =>
    rw [List.mem_singleton.mp hr] at hc
    rw [hc] at hw
    exact Bool.eq_false_iff.mpr hw

end Boundary

end Sentence.Phrase

namespace Cue

theorem consumes_saying : Consumes saying := by
  refine Consumes.bind (consumes_oneOf ?_) fun _ =>
    (consumes_word _).optional.bind fun _ => (consumes_run _).bind fun _ => consumes_give ()
  intro p hp
  simp only [List.mem_cons, List.not_mem_nil, or_false] at hp
  rcases hp with rfl | rfl <;> exact consumes_word _

theorem consumes_anyUser : Consumes (oneOf (anyUserWords.map word)) := by
  refine consumes_oneOf fun p hp => ?_
  obtain ⟨w, -, rfl⟩ := List.mem_map.mp hp
  exact consumes_word w

theorem consumes_inRoom : Consumes inRoom :=
  (consumes_word _).bind fun _ => (consumes_run _).bind fun _ => consumes_nameAfter _

theorem consumes_subject : Consumes subject :=
  .optional ((consumes_nameAfter _).bind fun _ => (consumes_run _).bind fun _ => consumes_give _)

theorem consumes_roomBefore : Consumes roomBefore :=
  .optional (consumes_inRoom.bind fun _ => (consumes_run _).bind fun _ => consumes_give _)

theorem endsApart_roomAfter : EndsApart roomAfter :=
  (consumes_run _).endsApart fun _ => (consumes_word _).endsApart fun _ =>
    (consumes_run _).endsApart fun _ => endsApart_nameAfter _

theorem endsApart_of_mem_forms {form : Phrase Cue} (h : form ∈ forms) : EndsApart form := by
  simp only [forms, List.mem_cons, List.not_mem_nil, or_false] at h
  rcases h with rfl | rfl | rfl
  · exact (consumes_word _).endsApart fun _ => (consumes_run _).endsApart fun _ =>
      consumes_anyUser.endsApart fun _ => (consumes_run _).endsApart fun _ =>
      consumes_saying.endsApart fun _ => endsApart_quoted.consumes.endsApart fun _ =>
      endsApart_roomAfter.map _
  · exact (consumes_word _).endsApart fun _ => (consumes_run _).endsApart fun _ =>
      consumes_subject.endsApart fun _ => consumes_roomBefore.endsApart fun _ =>
      consumes_saying.endsApart fun _ => endsApart_quoted.bind_optional endsApart_roomAfter _
  · have hi : Consumes (optional do word "is"; blanks) :=
      .optional ((consumes_word _).bind fun _ => consumes_run _)
    exact (consumes_word _).endsApart fun _ => (consumes_run _).endsApart fun _ =>
      consumes_subject.endsApart fun _ => consumes_roomBefore.endsApart fun _ =>
      hi.endsApart fun _ => (consumes_word _).endsApart fun _ => endsApart_wordEnd.map _

end Cue

namespace Response

theorem startsWord_send : StartsWord send := by
  refine (startsWord_oneOf fun p hp => ?_).bind _
  simp only [List.mem_cons, List.not_mem_nil, or_false] at hp
  rcases hp with rfl | rfl
  · exact startsWord_letters (by decide) "end".toList
  · exact (startsWord_letters (by decide) "eply".toList).bind _

theorem startsWord_of_mem_forms {form : Phrase Response} (h : form ∈ forms) : StartsWord form := by
  simp only [forms, List.mem_cons, List.not_mem_nil, or_false] at h
  rcases h with rfl | rfl | rfl
  · exact startsWord_send.bind _
  · exact startsWord_send.bind _
  · exact (startsWord_letters (by decide) "otify".toList).bind _

theorem isSome_find? {s : List Char} :
    (find? s).isSome = true ↔ ∃ form ∈ forms, (form.search false s).isSome = true := by
  rw [find?, List.findSome?_isSome_iff]
  simp only [Option.isSome_map]

theorem isSome_find?_of_behind {text after : List Char} {cue : Cue}
    (hc : Cue.find? text = some (cue, after)) (hr : (find? after).isSome = true) :
    (find? text).isSome = true := by
  obtain ⟨form, hform, hsearch⟩ := List.exists_of_findSome?_eq_some hc
  obtain ⟨u, v, rfl, hu, hv⟩ := exists_of_search_eq_some hsearch
  obtain ⟨w, rfl, hw⟩ := Cue.endsApart_of_mem_forms hform v _ hv
  obtain ⟨response, hresponse, hfound⟩ := isSome_find?.mp hr
  refine isSome_find?.mpr ⟨response, hresponse, isSome_search_append ?_⟩
  rw [hu]
  refine isSome_search_append ?_
  cases hin : inWordAfter false w with
  | false => exact hfound
  | true =>
    rw [(startsWord_of_mem_forms hresponse).search_eq (hw false hin)]
    exact hfound

end Response

end ChatRules
