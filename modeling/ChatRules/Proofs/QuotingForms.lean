import ChatRules.Proofs.StepParts

namespace ChatRules
open Text Sentence Phrase

namespace Text

def lastLetter (s : List Char) : Option Char :=
  (trimRight s).getLast?

theorem lastLetter_append {c : Char} (hc : isBlank c = false) {gap : List Char}
    (hg : ∀ d ∈ gap, isBlank d = true) (s : List Char) : lastLetter (s ++ c :: gap) = some c := by
  have hrev : (s ++ c :: gap).reverse = gap.reverse ++ c :: s.reverse := by simp
  have hd : (gap.reverse ++ c :: s.reverse).dropWhile isBlank = c :: s.reverse :=
    dropWhile_append_of_stop (by simpa using hg) (by simpa using hc)
  rw [lastLetter, trimRight, hrev, hd, List.getLast?_reverse, List.head?_cons]

end Text

namespace Sentence.Phrase
variable {α : Type} {p : Phrase α} {s : List Char}

theorem mem_letters (xs : List Char) {x : Char} {r : Unit × List Char}
    (h : r ∈ letters (xs ++ [x]) s) : ∃ u c, s = u ++ c :: r.2 ∧ sameLetter x c = true := by
  induction xs generalizing s with
  | nil =>
    obtain ⟨first, hf, h⟩ := mem_bind.mp h
    obtain ⟨hs, hx⟩ := mem_one hf
    rw [List.mem_singleton.mp h]
    exact ⟨[], first.1, hs, hx⟩
  | cons y xs ih =>
    obtain ⟨first, hf, h⟩ := mem_bind.mp h
    obtain ⟨hs, -⟩ := mem_one hf
    obtain ⟨u, c, hu, hx⟩ := ih h
    exact ⟨first.1 :: u, c, by rw [hs, hu, List.cons_append], hx⟩

theorem Consumes.leaves {β : Type} (hp : Consumes p) {f : α → Phrase β}
    (hf : ∀ a, Leaves s (f a)) : Leaves s (p >>= f) := by
  intro u hu r hr
  obtain ⟨x, hx, hr⟩ := mem_bind.mp hr
  exact hf x.1 x.2 ((hp u x hx).trans hu) r hr

theorem Leaves.map {β : Type} (hp : Leaves s p) (g : α → β) :
    Leaves s (p >>= fun a => give (g a)) := by
  intro u hu r hr
  obtain ⟨x, hx, hr⟩ := mem_bind.mp hr
  rw [List.mem_singleton.mp hr]
  exact hp u hu x hx

theorem give_bind {β : Type} (a : α) (f : α → Phrase β) : (give a >>= f) = f a :=
  funext fun _ => bind_of_eq_singleton rfl

end Sentence.Phrase

namespace Cue
variable {s t : List Char}

def anyoneOpening : Phrase Unit := do
  word "when"
  let _ ← blanks
  oneOf (anyUserWords.map word)
  let _ ← blanks
  saying

def userOpening : Phrase (Option (List Char) × Option (List Char)) := do
  word "when"
  let _ ← blanks
  let user ← subject
  let before ← roomBefore
  saying
  give (user, before)

def anyoneBody : Phrase Cue := do
  let text ← quoted
  let room ← roomAfter
  give ⟨.message, String.ofList text, none, some (String.ofList room)⟩

def userBody (scope : Option (List Char) × Option (List Char)) : Phrase Cue := do
  let text ← quoted
  let after ← optional roomAfter
  give ⟨.message, String.ofList text, namedUser scope.1, (scope.2 <|> after).map String.ofList⟩

theorem anyoneSaysInRoom_eq : anyoneSaysInRoom = anyoneOpening >>= fun _ => anyoneBody := by
  simp only [anyoneOpening, bind_bind]
  rfl

theorem userSays_eq : userSays = userOpening >>= userBody := by
  simp only [userOpening, bind_bind, give_bind]
  rfl

theorem stopsAtQuote_saying : StopsAtQuote t saying := by
  refine StopsAtQuote.bind (stopsAtQuote_oneOf fun p hp => ?_) fun _ =>
    (stopsAtQuote_word (by decide)).optional.bind fun _ => stopsAtQuote_blanks.bind fun _ =>
    stopsAtQuote_give ()
  simp only [List.mem_cons, List.not_mem_nil, or_false] at hp
  rcases hp with rfl | rfl <;> exact stopsAtQuote_word (by decide)

theorem stopsAtQuote_anyUser : StopsAtQuote t (oneOf (anyUserWords.map word)) := by
  have hall : ∀ w ∈ anyUserWords, w ∈ clauseWords := by decide
  refine stopsAtQuote_oneOf fun p hp => ?_
  obtain ⟨w, hw, rfl⟩ := List.mem_map.mp hp
  exact stopsAtQuote_word (hall w hw)

theorem stopsAtQuote_nameAfter {sign : Char} (hs : sign ∈ ['@', '#']) :
    StopsAtQuote t (nameAfter sign) := by
  have hquote : ('"' == sign) = false := by
    simp only [List.mem_cons, List.not_mem_nil, or_false] at hs
    rcases hs with rfl | rfl <;> decide
  exact (stopsAtQuote_one hquote).optional.bind fun _ => stopsAtQuote_name

theorem stopsAtQuote_inRoom : StopsAtQuote t inRoom :=
  (stopsAtQuote_word (by decide)).bind fun _ => stopsAtQuote_blanks.bind fun _ =>
    stopsAtQuote_nameAfter (by decide)

theorem stopsAtQuote_roomAfter : StopsAtQuote t roomAfter :=
  stopsAtQuote_blanks.bind fun _ => stopsAtQuote_inRoom

theorem stopsAtQuote_anyoneOpening : StopsAtQuote t anyoneOpening :=
  (stopsAtQuote_word (by decide)).bind fun _ => stopsAtQuote_blanks.bind fun _ =>
    stopsAtQuote_anyUser.bind fun _ => stopsAtQuote_blanks.bind fun _ => stopsAtQuote_saying

theorem stopsAtQuote_userOpening : StopsAtQuote t userOpening := by
  have hsubject : StopsAtQuote t subject :=
    .optional ((stopsAtQuote_nameAfter (by decide)).bind fun _ => stopsAtQuote_blanks.bind fun _ =>
      stopsAtQuote_give _)
  have hbefore : StopsAtQuote t roomBefore :=
    .optional (stopsAtQuote_inRoom.bind fun _ => stopsAtQuote_blanks.bind fun _ =>
      stopsAtQuote_give _)
  exact (stopsAtQuote_word (by decide)).bind fun _ => stopsAtQuote_blanks.bind fun _ =>
    hsubject.bind fun _ => hbefore.bind fun _ => stopsAtQuote_saying.bind fun _ =>
    stopsAtQuote_give _

def isVerbEnd (c : Char) : Bool :=
  ['y', 't', 's'].any fun x => sameLetter x c

theorem isBlank_of_isVerbEnd {c : Char} (h : isVerbEnd c = true) : isBlank c = false := by
  have hall : ∀ n ∈ blankCodes, isVerbEnd (Char.ofNat n) = false := by decide +kernel
  refine Bool.eq_false_iff.mpr fun hb => ?_
  have hc := hall _ (mem_blankCodes hb)
  rw [Char.ofNat_toNat, h] at hc
  cases hc

theorem mem_verb {r : Unit × List Char} (h : r ∈ oneOf [word "say", word "post"] s) :
    ∃ u c, s = u ++ c :: r.2 ∧ isVerbEnd c = true := by
  rcases List.mem_append.mp h with h | h
  · have hsay : r ∈ letters (['s', 'a'] ++ ['y']) s := h
    obtain ⟨u, c, hs, hc⟩ := mem_letters _ hsay
    exact ⟨u, c, hs, by simp [isVerbEnd, hc]⟩
  · rcases List.mem_append.mp h with h | h
    · have hpost : r ∈ letters (['p', 'o', 's'] ++ ['t']) s := h
      obtain ⟨u, c, hs, hc⟩ := mem_letters _ hpost
      exact ⟨u, c, hs, by simp [isVerbEnd, hc]⟩
    · cases h

theorem mem_saying {r : Unit × List Char} (h : r ∈ saying s) :
    ∃ u c gap, s = u ++ c :: (gap ++ r.2) ∧ isVerbEnd c = true ∧ ∀ d ∈ gap, isBlank d = true := by
  obtain ⟨verb, hv, h⟩ := mem_bind.mp h
  obtain ⟨ending, he, h⟩ := mem_bind.mp h
  obtain ⟨gap, hg, h⟩ := mem_bind.mp h
  rw [List.mem_singleton.mp h]
  obtain ⟨u, c, hs, hc⟩ := mem_verb hv
  obtain ⟨hgap, -, hb⟩ := mem_run hg
  rw [optional_apply] at he
  rcases List.mem_append.mp he with he | he
  · obtain ⟨x, hx, rfl⟩ := List.mem_map.mp he
    have hend : x ∈ letters ([] ++ ['s']) verb.2 := hx
    obtain ⟨v, d, hv, hd⟩ := mem_letters _ hend
    refine ⟨u ++ c :: v, d, gap.1, ?_, by simp [isVerbEnd, hd], hb⟩
    rw [hs, hv, ← hgap]
    simp
  · rw [List.mem_singleton.mp he] at hgap
    refine ⟨u, c, gap.1, ?_, hc, hb⟩
    rw [hs, hgap]

def quotingForms : List (Phrase Cue) :=
  [anyoneSaysInRoom, userSays]

/-- In a text that does not end in a verb and whose end is the first quote, no such form starts. -/
theorem noneWithin_quoting {form : Phrase Cue} (hf : form ∈ quotingForms) (hd : '"' ∉ s)
    (ha : '\'' ∉ s) (hs : ∀ c ∈ lastLetter s, isVerbEnd c = false) (t : List Char) :
    NoneWithin form s ('"' :: t) := by
  have hsaying : Leaves s saying := by
    rintro u ⟨w, rfl⟩ r hr hn
    obtain ⟨v, c, gap, hv, hc, hg⟩ := mem_saying hr
    have hlast := lastLetter_append (isBlank_of_isVerbEnd hc) hg (w ++ v)
    rw [hn, List.append_nil] at hv
    rw [List.append_assoc, ← hv] at hlast
    rw [hs c hlast] at hc
    cases hc
  simp only [quotingForms, List.mem_cons, List.not_mem_nil, or_false] at hf
  rcases hf with rfl | rfl
  · rw [anyoneSaysInRoom_eq]
    exact stopsAtQuote_anyoneOpening.noneWithin (fun _ => startsQuote_quoted.bind _) hd ha <|
      (consumes_word _).leaves fun _ => (consumes_run _).leaves fun _ =>
        consumes_anyUser.leaves fun _ => (consumes_run _).leaves fun _ => hsaying
  · rw [userSays_eq]
    exact stopsAtQuote_userOpening.noneWithin (fun _ => startsQuote_quoted.bind _) hd ha <|
      (consumes_word _).leaves fun _ => (consumes_run _).leaves fun _ =>
        consumes_subject.leaves fun _ => consumes_roomBefore.leaves fun _ => hsaying.map _

theorem stopsAtQuote_quoting {form : Phrase Cue} (hf : form ∈ quotingForms) (hd : '"' ∉ t)
    (ha : '\'' ∉ t) : StopsAtQuote t form := by
  simp only [quotingForms, List.mem_cons, List.not_mem_nil, or_false] at hf
  rcases hf with rfl | rfl
  · rw [anyoneSaysInRoom_eq]
    exact stopsAtQuote_anyoneOpening.bind fun _ => (stopsAtQuote_quoted hd ha).bind fun _ =>
      stopsAtQuote_roomAfter.bind fun _ => stopsAtQuote_give _
  · rw [userSays_eq]
    exact stopsAtQuote_userOpening.bind fun _ => (stopsAtQuote_quoted hd ha).bind fun _ =>
      stopsAtQuote_roomAfter.optional.bind fun _ => stopsAtQuote_give _

theorem startsWord_quoting {form : Phrase Cue} (hf : form ∈ quotingForms) : StartsWord form := by
  have hwhen : StartsWord (word "when") := startsWord_letters (by decide) "hen".toList
  simp only [quotingForms, List.mem_cons, List.not_mem_nil, or_false] at hf
  rcases hf with rfl | rfl <;> exact hwhen.bind _

theorem needsQuote_quoting {form : Phrase Cue} (hf : form ∈ quotingForms) : NeedsQuote form := by
  simp only [quotingForms, List.mem_cons, List.not_mem_nil, or_false] at hf
  rcases hf with rfl | rfl
  · exact needsQuote_anyoneSaysInRoom
  · exact needsQuote_userSays

theorem search_quoting {form : Phrase Cue} (hf : form ∈ quotingForms) (hd : '"' ∉ s) (ha : '\'' ∉ s)
    (hs : ∀ c ∈ lastLetter s, isVerbEnd c = false) {text : List Char} (hq : '"' ∉ text)
    (htd : '"' ∉ t) (hta : '\'' ∉ t) :
    form.search false (s ++ '"' :: (text ++ '"' :: t)) =
      (form.search false text).map (quoteBehind t) :=
  (stopsAtQuote_quoting hf htd hta).search_between (startsWord_quoting hf)
    (needsQuote_quoting hf) (noneWithin_quoting hf hd ha hs _) htd hta hq

end Cue

end ChatRules
