import ChatRules.Proofs.TypedLines

namespace ChatRules
open Text

namespace Text
theorem trim_blanks_append {gap : List Char} (hg : ∀ c ∈ gap, isBlank c = true) (s : List Char) :
    trim (gap ++ s) = trim s := by
  rw [trim, trim, trimLeft, trimLeft, List.dropWhile_append_of_pos hg]

end Text

namespace Line
open Token (IsGap)
variable {l : Line} {s name word : List Char} {sign : Char}

structure IsProper (l : Line) : Prop where
  room_ne_nil : l.room ≠ []
  room_unbroken : ∀ c ∈ l.room, isBlank c = false
  user_ne_nil : l.user ≠ []
  user_unbroken : ∀ c ∈ l.user, isBlank c = false
  text_ne_nil : l.text ≠ []
  text_trimmed : IsTrimmed l.text

inductive Written (l : Line) : List Char → Prop
  | form {before gap gap' after : List Char} (hl : l.IsProper)
    (hb : ∀ c ∈ before, isBlank c = true) (hg : IsGap gap) (hg' : IsGap gap')
    (ha : ∀ c ∈ after, isBlank c = true) :
    Written l (before ++ (typed l.room gap l.user gap' l.text ++ after))

theorem eq_of_named? (h : named? sign word = some name) : word = sign :: name :=
  after?_eq_some_iff.mp (Option.filter_eq_some_iff.mp h).1

theorem IsProper.read?_typed (hl : l.IsProper) {gap gap' after : List Char} (hg : IsGap gap)
    (hg' : IsGap gap') (ha : ∀ c ∈ after, isBlank c = true) :
    read? (typed l.room gap l.user gap' (l.text ++ after)) = some l := by
  have htext : trim (l.text ++ after) = l.text :=
    trim_between (List.forall_mem_nil _) hl.text_trimmed ha
  have hsaid : trim (l.text ++ after) ≠ [] := by
    rw [htext]
    exact hl.text_ne_nil
  rw [Line.read?_typed hl.room_ne_nil hl.room_unbroken hl.user_ne_nil hl.user_unbroken hg hg' hsaid,
    htext]

theorem Written.read?_eq (h : l.Written s) : read? s = some l := by
  obtain @⟨before, gap, gap', after, hl, hb, hg, hg', ha⟩ := h
  have hblank : read? (before ++ (typed l.room gap l.user gap' l.text ++ after)) =
      read? (typed l.room gap l.user gap' (l.text ++ after)) := by
    rw [read?, trim_blanks_append hb, read?]
    simp only [typed, List.append_assoc, List.cons_append]
  rw [hblank, hl.read?_typed hg hg' ha]

theorem written_of_read? (h : read? s = some l) : l.Written s := by
  simp only [read?, Option.bind_eq_bind, Option.bind_eq_some_iff] at h
  obtain ⟨⟨roomWord, rest⟩, hcut, ⟨userWord, said⟩, hcut', room, hr, user, hu, h⟩ := h
  obtain ⟨hn, h⟩ := Option.ite_none_left_eq_some.mp h
  obtain rfl := Option.some.inj h
  obtain ⟨c, hline, hc, hroom⟩ := eq_of_cutAt hcut
  obtain ⟨c', hrest, hc', huser⟩ := eq_of_cutAt hcut'
  obtain rfl := eq_of_named? hr
  obtain rfl := eq_of_named? hu
  obtain ⟨before, after, hs, hb, ha⟩ := exists_trim s
  obtain ⟨before', after', hsaid, hb', ha'⟩ := exists_trim said
  have hskip : rest = rest.takeWhile isBlank ++ trimLeft rest :=
    List.takeWhile_append_dropWhile.symm
  have hgap : IsGap (c :: rest.takeWhile isBlank) :=
    ⟨List.cons_ne_nil _ _, List.forall_mem_cons.mpr
      ⟨hc, fun d hd => List.all_eq_true.mp List.all_takeWhile d hd⟩⟩
  have hgap' : IsGap (c' :: before') := ⟨List.cons_ne_nil _ _, List.forall_mem_cons.mpr ⟨hc', hb'⟩⟩
  have hl : IsProper ⟨room, user, trim said⟩ :=
    { room_ne_nil := ne_nil_of_named? hr
      room_unbroken := (List.forall_mem_cons.mp hroom).2
      user_ne_nil := ne_nil_of_named? hu
      user_unbroken := (List.forall_mem_cons.mp huser).2
      text_ne_nil := hn
      text_trimmed := isTrimmed_trim said }
  have hshape : s = before ++ (typed room (c :: rest.takeWhile isBlank) user (c' :: before')
      (trim said) ++ (after' ++ after)) := by
    conv_lhs => rw [hs, hline, hskip, hrest, hsaid]
    simp [typed]
  rw [hshape]
  exact .form hl hb hgap hgap' (List.forall_mem_append.mpr ⟨ha', ha⟩)

theorem read?_eq_some_iff : read? s = some l ↔ l.Written s :=
  ⟨written_of_read?, Written.read?_eq⟩

/-- The lines that are read are those of the form, each of them as the only parts it has; so what is
written with single blanks is read back. -/
theorem line_read_iff_written (s : List Char) :
    (∀ l, read? s = some l ↔ l.Written s) ∧
    (∀ l l' : Line, l.Written s → l'.Written s → l = l') ∧
    (read? s = none ↔ ∀ l : Line, ¬ l.Written s) ∧
    ∀ l : Line, l.IsProper → read? (typed l.room [' '] l.user [' '] l.text) = some l := by
  refine ⟨fun l => read?_eq_some_iff, fun l l' h h' => ?_, ?_, fun l hl => ?_⟩
  · exact Option.some.inj (h.read?_eq.symm.trans h'.read?_eq)
  · rw [Option.eq_none_iff_forall_ne_some]
    exact forall_congr' fun l => not_congr read?_eq_some_iff
  · have hg : IsGap [' '] := by decide
    simpa using hl.read?_typed hg hg (List.forall_mem_nil _)

def oddLine : Line :=
  ⟨"#gen#1".toList, "@ann".toList, "#ops  @bob\thi".toList⟩

theorem odd_line_is_read :
    oddLine.IsProper ∧ oddLine.Written "\u3000##gen#1\t @@ann  #ops  @bob\thi\n ".toList ∧
      read? "\u3000##gen#1\t @@ann  #ops  @bob\thi\n ".toList = some oddLine ∧
      read? "##gen#1 @@ann #ops  @bob\thi".toList = some oddLine := by
  have hroom : ∀ c ∈ oddLine.room, isBlank c = false := eq_false_of_any (by decide)
  have huser : ∀ c ∈ oddLine.user, isBlank c = false := eq_false_of_any (by decide)
  have htext : IsTrimmed oddLine.text := by
    have h := isTrimmed_trim oddLine.text
    rwa [show trim oddLine.text = oddLine.text by decide +kernel] at h
  have hl : oddLine.IsProper := ⟨by decide, hroom, by decide, huser, by decide, htext⟩
  have hw : oddLine.Written "\u3000##gen#1\t @@ann  #ops  @bob\thi\n ".toList :=
    .form hl (show ∀ c ∈ ['\u3000'], isBlank c = true by simp; decide)
      (show IsGap ['\t', ' '] by decide) (show IsGap [' ', ' '] by decide)
      (show ∀ c ∈ ['\n', ' '], isBlank c = true by simp; decide)
  exact ⟨hl, hw, ((line_read_iff_written _).1 oddLine).mpr hw,
    (line_read_iff_written []).2.2.2 oddLine hl⟩

end Line

end ChatRules
