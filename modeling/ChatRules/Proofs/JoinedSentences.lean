import ChatRules.Proofs.Canonical
import ChatRules.Proofs.Clauses
import ChatRules.Proofs.Tokens

namespace ChatRules.Sentence
open Text Phrase
open Token (IsGap)

inductive IsConnection : List Char → Prop
  | last {gap word after : List Char} (hg : IsGap gap) (hw : isConnective word = true)
    (ha : IsGap after) : IsConnection (gap ++ word ++ after)
  | more {gap word rest : List Char} (hg : IsGap gap) (hw : isConnective word = true)
    (hr : IsConnection rest) : IsConnection (gap ++ word ++ rest)

section Letters
variable {c : Char} {word : List Char}

theorem lowerAscii_of_isConnective (hw : isConnective word = true) (hc : c ∈ word) :
    lowerAscii c ∈ "thenand".toList := by
  have hm : lowerAscii c ∈ word.map lowerAscii := List.mem_map_of_mem hc
  rw [isConnective, Bool.or_eq_true, equalIgnoringAsciiCase, equalIgnoringAsciiCase, beq_iff_eq,
    beq_iff_eq] at hw
  have hthen : "then".toList.map lowerAscii = "then".toList := by decide
  have hand : "and".toList.map lowerAscii = "and".toList := by decide
  rcases hw with hw | hw
  · rw [hw, hthen] at hm
    exact List.mem_append_left "and".toList hm
  · rw [hw, hand] at hm
    exact List.mem_append_right "then".toList hm

theorem not_mark_of_isConnective (hw : isConnective word = true) (hc : c ∈ word) : c ∉ marks := by
  have hm : (marks.any fun x => lowerAscii x ∈ "thenand".toList) = false := by decide +kernel
  exact fun h => of_decide_eq_false (eq_false_of_any hm c h) (lowerAscii_of_isConnective hw hc)

theorem isBlank_of_isConnective (hw : isConnective word = true) (hc : c ∈ word) :
    isBlank c = false := by
  refine Bool.eq_false_iff.mpr fun hb => ?_
  have hcodes : ∀ n ∈ blankCodes, lowerAscii (Char.ofNat n) ∉ "thenand".toList := by
    decide +kernel
  have hn := hcodes _ (mem_blankCodes hb)
  rw [Char.ofNat_toNat] at hn
  exact hn (lowerAscii_of_isConnective hw hc)

theorem not_mark_of_isBlank (hb : isBlank c = true) : c ∉ marks := by
  have hm : marks.any isBlank = false := by decide +kernel
  intro h
  rw [eq_false_of_any hm c h] at hb
  cases hb

theorem ne_nil_of_isConnective (hw : isConnective word = true) : word ≠ [] := by
  rintro rfl
  exact absurd hw (by decide)

end Letters

namespace IsConnection
variable {w : List Char}

theorem not_mark (h : IsConnection w) : ∀ c ∈ w, c ∉ marks := by
  induction h with
  | last hg hw ha =>
    intro c hc
    rw [List.mem_append, List.mem_append] at hc
    rcases hc with (hc | hc) | hc
    · exact not_mark_of_isBlank (hg.blank c hc)
    · exact not_mark_of_isConnective hw hc
    · exact not_mark_of_isBlank (ha.blank c hc)
  | more hg hw hr ih =>
    intro c hc
    rw [List.mem_append, List.mem_append] at hc
    rcases hc with (hc | hc) | hc
    · exact not_mark_of_isBlank (hg.blank c hc)
    · exact not_mark_of_isConnective hw hc
    · exact ih c hc

theorem exists_blank (h : IsConnection w) : ∃ c rest, w = c :: rest ∧ isBlank c = true := by
  have hgap : ∀ {gap : List Char}, IsGap gap → ∃ c rest, gap = c :: rest ∧ isBlank c = true := by
    intro gap hg
    obtain ⟨c, rest, rfl⟩ := List.exists_cons_of_ne_nil hg.ne_nil
    exact ⟨c, rest, rfl, hg.blank c List.mem_cons_self⟩
  cases h with
  | last hg =>
    obtain ⟨c, rest, rfl, hc⟩ := hgap hg
    exact ⟨c, _, rfl, hc⟩
  | more hg =>
    obtain ⟨c, rest, rfl, hc⟩ := hgap hg
    exact ⟨c, _, rfl, hc⟩

end IsConnection

section Words
variable {c : Char} {s t : List Char}

theorem wordsFrom_append_of_blank (hc : isBlank c = true) (gap word s t : List Char) :
    ∃ gap', wordsFrom gap word (s ++ c :: t) =
      wordsFrom gap word s ++ wordsFrom gap' [] (c :: t) := by
  induction s generalizing gap word with
  | nil =>
    by_cases hw : word = []
    · subst hw
      exact ⟨gap, rfl⟩
    · refine ⟨[], ?_⟩
      rw [List.nil_append, wordsFrom_end hc _ _ hw, wordsFrom_nil gap hw, wordsFrom_gap hc]
      rfl
  | cons d rest ih =>
    rw [List.cons_append]
    cases hd : isBlank d with
    | false =>
      rw [wordsFrom_letter hd, wordsFrom_letter hd]
      exact ih gap (d :: word)
    | true =>
      by_cases hw : word = []
      · subst hw
        rw [wordsFrom_gap hd, wordsFrom_gap hd]
        exact ih (d :: gap) []
      · obtain ⟨gap', h⟩ := ih [d] []
        rw [wordsFrom_end hd _ _ hw, wordsFrom_end hd _ _ hw, h]
        exact ⟨gap', rfl⟩

theorem wordsFrom_letters (h : ∀ c ∈ s, isBlank c = false) (gap word t : List Char) :
    wordsFrom gap word (s ++ t) = wordsFrom gap (s.reverse ++ word) t := by
  induction s generalizing word with
  | nil => rfl
  | cons c rest ih =>
    obtain ⟨hc, hr⟩ := List.forall_mem_cons.mp h
    rw [List.cons_append, wordsFrom_letter hc, ih hr, List.reverse_cons, List.append_assoc]
    rfl

theorem join_congr_gap (gap gap' letters : List Char) (rest : List Word) :
    join (⟨gap, letters⟩ :: rest) = join (⟨gap', letters⟩ :: rest) := by
  rw [join.eq_def, join.eq_def]

theorem join_wordsFrom_congr (gap gap' word s : List Char) :
    join (wordsFrom gap word s) = join (wordsFrom gap' word s) := by
  induction s generalizing gap gap' word with
  | nil =>
    by_cases hw : word = []
    · subst hw
      rfl
    · rw [wordsFrom_nil gap hw, wordsFrom_nil gap' hw]
      exact join_congr_gap _ _ _ _
  | cons c rest ih =>
    cases hc : isBlank c with
    | false =>
      rw [wordsFrom_letter hc, wordsFrom_letter hc]
      exact ih gap gap' (c :: word)
    | true =>
      by_cases hw : word = []
      · subst hw
        rw [wordsFrom_gap hc, wordsFrom_gap hc]
        exact ih (c :: gap) (c :: gap') []
      · rw [wordsFrom_end hc _ _ hw, wordsFrom_end hc _ _ hw]
        exact join_congr_gap _ _ _ _

theorem wordsFrom_blanks {gap : List Char} (hg : ∀ c ∈ gap, isBlank c = true)
    (before s : List Char) :
    wordsFrom before [] (gap ++ s) = wordsFrom (gap.reverse ++ before) [] s := by
  induction gap generalizing before with
  | nil => rfl
  | cons c rest ih =>
    obtain ⟨hc, hr⟩ := List.forall_mem_cons.mp hg
    rw [List.cons_append, wordsFrom_gap hc, ih hr, List.reverse_cons, List.append_assoc]
    rfl

theorem wordsFrom_connective {gap word : List Char} (hg : IsGap gap)
    (hw : isConnective word = true) (hc : isBlank c = true) (before t : List Char) :
    ∃ behind after, wordsFrom before [] (gap ++ word ++ c :: t) =
      ⟨behind, word⟩ :: wordsFrom after [] (c :: t) := by
  have hn : word.reverse ++ [] ≠ [] := by simpa using ne_nil_of_isConnective hw
  refine ⟨(gap.reverse ++ before).reverse, [], ?_⟩
  rw [List.append_assoc, wordsFrom_blanks hg.blank,
    wordsFrom_letters fun x hx => isBlank_of_isConnective hw hx, wordsFrom_end hc _ _ hn,
    wordsFrom_gap hc, List.append_nil, List.reverse_reverse]

end Words

section Join
variable {v : Word} {ws vs : List Word}

theorem join_cons_exists (hv : isConnective v.letters = false) (rest : List Word) :
    ∃ fragment later, join (v :: rest) = fragment :: later := by
  rw [join.eq_def]
  simp only [hv, Bool.false_eq_true, if_false]
  split
  · split <;> exact ⟨_, _, rfl⟩
  · exact ⟨_, _, rfl⟩

theorem join_append_connective (hv : isConnective v.letters = true) (ws vs : List Word) :
    join (ws ++ v :: vs) = join ws ++ join vs := by
  induction ws with
  | nil => exact join_connective hv
  | cons w rest ih =>
    rw [List.cons_append]
    cases hw : isConnective w.letters with
    | true => rw [join_connective hw, join_connective hw, ih]
    | false =>
      cases rest with
      | nil => rw [List.nil_append, join_cons_connective hw hv, join_connective hv,
          join_singleton hw, List.singleton_append]
      | cons next rest =>
        rw [List.cons_append] at ih ⊢
        cases hn : isConnective next.letters with
        | true => rw [join_cons_connective hw hn, ih, join_cons_connective hw hn, List.cons_append]
        | false =>
          obtain ⟨fragment, later, hj⟩ := join_cons_exists hn rest
          rw [hj, List.cons_append] at ih
          rw [join_cons_word hw hn ih, join_cons_word hw hn hj, List.cons_append]

end Join

section Joined
variable {s t w : List Char}

theorem words_connection (hw : IsConnection w) (gap t : List Char) :
    ∃ v vs, wordsFrom gap [] (w ++ t) = v :: vs ∧ isConnective v.letters = true ∧
      join vs = fragments t := by
  induction hw generalizing gap with
  | last hg hc ha =>
    obtain ⟨x, rest, rfl⟩ := List.exists_cons_of_ne_nil ha.ne_nil
    obtain ⟨behind, after, h⟩ :=
      wordsFrom_connective hg hc (ha.blank x List.mem_cons_self) gap (rest ++ t)
    refine ⟨_, _, by rw [List.append_assoc, List.cons_append, h], hc, ?_⟩
    rw [← List.cons_append, wordsFrom_blanks ha.blank, fragments, words]
    exact join_wordsFrom_congr _ [] [] t
  | more hg hc hr ih =>
    obtain ⟨x, rest, rfl, hx⟩ := hr.exists_blank
    obtain ⟨behind, after, h⟩ := wordsFrom_connective hg hc hx gap (rest ++ t)
    refine ⟨_, _, by rw [List.append_assoc, List.cons_append, h], hc, ?_⟩
    obtain ⟨v, vs, hv, hvc, hj⟩ := ih after
    rw [← List.cons_append, hv, join_connective hvc, hj]

theorem fragments_connection (hw : IsConnection w) (s t : List Char) :
    fragments (s ++ w ++ t) = fragments s ++ fragments t := by
  obtain ⟨c, rest, rfl, hc⟩ := hw.exists_blank
  obtain ⟨gap, h⟩ := wordsFrom_append_of_blank hc [] [] s (rest ++ t)
  obtain ⟨v, vs, hv, hvc, hj⟩ := words_connection hw gap t
  rw [List.cons_append] at hv
  rw [fragments, words, List.append_assoc, List.cons_append, h, hv,
    join_append_connective hvc, hj]
  rfl

theorem startsQuoted_of_not_mark (h : ∀ c ∈ s, c ∉ marks) (hn : s ≠ []) (t : List Char) :
    startsQuoted (s ++ t) = false := by
  obtain ⟨c, rest, rfl⟩ := List.exists_cons_of_ne_nil hn
  have hc := h c List.mem_cons_self
  simp only [marks, List.mem_cons, not_or] at hc
  simp [startsQuoted, hc.1, hc.2.1]

theorem dropEscapes_append (ht : startsQuoted (dropEscapes t) = false) (s : List Char) :
    dropEscapes (s ++ t) = dropEscapes s ++ dropEscapes t := by
  have hs : ∀ u : List Char, startsQuoted (u ++ dropEscapes t) = startsQuoted u := by
    intro u
    cases u with
    | nil => exact ht
    | cons c rest => rfl
  induction s with
  | nil => rfl
  | cons c rest ih =>
    simp only [List.cons_append, dropEscapes, ih, hs]
    split <;> rfl

theorem dropEscapes_unmarked_append (h : ∀ c ∈ s, c ∉ marks) (t : List Char) :
    dropEscapes (s ++ t) = s ++ dropEscapes t := by
  induction s with
  | nil => rfl
  | cons c rest ih =>
    obtain ⟨hc, hr⟩ := List.forall_mem_cons.mp h
    have hb : c ≠ '\\' := by
      rintro rfl
      exact hc (by decide)
    rw [List.cons_append, dropEscapes, ih hr, if_neg fun hq => hb hq.1, List.cons_append]

theorem normal_append_unmarked (hm : ∀ c ∈ w, c ∉ marks) (hn : w ≠ []) (s t : List Char) :
    normal (s ++ w ++ t) = normal s ++ w ++ normal t := by
  have hp : w.map plainQuote = w := map_plainQuote fun c hc => plainQuote_of_not_mark (hm c hc)
  have hd := dropEscapes_unmarked_append hm (t.map plainQuote)
  have hq : startsQuoted (dropEscapes (w ++ t.map plainQuote)) = false := by
    rw [hd]
    exact startsQuoted_of_not_mark hm hn _
  rw [normal, List.map_append, List.map_append, hp, List.append_assoc, dropEscapes_append hq, hd,
    ← List.append_assoc]
  rfl

theorem normal_connection (hw : IsConnection w) (s t : List Char) :
    normal (s ++ w ++ t) = normal s ++ w ++ normal t := by
  refine normal_append_unmarked hw.not_mark ?_ s t
  obtain ⟨c, rest, rfl, -⟩ := hw.exists_blank
  exact List.cons_ne_nil c rest

end Joined

namespace Walk

def onTop (walk : Walk) (earlier : List Step) : Walk :=
  ⟨walk.done ++ earlier, walk.waiting⟩

theorem amend_append {done : List Step} (hd : done ≠ []) (earlier : List Step)
    (response : Option Response) :
    amend (done ++ earlier) response = amend done response ++ earlier := by
  obtain ⟨last, rest, rfl⟩ := List.exists_cons_of_ne_nil hd
  cases response <;> rfl

theorem read_onTop {done : List Step} (hd : done ≠ []) (earlier : List Step)
    (fragment : List Char) :
    read (done ++ earlier) fragment = (read done fragment).onTop earlier := by
  simp only [read]
  cases Cue.find? fragment with
  | none => rw [amend_append hd]; rfl
  | some found =>
    simp only
    cases Response.find? found.2 <;> rfl

theorem take_onTop {walk : Walk} (hd : walk.done ≠ []) (earlier : List Step)
    (fragment : List Char) :
    take (walk.onTop earlier) fragment = (take walk fragment).onTop earlier := by
  obtain ⟨done, _ | cue⟩ := walk
  · exact read_onTop hd earlier fragment
  · rw [onTop, take_of_waiting, take_of_waiting]
    cases Response.find? fragment with
    | none => exact read_onTop hd earlier fragment
    | some response => rfl

theorem done_take_ne_nil {walk : Walk} (hd : walk.done ≠ []) (fragment : List Char) :
    (take walk fragment).done ≠ [] := by
  have hc := (take_eq_take_nil walk.done walk.waiting fragment).2
  intro hn
  rw [cues, hn] at hc
  simp only [cues, List.map_nil, List.reverse_nil, List.nil_eq, List.append_eq_nil_iff,
    List.reverse_eq_nil_iff, List.map_eq_nil_iff] at hc
  exact hd hc.1

theorem foldl_take_onTop (fragments : List (List Char)) {walk : Walk} (hd : walk.done ≠ [])
    (earlier : List Step) :
    fragments.foldl take (walk.onTop earlier) = (fragments.foldl take walk).onTop earlier := by
  induction fragments generalizing walk with
  | nil => rfl
  | cons fragment rest ih =>
    rw [List.foldl_cons, List.foldl_cons, take_onTop hd]
    exact ih (done_take_ne_nil hd fragment)

end Walk

/-- The first fragment opens a step: it has a cue, and a response stands behind the cue or in the
next fragment. -/
def OpensStep : List (List Char) → Prop
  | [] => False
  | fragment :: rest => ∃ cue behind, Cue.find? fragment = some (cue, behind) ∧
    ((Response.find? behind).isSome = true ∨
      ∃ next ∈ rest.head?, (Response.find? next).isSome = true)

/-- The last fragment is no cue that waits: it has none, or a response stands behind the cue, or the
fragment was taken as the response of the cue in front of it. -/
def IsSettled (fragments : List (List Char)) : Prop :=
  ∀ earlier last, fragments = earlier ++ [last] →
    Cue.find? last = none ∨
    (∃ cue behind, Cue.find? last = some (cue, behind) ∧ (Response.find? behind).isSome = true) ∨
    (Walk.through earlier).waiting.isSome = true ∧ (Response.find? last).isSome = true

theorem isSettled_iff {fragments : List (List Char)} :
    IsSettled fragments ↔ (Walk.through fragments).waiting = none := by
  rw [Option.eq_none_iff_forall_ne_some]
  constructor
  · intro h cue hw
    obtain ⟨earlier, last, behind, rfl, hc, hb, hl⟩ := Walk.waiting_through_eq_some.mp hw
    rcases h earlier last rfl with hn | ⟨cue', behind', hc', hr⟩ | ⟨hwait, hr⟩
    · rw [hc] at hn
      cases hn
    · rw [hc] at hc'
      cases hc'
      rw [hb] at hr
      cases hr
    · rcases hl with hl | hl
      · rw [hl] at hwait
        cases hwait
      · rw [hl] at hr
        cases hr
  · rintro h earlier last rfl
    cases hc : Cue.find? last with
    | none => exact .inl rfl
    | some found =>
      obtain ⟨cue, behind⟩ := found
      refine .inr ?_
      cases hb : Response.find? behind with
      | some response => exact .inl ⟨cue, behind, rfl, by rw [hb]; rfl⟩
      | none =>
        have hnot := h cue
        rw [ne_eq, Walk.waiting_through_eq_some] at hnot
        refine .inr ⟨Option.isSome_iff_ne_none.mpr fun hw => ?_,
          Option.isSome_iff_ne_none.mpr fun hr => ?_⟩
        · exact hnot ⟨earlier, last, behind, rfl, hc, hb, .inl hw⟩
        · exact hnot ⟨earlier, last, behind, rfl, hc, hb, .inr hr⟩

theorem Walk.foldl_take_of_opensStep {fragments : List (List Char)} (h : OpensStep fragments)
    (earlier : List Step) :
    fragments.foldl take ⟨earlier, none⟩ = (through fragments).onTop earlier := by
  obtain _ | ⟨fragment, rest⟩ := fragments
  · exact h.elim
  obtain ⟨cue, behind, hc, hr⟩ := h
  cases hb : Response.find? behind with
  | some response =>
    have hopen : ∀ done, take ⟨done, none⟩ fragment = ⟨⟨cue, response⟩ :: done, none⟩ := by
      intro done
      simp only [take_of_not_waiting, read, hc, hb]
    rw [through, List.foldl_cons, List.foldl_cons, start, hopen, hopen]
    have hd : (Walk.mk [⟨cue, response⟩] none).done ≠ [] := List.cons_ne_nil _ _
    exact foldl_take_onTop rest hd earlier
  | none =>
    rw [hb] at hr
    obtain hr | ⟨next, hn, hr⟩ := hr
    · cases hr
    obtain ⟨later, rfl⟩ := List.head?_eq_some_iff.mp hn
    obtain ⟨response, hr⟩ := Option.isSome_iff_exists.mp hr
    have hwait : ∀ done, take ⟨done, none⟩ fragment = ⟨done, some cue⟩ := by
      intro done
      simp only [take_of_not_waiting, read, hc, hb]
    have hopen : ∀ done, take ⟨done, some cue⟩ next = ⟨⟨cue, response⟩ :: done, none⟩ := by
      intro done
      simp only [take_of_waiting, hr]
    simp only [through, List.foldl_cons, start, hwait, hopen]
    have hd : (Walk.mk [⟨cue, response⟩] none).done ≠ [] := List.cons_ne_nil _ _
    exact foldl_take_onTop later hd earlier

/-- Two sentences with connectives between them are read into the steps of the one and then those
of the other, where the first leaves no cue waiting and the second opens a step at once. -/
theorem steps_joined_by_connection {first connection second : List Char}
    (hc : IsConnection connection) (hs : IsSettled (fragments (normal first)))
    (ho : OpensStep (fragments (normal second))) :
    steps (first ++ connection ++ second) = steps first ++ steps second := by
  have hw := isSettled_iff.mp hs
  have hwalk : Walk.through (fragments (normal first)) =
      ⟨(Walk.through (fragments (normal first))).done, none⟩ := by
    rw [← hw]
  have hjoin : Walk.through (fragments (normal first) ++ fragments (normal second)) =
      (Walk.through (fragments (normal second))).onTop
        (Walk.through (fragments (normal first))).done := by
    rw [Walk.through, List.foldl_append, ← Walk.through, hwalk]
    exact Walk.foldl_take_of_opensStep ho _
  rw [Walk.steps_eq, normal_connection hc, fragments_connection hc, hjoin, Walk.onTop,
    List.reverse_append, ← Walk.steps_eq, ← Walk.steps_eq]

theorem escaped_end_joined_with_amended_step :
    steps ("when @a says \u201cx\u201d then send \"1\" \\".toList ++ "\tTHEN  and\u00a0".toList ++
        "when @d is mentioned and send \"2\" then send \"3\"".toList) =
      [⟨⟨.message, "x", some "a", none⟩, ⟨.message, "1", some "channel"⟩⟩] ++
        [⟨⟨.mention, "", some "d", none⟩, ⟨.message, "3", some "channel"⟩⟩] := by
  have hc : IsConnection ("\t".toList ++ "THEN".toList ++
      ("  ".toList ++ "and".toList ++ "\u00a0".toList)) :=
    .more (by decide) (by decide) (.last (by decide) (by decide) (by decide))
  have hs : IsSettled (fragments (normal "when @a says \u201cx\u201d then send \"1\" \\".toList)) :=
    isSettled_iff.mpr (by decide +kernel)
  have hf : fragments (normal "when @d is mentioned and send \"2\" then send \"3\"".toList) =
      ["when @d is mentioned".toList, "send \"2\"".toList, "send \"3\"".toList] := by
    decide +kernel
  have ho : OpensStep
      (fragments (normal "when @d is mentioned and send \"2\" then send \"3\"".toList)) := by
    rw [hf]
    exact ⟨⟨.mention, "", some "d", none⟩, [], by decide +kernel,
      .inr ⟨"send \"2\"".toList, rfl, by decide +kernel⟩⟩
  have h := steps_joined_by_connection hc hs ho
  have hfirst : steps "when @a says \u201cx\u201d then send \"1\" \\".toList =
      [⟨⟨.message, "x", some "a", none⟩, ⟨.message, "1", some "channel"⟩⟩] := by
    decide +kernel
  have hsecond : steps "when @d is mentioned and send \"2\" then send \"3\"".toList =
      [⟨⟨.mention, "", some "d", none⟩, ⟨.message, "3", some "channel"⟩⟩] := by
    decide +kernel
  rw [hfirst, hsecond] at h
  exact h

end ChatRules.Sentence
