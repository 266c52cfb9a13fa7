import ChatRules.Proofs.Canonical

namespace ChatRules
open Text Command Sentence Phrase

namespace Sentence.Phrase

section Passing
variable {α : Type} {p : Phrase α} {s t : List Char}

theorem search_cons_of_eq_nil {c : Char} (h : p (c :: s) = []) (inWord : Bool) :
    search p inWord (c :: s) = search p (isWord c) s := by
  rw [search, h]
  cases inWord <;> rfl

def NoneWithin (p : Phrase α) (s t : List Char) : Prop :=
  ∀ a, a ≠ [] → a <:+ s → p (a ++ t) = []

theorem NoneWithin.search_append (h : NoneWithin p s t) (inWord : Bool) :
    search p inWord (s ++ t) = search p (inWordAfter inWord s) t := by
  induction s generalizing inWord with
  | nil => rfl
  | cons c rest ih =>
    have hc : p (c :: (rest ++ t)) = [] := h (c :: rest) (List.cons_ne_nil _ _) (List.suffix_refl _)
    rw [List.cons_append, search_cons_of_eq_nil hc, inWordAfter,
      ih fun a hn ha => h a hn (ha.trans (List.suffix_cons c rest))]

theorem letters_append_eq_nil {w : List Char} (h : letters (w.take s.length) s = [])
    (rest : List Char) : letters w (s ++ rest) = [] := by
  induction w generalizing s with
  | nil =>
    rw [List.take_nil] at h
    cases h
  | cons x w ih =>
    cases s with
    | nil => cases h
    | cons c s =>
      rw [List.length_cons, List.take_succ_cons, letters_cons_cons] at h
      rw [List.cons_append, letters_cons_cons]
      split at h
      next hc =>
        rw [if_pos hc]
        exact ih h
      next hc => rw [if_neg hc]

theorem oneOf_eq_nil {ps : List (Phrase α)} (h : ∀ p ∈ ps, p s = []) : oneOf ps s = [] := by
  induction ps with
  | nil => rfl
  | cons p ps ih =>
    have ⟨hp, hps⟩ := List.forall_mem_cons.mp h
    rw [oneOf, either, hp, ih hps, List.append_nil]

theorem oneOf_words_eq_nil {ws : List String}
    (h : ∀ w ∈ ws, letters (w.toList.take s.length) s = []) (rest : List Char) :
    oneOf (ws.map word) (s ++ rest) = [] := by
  refine oneOf_eq_nil fun p hp => ?_
  obtain ⟨w, hw, rfl⟩ := List.mem_map.mp hp
  exact letters_append_eq_nil (h w hw) rest

theorem letters_append_cons {xs : List Char} {c : Char}
    (hx : ∀ x ∈ xs, isLone x = true ∧ sameLetter x c = false) (a rest : List Char) :
    letters xs (a ++ c :: rest) = [] ∨
      ∃ w b, a = w ++ b ∧ w.map lowerAscii = xs ∧
        letters xs (a ++ c :: rest) = [((), b ++ c :: rest)] := by
  induction xs generalizing a with
  | nil => exact .inr ⟨[], a, rfl, rfl, rfl⟩
  | cons x xs ih =>
    have ⟨⟨hl, hc⟩, hxs⟩ := List.forall_mem_cons.mp hx
    cases a with
    | nil =>
      left
      rw [List.nil_append, letters_cons_cons, if_neg (by simp [hc])]
    | cons d a =>
      rw [List.cons_append, letters_cons_cons]
      cases hd : sameLetter x d with
      | false => exact .inl rfl
      | true =>
        rw [if_pos rfl]
        rcases ih hxs a with h | ⟨w, b, rfl, hw, h⟩
        · exact .inl h
        · refine .inr ⟨d :: w, b, rfl, ?_, h⟩
          rw [List.map_cons, lowerAscii_of_sameLetter hl hd, hw]

end Passing

theorem IsName.no_quote {n : List Char} (h : IsName n) : '"' ∉ n ∧ '\'' ∉ n :=
  ⟨h.mark_not_mem '"' (by decide), h.mark_not_mem '\'' (by decide)⟩

section Beginnings
variable {rest : List Char}

theorem reads_word (w : String) (rest : List Char) : Reads (word w) (w.toList ++ rest) () rest :=
  .of_eq_cons (word_append w rest)

theorem reads_blanks (h : ∀ c ∈ rest.head?, isBlank c = false) :
    Reads blanks (' ' :: rest) [' '] rest :=
  .of_eq_cons (blanks_cons h)

theorem reads_quoted {text : List Char} (hn : text ≠ []) (hq : '"' ∉ text) (rest : List Char) :
    Reads quoted ('"' :: (text ++ '"' :: rest)) text rest :=
  .of_eq_cons (quoted_append hn hq rest)

end Beginnings

end Sentence.Phrase

namespace Sentence.Scope
variable (scope : Scope)

def name : List Char :=
  scope.user.getD "someone".toList

def tail : List Char :=
  match scope.room with
  | some room => ' ' :: ("in".toList ++ ' ' :: '#' :: room)
  | none => []

def ahead (rest : List Char) : List Char :=
  match scope.room with
  | some room => "in".toList ++ ' ' :: '#' :: (room ++ ' ' :: rest)
  | none => rest

def said (text after : List Char) : List Char :=
  "when".toList ++ ' ' :: (scope.subject ++ ' ' ::
    ("says".toList ++ ' ' :: '"' :: (text ++ '"' :: after)))

def noticed (after : List Char) : List Char :=
  "when".toList ++ ' ' :: (scope.subject ++ ' ' ::
    scope.ahead ("is".toList ++ ' ' :: ("mentioned".toList ++ after)))

theorem joinBlank_saying (text : List Char) :
    joinBlank (scope.saying text) = scope.said text scope.tail := by
  obtain ⟨user, _ | room⟩ := scope <;>
    simp [Scope.saying, Scope.place, said, tail, joinBlank, inQuotes]

theorem joinBlank_mentioned : joinBlank scope.mentioned = scope.noticed [] := by
  obtain ⟨user, _ | room⟩ := scope <;>
    simp [Scope.mentioned, Scope.place, noticed, ahead, joinBlank]

theorem head?_subject (rest : List Char) :
    ∀ c ∈ (scope.subject ++ rest).head?, isBlank c = false := by
  obtain ⟨_ | user, room⟩ := scope <;> simp [Scope.subject, isBlank]

variable {scope}

theorem IsNamed.isBlank_subject (h : scope.IsNamed) : ∀ c ∈ scope.subject, isBlank c = false := by
  obtain ⟨_ | user, room⟩ := scope
  · have hs : "someone".toList.any isBlank = false := by decide
    exact eq_false_of_any hs
  · exact List.forall_mem_cons.mpr ⟨by decide, fun c hc => (h.user user rfl).1.isBlank_eq_false hc⟩

theorem IsNamed.no_quote_tail (h : scope.IsNamed) : '"' ∉ scope.tail ∧ '\'' ∉ scope.tail := by
  obtain ⟨user, _ | room⟩ := scope
  · simp [tail]
  · simp [tail, (h.room room rfl).no_quote]

theorem IsNamed.no_quote_mentioned (h : scope.IsNamed) :
    '"' ∉ joinBlank scope.mentioned ∧ '\'' ∉ joinBlank scope.mentioned := by
  have hsubject : '"' ∉ scope.subject ∧ '\'' ∉ scope.subject := by
    obtain ⟨_ | user, room⟩ := scope
    · simp [Scope.subject]
    · simp [Scope.subject, (h.user user rfl).1.no_quote]
  rw [joinBlank_mentioned, noticed]
  obtain ⟨user, _ | room⟩ := scope
  · simp [ahead, hsubject]
  · simp [ahead, hsubject, (h.room room rfl).no_quote]

end Sentence.Scope

namespace Cue
variable {scope : Scope} {text after rest : List Char}

theorem someone_is_any_user :
    isAnyUser "someone".toList = true ∧ "someone".toList.all isNameChar = true := by
  decide +kernel

theorem namedUser_name (h : scope.IsNamed) :
    namedUser (some scope.name) = scope.user.map String.ofList := by
  obtain ⟨_ | user, room⟩ := scope
  · simpa [namedUser, Scope.name] using someone_is_any_user.1
  · have hu := (h.user user rfl).2
    simp [namedUser, Scope.name, hu]

theorem reads_subject (h : scope.IsNamed) (hr : ∀ c ∈ rest.head?, isBlank c = false) :
    Reads subject (scope.subject ++ ' ' :: rest) (some scope.name) rest := by
  have hb : ∀ c ∈ (' ' :: rest).head?, isBlank c = true := by simp [isBlank]
  have hname : Reads (nameAfter '@') (scope.subject ++ ' ' :: rest) scope.name (' ' :: rest) := by
    obtain ⟨_ | user, room⟩ := scope
    · have hs : IsName "someone".toList := isName_of_all (by decide) someone_is_any_user.2
      have ho : Reads (optional (one (· == '@'))) ("someone".toList ++ ' ' :: rest) none
          ("someone".toList ++ ' ' :: rest) := reads_optional_of_eq_nil rfl
      exact ho.bind (.of_eq_cons (name_append hs hb))
    · exact reads_nameAfter '@' (h.user user rfl).1 hb
  exact (hname.bind ((reads_blanks hr).bind (reads_give scope.name rest))).optional

theorem words_differ :
    (∀ w ∈ anyUserWords, letters (w.toList.take "says ".length) "says ".toList = [] ∧
      letters (w.toList.take ['@'].length) ['@'] = []) ∧
    (∀ w ∈ anyUserWords.tail,
      letters (w.toList.take "someone ".length) "someone ".toList = []) ∧
    ∀ w ∈ ["post"], letters (w.toList.take "says".length) "says".toList = [] := by
  decide +kernel

theorem saying_eq (rest : List Char) :
    saying ("says".toList ++ ' ' :: '"' :: rest) = [((), '"' :: rest)] := by
  have hother : oneOf [word "post"] ("says".toList ++ ' ' :: '"' :: rest) = [] :=
    oneOf_words_eq_nil words_differ.2.2 _
  have hsay : "says".toList = "say".toList ++ "s".toList := by decide
  have hverb : oneOf [word "say", word "post"] ("says".toList ++ ' ' :: '"' :: rest) =
      [((), "s".toList ++ ' ' :: '"' :: rest)] := by
    rw [oneOf, either, hother, List.append_nil, hsay, List.append_assoc, word_append]
  have hstop : blanks ("s".toList ++ ' ' :: '"' :: rest) = [] := run_eq_nil (by simp [isBlank])
  have hgap : blanks (' ' :: '"' :: rest) = [([' '], '"' :: rest)] :=
    blanks_cons (by simp [isBlank])
  refine (bind_of_eq_singleton hverb).trans ?_
  rw [bind_apply, optional_apply, word_append]
  simp only [List.map_cons, List.map_nil, List.cons_append, List.nil_append, List.flatMap_cons,
    List.flatMap_nil, List.append_nil, bind_of_eq_singleton hgap, bind_eq_nil hstop]
  rfl

theorem reads_inRoom {room : List Char} (hn : IsName room)
    (hr : ∀ c ∈ rest.head?, isBlank c = true) :
    Reads inRoom ("in".toList ++ ' ' :: '#' :: (room ++ rest)) room rest :=
  (reads_word "in" _).bind ((reads_blanks (by simp [isBlank])).bind (reads_nameAfter '#' hn hr))

theorem reads_roomAfter {room : List Char} (hn : IsName room)
    (hr : ∀ c ∈ rest.head?, isBlank c = true) :
    Reads roomAfter (' ' :: ("in".toList ++ ' ' :: '#' :: (room ++ rest))) room rest :=
  (reads_blanks (by simp [isBlank])).bind (reads_inRoom hn hr)

theorem reads_tail (h : scope.IsNamed) (hr : ∀ c ∈ rest.head?, isBlank c = true)
    (hn : roomAfter rest = []) :
    Reads (optional roomAfter) (scope.tail ++ rest) scope.room rest := by
  obtain ⟨user, _ | room⟩ := scope
  · exact reads_optional_of_eq_nil hn
  · have htail : Scope.tail ⟨user, some room⟩ ++ rest =
        ' ' :: ("in".toList ++ ' ' :: '#' :: (room ++ rest)) := by simp [Scope.tail]
    rw [htail]
    exact (reads_roomAfter (h.room room rfl) hr).optional

theorem reads_userSays (h : scope.IsNamed) (ht : IsPlainText text)
    (ha : Reads (optional roomAfter) after scope.room rest) :
    Reads userSays (scope.said text after) (scope.cue .message text) rest := by
  rw [Scope.said, Scope.cue, ← namedUser_name h]
  refine (reads_word "when" _).bind ?_
  refine (reads_blanks (scope.head?_subject _)).bind ?_
  refine (reads_subject h (by simp [isBlank])).bind ?_
  refine (reads_optional_of_eq_nil rfl).bind ?_
  refine (Reads.of_eq_cons (saying_eq _)).bind ?_
  refine (reads_quoted ht.ne_nil ht.no_quote _).bind ?_
  exact ha.bind (reads_give _ _)

theorem when_differs :
    "when".toList.all (fun x => isLone x && [' ', '"'].all fun c => !sameLetter x c) = true ∧
    ("hen ".toList.any (sameLetter 'w') = false ∧ " says ".toList.any (sameLetter 'w') = false) ∧
    sameLetter 'w' '"' = false := by
  decide +kernel

theorem lone_when (c : Char) (hc : c ∈ [' ', '"']) :
    ∀ x ∈ "when".toList, isLone x = true ∧ sameLetter x c = false := by
  intro x hx
  have hl := List.all_eq_true.mp when_differs.1 x hx
  rw [Bool.and_eq_true, List.all_eq_true] at hl
  exact ⟨hl.1, Bool.not_eq_true' _ ▸ hl.2 c hc⟩

section Anyone
variable {a s : List Char}

theorem anyone_eq_nil_of_head {c : Char} (hc : sameLetter 'w' c = false) (s : List Char) :
    anyoneSaysInRoom (c :: s) = [] := by
  have hh : ∀ d ∈ (c :: s).head?, sameLetter 'w' d = false := by simpa using hc
  exact bind_eq_nil (letters_eq_nil_of_head hh "hen".toList)

theorem noneWithin_of_no_w (h : s.any (sameLetter 'w') = false) (rest : List Char) :
    NoneWithin anyoneSaysInRoom s rest := by
  intro a hn ha
  obtain ⟨c, a, rfl⟩ := List.exists_cons_of_ne_nil hn
  exact anyone_eq_nil_of_head (eq_false_of_any h c (ha.subset List.mem_cons_self)) _

theorem noneWithin_of_unbroken (h : ∀ c ∈ s, isBlank c = false) (rest : List Char) :
    NoneWithin anyoneSaysInRoom s (" says ".toList ++ rest) := by
  intro a hn ha
  have hspoken : " says ".toList ++ rest = ' ' :: ("says ".toList ++ rest) := rfl
  have hverb : ∀ w ∈ anyUserWords, letters (w.toList.take "says ".length) "says ".toList = [] :=
    fun w hw => (words_differ.1 w hw).1
  rw [hspoken]
  rcases letters_append_cons (lone_when ' ' (by simp)) a ("says ".toList ++ rest) with
    hw | ⟨w, b, rfl, -, hw⟩
  · exact bind_eq_nil hw
  · refine (bind_of_eq_singleton hw).trans ?_
    cases b with
    | nil =>
      refine (bind_of_eq_singleton (blanks_cons (by simp [isBlank]))).trans ?_
      exact bind_eq_nil (oneOf_words_eq_nil hverb rest)
    | cons d b =>
      have hd : isBlank d = false := h d (ha.subset (by simp))
      exact bind_eq_nil (run_eq_nil (by simpa using hd))

theorem noneWithin_of_lacksWhen (h : LacksWhen s) (rest : List Char) :
    NoneWithin anyoneSaysInRoom s ('"' :: rest) := by
  intro a hn ha
  rcases letters_append_cons (lone_when '"' (by simp)) a rest with hw | ⟨w, b, rfl, hlower, hw⟩
  · exact bind_eq_nil hw
  · obtain ⟨u, rfl⟩ := ha
    rw [LacksWhen, List.map_append, List.map_append, hlower, isInfix_append] at h
    cases h

theorem needsQuote_anyoneSaysInRoom : NeedsQuote anyoneSaysInRoom :=
  (consumes_word _).needsQuote fun _ => (consumes_run _).needsQuote fun _ =>
    consumes_anyUser.needsQuote fun _ => (consumes_run _).needsQuote fun _ =>
    consumes_saying.needsQuote fun _ => needsQuote_quoted.bind _

/-- The form for any user in a room does not start later in such a clause: it would have to start at
a later `when`. -/
theorem search_anyone_said (h : scope.IsNamed) (hw : LacksWhen text)
    (hnone : anyoneSaysInRoom (scope.said text after) = []) :
    anyoneSaysInRoom.search false (scope.said text after) =
      anyoneSaysInRoom.search false after := by
  obtain ⟨-, ⟨hhen, hspoken⟩, hquote⟩ := when_differs
  have hmark : isWord '"' = false := isWord_mark (by decide)
  have hstart : scope.said text after =
      'w' :: ("hen ".toList ++ (scope.subject ++ (" says ".toList ++
        ('"' :: (text ++ '"' :: after))))) := by
    simp [Scope.said]
  rw [hstart] at hnone ⊢
  rw [search_cons_of_eq_nil hnone, (noneWithin_of_no_w hhen _).search_append,
    (noneWithin_of_unbroken h.isBlank_subject _).search_append,
    (noneWithin_of_no_w hspoken _).search_append,
    search_cons_of_eq_nil (anyone_eq_nil_of_head hquote _),
    (noneWithin_of_lacksWhen hw _).search_append,
    search_cons_of_eq_nil (anyone_eq_nil_of_head hquote _), hmark]

theorem anyone_named_eq_nil (hu : scope.user ≠ none) (text after : List Char) :
    anyoneSaysInRoom (scope.said text after) = [] := by
  obtain ⟨_ | user, room⟩ := scope
  · exact absurd rfl hu
  · have hsign : ∀ w ∈ anyUserWords, letters (w.toList.take ['@'].length) ['@'] = [] :=
      fun w hw => (words_differ.1 w hw).2
    refine (bind_of_eq_singleton (word_append "when" _)).trans ?_
    refine (bind_of_eq_singleton (blanks_cons (by simp [Scope.subject, isBlank]))).trans ?_
    exact bind_eq_nil (oneOf_words_eq_nil hsign _)

theorem anyUser_someone (rest : List Char) :
    oneOf (anyUserWords.map word) ("someone".toList ++ ' ' :: rest) = [((), ' ' :: rest)] := by
  have hblank : "someone".toList ++ ' ' :: rest = "someone ".toList ++ rest := by simp
  have hnone : oneOf (anyUserWords.tail.map word) ("someone".toList ++ ' ' :: rest) = [] := by
    rw [hblank]
    exact oneOf_words_eq_nil words_differ.2.1 rest
  rw [anyUserWords, List.map_cons, oneOf, either, word_append]
  rw [anyUserWords, List.tail_cons] at hnone
  rw [hnone, List.append_nil]

theorem anyone_someone (hu : scope.user = none) (ht : IsPlainText text) (after : List Char) :
    anyoneSaysInRoom (scope.said text after) =
      (roomAfter >>= fun room =>
        give ⟨.message, String.ofList text, none, some (String.ofList room)⟩) after := by
  have hsubject : scope.subject = "someone".toList := by rw [Scope.subject, hu]
  rw [Scope.said, hsubject]
  refine (bind_of_eq_singleton (word_append "when" _)).trans ?_
  refine (bind_of_eq_singleton (blanks_cons (by simp [isBlank]))).trans ?_
  refine (bind_of_eq_singleton (anyUser_someone _)).trans ?_
  refine (bind_of_eq_singleton (blanks_cons (by simp [isBlank]))).trans ?_
  refine (bind_of_eq_singleton (saying_eq _)).trans ?_
  exact bind_of_eq_singleton (quoted_append ht.ne_nil ht.no_quote _)

theorem anyone_said (h : scope.IsNamed) (ht : IsPlainText text) (hw : LacksWhen text)
    (hr : ∀ c ∈ rest.head?, isBlank c = true) (hn : roomAfter rest = []) :
    if scope.user = none ∧ scope.room ≠ none then
      Reads anyoneSaysInRoom (scope.said text (scope.tail ++ rest)) (scope.cue .message text) rest
    else
      anyoneSaysInRoom.search false (scope.said text (scope.tail ++ rest)) =
        anyoneSaysInRoom.search false (scope.tail ++ rest) := by
  obtain ⟨_ | user, _ | room⟩ := scope
  · refine search_anyone_said h hw ?_
    exact (anyone_someone rfl ht _).trans (bind_eq_nil hn)
  · have htail : Scope.tail ⟨none, some room⟩ ++ rest =
        ' ' :: ("in".toList ++ ' ' :: '#' :: (room ++ rest)) := by simp [Scope.tail]
    rw [if_pos ⟨rfl, Option.some_ne_none room⟩, Reads, anyone_someone rfl ht, htail]
    exact (reads_roomAfter (h.room room rfl) hr).bind (reads_give _ _)
  · exact search_anyone_said h hw (anyone_named_eq_nil (Option.some_ne_none user) _ _)
  · exact search_anyone_said h hw (anyone_named_eq_nil (Option.some_ne_none user) _ _)

end Anyone

theorem find?_saying (h : scope.IsNamed) (ht : IsPlainText text) (hw : LacksWhen text) :
    find? (joinBlank (scope.saying text)) = some (scope.cue .message text, []) := by
  obtain ⟨hd, hs⟩ := h.no_quote_tail
  have hend : ∀ c ∈ ([] : List Char).head?, isBlank c = true := by simp
  have hany := anyone_said h ht hw hend rfl
  have huser := reads_userSays h ht (reads_tail h hend rfl)
  rw [List.append_nil] at hany huser
  rw [Scope.joinBlank_saying]
  split at hany
  · simp only [find?, forms, List.findSome?_cons, search_of_reads hany]
  · rw [needsQuote_anyoneSaysInRoom.search_eq_none hd hs] at hany
    simp only [find?, forms, List.findSome?_cons, hany, search_of_reads huser]

theorem reads_roomBefore (h : scope.IsNamed) (hr : ∀ c ∈ rest.head?, isBlank c = false)
    (hin : word "in" rest = []) : Reads roomBefore (scope.ahead rest) scope.room rest := by
  obtain ⟨user, _ | room⟩ := scope
  · exact reads_optional_of_eq_nil (bind_eq_nil (bind_eq_nil hin))
  · exact ((reads_inRoom (h.room room rfl) (by simp [isBlank])).bind
      ((reads_blanks hr).bind (reads_give room rest))).optional

theorem reads_mentioned (h : scope.IsNamed) (hr : ∀ c ∈ rest.head?, isBlank c = true) :
    Reads mentioned (scope.noticed rest) (scope.cue .mention []) rest := by
  have hahead : ∀ c ∈ (scope.ahead ("is".toList ++ ' ' :: ("mentioned".toList ++ rest))).head?,
      isBlank c = false := by
    obtain ⟨user, _ | room⟩ := scope <;> simp [Scope.ahead, isBlank]
  have hend : Reads wordEnd rest () rest := by
    cases rest with
    | nil => rfl
    | cons c rest => simp [Reads, wordEnd, isWord_of_isBlank (hr c rfl)]
  rw [Scope.noticed, Scope.cue, ← namedUser_name h]
  refine (reads_word "when" _).bind ?_
  refine (reads_blanks (scope.head?_subject _)).bind ?_
  refine (reads_subject h hahead).bind ?_
  refine (reads_roomBefore h (by simp [isBlank]) rfl).bind ?_
  refine ((reads_word "is" _).bind (reads_blanks (by simp [isBlank]))).optional.bind ?_
  refine (reads_word "mentioned" rest).bind ?_
  exact hend.bind (reads_give _ _)

theorem needsQuote_userSays : NeedsQuote userSays :=
  (consumes_word _).needsQuote fun _ => (consumes_run _).needsQuote fun _ =>
    consumes_subject.needsQuote fun _ => consumes_roomBefore.needsQuote fun _ =>
    consumes_saying.needsQuote fun _ => needsQuote_quoted.bind _

theorem find?_mentioned (h : scope.IsNamed) :
    find? (joinBlank scope.mentioned) = some (scope.cue .mention [], []) := by
  obtain ⟨hd, hs⟩ := h.no_quote_mentioned
  simp only [find?, forms, List.findSome?_cons, needsQuote_anyoneSaysInRoom.search_eq_none hd hs,
    needsQuote_userSays.search_eq_none hd hs]
  rw [Scope.joinBlank_mentioned, search_of_reads (reads_mentioned h (by simp))]

end Cue

namespace Response
variable {text : List Char}

theorem reads_send (rest : List Char) :
    Reads send ("send".toList ++ ' ' :: '"' :: rest) () ('"' :: rest) := by
  have hsend : Reads (oneOf [word "send", do word "reply"; let _ ← blanks; word "with"])
      ("send".toList ++ ' ' :: '"' :: rest) () (' ' :: '"' :: rest) :=
    (reads_word "send" _).either
  exact hsend.bind ((reads_blanks (by simp [isBlank])).bind (reads_give () _))

theorem reads_sendMessage {rest : List Char} {room : Option (Option (List Char))}
    (hn : text ≠ []) (hq : '"' ∉ text) (hp : Reads (optional place) rest room []) :
    Reads sendMessage ("send".toList ++ ' ' :: '"' :: (text ++ '"' :: rest))
      ⟨.message, String.ofList text,
        some (((room.getD none).map String.ofList).getD Action.sameRoom)⟩ [] := by
  refine (reads_send _).bind ?_
  refine (reads_optional_of_eq_nil rfl).bind ?_
  refine (reads_quoted hn hq _).bind ?_
  exact hp.bind (reads_give _ _)

theorem reads_place {room : List Char} (hn : IsName room) :
    Reads place (' ' :: ("to".toList ++ ' ' :: '#' :: room)) (some room) [] := by
  have hname : Reads name (room ++ []) room [] := .of_eq_cons (name_append hn (by simp))
  rw [List.append_nil] at hname
  have hone : Reads (one (· == '#')) ('#' :: room) '#' room := rfl
  have hroom : Reads namedRoom ('#' :: room) (some room) [] :=
    hone.bind (hname.bind (reads_give _ _))
  have hto : Reads (oneOf [word "to", word "in"]) ("to".toList ++ ' ' :: '#' :: room) ()
      (' ' :: '#' :: room) := (reads_word "to" _).either
  refine (reads_blanks (by simp [isBlank])).bind ?_
  refine hto.bind ?_
  refine (reads_blanks (by simp [isBlank])).bind ?_
  exact reads_either_of_eq_nil rfl hroom

theorem reads_notify {user : List Char} (hn : IsName user) :
    Reads notify ("notify".toList ++ ' ' :: '@' :: user)
      ⟨.direct, notice, some (String.ofList user)⟩ [] := by
  have huser : Reads (nameAfter '@') ('@' :: (user ++ [])) user [] :=
    reads_nameAfter '@' hn (by simp)
  rw [List.append_nil] at huser
  refine (reads_word "notify" _).bind ?_
  refine (reads_blanks (by simp [isBlank])).bind ?_
  exact huser.bind (reads_give _ _)

theorem consumes_send : Consumes send := by
  refine Consumes.bind (consumes_oneOf fun p hp => ?_) fun _ =>
    (consumes_run _).bind fun _ => consumes_give ()
  simp only [List.mem_cons, List.not_mem_nil, or_false] at hp
  rcases hp with rfl | rfl
  · exact consumes_word _
  · exact (consumes_word _).bind fun _ => (consumes_run _).bind fun _ => consumes_word _

theorem consumes_article : Consumes article :=
  Consumes.bind (.optional ((consumes_word _).bind fun _ => consumes_run _)) fun _ =>
    consumes_give ()

theorem needsQuote_sendMessage : NeedsQuote sendMessage := by
  have hmessage : Consumes (optional do article; word "message"; blanks) :=
    .optional (consumes_article.bind fun _ => (consumes_word _).bind fun _ => consumes_run _)
  exact consumes_send.needsQuote fun _ => hmessage.needsQuote fun _ => needsQuote_quoted.bind _

theorem needsQuote_sendDirect : NeedsQuote sendDirect := by
  have hkind : Consumes (oneOf [do word "direct"; let _ ← blanks; word "message", word "dm"]) := by
    refine consumes_oneOf fun p hp => ?_
    simp only [List.mem_cons, List.not_mem_nil, or_false] at hp
    rcases hp with rfl | rfl
    · exact (consumes_word _).bind fun _ => (consumes_run _).bind fun _ => consumes_word _
    · exact consumes_word _
  exact consumes_send.needsQuote fun _ => consumes_article.needsQuote fun _ =>
    hkind.needsQuote fun _ => (consumes_run _).needsQuote fun _ => needsQuote_quoted.bind _

theorem find?_of_reads_sendMessage {s : List Char} {response : Response}
    (h : Reads sendMessage s response []) : find? s = some response := by
  simp only [find?, forms, List.findSome?_cons, search_of_reads h, Option.map_some]

theorem find?_sendTo {room : List Char} (hn : text ≠ []) (hq : '"' ∉ text) (hr : IsName room) :
    find? (joinBlank (Order.sendTo text room).parts) = some (Order.sendTo text room).response := by
  have hparts : joinBlank (Order.sendTo text room).parts =
      "send".toList ++ ' ' :: '"' :: (text ++ '"' ::
        ' ' :: ("to".toList ++ ' ' :: '#' :: room)) := by
    simp [Order.parts, joinBlank, inQuotes]
  rw [hparts]
  exact find?_of_reads_sendMessage (reads_sendMessage hn hq (reads_place hr).optional)

theorem find?_parts {order : Order} (h : order.IsSound) :
    find? (joinBlank order.parts) = some order.response := by
  cases order with
  | send text =>
    have ht : IsText text := h
    exact find?_of_reads_sendMessage
      (reads_sendMessage ht.ne_nil ht.no_quote (reads_optional_of_eq_nil rfl))
  | sendTo text room =>
    obtain ⟨ht, hr⟩ := h
    exact find?_sendTo ht.ne_nil ht.no_quote hr
  | notify user =>
    have hname : IsName user := h
    have hparts : joinBlank (Order.notify user).parts =
        "notify".toList ++ ' ' :: '@' :: user := rfl
    have hd : '"' ∉ "notify".toList ++ ' ' :: '@' :: user := by simp [hname.no_quote]
    have hs : '\'' ∉ "notify".toList ++ ' ' :: '@' :: user := by simp [hname.no_quote]
    have hmessage := needsQuote_sendMessage.search_eq_none hd hs false
    have hdirect := needsQuote_sendDirect.search_eq_none hd hs false
    rw [hparts]
    simp only [find?, forms, List.findSome?_cons, hmessage, hdirect,
      search_of_reads (reads_notify hname), Option.map_none, Option.map_some, Order.response]

end Response

namespace Sentence

theorem steps_sentence {clause : List (List Char)} (hn : clause ≠ []) (hc : ∀ p ∈ clause, IsPart p)
    {order : Order} (ho : order.IsSound) {cue : Cue}
    (hf : Cue.find? (joinBlank clause) = some (cue, [])) :
    steps (sentence clause order) = [⟨cue, order.response⟩] := by
  have hnone : Response.find? [] = none := rfl
  rw [steps, fragments_sentence hn hc ho]
  simp only [stepsFrom, hf, hnone, Response.find?_parts ho, List.reverse_singleton]

/-- A sentence in its plainest wording is read into one step with just what it names and quotes. -/
theorem steps_plain_sentence {scope : Scope} (hs : scope.IsNamed) {order : Order}
    (ho : order.IsSound) :
    (∀ text, IsText text → LacksWhen text →
      steps (sentence (scope.saying text) order) = [⟨scope.cue .message text, order.response⟩]) ∧
    steps (sentence scope.mentioned order) = [⟨scope.cue .mention [], order.response⟩] := by
  constructor
  · intro text ht hw
    exact steps_sentence (List.cons_ne_nil _ _) (hs.isPart_saying ht) ho
      (Cue.find?_saying hs ht.toIsPlainText hw)
  · exact steps_sentence (List.cons_ne_nil _ _) hs.isPart_mentioned ho (Cue.find?_mentioned hs)

def oddScope : Scope := ⟨some "when.in-says".toList, some "is".toList⟩

def oddOrder : Order := .sendTo "it's up".toList "then".toList

theorem odd_names_read_back :
    steps "when @when.in-says says \"or then, and\" in #is then send \"it's up\" to #then".toList =
      [⟨⟨.message, "or then, and", some "when.in-says", some "is"⟩,
        ⟨.message, "it's up", some "then"⟩⟩] ∧
    steps "when @when.in-says in #is is mentioned then send \"it's up\" to #then".toList =
      [⟨⟨.mention, "", some "when.in-says", some "is"⟩, ⟨.message, "it's up", some "then"⟩⟩] := by
  have hname : IsName "when.in-says".toList :=
    .dotted (s := "when".toList) (by decide) (List.all_eq_true.mp (by decide +kernel))
      (isName_of_all (by decide) (by decide +kernel))
  have hscope : oddScope.IsNamed := by
    refine ⟨fun u hu => ?_, fun r hr => ?_⟩
    · rw [← Option.some.inj hu]
      exact ⟨hname, by decide +kernel⟩
    · rw [← Option.some.inj hr]
      exact isName_of_all (by decide) (by decide +kernel)
  have horder : oddOrder.IsSound := ⟨by decide +kernel, isName_of_all (by decide) (by decide +kernel)⟩
  have hsaying : sentence (oddScope.saying "or then, and".toList) oddOrder =
      "when @when.in-says says \"or then, and\" in #is then send \"it's up\" to #then".toList := by
    decide +kernel
  have hmentioned : sentence oddScope.mentioned oddOrder =
      "when @when.in-says in #is is mentioned then send \"it's up\" to #then".toList := by
    decide +kernel
  obtain ⟨hfirst, hsecond⟩ := steps_plain_sentence hscope horder
  rw [← hsaying, ← hmentioned, hfirst _ (by decide +kernel) (by decide +kernel), hsecond]
  exact ⟨rfl, rfl⟩

/-- The case of a connective is free, so a capital one in a quoted text cuts the text too. -/
theorem capital_connective_cuts_text :
    IsName "john".toList ∧ Cue.isAnyUser "john".toList = false ∧
    IsPlainText "x THEN y".toList ∧ LacksWhen "x THEN y".toList ∧
    (∀ w ∈ (inQuotes "x THEN y".toList).splitOnP isBlank, w ≠ "then".toList ∧ w ≠ "and".toList) ∧
    IsText "c".toList ∧
    sentence (Scope.saying ⟨some "john".toList, none⟩ "x THEN y".toList) (.send "c".toList) =
      "when @john says \"x THEN y\" then send \"c\"".toList ∧
    steps "when @john says \"x THEN y\" then send \"c\"".toList = [] := by
  refine ⟨isName_of_all (by decide) (by decide +kernel), ?_⟩
  decide +kernel

end Sentence

end ChatRules
