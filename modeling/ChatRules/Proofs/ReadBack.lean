import ChatRules.Proofs.QuotingForms

/-!
The preview of a step, typed back. It is one fragment, and what it says is read where it says it.
Two things stand in the way of reading the step again: a mention is not read with the room behind
it, and a cue in the content is found in front of the step's own, if its form comes first.
-/

namespace ChatRules
open Text Command Sentence Phrase
open Token (IsGap)

namespace Sentence

section OneFragment
variable {s t gap : List Char}

theorem IsPart.across (hs : IsPart s) (hg : IsGap gap) (ht : IsPart t) :
    IsPart (s ++ gap ++ t) where
  ne_nil := by simp [hs.ne_nil]
  head c h := by
    obtain ⟨x, rest, rfl⟩ := List.exists_cons_of_ne_nil hs.ne_nil
    exact hs.head c h
  last c h := by
    rw [List.getLast?_append_of_ne_nil _ ht.ne_nil] at h
    exact ht.last c h
  clear := IsClear.append hs.clear hg ht.clear
  normal_eq := by
    rw [normal_append_unmarked (fun c hc => not_mark_of_isBlank (hg.blank c hc)) hg.ne_nil,
      hs.normal_eq, ht.normal_eq]

theorem IsPart.steps_eq (hs : IsPart s) : steps s = (clause? s).toList := by
  rw [steps, hs.fragments_eq, stepsFrom, clause?]
  cases Cue.find? s with
  | none => cases Response.find? s <;> rfl
  | some found =>
    simp only
    cases Response.find? found.2 <;> rfl

theorem IsPart.steps?_eq_singleton_iff (hs : IsPart s) {step : Step} :
    steps? s = .ok [step] ↔ clause? s = some step := by
  have htrim : trim s = s := IsTrimmed.trim_eq ⟨hs.head, hs.last⟩
  simp only [steps?, htrim, if_neg hs.ne_nil, hs.steps_eq]
  cases clause? s with
  | none => simp
  | some found => simp

end OneFragment

theorem Scope.noticed_append (scope : Scope) (s t : List Char) :
    scope.noticed (s ++ t) = scope.noticed s ++ t := by
  obtain ⟨user, _ | room⟩ := scope <;> simp [noticed, ahead]

namespace Phrase
variable {α : Type} {p : Phrase α} {s t rest : List Char} {a : α}

theorem search_of_reads_behind (h : NoneWithin p s t) (hs : inWordAfter false s = false)
    (hr : Reads p t a rest) : search p false (s ++ t) = some (a, rest) := by
  rw [h.search_append, hs, search_of_reads hr]

theorem StartsWord.noneWithin (hp : StartsWord p) (hs : s.any isWord = false) (t : List Char) :
    NoneWithin p s t := by
  intro u hn hu
  obtain ⟨c, u, rfl⟩ := List.exists_cons_of_ne_nil hn
  refine hp _ fun d hd => ?_
  rw [← Option.some.inj hd]
  exact eq_false_of_any hs c (hu.subset List.mem_cons_self)

end Phrase

end Sentence

namespace Cue
variable {s t : List Char}

theorem eq_of_capital {form : Phrase Cue} (h : form ∈ forms) (s : List Char) :
    form ('W' :: s) = form ('w' :: s) := by
  have hsame : sameLetter 'w' 'W' = true := by decide +kernel
  have hwhen : word "when" ('W' :: s) = word "when" ('w' :: s) := by
    have hw : "when".toList = 'w' :: "hen".toList := rfl
    rw [word, hw, letters_cons_cons, letters_cons_cons, if_pos hsame, if_pos (sameLetter_self 'w')]
  have hbind (f : Unit → Phrase Cue) :
      (word "when" >>= f) ('W' :: s) = (word "when" >>= f) ('w' :: s) := by
    rw [bind_apply, bind_apply, hwhen]
  simp only [forms, List.mem_cons, List.not_mem_nil, or_false] at h
  rcases h with rfl | rfl | rfl <;> exact hbind _

theorem find?_capital (s : List Char) : find? ('W' :: s) = find? ('w' :: s) := by
  have hword : isWord 'W' = isWord 'w' := by decide +kernel
  have hsearch : ∀ form ∈ forms, form.search false ('W' :: s) = form.search false ('w' :: s) := by
    intro form hf
    rw [Phrase.search, Phrase.search, eq_of_capital hf, hword]
  simp only [forms, List.forall_mem_cons] at hsearch
  obtain ⟨ha, hu, hm, -⟩ := hsearch
  simp only [find?, forms, List.findSome?_cons, List.findSome?_nil, ha, hu, hm]

end Cue

namespace Response
variable {T : List Char → Prop} {kind : ResponseKind} {content target : String}

def order : ResponseKind → String
  | .message => "send message "
  | .direct => "send DM "

def ending (kind : ResponseKind) (target : String) : List Char :=
  match kind with
  | .message =>
    if target = Action.sameRoom then "in this channel".toList
    else "to".toList ++ ' ' :: '#' :: target.toList
  | .direct => "to".toList ++ ' ' :: '@' :: target.toList

def arrow : String := "\n  -> "

def preview (kind : ResponseKind) (content target : String) : List Char :=
  arrow.toList ++ ((order kind).toList ++
    '"' :: (content.toList ++ '"' :: ' ' :: ending kind target))

theorem describe_toList (kind : ResponseKind) (content target : String) :
    (arrow ++ describe ⟨kind, content, some target⟩).toList = preview kind content target := by
  cases kind with
  | message =>
    simp only [describe, preview, order, ending]
    split <;> simp
  | direct => simp [describe, preview, order, ending]

def LacksOrder (text : List Char) : Prop :=
  ∀ w ∈ ["send", "reply"], ∀ s ∈ text.tails, word w s = []

instance (text : List Char) : Decidable (LacksOrder text) :=
  inferInstanceAs (Decidable (∀ w ∈ ["send", "reply"], ∀ s ∈ text.tails, word w s = []))

theorem LacksOrder.search_eq_none {text : List Char} (h : LacksOrder text) :
    sendMessage.search false text = none := by
  refine Phrase.search_eq_none (fun s hs => ?_) false
  have hw : ∀ w ∈ ["send", "reply"], word w s = [] := fun w hw =>
    h w hw s ((List.mem_tails _ _).mpr hs)
  refine bind_eq_nil (bind_eq_nil (oneOf_eq_nil fun p hp => ?_))
  simp only [List.mem_cons, List.not_mem_nil, or_false] at hp
  rcases hp with rfl | rfl
  · exact hw "send" (by decide)
  · exact bind_eq_nil (hw "reply" (by decide))

theorem IsMadeOf.isText_content {r : Response} (h : r.IsMadeOf IsQuotable)
    (hq : '"' ∉ r.content.toList) : IsText r.content.toList := by
  rcases h.content with hc | hc
  · exact hc hq
  · rw [hc]
    decide +kernel

theorem isPart_ending (kind : ResponseKind) (hn : IsName target.toList) :
    IsPart (ending kind target) := by
  have hto : IsPart "to".toList := isPart_keyword (by decide)
  cases kind with
  | message =>
    rw [ending]
    split
    · decide +kernel
    · exact hto.append (isPart_signed (by simp) hn)
  | direct => exact hto.append (isPart_signed (by simp) hn)

theorem no_quote_ending (kind : ResponseKind) (hn : IsName target.toList) :
    '"' ∉ ' ' :: ending kind target ∧ '\'' ∉ ' ' :: ending kind target := by
  obtain ⟨hd, hs⟩ := hn.no_quote
  cases kind with
  | message =>
    rw [ending]
    split
    · decide
    · simp [hd, hs]
  | direct => simp [ending, hd, hs]

section Reading

theorem search_arrow {α : Type} {p : Phrase α} {s : List Char} {a : α} (hp : StartsWord p)
    (hr : Reads p s a []) : search p false (arrow.toList ++ s) = some (a, []) := by
  have harrow : arrow.toList.any isWord = false ∧
      inWordAfter false arrow.toList = false := by
    decide +kernel
  exact search_of_reads_behind (hp.noneWithin harrow.1 s) harrow.2 hr

theorem reads_messageOrder (rest : List Char) :
    Reads messageOpening ((order .message).toList ++ '"' :: rest) (some [' ']) ('"' :: rest) := by
  have hq : '"' ∉ (order .message).toList := by decide
  have ho : messageOpening (order .message).toList =
      [(some [' '], []), (none, "message ".toList)] := by
    decide +kernel
  rw [Reads, stopsAtQuote_messageOpening.eq_map _ hq, ho]
  rfl

theorem reads_directOrder (rest : List Char) :
    Reads directOpening ((order .direct).toList ++ '"' :: rest) [' '] ('"' :: rest) := by
  have hq : '"' ∉ (order .direct).toList := by decide
  have ho : directOpening (order .direct).toList = [([' '], [])] := by decide +kernel
  rw [Reads, stopsAtQuote_directOpening.eq_map _ hq, ho]
  rfl

theorem reads_ending (hn : IsName target.toList) :
    ∃ room, Reads (optional place) (' ' :: ending .message target) room [] ∧
      ((room.getD none).map String.ofList).getD Action.sameRoom = target := by
  rw [ending]
  split
  · next h =>
    have hthis : Reads (optional place) (' ' :: "in this channel".toList) (some none) [] := by
      rw [Reads]
      decide +kernel
    exact ⟨some none, hthis, h.symm⟩
  · exact ⟨some (some target.toList), (reads_place hn).optional, by simp⟩

theorem find?_preview_message (hc : IsText content.toList) (hn : IsName target.toList) :
    find? (preview .message content target) = some ⟨.message, content, some target⟩ := by
  obtain ⟨room, hroom, ht⟩ := reads_ending hn
  have hread : Reads sendMessage ((order .message).toList ++ '"' :: (content.toList ++ '"' ::
      ' ' :: ending .message target)) ⟨.message, String.ofList content.toList,
        some (((room.getD none).map String.ofList).getD Action.sameRoom)⟩ [] := by
    rw [sendMessage_eq]
    exact (reads_messageOrder _).bind
      ((reads_quoted hc.ne_nil hc.no_quote _).bind (hroom.bind (reads_give _ _)))
  rw [String.ofList_toList, ht] at hread
  simp only [find?, forms, List.findSome?_cons, preview,
    search_arrow startsWord_sendMessage hread, Option.map_some]

theorem find?_preview_direct (hc : IsText content.toList) (ho : LacksOrder content.toList)
    (hn : IsName target.toList) :
    find? (preview .direct content target) = some ⟨.direct, content, some target⟩ := by
  obtain ⟨hd, hs⟩ := no_quote_ending .direct hn
  have hmessage : sendMessage.search false (preview .direct content target) = none := by
    have hleaves : Leaves (arrow.toList ++ (order .direct).toList) messageOpening := by
      have hall : ∀ s ∈ (arrow.toList ++ (order .direct).toList).tails,
          ∀ r ∈ messageOpening s, r.2 ≠ [] := by
        decide +kernel
      exact fun s hs => hall s ((List.mem_tails _ _).mpr hs)
    have hnone : NoneWithin sendMessage (arrow.toList ++ (order .direct).toList)
        ('"' :: (content.toList ++ '"' :: ' ' :: ending .direct target)) := by
      rw [sendMessage_eq]
      exact stopsAtQuote_messageOpening.noneWithin (fun _ => startsQuote_quoted.bind _)
        (by decide) (by decide) hleaves
    rw [preview, ← List.append_assoc, (stopsAtQuote_sendMessage hd hs).search_between
      startsWord_sendMessage needsQuote_sendMessage hnone hd hs hc.no_quote, ho.search_eq_none]
    rfl
  have hread : Reads sendDirect ((order .direct).toList ++ '"' :: (content.toList ++ '"' ::
      ' ' :: ending .direct target)) ⟨.direct, content, some target⟩ [] := by
    have hbody := reads_directBody hc.ne_nil hc.no_quote hn
    rw [String.ofList_toList, String.ofList_toList] at hbody
    rw [sendDirect_eq]
    exact (reads_directOrder _).bind hbody
  have hstart : StartsWord sendDirect := startsWord_send.bind _
  have hdirect := search_arrow hstart hread
  rw [preview] at hmessage ⊢
  simp only [find?, forms, List.findSome?_cons, hmessage, hdirect, Option.map_none, Option.map_some]

theorem find?_preview (kind : ResponseKind) (hc : IsText content.toList)
    (ho : LacksOrder content.toList) (hn : IsName target.toList) :
    find? (preview kind content target) = some ⟨kind, content, some target⟩ := by
  cases kind with
  | message => exact find?_preview_message hc hn
  | direct => exact find?_preview_direct hc ho hn

end Reading

end Response

namespace Cue
variable {c : Cue} {content target : String} {T : List Char → Prop}

section Preview

def clauseParts (c : Cue) : List (List Char) :=
  match c.kind with
  | .message => (c.scope.saying c.pattern.toList).tail
  | .mention => (Scope.mentioned ⟨c.scope.user, none⟩).tail ++ c.scope.place

theorem describe_toList (c : Cue) :
    c.describe.toList = "When".toList ++ ' ' :: joinBlank c.clauseParts := by
  obtain ⟨_ | _, pattern, _ | user, _ | room⟩ := c <;>
    simp [describe, who, place, clauseParts, scope, Scope.saying, Scope.mentioned, Scope.subject,
      Scope.place, joinBlank, inQuotes]

theorem clause_message (hk : c.kind = .message) (rest : List Char) :
    "when".toList ++ ' ' :: (joinBlank c.clauseParts ++ rest) =
      c.scope.said c.pattern.toList (c.scope.tail ++ rest) := by
  obtain ⟨kind, pattern, _ | user, _ | room⟩ := c <;> cases hk <;>
    simp [clauseParts, scope, Scope.saying, Scope.subject, Scope.place, Scope.said, Scope.tail,
      joinBlank, inQuotes]

theorem clause_mention (hk : c.kind = .mention) (rest : List Char) :
    "when".toList ++ ' ' :: (joinBlank c.clauseParts ++ rest) =
      Scope.noticed ⟨c.scope.user, none⟩ (c.scope.tail ++ rest) := by
  obtain ⟨kind, pattern, _ | user, _ | room⟩ := c <;> cases hk <;>
    simp [clauseParts, scope, Scope.mentioned, Scope.subject, Scope.place, Scope.noticed,
      Scope.ahead, Scope.tail, joinBlank]

theorem isNamed_anywhere (h : c.scope.IsNamed) : Scope.IsNamed ⟨c.scope.user, none⟩ :=
  ⟨h.user, fun _ hr => nomatch hr⟩

theorem IsMadeOf.isPart_clauseParts (h : c.IsMadeOf IsQuotable) (hq : '"' ∉ c.pattern.toList) :
    ∀ p ∈ c.clauseParts, IsPart p := by
  intro p hp
  rw [clauseParts] at hp
  split at hp
  · next hk => exact h.named.isPart_saying (h.message hk hq) p (List.mem_of_mem_tail hp)
  · rcases List.mem_append.mp hp with hp | hp
    · exact (isNamed_anywhere h.named).isPart_mentioned p (List.mem_of_mem_tail hp)
    · exact h.named.isPart_place p hp

end Preview

section Found

def earlierForms : Cue → List (Phrase Cue)
  | ⟨.message, _, none, some _⟩ => []
  | ⟨.message, _, _, _⟩ => [anyoneSaysInRoom]
  | ⟨.mention, _, _, _⟩ => [anyoneSaysInRoom, userSays]

theorem earlierForms_subset (c : Cue) : c.earlierForms ⊆ quotingForms := by
  obtain ⟨_ | _, pattern, _ | user, _ | room⟩ := c <;> simp [earlierForms, quotingForms]

theorem gives_anyone : Gives (fun c => ∃ text room, c = ⟨.message, text, none, some room⟩)
    anyoneSaysInRoom := by
  refine gives_bind fun _ => gives_bind fun _ => gives_bind fun _ => gives_bind fun _ =>
    gives_bind fun _ => gives_bind fun text => gives_bind fun room => gives_give ⟨_, _, rfl⟩

theorem gives_message {form : Phrase Cue} (hf : form ∈ quotingForms) :
    Gives (fun c => c.kind = .message) form := by
  simp only [quotingForms, List.mem_cons, List.not_mem_nil, or_false] at hf
  rcases hf with rfl | rfl
  · intro s r hr
    obtain ⟨text, room, h⟩ := gives_anyone s r hr
    rw [h]
  · exact gives_bind fun _ => gives_bind fun _ => gives_bind fun _ => gives_bind fun _ =>
      gives_bind fun _ => gives_bind fun _ => gives_bind fun _ => gives_give rfl

theorem gives_ne_of_mem_earlierForms {form : Phrase Cue} (hf : form ∈ c.earlierForms) :
    Gives (· ≠ c) form := by
  intro s r hr he
  obtain ⟨_ | _, pattern, user, room⟩ := c
  · have hany : form = anyoneSaysInRoom := by
      cases user <;> cases room <;> simp [earlierForms] at hf <;> exact hf
    subst hany
    obtain ⟨text, place, h⟩ := gives_anyone s r hr
    rw [he] at h
    cases h
    cases hf
  · have hk := gives_message (earlierForms_subset _ hf) s r hr
    rw [he] at hk
    cases hk

theorem or_eq_some_iff {s t : List Char} {own : Cue × List Char} {behind : List Char} :
    ((c.earlierForms.findSome? fun form => form.search false s).map (quoteBehind t)).or (some own) =
        some (c, behind) ↔
      (∀ form ∈ c.earlierForms, form.search false s = none) ∧ own = (c, behind) := by
  rw [← List.findSome?_eq_none_iff]
  cases hf : c.earlierForms.findSome? fun form => form.search false s with
  | none => simp
  | some r =>
    obtain ⟨form, hform, hr⟩ := List.exists_of_findSome?_eq_some hf
    have hne : r.1 ≠ c := (gives_ne_of_mem_earlierForms hform).search hr
    simp [quoteBehind, hne]

theorem lastLetter_order (kind : ResponseKind) (s : List Char) :
    ∀ x ∈ lastLetter (s ++ (Response.arrow.toList ++ (Response.order kind).toList)),
      isVerbEnd x = false := by
  have hverb : isVerbEnd 'e' = false ∧ isVerbEnd 'M' = false := by decide +kernel
  have hgap : ∀ d ∈ [' '], isBlank d = true := by simp [isBlank]
  intro x hx
  cases kind with
  | message =>
    have hend : Response.arrow.toList ++ (Response.order .message).toList =
        "\n  -> send messag".toList ++ 'e' :: [' '] := by decide
    rw [hend, ← List.append_assoc, lastLetter_append (by decide) hgap] at hx
    rw [← Option.some.inj hx]
    exact hverb.1
  | direct =>
    have hend : Response.arrow.toList ++ (Response.order .direct).toList =
        "\n  -> send D".toList ++ 'M' :: [' '] := by decide
    rw [hend, ← List.append_assoc, lastLetter_append (by decide) hgap] at hx
    rw [← Option.some.inj hx]
    exact hverb.2

theorem search_preview {form : Phrase Cue} (hf : form ∈ quotingForms) {s : List Char}
    (hd : '"' ∉ s) (ha : '\'' ∉ s) (kind : ResponseKind) (hc : '"' ∉ content.toList)
    (hn : IsName target.toList) :
    form.search false (s ++ Response.preview kind content target) =
      (form.search false content.toList).map
        (quoteBehind (' ' :: Response.ending kind target)) := by
  obtain ⟨htd, hta⟩ := Response.no_quote_ending kind hn
  have horder : '"' ∉ Response.arrow.toList ++ (Response.order kind).toList ∧
      '\'' ∉ Response.arrow.toList ++ (Response.order kind).toList := by
    cases kind <;> decide
  rw [Response.preview, ← List.append_assoc Response.arrow.toList, ← List.append_assoc s]
  refine search_quoting hf ?_ ?_ (lastLetter_order kind s) hc htd hta
  · exact fun h => (List.mem_append.mp h).elim hd horder.1
  · exact fun h => (List.mem_append.mp h).elim ha horder.2

theorem head?_preview (kind : ResponseKind) (content target : String) :
    ∀ x ∈ (Response.preview kind content target).head?, isBlank x = true := by
  intro x hx
  rw [← Option.some.inj hx]
  decide

theorem roomAfter_preview (kind : ResponseKind) (content target : String) :
    roomAfter (Response.preview kind content target) = [] := by
  have harrow : Response.arrow.toList = "\n  ".toList ++ "-> ".toList := by decide
  rw [Response.preview, harrow, List.append_assoc]
  have hgap (rest : List Char) :
      blanks ("\n  ".toList ++ ("-> ".toList ++ rest)) = [("\n  ".toList, "-> ".toList ++ rest)] :=
    run_append (by decide) (by simp [isBlank]) (by simp [isBlank])
  exact (bind_of_eq_singleton (hgap _)).trans (bind_eq_nil rfl)

theorem earlierForms_message (hk : c.kind = .message) :
    c.earlierForms =
      if c.scope.user = none ∧ c.scope.room ≠ none then [] else [anyoneSaysInRoom] := by
  obtain ⟨kind, pattern, _ | user, _ | room⟩ := c <;> cases hk <;> simp [earlierForms, scope]

theorem earlierForms_mention (hk : c.kind = .mention) : c.earlierForms = quotingForms := by
  obtain ⟨kind, pattern, user, room⟩ := c
  cases hk
  rfl

theorem cue_anywhere (h : c.IsMadeOf T) (hk : c.kind = .mention) :
    Scope.cue ⟨c.scope.user, none⟩ .mention [] = { c with room := none } := by
  obtain ⟨kind, pattern, user, room⟩ := c
  cases hk
  have hpattern : pattern = "" := h.mention rfl
  simp [Scope.cue, scope, hpattern]

theorem no_quote_noticed (h : c.scope.IsNamed) :
    '"' ∉ Scope.noticed ⟨c.scope.user, none⟩ c.scope.tail ∧
      '\'' ∉ Scope.noticed ⟨c.scope.user, none⟩ c.scope.tail := by
  obtain ⟨hd, ha⟩ := (isNamed_anywhere h).no_quote_mentioned
  obtain ⟨htd, hta⟩ := h.no_quote_tail
  rw [Scope.joinBlank_mentioned] at hd ha
  rw [← List.nil_append c.scope.tail, Scope.noticed_append]
  exact ⟨fun h => (List.mem_append.mp h).elim hd htd, fun h => (List.mem_append.mp h).elim ha hta⟩

theorem cue_scope (c : Cue) : c.scope.cue c.kind c.pattern.toList = c := by
  obtain ⟨kind, pattern, user, room⟩ := c
  simp [Scope.cue, scope]

section Previewed
variable (h : c.IsMadeOf IsQuotable) (kind : ResponseKind) (hc : '"' ∉ content.toList)
  (hn : IsName target.toList)
include h hc hn

theorem find?_preview_message (hk : c.kind = .message) (hp : '"' ∉ c.pattern.toList)
    (hw : LacksWhen c.pattern.toList) :
    find? ("when".toList ++ ' ' :: (joinBlank c.clauseParts ++
        Response.preview kind content target)) =
      ((c.earlierForms.findSome? fun form => form.search false content.toList).map
        (quoteBehind (' ' :: Response.ending kind target))).or
          (some (c, Response.preview kind content target)) := by
  have ht := (h.message hk hp).toIsPlainText
  have hend := head?_preview kind content target
  have hroom := roomAfter_preview kind content target
  have hany := anyone_said h.named ht hw hend hroom
  have huser := search_of_reads (reads_userSays h.named ht (reads_tail h.named hend hroom))
  obtain ⟨hd, ha⟩ := h.named.no_quote_tail
  have hquoted : anyoneSaysInRoom ∈ quotingForms := by simp [quotingForms]
  rw [← hk, cue_scope] at hany huser
  rw [clause_message hk, earlierForms_message hk]
  split at hany
  · next hfull =>
    simp only [if_pos hfull, find?, forms, List.findSome?_cons, List.findSome?_nil,
      search_of_reads hany, Option.map_none, Option.none_or]
  · next hpart =>
    rw [search_preview hquoted hd ha kind hc hn] at hany
    simp only [if_neg hpart, find?, forms, List.findSome?_cons, List.findSome?_nil, hany, huser]
    cases anyoneSaysInRoom.search false content.toList <;> rfl

theorem find?_preview_mention (hk : c.kind = .mention) :
    find? ("when".toList ++ ' ' :: (joinBlank c.clauseParts ++
        Response.preview kind content target)) =
      ((c.earlierForms.findSome? fun form => form.search false content.toList).map
        (quoteBehind (' ' :: Response.ending kind target))).or
          (some ({ c with room := none },
            c.scope.tail ++ Response.preview kind content target)) := by
  have hend : ∀ x ∈ (c.scope.tail ++ Response.preview kind content target).head?,
      isBlank x = true := by
    rw [Scope.tail]
    split
    · simp [isBlank]
    · exact head?_preview kind content target
  have hown := search_of_reads (reads_mentioned (isNamed_anywhere h.named) hend)
  obtain ⟨hd, ha⟩ := no_quote_noticed h.named
  have hsearch : ∀ form ∈ quotingForms, form.search false
      (Scope.noticed ⟨c.scope.user, none⟩ (c.scope.tail ++ Response.preview kind content target)) =
        (form.search false content.toList).map
          (quoteBehind (' ' :: Response.ending kind target)) := by
    intro form hf
    rw [Scope.noticed_append]
    exact search_preview hf hd ha kind hc hn
  simp only [quotingForms, List.forall_mem_cons] at hsearch
  obtain ⟨hany, huser, -⟩ := hsearch
  rw [cue_anywhere h hk] at hown
  rw [clause_mention hk, earlierForms_mention hk]
  simp only [find?, forms, quotingForms, List.findSome?_cons, List.findSome?_nil, hany, huser, hown]
  cases anyoneSaysInRoom.search false content.toList with
  | some r => rfl
  | none => cases userSays.search false content.toList <;> rfl

theorem find?_preview_iff (hp : '"' ∉ c.pattern.toList) (hw : LacksWhen c.pattern.toList)
    {behind : List Char} :
    find? ("when".toList ++ ' ' :: (joinBlank c.clauseParts ++
        Response.preview kind content target)) = some (c, behind) ↔
      (c.kind = .mention → c.room = none) ∧
        (∀ form ∈ c.earlierForms, form.search false content.toList = none) ∧
        behind = Response.preview kind content target := by
  cases hk : c.kind with
  | message =>
    rw [find?_preview_message h kind hc hn hk hp hw, or_eq_some_iff]
    simp [eq_comm]
  | mention =>
    rw [find?_preview_mention h kind hc hn hk, or_eq_some_iff]
    obtain ⟨_, pattern, user, room⟩ := c
    cases room with
    | none => simp [scope, Scope.tail, eq_comm]
    | some room => simp

end Previewed

end Found

end Cue

namespace Step
variable {c : Cue} {content target : String}

/-- A preview says all of its step: a mention has no room, and the content holds no cue of a form
that is tried before that of the step's own. -/
structure ReadsBack (s : Step) : Prop where
  room : s.cue.kind = .mention → s.cue.room = none
  cue : ∀ form ∈ s.cue.earlierForms, form.search false s.response.content.toList = none

theorem describe_toList (c : Cue) (kind : ResponseKind) (content target : String) :
    (describe ⟨c, ⟨kind, content, some target⟩⟩).toList =
      "When".toList ++ ' ' ::
        (joinBlank c.clauseParts ++ Response.preview kind content target) := by
  have harrow : describe ⟨c, ⟨kind, content, some target⟩⟩ =
      c.describe ++ Response.arrow ++ Response.describe ⟨kind, content, some target⟩ := rfl
  rw [harrow, String.append_assoc, String.toList_append, Response.describe_toList,
    Cue.describe_toList, List.append_assoc, List.cons_append]

theorem isPart_describe (hcue : c.IsMadeOf IsQuotable) (hp : '"' ∉ c.pattern.toList)
    (kind : ResponseKind) (hc : IsText content.toList) (hn : IsName target.toList) :
    IsPart ("When".toList ++ ' ' ::
      (joinBlank c.clauseParts ++ Response.preview kind content target)) := by
  have hparts : c.clauseParts ≠ [] := by
    obtain ⟨_ | _, pattern, user, room⟩ := c <;>
      simp [Cue.clauseParts, Scope.saying, Scope.mentioned]
  have hclause := isPart_joinBlank hparts (hcue.isPart_clauseParts hp)
  have hwhen : IsPart "When".toList := by decide +kernel
  have hgap : IsGap "\n  ".toList := by decide
  have horder : ∃ order, IsPart order ∧
      Response.arrow.toList ++ (Response.order kind).toList = "\n  ".toList ++ order ++ [' '] := by
    cases kind with
    | message => exact ⟨"-> send message".toList, by decide +kernel, by decide⟩
    | direct => exact ⟨"-> send DM".toList, by decide +kernel, by decide⟩
  obtain ⟨order, hpart, horder⟩ := horder
  have hbehind := hpart.append (hc.isPart_inQuotes.append (Response.isPart_ending kind hn))
  have hall := (hwhen.append hclause).across hgap hbehind
  rw [Response.preview, ← List.append_assoc Response.arrow.toList, horder]
  simpa [inQuotes] using hall

end Step

namespace Sentence

/-- A step that a sentence is read into is read from its preview again exactly if the preview says
all of it. Without an apostrophe in the content, only the room of a mention is not said. -/
theorem preview_reads_back_iff {sentence : List Char} {found : List Step}
    (h : steps? sentence = .ok found) {s : Step} (hs : s ∈ found)
    (hp : '"' ∉ s.cue.pattern.toList) (hw : LacksWhen s.cue.pattern.toList)
    (hc : '"' ∉ s.response.content.toList) (ho : Response.LacksOrder s.response.content.toList) :
    (steps? s.describe.toList = .ok [s] ↔ s.ReadsBack) ∧
    ('\'' ∉ s.response.content.toList →
      (steps? s.describe.toList = .ok [s] ↔ (s.cue.kind = .mention → s.cue.room = none))) := by
  rw [eq_steps_of_steps?_eq_ok h] at hs
  obtain ⟨hcue, hresponse⟩ := isMadeOf_of_mem_steps hs
  obtain ⟨c, ⟨kind, content, target?⟩⟩ := s
  obtain ⟨target, rfl, hn⟩ := hresponse.target
  have hcontent := hresponse.isText_content hc
  have hpart := Step.isPart_describe hcue hp kind hcontent hn
  have hiff : steps? (Step.describe ⟨c, ⟨kind, content, some target⟩⟩).toList =
      .ok [⟨c, ⟨kind, content, some target⟩⟩] ↔
        Step.ReadsBack ⟨c, ⟨kind, content, some target⟩⟩ := by
    rw [Step.describe_toList, hpart.steps?_eq_singleton_iff, clause?_eq_some]
    constructor
    · rintro ⟨behind, hfound, -⟩
      obtain ⟨hroom, hforms, -⟩ := (Cue.find?_preview_iff hcue kind hc hn hp hw).mp
        ((Cue.find?_capital _).symm.trans hfound)
      exact ⟨hroom, hforms⟩
    · intro hback
      have hfound := (Cue.find?_preview_iff hcue kind hc hn hp hw).mpr
        ⟨hback.room, hback.cue, rfl⟩
      exact ⟨_, (Cue.find?_capital _).trans hfound, Response.find?_preview kind hcontent ho hn⟩
  refine ⟨hiff, fun ha => hiff.trans ⟨Step.ReadsBack.room, fun hroom => ⟨hroom, ?_⟩⟩⟩
  intro form hform
  exact (Cue.needsQuote_quoting (Cue.earlierForms_subset c hform)).search_eq_none hc ha false

def roomMention : Step :=
  ⟨⟨.mention, "", some "a", some "r"⟩, ⟨.direct, Response.notice, some "b"⟩⟩

def roomMessage : Step :=
  ⟨⟨.message, "it's down", some "a.b", some "when"⟩, ⟨.direct, "hi", some "send"⟩⟩

def quotedCue : Step :=
  ⟨⟨.message, "p", some "a", none⟩, ⟨.message, "when someone says 'x' in #y", some "channel"⟩⟩

theorem room_of_mention_and_quoted_cue_stand_in_the_way :
    steps? "when @a in #r is mentioned then notify @b".toList = .ok [roomMention] ∧
    steps? roomMention.describe.toList ≠ .ok [roomMention] ∧
    steps? "when @a.b in #when posts \"it's down\" reply with a dm 'hi' to send".toList =
      .ok [roomMessage] ∧
    steps? roomMessage.describe.toList = .ok [roomMessage] ∧
    steps? "when @a says \"p\" then send \"when someone says 'x' in #y\"".toList = .ok [quotedCue] ∧
    steps? quotedCue.describe.toList ≠ .ok [quotedCue] := by
  have hmention : steps? "when @a in #r is mentioned then notify @b".toList =
      .ok [roomMention] := by
    decide +kernel
  have hmessage :
      steps? "when @a.b in #when posts \"it's down\" reply with a dm 'hi' to send".toList =
        .ok [roomMessage] := by
    decide +kernel
  have hquoted : steps? "when @a says \"p\" then send \"when someone says 'x' in #y\"".toList =
      .ok [quotedCue] := by
    decide +kernel
  have hcue : Cue.anyoneSaysInRoom.search false quotedCue.response.content.toList ≠ none := by
    decide +kernel
  obtain ⟨-, hfirst⟩ := preview_reads_back_iff hmention List.mem_cons_self (by decide)
    (by decide +kernel) (by decide) (by decide +kernel)
  obtain ⟨-, hsecond⟩ := preview_reads_back_iff hmessage List.mem_cons_self (by decide)
    (by decide +kernel) (by decide) (by decide +kernel)
  obtain ⟨hthird, -⟩ := preview_reads_back_iff hquoted List.mem_cons_self (by decide)
    (by decide +kernel) (by decide) (by decide +kernel)
  refine ⟨hmention, fun h => ?_, hmessage, (hsecond (by decide)).mpr nofun, hquoted, fun h => ?_⟩
  · exact absurd ((hfirst (by decide)).mp h rfl) (by decide)
  · exact hcue ((hthird.mp h).cue _ List.mem_cons_self)

end Sentence

end ChatRules
