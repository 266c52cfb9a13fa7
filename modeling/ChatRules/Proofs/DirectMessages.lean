import ChatRules.Proofs.CanonicalReading
import ChatRules.Proofs.Contents
import Mathlib.Data.List.Infix

namespace ChatRules
open Text Sentence Phrase

namespace Sentence.Phrase

section AtQuotes
variable {α β : Type} {p q : Phrase α} {f : α → Phrase β} {s t : List Char}

def quoteBehind (t : List Char) (r : α × List Char) : α × List Char :=
  (r.1, r.2 ++ '"' :: t)

/-- What is read in front of a quote is what is read of that text alone. -/
structure StopsAtQuote (t : List Char) (p : Phrase α) : Prop where
  consumes : Consumes p
  eq_map : ∀ s, '"' ∉ s → p (s ++ '"' :: t) = (p s).map (quoteBehind t)

theorem bind_bind {γ : Type} (p : Phrase α) (f : α → Phrase β) (g : β → Phrase γ) :
    (p >>= f) >>= g = p >>= fun a => f a >>= g := by
  funext s
  simp only [bind_apply, List.flatMap_assoc]

theorem stopsAtQuote_give (a : α) : StopsAtQuote t (give a) :=
  ⟨consumes_give a, fun _ _ => rfl⟩

theorem StopsAtQuote.bind (hp : StopsAtQuote t p) (hf : ∀ a, StopsAtQuote t (f a)) :
    StopsAtQuote t (p >>= f) := by
  refine ⟨hp.consumes.bind fun a => (hf a).consumes, fun s hs => ?_⟩
  rw [bind_apply, bind_apply, hp.eq_map s hs, List.flatMap_map, List.map_flatMap]
  refine List.flatMap_congr fun r hr => ?_
  exact (hf r.1).eq_map r.2 fun h => hs ((hp.consumes s r hr).subset h)

theorem StopsAtQuote.either (hp : StopsAtQuote t p) (hq : StopsAtQuote t q) :
    StopsAtQuote t (either p q) := by
  refine ⟨hp.consumes.either hq.consumes, fun s hs => ?_⟩
  rw [Phrase.either, Phrase.either, hp.eq_map s hs, hq.eq_map s hs, List.map_append]

theorem StopsAtQuote.optional (hp : StopsAtQuote t p) : StopsAtQuote t (optional p) :=
  .either (hp.bind fun a => stopsAtQuote_give (some a)) (stopsAtQuote_give none)

theorem stopsAtQuote_oneOf {ps : List (Phrase α)} (h : ∀ p ∈ ps, StopsAtQuote t p) :
    StopsAtQuote t (oneOf ps) := by
  induction ps with
  | nil =>
    refine ⟨?_, fun _ _ => rfl⟩
    rintro _ _ ⟨⟩
  | cons p ps ih =>
    have ⟨hp, hps⟩ := List.forall_mem_cons.mp h
    exact hp.either (ih hps)

theorem stopsAtQuote_one {k : Char → Bool} (hk : k '"' = false) : StopsAtQuote t (one k) := by
  refine ⟨consumes_one k, fun s _ => ?_⟩
  cases s with
  | nil => simp [one, hk]
  | cons c s =>
    rw [List.cons_append, one, one]
    split <;> rfl

theorem stopsAtQuote_letters {w : List Char} (hw : ∀ x ∈ w, sameLetter x '"' = false) :
    StopsAtQuote t (letters w) := by
  induction w with
  | nil => exact stopsAtQuote_give ()
  | cons x xs ih =>
    have ⟨hx, hxs⟩ := List.forall_mem_cons.mp hw
    exact (stopsAtQuote_one hx).bind fun _ => ih hxs

def clauseWords : List String :=
  ["when", "someone", "somebody", "anybody", "anyone", "everyone", "say", "post", "s", "in",
    "send", "reply", "with", "a", "message", "direct", "dm", "to", "the", "this", "channel"]

theorem stopsAtQuote_word {w : String} (hw : w ∈ clauseWords) : StopsAtQuote t (word w) := by
  have hall : clauseWords.all (fun w => w.toList.all fun x => !sameLetter x '"') = true := by
    decide +kernel
  refine stopsAtQuote_letters fun x hx => ?_
  have hx := List.all_eq_true.mp (List.all_eq_true.mp hall w hw) x hx
  rwa [Bool.not_eq_true'] at hx

section Runs
variable {k : Char → Bool}

theorem takeWhile_append_quote (hk : k '"' = false) (s t : List Char) :
    (s ++ '"' :: t).takeWhile k = s.takeWhile k := by
  induction s with
  | nil => simp [hk]
  | cons c s ih => rw [List.cons_append, List.takeWhile_cons, List.takeWhile_cons, ih]

theorem dropWhile_append_quote (hk : k '"' = false) (s t : List Char) :
    (s ++ '"' :: t).dropWhile k = s.dropWhile k ++ '"' :: t := by
  induction s with
  | nil => simp [hk]
  | cons c s ih =>
    rw [List.cons_append, List.dropWhile_cons, List.dropWhile_cons, ih]
    split <;> rfl

theorem stopsAtQuote_run (hk : k '"' = false) : StopsAtQuote t (run k) := by
  refine ⟨consumes_run k, fun s _ => ?_⟩
  rw [run, run, takeWhile_append_quote hk, dropWhile_append_quote hk]
  split <;> rfl

end Runs

theorem stopsAtQuote_blanks : StopsAtQuote t blanks :=
  stopsAtQuote_run (by decide)

theorem isNameChar_quote : isNameChar '"' = false :=
  isNameChar_mark '"' (by decide)

theorem nameRest_append_quote (t : List Char) {fuel fuel' : Nat} (hf : s.length ≤ fuel)
    (hf' : s.length ≤ fuel') :
    nameRest fuel' (s ++ '"' :: t) = ((nameRest fuel s).1, (nameRest fuel s).2 ++ '"' :: t) := by
  induction fuel generalizing s fuel' with
  | zero =>
    obtain rfl := List.length_eq_zero_iff.mp (Nat.le_zero.mp hf)
    cases fuel' <;> rfl
  | succ fuel ih =>
    cases s with
    | nil => cases fuel' <;> rfl
    | cons c s =>
      obtain ⟨fuel', rfl⟩ := Nat.exists_eq_add_one_of_ne_zero (Nat.ne_zero_of_lt hf')
      by_cases hc : c = '.'
      · subst hc
        have hlength : (s.dropWhile isNameChar).length ≤ s.length :=
          (List.dropWhile_suffix isNameChar).length_le
        have hrest := ih (Nat.le_trans hlength (Nat.le_of_succ_le_succ hf))
          (Nat.le_trans hlength (Nat.le_of_succ_le_succ hf'))
        simp only [List.cons_append, nameRest, takeWhile_append_quote isNameChar_quote,
          dropWhile_append_quote isNameChar_quote, hrest]
        split <;> rfl
      · simp [nameRest, hc]

theorem stopsAtQuote_name : StopsAtQuote t name := by
  refine (stopsAtQuote_run isNameChar_quote).bind fun first => ⟨?_, fun s _ => ?_⟩
  · intro s r hr
    rw [List.mem_singleton.mp hr]
    exact nameRest_suffix s.length s
  · have hlength : s.length ≤ (s ++ '"' :: t).length := by simp
    have hrest := nameRest_append_quote t (Nat.le_refl s.length) hlength
    simp only [hrest, List.map_cons, List.map_nil, quoteBehind]

theorem stopsAtQuote_wordEnd : StopsAtQuote t wordEnd := by
  refine ⟨endsApart_wordEnd.consumes, fun s _ => ?_⟩
  cases s with
  | nil =>
    have hq : isWord '"' = false := isWord_mark (by decide)
    simp [wordEnd, hq, quoteBehind]
  | cons c s =>
    cases hw : isWord c <;> simp [wordEnd, hw, quoteBehind]

theorem quotedBy_unclosed {x : Char} (hx : x ∉ s) : quotedBy x (x :: s) = [] := by
  have ho : one (· == x) (x :: s) = [(x, s)] := by simp [one]
  refine (bind_of_eq_singleton ho).trans ?_
  have hk : ∀ c ∈ s, (c != x) = true := fun c hc => bne_iff_ne.mpr fun h => hx (h ▸ hc)
  by_cases hs : s = []
  · subst hs
    rfl
  · have hr : run (· != x) (s ++ []) = [(s, [])] := run_append hs hk (by simp)
    rw [List.append_nil] at hr
    rw [bind_of_eq_singleton hr]
    rfl

theorem quotedBy_empty {x : Char} (s : List Char) : quotedBy x (x :: x :: s) = [] := by
  have ho : one (· == x) (x :: x :: s) = [(x, x :: s)] := by simp [one]
  refine (bind_of_eq_singleton ho).trans (bind_eq_nil ?_)
  exact run_eq_nil (by simp)

theorem consumes_quotedBy (x : Char) : Consumes (quotedBy x) :=
  (consumes_one _).bind fun _ => (consumes_run _).bind fun _ => (consumes_one _).bind fun _ =>
    consumes_give _

theorem stopsAtQuote_apostrophes (hs : '\'' ∉ t) : StopsAtQuote t (quotedBy '\'') := by
  refine ⟨consumes_quotedBy _, fun s _ => ?_⟩
  cases s with
  | nil => rfl
  | cons c s =>
    by_cases hc : c = '\''
    · subst hc
      by_cases hm : '\'' ∈ s
      · obtain ⟨text, rest, rfl, hn⟩ := List.eq_append_cons_of_mem hm
        by_cases ht : text = []
        · subst ht
          simp only [List.nil_append, List.cons_append, quotedBy_empty, List.map_nil]
        · rw [List.cons_append, List.append_assoc, List.cons_append, quotedBy_append ht hn,
            quotedBy_append ht hn]
          rfl
      · rw [List.cons_append, quotedBy_unclosed hm, quotedBy_unclosed (by simp [hm, hs])]
        rfl
    · rw [quotedBy_eq_nil (by simpa using hc), quotedBy_eq_nil (by simpa using hc)]
      rfl

theorem stopsAtQuote_quoted (hd : '"' ∉ t) (hs : '\'' ∉ t) : StopsAtQuote t quoted := by
  have hquotes : StopsAtQuote t (quotedBy '"') := by
    refine ⟨consumes_quotedBy _, fun s hn => ?_⟩
    cases s with
    | nil => exact quotedBy_unclosed hd
    | cons c s =>
      have hc : c ≠ '"' := fun h => hn (h ▸ List.mem_cons_self)
      rw [quotedBy_eq_nil (by simpa using hc), quotedBy_eq_nil (by simpa using hc)]
      rfl
  exact hquotes.either (stopsAtQuote_apostrophes hs)

theorem StopsAtQuote.search_append (hp : StopsAtQuote t p) (hw : StartsWord p) (hn : NeedsQuote p)
    (hd : '"' ∉ t) (ha : '\'' ∉ t) (hs : '"' ∉ s) (inWord : Bool) :
    search p inWord (s ++ '"' :: t) = (search p inWord s).map (quoteBehind t) := by
  induction s generalizing inWord with
  | nil =>
    have hquote : p ('"' :: t) = [] := hw _ fun c hc => by
      rw [← Option.some.inj hc]
      exact isWord_mark (by decide)
    have hnil : p [] = [] := hn [] List.not_mem_nil List.not_mem_nil
    rw [List.nil_append, search_cons_of_eq_nil hquote, hn.search_eq_none hd ha]
    simp [search, hnil]
  | cons c s ih =>
    have hc := hp.eq_map (c :: s) hs
    have hrest := ih (fun h => hs (List.mem_cons_of_mem c h)) (isWord c)
    rw [List.cons_append] at hc ⊢
    rw [search, search, hc, hrest, List.head?_map]
    cases inWord with
    | true => rfl
    | false => cases (p (c :: s)).head? <;> rfl

theorem StopsAtQuote.search_between (hp : StopsAtQuote t p) (hw : StartsWord p) (hn : NeedsQuote p)
    {text : List Char} (hs : NoneWithin p s ('"' :: (text ++ '"' :: t))) (hd : '"' ∉ t)
    (ha : '\'' ∉ t) (hq : '"' ∉ text) :
    search p false (s ++ '"' :: (text ++ '"' :: t)) =
      (search p false text).map (quoteBehind t) := by
  have hmark : isWord '"' = false := isWord_mark (by decide)
  have hquote : p ('"' :: (text ++ '"' :: t)) = [] :=
    hw _ fun c hc => Option.some.inj hc ▸ hmark
  rw [hs.search_append, search_cons_of_eq_nil hquote, hmark]
  exact hp.search_append hw hn hd ha hq false

def StartsQuote (p : Phrase α) : Prop :=
  ∀ s, '"' ∉ s.head? → '\'' ∉ s.head? → p s = []

theorem startsQuote_quoted : StartsQuote quoted := by
  intro s hd hs
  have h : ∀ x ∉ s.head?, quotedBy x s = [] := fun x hx =>
    quotedBy_eq_nil fun c hc hcx => hx (hcx ▸ hc)
  rw [quoted, either, h _ hd, h _ hs, List.append_nil]

theorem StartsQuote.bind (hp : StartsQuote p) (f : α → Phrase β) : StartsQuote (p >>= f) :=
  fun s hd hs => bind_eq_nil (hp s hd hs)

def Leaves (s : List Char) (p : Phrase α) : Prop :=
  ∀ a, a <:+ s → ∀ r ∈ p a, r.2 ≠ []

theorem StopsAtQuote.noneWithin (hp : StopsAtQuote t p) (hf : ∀ a, StartsQuote (f a))
    (hd : '"' ∉ s) (hs : '\'' ∉ s) (hn : Leaves s p) :
    NoneWithin (p >>= f) s ('"' :: t) := by
  intro a _ ha
  rw [bind_apply, hp.eq_map a fun h => hd (ha.subset h), List.flatMap_map]
  refine List.flatMap_eq_nil_iff.mpr fun r hr => ?_
  obtain ⟨c, left, hleft⟩ := List.exists_cons_of_ne_nil (hn a ha r hr)
  have hc : c ∈ s := ha.subset ((hp.consumes a r hr).subset (hleft ▸ List.mem_cons_self))
  have hhead : ∀ x ∉ s, x ∉ (quoteBehind t r).2.head? := by
    intro x hx h
    rw [quoteBehind, hleft] at h
    exact hx (Option.some.inj h ▸ hc)
  exact hf r.1 _ (hhead _ hd) (hhead _ hs)

end AtQuotes

end Sentence.Phrase

namespace Response
variable {t : List Char}

theorem stopsAtQuote_send : StopsAtQuote t send := by
  refine StopsAtQuote.bind (stopsAtQuote_oneOf fun p hp => ?_) fun _ =>
    stopsAtQuote_blanks.bind fun _ => stopsAtQuote_give ()
  simp only [List.mem_cons, List.not_mem_nil, or_false] at hp
  rcases hp with rfl | rfl
  · exact stopsAtQuote_word (by decide)
  · exact (stopsAtQuote_word (by decide)).bind fun _ => stopsAtQuote_blanks.bind fun _ =>
      stopsAtQuote_word (by decide)

theorem stopsAtQuote_article : StopsAtQuote t article :=
  .bind (.optional ((stopsAtQuote_word (by decide)).bind fun _ => stopsAtQuote_blanks)) fun _ =>
    stopsAtQuote_give ()

theorem stopsAtQuote_place : StopsAtQuote t place := by
  have hthis : StopsAtQuote t thisRoom := by
    refine StopsAtQuote.bind (.optional (.bind (stopsAtQuote_oneOf fun p hp => ?_) fun _ =>
      stopsAtQuote_blanks)) fun _ => (stopsAtQuote_word (by decide)).bind fun _ =>
      stopsAtQuote_wordEnd.bind fun _ => stopsAtQuote_give none
    simp only [List.mem_cons, List.not_mem_nil, or_false] at hp
    rcases hp with rfl | rfl <;> exact stopsAtQuote_word (by decide)
  have hnamed : StopsAtQuote t namedRoom :=
    (stopsAtQuote_one (by decide)).bind fun _ => stopsAtQuote_name.bind fun room =>
      stopsAtQuote_give (some room)
  refine stopsAtQuote_blanks.bind fun _ => .bind (stopsAtQuote_oneOf fun p hp => ?_) fun _ =>
    stopsAtQuote_blanks.bind fun _ => hthis.either hnamed
  simp only [List.mem_cons, List.not_mem_nil, or_false] at hp
  rcases hp with rfl | rfl <;> exact stopsAtQuote_word (by decide)

def messageOpening : Phrase (Option (List Char)) := do
  send
  optional do
    article
    word "message"
    blanks

def directOpening : Phrase (List Char) := do
  send
  article
  oneOf [do word "direct"; let _ ← blanks; word "message", word "dm"]
  blanks

def messageBody : Phrase Response := do
  let text ← quoted
  let room ← optional place
  let target := (room.getD none).map String.ofList
  give ⟨.message, String.ofList text, some (target.getD Action.sameRoom)⟩

def directBody : Phrase Response := do
  let text ← quoted
  let _ ← blanks
  word "to"
  let _ ← blanks
  let user ← nameAfter '@'
  give ⟨.direct, String.ofList text, some (String.ofList user)⟩

theorem sendMessage_eq : sendMessage = messageOpening >>= fun _ => messageBody := by
  rw [messageOpening, bind_bind]
  rfl

theorem sendDirect_eq : sendDirect = directOpening >>= fun _ => directBody := by
  simp only [directOpening, bind_bind]
  rfl

theorem stopsAtQuote_messageOpening : StopsAtQuote t messageOpening :=
  stopsAtQuote_send.bind fun _ => .optional (stopsAtQuote_article.bind fun _ =>
    (stopsAtQuote_word (by decide)).bind fun _ => stopsAtQuote_blanks)

theorem stopsAtQuote_directOpening : StopsAtQuote t directOpening := by
  refine stopsAtQuote_send.bind fun _ => stopsAtQuote_article.bind fun _ =>
    .bind (stopsAtQuote_oneOf fun p hp => ?_) fun _ => stopsAtQuote_blanks
  simp only [List.mem_cons, List.not_mem_nil, or_false] at hp
  rcases hp with rfl | rfl
  · exact (stopsAtQuote_word (by decide)).bind fun _ => stopsAtQuote_blanks.bind fun _ =>
      stopsAtQuote_word (by decide)
  · exact stopsAtQuote_word (by decide)

theorem stopsAtQuote_sendMessage (hd : '"' ∉ t) (hs : '\'' ∉ t) : StopsAtQuote t sendMessage := by
  rw [sendMessage_eq]
  exact stopsAtQuote_messageOpening.bind fun _ => (stopsAtQuote_quoted hd hs).bind fun _ =>
    stopsAtQuote_place.optional.bind fun _ => stopsAtQuote_give _

theorem startsWord_sendMessage : StartsWord sendMessage :=
  startsWord_send.bind _

def directWordings : List String :=
  ["send dm ", "send a dm ", "send direct message ", "send a direct message ", "reply with dm ",
    "reply with a dm ", "reply with direct message ", "reply with a direct message "]

section Wordings
variable {opening : String} (ho : opening ∈ directWordings)
include ho

theorem no_quote_wording : '"' ∉ opening.toList := by
  have hall : directWordings.all (fun w => w.toList.all (· != '"')) = true := by decide +kernel
  intro hm
  have hc := List.all_eq_true.mp (List.all_eq_true.mp hall opening ho) '"' hm
  cases hc

theorem directOpening_wording (rest : List Char) :
    directOpening (opening.toList ++ '"' :: rest) = [([' '], '"' :: rest)] := by
  have hall : ∀ w ∈ directWordings, directOpening w.toList = [([' '], [])] := by decide +kernel
  rw [stopsAtQuote_directOpening.eq_map _ (no_quote_wording ho), hall opening ho]
  rfl

theorem noneWithin_wording (rest : List Char) :
    NoneWithin sendMessage opening.toList ('"' :: rest) := by
  have hall : ∀ w ∈ directWordings, ∀ a ∈ w.toList.tails, ∀ r ∈ messageOpening a,
      r.2 ≠ [] := by
    decide +kernel
  have hs : ∀ w ∈ directWordings, '\'' ∉ w.toList := by decide +kernel
  rw [sendMessage_eq]
  refine stopsAtQuote_messageOpening.noneWithin (fun _ => startsQuote_quoted.bind _)
    (no_quote_wording ho) (hs opening ho) fun a ha => ?_
  exact hall opening ho a ((List.mem_tails _ _).mpr ha)

end Wordings

variable {opening : String} {c u : List Char}

theorem no_quote_recipient (hu : IsName u) :
    '"' ∉ " to @".toList ++ u ∧ '\'' ∉ " to @".toList ++ u := by
  simp [hu.no_quote]

theorem reads_directBody (hc : c ≠ []) (hq : '"' ∉ c) (hu : IsName u) :
    Reads directBody ('"' :: (c ++ '"' :: (" to @".toList ++ u)))
      ⟨.direct, String.ofList c, some (String.ofList u)⟩ [] := by
  have huser : Reads (nameAfter '@') ('@' :: (u ++ [])) u [] := reads_nameAfter '@' hu (by simp)
  rw [List.append_nil] at huser
  have htail : " to @".toList ++ u = ' ' :: ("to".toList ++ ' ' :: '@' :: u) := rfl
  rw [htail]
  refine (reads_quoted hc hq _).bind ?_
  refine (reads_blanks (by simp [isBlank])).bind ?_
  refine (reads_word "to" _).bind ?_
  refine (reads_blanks (by simp [isBlank])).bind ?_
  exact huser.bind (reads_give _ _)

theorem reads_sendDirect (ho : opening ∈ directWordings) (hc : c ≠ []) (hq : '"' ∉ c)
    (hu : IsName u) :
    Reads sendDirect (opening.toList ++ '"' :: (c ++ '"' :: (" to @".toList ++ u)))
      ⟨.direct, String.ofList c, some (String.ofList u)⟩ [] := by
  rw [sendDirect_eq]
  exact (Reads.of_eq_cons (directOpening_wording ho _)).bind (reads_directBody hc hq hu)

theorem search_sendMessage_wording (ho : opening ∈ directWordings) (hq : '"' ∉ c)
    (hu : IsName u) :
    sendMessage.search false (opening.toList ++ '"' :: (c ++ '"' :: (" to @".toList ++ u))) =
      (sendMessage.search false c).map (quoteBehind (" to @".toList ++ u)) := by
  obtain ⟨hd, hs⟩ := no_quote_recipient hu
  exact (stopsAtQuote_sendMessage hd hs).search_between startsWord_sendMessage
    needsQuote_sendMessage (noneWithin_wording ho _) hd hs hq

theorem kind_of_search_sendMessage {r : Response × List Char}
    (h : sendMessage.search false c = some r) : r.1.kind = .message := by
  have hg : Gives (fun response => response.kind = .message) sendMessage :=
    gives_bind fun _ => gives_bind fun _ => gives_bind fun _ => gives_bind fun _ => gives_give rfl
  exact hg.search h

/-- A direct message is sent as one exactly if its text holds no order to post. Otherwise that order
is carried out in its place. -/
theorem direct_message_sent_unless_it_quotes_order {opening : String}
    (ho : opening ∈ directWordings) {c u : List Char} (hc : c ≠ []) (hq : '"' ∉ c)
    (hu : IsName u) :
    find? (opening.toList ++ '"' :: (c ++ '"' :: (" to @".toList ++ u))) =
      some (((sendMessage.search false c).map Prod.fst).getD
        ⟨.direct, String.ofList c, some (String.ofList u)⟩) ∧
    (find? (opening.toList ++ '"' :: (c ++ '"' :: (" to @".toList ++ u))) =
      some ⟨.direct, String.ofList c, some (String.ofList u)⟩ ↔
        sendMessage.search false c = none) ∧
    ('\'' ∉ c → find? (opening.toList ++ '"' :: (c ++ '"' :: (" to @".toList ++ u))) =
      some ⟨.direct, String.ofList c, some (String.ofList u)⟩) := by
  have hfind : find? (opening.toList ++ '"' :: (c ++ '"' :: (" to @".toList ++ u))) =
      some (((sendMessage.search false c).map Prod.fst).getD
        ⟨.direct, String.ofList c, some (String.ofList u)⟩) := by
    simp only [find?, forms, List.findSome?_cons, search_sendMessage_wording ho hq hu,
      search_of_reads (reads_sendDirect ho hc hq hu)]
    cases sendMessage.search false c <;> rfl
  refine ⟨hfind, ?_, fun hs => ?_⟩
  · rw [hfind]
    cases hm : sendMessage.search false c with
    | none => exact iff_of_true rfl rfl
    | some r =>
      refine iff_of_false (fun h => ?_) (fun h => by cases h)
      have hk := kind_of_search_sendMessage hm
      rw [Option.map_some, Option.getD_some] at h
      rw [Option.some.inj h] at hk
      cases hk
  · rw [hfind, needsQuote_sendMessage.search_eq_none hq hs]
    rfl

theorem quoted_order_takes_the_message :
    "send dm " ∈ directWordings ∧ "please send 'x' now".toList ≠ [] ∧
    '"' ∉ "please send 'x' now".toList ∧ IsName "bob".toList ∧
    find? "send dm \"please send 'x' now\" to @bob".toList = some ⟨.message, "x", some "channel"⟩ ∧
    find? "send dm \"it's up\" to @bob".toList = some ⟨.direct, "it's up", some "bob"⟩ := by
  have ho : "send dm " ∈ directWordings := by decide
  have hu : IsName "bob".toList := isName_of_all (by decide) (by decide +kernel)
  have hq : '"' ∉ "please send 'x' now".toList := by decide
  have hfound : sendMessage.search false "please send 'x' now".toList =
      some (⟨.message, "x", some "channel"⟩, " now".toList) := by
    decide +kernel
  have hnone : sendMessage.search false "it's up".toList = none := by decide +kernel
  obtain ⟨hfind, -, -⟩ := direct_message_sent_unless_it_quotes_order ho (by decide) hq hu
  obtain ⟨-, hiff, -⟩ := direct_message_sent_unless_it_quotes_order ho
    (c := "it's up".toList) (by decide) (by decide) hu
  refine ⟨ho, by decide, hq, hu, ?_, hiff.mpr hnone⟩
  rw [hfound] at hfind
  exact hfind

end Response

end ChatRules
