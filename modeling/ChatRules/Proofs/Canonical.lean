import ChatRules.Proofs.Boundaries
import ChatRules.Proofs.Fragments

namespace ChatRules
open Text Command Sentence Phrase

namespace Text

theorem isInfix_append (u needle v : List Char) : isInfix needle (u ++ (needle ++ v)) = true :=
  isInfix_iff.mpr ⟨u, v, List.append_assoc u needle v⟩

end Text

namespace Sentence

section Texts

def inQuotes (text : List Char) : List Char :=
  '"' :: (text ++ ['"'])

structure IsPlainText (text : List Char) : Prop where
  ne_nil : text ≠ []
  no_quote : '"' ∉ text
  plain : ∀ c ∈ text, plainQuote c = c
  no_escape : isInfix ['\\', '\''] text = false
  last : text.getLast? ≠ some '\\'

structure IsText (text : List Char) : Prop extends IsPlainText text where
  clear : ∀ w ∈ (inQuotes text).splitOnP isBlank, isConnective w = false

def LacksWhen (text : List Char) : Prop :=
  isInfix "when".toList (text.map lowerAscii) = false

instance (text : List Char) : Decidable (IsPlainText text) :=
  decidable_of_iff
    (text ≠ [] ∧ '"' ∉ text ∧ text.all (fun c => plainQuote c == c) = true ∧
      isInfix ['\\', '\''] text = false ∧ text.getLast? ≠ some '\\')
    ⟨fun ⟨hn, hq, hp, he, hl⟩ => ⟨hn, hq, by simpa using hp, he, hl⟩,
      fun ⟨hn, hq, hp, he, hl⟩ => ⟨hn, hq, by simpa using hp, he, hl⟩⟩

instance (text : List Char) : Decidable (IsText text) :=
  decidable_of_iff
    (IsPlainText text ∧ ∀ w ∈ (inQuotes text).splitOnP isBlank, isConnective w = false)
    ⟨fun ⟨hp, hc⟩ => ⟨hp, hc⟩, fun ⟨hp, hc⟩ => ⟨hp, hc⟩⟩

instance (text : List Char) : Decidable (LacksWhen text) :=
  inferInstanceAs (Decidable (_ = false))

theorem dropEscapes_append_quote {text : List Char} (hq : '"' ∉ text)
    (he : isInfix ['\\', '\''] text = false) (hl : text.getLast? ≠ some '\\') :
    dropEscapes (text ++ ['"']) = text ++ ['"'] := by
  induction text with
  | nil => decide
  | cons c rest ih =>
    rw [isInfix, Bool.or_eq_false_iff] at he
    obtain ⟨hc, hr⟩ := not_or.mp (mt List.mem_cons.mpr hq)
    have hlast : rest.getLast? ≠ some '\\' := by
      intro h
      rw [List.getLast?_cons, h] at hl
      exact hl rfl
    have hkept : ¬ (c = '\\' ∧ startsQuoted (rest ++ ['"']) = true) := by
      rintro ⟨rfl, hs⟩
      cases rest with
      | nil => exact hl rfl
      | cons d rest =>
        have hd : d ≠ '"' := fun h => hr (h ▸ List.mem_cons_self)
        have ha : d ≠ '\'' := by
          rintro rfl
          exact absurd he.1 (by simp)
        simp [startsQuoted, hd, ha] at hs
    rw [List.cons_append, dropEscapes, ih hr he.2 hlast, if_neg hkept]

theorem IsPlainText.normal_inQuotes {text : List Char} (h : IsPlainText text) :
    normal (inQuotes text) = inQuotes text := by
  have hq : plainQuote '"' = '"' := by decide
  rw [normal, inQuotes, List.map_cons, List.map_append, map_plainQuote h.plain, List.map_singleton,
    hq, dropEscapes, if_neg (by simp), dropEscapes_append_quote h.no_quote h.no_escape h.last]

theorem IsText.isPart_inQuotes {text : List Char} (h : IsText text) : IsPart (inQuotes text) where
  ne_nil := List.cons_ne_nil _ _
  head c hc := by
    rw [← Option.some.inj hc]
    decide
  last c hc := by
    rw [inQuotes, ← List.cons_append, List.getLast?_concat] at hc
    rw [← Option.some.inj hc]
    decide
  clear := h.clear
  normal_eq := h.normal_inQuotes

theorem plainQuote_of_not_mark {c : Char} (h : c ∉ marks) : plainQuote c = c := by
  simp only [marks, List.mem_cons, not_or] at h
  simp [plainQuote, h]

theorem plainQuote_of_isNameChar {c : Char} (h : isNameChar c = true) : plainQuote c = c := by
  refine plainQuote_of_not_mark fun hm => ?_
  rw [isNameChar_mark c hm] at h
  cases h

theorem isConnective_cons_eq_false {x : Char} (ht : lowerAscii x ≠ 't') (ha : lowerAscii x ≠ 'a')
    (s : List Char) : isConnective (x :: s) = false := by
  have hthen : "then".toList.map lowerAscii = 't' :: "hen".toList := by decide
  have hand : "and".toList.map lowerAscii = 'a' :: "nd".toList := by decide
  rw [isConnective, equalIgnoringAsciiCase, equalIgnoringAsciiCase, List.map_cons, hthen, hand]
  simp [ht, ha]

theorem isPart_signed {sign : Char} {n : List Char} (hs : sign ∈ ['@', '#']) (hn : IsName n) :
    IsPart (sign :: n) := by
  have hsign : isBlank sign = false ∧ plainQuote sign = sign ∧ sign ≠ '\\' ∧
      lowerAscii sign ≠ 't' ∧ lowerAscii sign ≠ 'a' := by
    simp only [List.mem_cons, List.not_mem_nil, or_false] at hs
    rcases hs with rfl | rfl <;> decide
  obtain ⟨hb, hq, he, ht, ha⟩ := hsign
  refine isPart_of_word (List.cons_ne_nil _ _) ?_ (isConnective_cons_eq_false ht ha n) ?_
  · exact List.forall_mem_cons.mpr ⟨hb, fun c hc => hn.isBlank_eq_false hc⟩
  · refine normal_of_not_mem (List.forall_mem_cons.mpr ⟨hq, fun c hc => ?_⟩) ?_
    · rcases hn.of_mem hc with hc | rfl
      · exact plainQuote_of_isNameChar hc
      · decide
    · intro hm
      rcases List.mem_cons.mp hm with h | h
      · exact he h.symm
      · exact hn.mark_not_mem '\\' (by decide) h

end Texts

section Wording

structure Scope where
  user : Option (List Char)
  room : Option (List Char)

inductive Order
  | send (text : List Char)
  | sendTo (text room : List Char)
  | notify (user : List Char)

structure Scope.IsNamed (scope : Scope) : Prop where
  user : ∀ u ∈ scope.user, IsName u ∧ Cue.isAnyUser u = false
  room : ∀ r ∈ scope.room, IsName r

def Order.IsSound : Order → Prop
  | send text => IsText text
  | sendTo text room => IsText text ∧ IsName room
  | notify user => IsName user

namespace Scope
variable (scope : Scope)

def subject : List Char :=
  match scope.user with
  | some user => '@' :: user
  | none => "someone".toList

def place : List (List Char) :=
  match scope.room with
  | some room => ["in".toList, '#' :: room]
  | none => []

def saying (text : List Char) : List (List Char) :=
  ["when".toList, scope.subject, "says".toList, inQuotes text] ++ scope.place

def mentioned : List (List Char) :=
  ["when".toList, scope.subject] ++ scope.place ++ ["is".toList, "mentioned".toList]

def cue (kind : EventKind) (pattern : List Char) : Cue :=
  ⟨kind, String.ofList pattern, scope.user.map String.ofList, scope.room.map String.ofList⟩

end Scope

namespace Order

def parts : Order → List (List Char)
  | send text => ["send".toList, inQuotes text]
  | sendTo text room => ["send".toList, inQuotes text, "to".toList, '#' :: room]
  | notify user => ["notify".toList, '@' :: user]

def response : Order → Response
  | send text => ⟨.message, String.ofList text, some Action.sameRoom⟩
  | sendTo text room => ⟨.message, String.ofList text, some (String.ofList room)⟩
  | notify user => ⟨.direct, Response.notice, some (String.ofList user)⟩

end Order

def sentence (clause : List (List Char)) (order : Order) : List Char :=
  joinBlank (clause ++ "then".toList :: order.parts)

def keywords : List (List Char) :=
  ["when", "someone", "says", "in", "is", "mentioned", "send", "to", "notify"].map String.toList

theorem isPart_keyword {w : List Char} (hw : w ∈ keywords) : IsPart w := by
  have h : ∀ w ∈ keywords, IsPart w := by decide +kernel
  exact h w hw

section Parts
variable {scope : Scope} {text : List Char}

theorem Scope.IsNamed.isPart_subject (h : scope.IsNamed) : IsPart scope.subject := by
  rw [subject]
  split
  next user hu => exact isPart_signed (by simp) (h.user user hu).1
  next => exact isPart_keyword (by decide)

theorem Scope.IsNamed.isPart_place (h : scope.IsNamed) : ∀ p ∈ scope.place, IsPart p := by
  rw [place]
  split
  next room hr =>
    have hroom : IsPart ('#' :: room) := isPart_signed (by simp) (h.room room hr)
    simp only [List.forall_mem_cons]
    exact ⟨isPart_keyword (by decide), hroom, List.forall_mem_nil _⟩
  next => exact List.forall_mem_nil _

theorem Scope.IsNamed.isPart_saying (h : scope.IsNamed) (ht : IsText text) :
    ∀ p ∈ scope.saying text, IsPart p := by
  simp only [saying, List.forall_mem_append, List.forall_mem_cons]
  exact ⟨⟨isPart_keyword (by decide), h.isPart_subject, isPart_keyword (by decide),
    ht.isPart_inQuotes, List.forall_mem_nil _⟩, h.isPart_place⟩

theorem Scope.IsNamed.isPart_mentioned (h : scope.IsNamed) :
    ∀ p ∈ scope.mentioned, IsPart p := by
  simp only [mentioned, List.forall_mem_append, List.forall_mem_cons]
  exact ⟨⟨⟨isPart_keyword (by decide), h.isPart_subject, List.forall_mem_nil _⟩, h.isPart_place⟩,
    isPart_keyword (by decide), isPart_keyword (by decide), List.forall_mem_nil _⟩

theorem Order.IsSound.isPart {order : Order} (h : order.IsSound) :
    ∀ p ∈ order.parts, IsPart p := by
  have hsend : IsPart "send".toList := isPart_keyword (by decide)
  cases order with
  | send text =>
    simp only [parts, List.forall_mem_cons]
    exact ⟨hsend, IsText.isPart_inQuotes h, List.forall_mem_nil _⟩
  | sendTo text room =>
    obtain ⟨ht, hr⟩ := h
    simp only [parts, List.forall_mem_cons]
    exact ⟨hsend, ht.isPart_inQuotes, isPart_keyword (by decide), isPart_signed (by simp) hr,
      List.forall_mem_nil _⟩
  | notify user =>
    simp only [parts, List.forall_mem_cons]
    exact ⟨isPart_keyword (by decide), isPart_signed (by simp) h, List.forall_mem_nil _⟩

theorem fragments_sentence {clause : List (List Char)} (hn : clause ≠ [])
    (hc : ∀ p ∈ clause, IsPart p) {order : Order} (ho : order.IsSound) :
    fragments (normal (sentence clause order)) = [joinBlank clause, joinBlank order.parts] := by
  have hp : order.parts ≠ [] := by cases order <;> exact List.cons_ne_nil _ _
  have hs : sentence clause order =
      joinBlank clause ++ ' ' :: ("then".toList ++ ' ' :: joinBlank order.parts) := by
    rw [sentence, joinBlank_append hn (List.cons_ne_nil _ _), joinBlank_cons _ hp]
  rw [hs, fragments_then (isPart_joinBlank hn hc) (isPart_joinBlank hp ho.isPart)]

end Parts

end Wording

end Sentence

end ChatRules
