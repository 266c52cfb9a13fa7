import ChatRules.Proofs.DirectMessages
import ChatRules.Proofs.QuotedTexts

namespace ChatRules
open Text Sentence Phrase

namespace Sentence.Phrase
variable {α β : Type} {P : α → Prop} {R : β → Prop} {p q : Phrase α} {g : α → Phrase β}
  {f s : List Char}

def Within (f : List Char) (P : α → Prop) (p : Phrase α) : Prop :=
  ∀ s, s <:+ f → ∀ r ∈ p s, P r.1

theorem Gives.within (h : Gives P p) (f : List Char) : Within f P p :=
  fun s _ => h s

theorem Within.bind (hp : Within f P p) (hc : Consumes p) (hg : ∀ a, P a → Within f R (g a)) :
    Within f R (p >>= g) := by
  intro s hs r hr
  obtain ⟨x, hx, hr⟩ := mem_bind.mp hr
  exact hg x.1 (hp s hs x hx) x.2 ((hc s x hx).trans hs) r hr

theorem Consumes.within (hc : Consumes p) (hg : ∀ a, Within f R (g a)) : Within f R (p >>= g) :=
  Within.bind (P := fun _ => True) (fun _ _ _ _ => trivial) hc fun a _ => hg a

theorem Within.search (h : Within f P p) (hs : s <:+ f) {inWord : Bool} {r : α × List Char}
    (hr : search p inWord s = some r) : P r.1 := by
  obtain ⟨u, v, rfl, -, hv⟩ := exists_of_search_eq_some hr
  exact h v ((List.suffix_append u v).trans hs) r hv

theorem mem_quotedBy {x : Char} {r : List Char × List Char} (h : r ∈ quotedBy x s) :
    s = x :: (r.1 ++ x :: r.2) ∧ r.1 ≠ [] := by
  obtain ⟨opening, ho, h⟩ := mem_bind.mp h
  obtain ⟨text, ht, h⟩ := mem_bind.mp h
  obtain ⟨closing, hc, h⟩ := mem_bind.mp h
  obtain ⟨hs, hx⟩ := mem_one ho
  obtain ⟨hopening, hn, -⟩ := mem_run ht
  obtain ⟨htext, hy⟩ := mem_one hc
  rw [List.mem_singleton.mp h]
  refine ⟨?_, hn⟩
  rw [hs, hopening, htext, beq_iff_eq.mp hx, beq_iff_eq.mp hy]

theorem within_quoted (f : List Char) : Within f (IsQuotedIn f) quoted := by
  have hby : ∀ x ∈ ['"', '\''], ∀ s, s <:+ f → ∀ r ∈ quotedBy x s, IsQuotedIn f r.1 := by
    intro x hx s hs r hr
    obtain ⟨rfl, hn⟩ := mem_quotedBy hr
    refine ⟨hn, x, hx, .trans ⟨[], r.2, ?_⟩ hs.isInfix⟩
    simp
  intro s hs r hr
  rcases List.mem_append.mp hr with hr | hr
  · exact hby _ (by simp) s hs r hr
  · exact hby _ (by simp) s hs r hr

theorem nameRest_fst (fuel : Nat) (s : List Char) :
    (nameRest fuel s).1 = [] ∨ ∃ more, IsName more ∧ (nameRest fuel s).1 = '.' :: more := by
  induction fuel generalizing s with
  | zero => exact .inl rfl
  | succ fuel ih =>
    simp only [nameRest]
    split
    · next rest =>
      split
      · exact .inl rfl
      · next hn =>
        have hall : ∀ c ∈ rest.takeWhile isNameChar, isNameChar c = true :=
          List.all_eq_true.mp List.all_takeWhile
        refine .inr ⟨rest.takeWhile isNameChar ++ (nameRest fuel (rest.dropWhile isNameChar)).1,
          ?_, rfl⟩
        rcases ih (rest.dropWhile isNameChar) with h | ⟨more, hm, h⟩
        · rw [h, List.append_nil]
          exact .part hn hall
        · rw [h]
          exact .dotted hn hall hm
    · exact .inl rfl

theorem gives_isName : Gives IsName name := by
  intro s r hr
  obtain ⟨first, hf, hr⟩ := mem_bind.mp hr
  obtain ⟨-, hn, hall⟩ := mem_run hf
  rw [List.mem_singleton.mp hr]
  rcases nameRest_fst first.2.length first.2 with h | ⟨more, hm, h⟩
  · simp only [h, List.append_nil]
    exact .part hn hall
  · simp only [h]
    exact .dotted hn hall hm

theorem gives_isName_after (sign : Char) : Gives IsName (nameAfter sign) :=
  gives_bind fun _ => gives_isName

end Sentence.Phrase

section Steps
variable {f : List Char} {T T' : List Char → Prop}

namespace Cue

def scope (c : Cue) : Scope :=
  ⟨c.user.map String.toList, c.room.map String.toList⟩

structure IsMadeOf (T : List Char → Prop) (c : Cue) : Prop where
  named : c.scope.IsNamed
  message : c.kind = .message → T c.pattern.toList
  mention : c.kind = .mention → c.pattern = ""

theorem IsMadeOf.mono {c : Cue} (h : c.IsMadeOf T) (ht : ∀ text, T text → T' text) :
    c.IsMadeOf T' :=
  ⟨h.named, fun hk => ht _ (h.message hk), h.mention⟩

theorem isNamed_scope {user room : Option (List Char)} (hu : ∀ n ∈ user, IsName n)
    (hr : ∀ n ∈ room, IsName n) (kind : EventKind) (pattern : String) :
    (scope ⟨kind, pattern, namedUser user, room.map String.ofList⟩).IsNamed := by
  constructor
  · intro u h
    simp only [scope, namedUser, Option.map_map, Option.mem_def, Option.map_eq_some_iff,
      Option.filter_eq_some_iff, Function.comp_apply, String.toList_ofList] at h
    obtain ⟨n, ⟨hn, ha⟩, rfl⟩ := h
    exact ⟨hu n hn, by simpa using ha⟩
  · intro r h
    simp only [scope, Option.map_map, Option.mem_def, Option.map_eq_some_iff,
      Function.comp_apply, String.toList_ofList] at h
    obtain ⟨n, hn, rfl⟩ := h
    exact hr n hn

theorem isMadeOf_message {user room : Option (List Char)} {text : List Char}
    (hu : ∀ n ∈ user, IsName n) (hr : ∀ n ∈ room, IsName n) (ht : T text) :
    IsMadeOf T ⟨.message, String.ofList text, namedUser user, room.map String.ofList⟩ := by
  refine ⟨isNamed_scope hu hr _ _, fun _ => ?_, fun hk => nomatch hk⟩
  rw [String.toList_ofList]
  exact ht

theorem gives_subject : Gives (fun user => ∀ n ∈ user, IsName n) subject :=
  .optional ((gives_isName_after '@').bind fun _ hn => gives_bind fun _ => gives_give hn)

theorem gives_inRoom : Gives IsName inRoom :=
  gives_bind fun _ => gives_bind fun _ => gives_isName_after '#'

theorem gives_roomBefore : Gives (fun room => ∀ n ∈ room, IsName n) roomBefore :=
  .optional (gives_inRoom.bind fun _ hn => gives_bind fun _ => gives_give hn)

theorem gives_roomAfter : Gives IsName roomAfter :=
  gives_bind fun _ => gives_inRoom

theorem within_anyoneSaysInRoom : Within f (IsMadeOf (IsQuotedIn f)) anyoneSaysInRoom := by
  refine (consumes_word _).within fun _ => (consumes_run _).within fun _ =>
    consumes_anyUser.within fun _ => (consumes_run _).within fun _ =>
    consumes_saying.within fun _ => (within_quoted f).bind endsApart_quoted.consumes fun text ht =>
    (gives_roomAfter.within f).bind endsApart_roomAfter.consumes fun room hr => ?_
  have hnone : ∀ n ∈ (none : Option (List Char)), IsName n := fun _ h => nomatch h
  exact (gives_give (isMadeOf_message hnone (fun n hn => Option.some.inj hn ▸ hr) ht)).within f

theorem within_userSays : Within f (IsMadeOf (IsQuotedIn f)) userSays := by
  refine (consumes_word _).within fun _ => (consumes_run _).within fun _ =>
    (gives_subject.within f).bind consumes_subject fun user hu =>
    (gives_roomBefore.within f).bind consumes_roomBefore fun before hb =>
    consumes_saying.within fun _ =>
    (within_quoted f).bind endsApart_quoted.consumes fun text ht =>
    (gives_roomAfter.optional.within f).bind endsApart_roomAfter.consumes.optional
      fun after ha => (gives_give (isMadeOf_message hu ?_ ht)).within f
  cases before with
  | none => exact ha
  | some room => exact hb

theorem within_mentioned : Within f (IsMadeOf (IsQuotedIn f)) mentioned := by
  have his : Consumes (optional do word "is"; blanks) :=
    .optional ((consumes_word _).bind fun _ => consumes_run _)
  refine (consumes_word _).within fun _ => (consumes_run _).within fun _ =>
    (gives_subject.within f).bind consumes_subject fun user hu =>
    (gives_roomBefore.within f).bind consumes_roomBefore fun room hr =>
    his.within fun _ => (consumes_word _).within fun _ => endsApart_wordEnd.consumes.within fun _ =>
    (gives_give ?_).within f
  exact ⟨isNamed_scope hu hr _ _, fun hk => (nomatch hk), fun _ => rfl⟩

theorem isMadeOf_of_find {behind : List Char} {cue : Cue} (h : find? f = some (cue, behind)) :
    cue.IsMadeOf (IsQuotedIn f) := by
  obtain ⟨form, hf, hs⟩ := List.exists_of_findSome?_eq_some h
  simp only [forms, List.mem_cons, List.not_mem_nil, or_false] at hf
  rcases hf with rfl | rfl | rfl
  · exact within_anyoneSaysInRoom.search (List.suffix_refl _) hs
  · exact within_userSays.search (List.suffix_refl _) hs
  · exact within_mentioned.search (List.suffix_refl _) hs

end Cue

namespace Response

structure IsMadeOf (T : List Char → Prop) (r : Response) : Prop where
  content : T r.content.toList ∨ r.content = notice
  target : ∃ target, r.target = some target ∧ IsName target.toList

theorem IsMadeOf.mono {r : Response} (h : r.IsMadeOf T) (ht : ∀ text, T text → T' text) :
    r.IsMadeOf T' :=
  ⟨h.content.imp_left (ht _), h.target⟩

theorem isMadeOf_quoted {kind : ResponseKind} {text n : List Char} (ht : T text)
    (hn : IsName n) : IsMadeOf T ⟨kind, String.ofList text, some (String.ofList n)⟩ := by
  refine ⟨.inl ?_, _, rfl, ?_⟩
  · rwa [String.toList_ofList]
  · rwa [String.toList_ofList]

theorem gives_isName_place : Gives (fun room => ∀ n ∈ room, IsName n) place := by
  refine gives_bind fun _ => gives_bind fun _ => gives_bind fun _ => .either ?_ ?_
  · exact gives_bind fun _ => gives_bind fun _ => gives_bind fun _ =>
      gives_give fun _ hn => nomatch hn
  · exact gives_bind fun _ => gives_isName.bind fun room hr =>
      gives_give fun _ hn => Option.some.inj hn ▸ hr

theorem within_sendMessage : Within f (IsMadeOf (IsQuotedIn f)) sendMessage := by
  rw [sendMessage_eq]
  refine (stopsAtQuote_messageOpening (t := [])).consumes.within fun _ =>
    (within_quoted f).bind endsApart_quoted.consumes fun text ht =>
    (gives_isName_place.optional.within f).bind
      (stopsAtQuote_place (t := [])).optional.consumes fun room hr => (gives_give ?_).within f
  have hsame : IsName "channel".toList := isName_of_all (by decide) (by decide +kernel)
  obtain _ | _ | name := room
  · exact isMadeOf_quoted (n := "channel".toList) ht hsame
  · exact isMadeOf_quoted (n := "channel".toList) ht hsame
  · exact isMadeOf_quoted ht (hr _ rfl name rfl)

theorem within_sendDirect : Within f (IsMadeOf (IsQuotedIn f)) sendDirect := by
  rw [sendDirect_eq]
  refine (stopsAtQuote_directOpening (t := [])).consumes.within fun _ =>
    (within_quoted f).bind endsApart_quoted.consumes fun text ht =>
    (consumes_run _).within fun _ => (consumes_word _).within fun _ =>
    (consumes_run _).within fun _ =>
    ((gives_isName_after '@').within f).bind (consumes_nameAfter _) fun user hu =>
    (gives_give (isMadeOf_quoted ht hu)).within f

theorem gives_isMadeOf_notify : Gives (IsMadeOf T) notify := by
  refine gives_bind fun _ => gives_bind fun _ => (gives_isName_after '@').bind fun user hu =>
    gives_give ⟨.inr rfl, _, rfl, ?_⟩
  rwa [String.toList_ofList]

theorem isMadeOf_of_find {s : List Char} (hs : s <:+ f) {response : Response}
    (h : find? s = some response) : response.IsMadeOf (IsQuotedIn f) := by
  obtain ⟨form, hf, h⟩ := List.exists_of_findSome?_eq_some h
  obtain ⟨r, hr, rfl⟩ := Option.map_eq_some_iff.mp h
  simp only [forms, List.mem_cons, List.not_mem_nil, or_false] at hf
  rcases hf with rfl | rfl | rfl
  · exact within_sendMessage.search hs hr
  · exact within_sendDirect.search hs hr
  · exact (gives_isMadeOf_notify.within f).search hs hr

end Response

/-- A text that has the form of a quoted one, unless it has a double quote itself. -/
def Sentence.IsQuotable (text : List Char) : Prop :=
  '"' ∉ text → IsText text

theorem Sentence.isMadeOf_of_mem_steps {sentence : List Char} {s : Step}
    (h : s ∈ steps sentence) : s.cue.IsMadeOf IsQuotable ∧ s.response.IsMadeOf IsQuotable := by
  refine forall_mem_steps (fun f hf => ⟨fun cue behind hc => ?_, fun t ht response hr => ?_⟩) s h
  · exact (Cue.isMadeOf_of_find hc).mono fun _ hq => hq.isText hf
  · exact (Response.isMadeOf_of_find ht hr).mono fun _ hq => hq.isText hf

end Steps

end ChatRules
