import ChatRules.Proofs.Clauses

namespace ChatRules

namespace Sentence.Phrase
variable {α β : Type} {P Q : α → Prop} {R : β → Prop} {p q : Phrase α} {f : α → Phrase β}

def Gives (P : α → Prop) (p : Phrase α) : Prop :=
  ∀ s, ∀ r ∈ p s, P r.1

theorem gives_give {a : α} (h : P a) : Gives P (give a) := by
  intro s r hr
  rw [List.mem_singleton.mp hr]
  exact h

theorem Gives.bind (hp : Gives P p) (hf : ∀ a, P a → Gives R (f a)) : Gives R (p >>= f) := by
  intro s r hr
  obtain ⟨x, hx, hr⟩ := mem_bind.mp hr
  exact hf x.1 (hp s x hx) x.2 r hr

theorem gives_bind (hf : ∀ a, Gives R (f a)) : Gives R (p >>= f) := by
  intro s r hr
  obtain ⟨x, -, hr⟩ := mem_bind.mp hr
  exact hf x.1 x.2 r hr

theorem Gives.either (hp : Gives P p) (hq : Gives P q) : Gives P (either p q) := by
  intro s r hr
  rcases List.mem_append.mp hr with hr | hr
  · exact hp s r hr
  · exact hq s r hr

theorem Gives.optional (hp : Gives P p) : Gives (fun o => ∀ a ∈ o, P a) (optional p) :=
  .either (hp.bind fun _ ha => gives_give fun _ hb => Option.some.inj hb ▸ ha)
    (gives_give fun _ ha => nomatch ha)

theorem gives_run (k : Char → Bool) : Gives (· ≠ []) (run k) := by
  intro s r hr
  rw [run] at hr
  split at hr
  · cases hr
  · rw [List.mem_singleton.mp hr]
    assumption

theorem gives_quotedBy (x : Char) : Gives (· ≠ []) (quotedBy x) :=
  gives_bind fun _ => (gives_run _).bind fun _ ht => gives_bind fun _ => gives_give ht

theorem gives_quoted : Gives (· ≠ []) quoted :=
  (gives_quotedBy '"').either (gives_quotedBy '\'')

theorem gives_name : Gives (· ≠ []) name := by
  refine (gives_run _).bind fun first hf => ?_
  intro s r hr
  rw [List.mem_singleton.mp hr]
  exact List.append_ne_nil_of_left_ne_nil hf _

theorem gives_nameAfter (sign : Char) : Gives (· ≠ []) (nameAfter sign) :=
  gives_bind fun _ => gives_name

theorem Gives.search (h : Gives P p) {inWord : Bool} {s : List Char} {r : α × List Char}
    (hr : search p inWord s = some r) : P r.1 := by
  obtain ⟨u, v, -, -, hv⟩ := exists_of_search_eq_some hr
  exact h v r hv

end Sentence.Phrase

open Sentence Sentence.Phrase

theorem ofList_ne_empty {s : List Char} (h : s ≠ []) : String.ofList s ≠ "" :=
  fun he => h (String.ofList_eq_empty_iff.mp he)

namespace Cue

def Listens (c : Cue) : Prop :=
  c.kind = .message → c.pattern ≠ ""

theorem listens_of_mem_forms {form : Phrase Cue} (h : form ∈ forms) : Gives Listens form := by
  simp only [forms, List.mem_cons, List.not_mem_nil, or_false] at h
  rcases h with rfl | rfl | rfl
  · refine gives_bind fun _ => gives_bind fun _ => gives_bind fun _ => gives_bind fun _ =>
      gives_bind fun _ => gives_quoted.bind fun text ht => gives_bind fun _ => ?_
    exact gives_give fun _ => ofList_ne_empty ht
  · refine gives_bind fun _ => gives_bind fun _ => gives_bind fun _ => gives_bind fun _ =>
      gives_bind fun _ => gives_quoted.bind fun text ht => gives_bind fun _ => ?_
    exact gives_give fun _ => ofList_ne_empty ht
  · refine gives_bind fun _ => gives_bind fun _ => gives_bind fun _ => gives_bind fun _ =>
      gives_bind fun _ => gives_bind fun _ => gives_bind fun _ => ?_
    exact gives_give fun hk => by cases hk

theorem listens_of_find {s behind : List Char} {cue : Cue} (h : find? s = some (cue, behind)) :
    cue.Listens := by
  obtain ⟨form, hf, hs⟩ := List.exists_of_findSome?_eq_some h
  exact (listens_of_mem_forms hf).search hs

end Cue

namespace Response

structure IsFull (r : Response) : Prop where
  content : r.content ≠ ""
  target : ∃ target, r.target = some target ∧ target ≠ ""

theorem gives_place : Gives (fun room => ∀ name ∈ room, name ≠ []) place := by
  refine gives_bind fun _ => gives_bind fun _ => gives_bind fun _ => .either ?_ ?_
  · exact gives_bind fun _ => gives_bind fun _ => gives_bind fun _ =>
      gives_give fun _ hn => nomatch hn
  · exact gives_bind fun _ => gives_name.bind fun room hr =>
      gives_give fun _ hn => Option.some.inj hn ▸ hr

theorem gives_sendMessage : Gives IsFull sendMessage := by
  refine gives_bind fun _ => gives_bind fun _ => gives_quoted.bind fun text ht =>
    gives_place.optional.bind fun room hr => gives_give ⟨ofList_ne_empty ht, _, rfl, ?_⟩
  cases room with
  | none => decide
  | some named =>
    cases named with
    | none => decide
    | some name => exact ofList_ne_empty (hr _ rfl name rfl)

theorem gives_sendDirect : Gives IsFull sendDirect := by
  refine gives_bind fun _ => gives_bind fun _ => gives_bind fun _ => gives_bind fun _ =>
    gives_quoted.bind fun text ht => gives_bind fun _ => gives_bind fun _ => gives_bind fun _ =>
      (gives_nameAfter '@').bind fun user hu => ?_
  exact gives_give ⟨ofList_ne_empty ht, _, rfl, ofList_ne_empty hu⟩

theorem gives_notify : Gives IsFull notify := by
  refine gives_bind fun _ => gives_bind fun _ => (gives_nameAfter '@').bind fun user hu => ?_
  exact gives_give ⟨(by decide : notice ≠ ""), _, rfl, ofList_ne_empty hu⟩

theorem isFull_of_find {s : List Char} {response : Response} (h : find? s = some response) :
    response.IsFull := by
  obtain ⟨form, hf, hs⟩ := List.exists_of_findSome?_eq_some h
  obtain ⟨r, hr, rfl⟩ := Option.map_eq_some_iff.mp hs
  simp only [forms, List.mem_cons, List.not_mem_nil, or_false] at hf
  rcases hf with rfl | rfl | rfl
  · exact gives_sendMessage.search hr
  · exact gives_sendDirect.search hr
  · exact gives_notify.search hr

end Response

structure Step.IsReady (s : Step) : Prop where
  cue : s.cue.Listens
  response : s.response.IsFull

theorem Cue.behind_suffix {s behind : List Char} {cue : Cue} (h : find? s = some (cue, behind)) :
    behind <:+ s := by
  obtain ⟨form, hf, hs⟩ := List.exists_of_findSome?_eq_some h
  obtain ⟨u, v, rfl, -, hv⟩ := exists_of_search_eq_some hs
  exact ((endsApart_of_mem_forms hf).consumes v _ hv).trans (List.suffix_append u v)

namespace Sentence
variable {P : Cue → Prop} {Q : Response → Prop} {walk : Walk} {fragment : List Char}

structure Found (P : Cue → Prop) (Q : Response → Prop) (fragment : List Char) : Prop where
  cue : ∀ cue behind, Cue.find? fragment = some (cue, behind) → P cue
  response : ∀ s, s <:+ fragment → ∀ response, Response.find? s = some response → Q response

namespace Walk

structure Holds (P : Cue → Prop) (Q : Response → Prop) (walk : Walk) : Prop where
  done : ∀ step ∈ walk.done, P step.cue ∧ Q step.response
  waiting : ∀ cue ∈ walk.waiting, P cue

theorem forall_mem_amend {done : List Step} (h : ∀ step ∈ done, P step.cue ∧ Q step.response)
    {response : Option Response} (hr : ∀ r ∈ response, Q r) :
    ∀ step ∈ amend done response, P step.cue ∧ Q step.response := by
  cases done with
  | nil => cases response <;> exact h
  | cons last earlier =>
    cases response with
    | none => exact h
    | some r =>
      obtain ⟨hl, he⟩ := List.forall_mem_cons.mp h
      exact List.forall_mem_cons.mpr ⟨⟨hl.1, hr r rfl⟩, he⟩

theorem holds_read {done : List Step} (h : ∀ step ∈ done, P step.cue ∧ Q step.response)
    (hf : Found P Q fragment) : (read done fragment).Holds P Q := by
  have hnone : ∀ cue ∈ (none : Option Cue), P cue := fun _ hc => nomatch hc
  rw [read]
  split
  · exact ⟨forall_mem_amend h (hf.response _ (List.suffix_refl _)), hnone⟩
  · next cue behind hc =>
    split
    · next response hr =>
      refine ⟨List.forall_mem_cons.mpr ⟨?_, h⟩, hnone⟩
      exact ⟨hf.cue cue behind hc, hf.response behind (Cue.behind_suffix hc) response hr⟩
    · exact ⟨h, fun _ hw => Option.some.inj hw ▸ hf.cue cue behind hc⟩

theorem Holds.take (h : walk.Holds P Q) (hf : Found P Q fragment) :
    (take walk fragment).Holds P Q := by
  obtain ⟨done, _ | cue⟩ := walk
  · exact holds_read h.done hf
  · rw [take_of_waiting]
    split
    · next response hr =>
      refine ⟨List.forall_mem_cons.mpr ⟨?_, h.done⟩, fun _ hc => nomatch hc⟩
      exact ⟨h.waiting cue rfl, hf.response fragment (List.suffix_refl _) response hr⟩
    · exact holds_read h.done hf

theorem holds_through {fragments : List (List Char)} (h : ∀ f ∈ fragments, Found P Q f) :
    (through fragments).Holds P Q := by
  induction fragments using List.reverseRecOn with
  | nil => exact ⟨List.forall_mem_nil _, fun _ hc => nomatch hc⟩
  | append_singleton earlier last ih =>
    rw [through_append_singleton]
    exact (ih fun f hf => h f (List.mem_append_left _ hf)).take (h last (by simp))

end Walk

theorem forall_mem_steps {sentence : List Char}
    (h : ∀ f ∈ fragments (normal sentence), Found P Q f) :
    ∀ step ∈ steps sentence, P step.cue ∧ Q step.response := by
  intro step hs
  rw [Walk.steps_eq, List.mem_reverse] at hs
  exact (Walk.holds_through h).done step hs

theorem isReady_of_mem_steps {sentence : List Char} {step : Step} (h : step ∈ steps sentence) :
    step.IsReady := by
  have hf : ∀ f ∈ fragments (normal sentence), Found Cue.Listens Response.IsFull f := fun _ _ =>
    ⟨fun _ _ => Cue.listens_of_find, fun _ _ _ => Response.isFull_of_find⟩
  obtain ⟨hc, hr⟩ := forall_mem_steps hf step h
  exact ⟨hc, hr⟩

theorem eq_steps_of_steps?_eq_ok {sentence : List Char} {found : List Step}
    (h : steps? sentence = .ok found) : found = steps (Text.trim sentence) := by
  simp only [steps?] at h
  split at h
  · cases h
  · split at h
    · cases h
    · cases h
      rfl

theorem isReady_of_steps_eq_ok {sentence : List Char} {found : List Step}
    (h : steps? sentence = .ok found) : ∀ step ∈ found, step.IsReady := by
  rw [eq_steps_of_steps?_eq_ok h]
  exact fun _ hs => isReady_of_mem_steps hs

end Sentence

end ChatRules
