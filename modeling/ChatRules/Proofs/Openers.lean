import ChatRules.Sentence.Reading
import Mathlib.Data.List.Basic

/-!
Which fragments make the steps of a sentence. A fragment opens a step if it has a cue and a response
for it, behind the cue or else in the next fragment; the last fragment without a cue in front of the
next opener has the last word on the response. No other fragment counts.
-/

namespace ChatRules.Sentence

section Places
variable (fragments : List (List Char))

def cueAt (place : Nat) : Option (Cue × List Char) :=
  fragments[place]?.bind Cue.find?

def responseAt (place : Nat) : Option Response :=
  fragments[place]?.bind Response.find?

def ownResponse (place : Nat) : Option Response :=
  (cueAt fragments place).bind fun found => Response.find? found.2

def firstResponse (place : Nat) : Option Response :=
  (ownResponse fragments place).or (responseAt fragments (place + 1))

/-- A fragment opens a step if it has a cue and a response for it, unless it serves itself as the
response of an opener directly before it that has none of its own. -/
def isOpener : Nat → Bool
  | 0 => (cueAt fragments 0).isSome && (firstResponse fragments 0).isSome
  | place + 1 =>
    (cueAt fragments (place + 1)).isSome && (firstResponse fragments (place + 1)).isSome &&
      !(isOpener place && (ownResponse fragments place).isNone)

def openers : List Nat :=
  (List.range fragments.length).filter (isOpener fragments)

def stretch (place : Nat) : List Nat :=
  (List.range' place (fragments.length - place)).takeWhile fun later => !isOpener fragments later

def isAmendment (place : Nat) : Bool :=
  (cueAt fragments place).isNone && (responseAt fragments place).isSome

def lastAmendment (place : Nat) : Option Nat :=
  ((stretch fragments place).filter (isAmendment fragments)).getLast?

def amendment (place : Nat) : Option Response :=
  (lastAmendment fragments place).bind (responseAt fragments)

def stepAt (place : Nat) : Option Step := do
  let (cue, _) ← cueAt fragments place
  let response ← (amendment fragments (place + 1)).or (firstResponse fragments place)
  some ⟨cue, response⟩

variable {fragments}

def serves (fragments : List (List Char)) : Nat → Bool
  | 0 => false
  | place + 1 => isOpener fragments place && (ownResponse fragments place).isNone

theorem isOpener_eq (place : Nat) :
    isOpener fragments place = ((cueAt fragments place).isSome &&
      (firstResponse fragments place).isSome && !serves fragments place) := by
  cases place with
  | zero => rw [isOpener, serves, Bool.not_false, Bool.and_true]
  | succ place => rfl

theorem cueAt_drop (start place : Nat) :
    cueAt (fragments.drop start) place = cueAt fragments (start + place) := by
  rw [cueAt, List.getElem?_drop, cueAt]

theorem responseAt_drop (start place : Nat) :
    responseAt (fragments.drop start) place = responseAt fragments (start + place) := by
  rw [responseAt, List.getElem?_drop, responseAt]

theorem ownResponse_drop (start place : Nat) :
    ownResponse (fragments.drop start) place = ownResponse fragments (start + place) := by
  rw [ownResponse, cueAt_drop, ownResponse]

theorem firstResponse_drop (start place : Nat) :
    firstResponse (fragments.drop start) place = firstResponse fragments (start + place) := by
  rw [firstResponse, ownResponse_drop, responseAt_drop, firstResponse, Nat.add_assoc]

variable {start : Nat}

theorem isOpener_drop (h : serves fragments start = false) (place : Nat) :
    isOpener (fragments.drop start) place = isOpener fragments (start + place) := by
  induction place with
  | zero =>
    rw [isOpener_eq, isOpener_eq, cueAt_drop, firstResponse_drop, Nat.add_zero, h]
    rfl
  | succ place ih =>
    rw [isOpener_eq, isOpener_eq, cueAt_drop, firstResponse_drop, serves, ih, ownResponse_drop]
    rfl

theorem stretch_drop (h : serves fragments start = false) (place : Nat) :
    (stretch (fragments.drop start) place).map (start + ·) = stretch fragments (start + place) := by
  have hp : (fun later => !isOpener (fragments.drop start) later) =
      (fun later => !isOpener fragments later) ∘ (start + ·) :=
    funext fun later => congrArg _ (isOpener_drop h later)
  rw [stretch, hp, ← List.takeWhile_map, List.map_add_range', stretch, List.length_drop,
    Nat.sub_sub]

theorem lastAmendment_drop (h : serves fragments start = false) (place : Nat) :
    (lastAmendment (fragments.drop start) place).map (start + ·) =
      lastAmendment fragments (start + place) := by
  have hp : isAmendment (fragments.drop start) = isAmendment fragments ∘ (start + ·) :=
    funext fun later => by
      rw [isAmendment, cueAt_drop, responseAt_drop]
      rfl
  rw [lastAmendment, lastAmendment, ← stretch_drop h, hp, List.filter_map, List.getLast?_map]

theorem amendment_drop (h : serves fragments start = false) (place : Nat) :
    amendment (fragments.drop start) place = amendment fragments (start + place) := by
  rw [amendment, amendment, ← lastAmendment_drop h]
  cases lastAmendment (fragments.drop start) place with
  | none => rfl
  | some later => exact responseAt_drop start later

theorem stepAt_drop (h : serves fragments start = false) (place : Nat) :
    stepAt (fragments.drop start) place = stepAt fragments (start + place) := by
  rw [stepAt, stepAt, cueAt_drop, amendment_drop h, firstResponse_drop, Nat.add_assoc]

theorem openers_drop (h : serves fragments start = false) (hs : start ≤ fragments.length) :
    openers fragments = (List.range start).filter (isOpener fragments) ++
      (openers (fragments.drop start)).map (start + ·) := by
  have hp : isOpener (fragments.drop start) = isOpener fragments ∘ (start + ·) :=
    funext (isOpener_drop h)
  obtain ⟨more, hm⟩ := Nat.exists_eq_add_of_le hs
  rw [openers, openers, List.length_drop, hm, Nat.add_sub_cancel_left, List.range_add,
    List.filter_append, hp, List.filter_map]

def opened (fragments : List (List Char)) : List (Option Step) :=
  (openers fragments).map (stepAt fragments)

theorem opened_drop (h : serves fragments start = false) (hs : start ≤ fragments.length) :
    opened fragments = ((List.range start).filter (isOpener fragments)).map (stepAt fragments) ++
      opened (fragments.drop start) := by
  have hp : stepAt (fragments.drop start) = stepAt fragments ∘ (start + ·) :=
    funext (stepAt_drop h)
  rw [opened, openers_drop h hs, List.map_append, List.map_map, opened, hp]

theorem stretch_of_isOpener {place : Nat} (h : isOpener fragments place = true) :
    stretch fragments place = [] := by
  rw [stretch]
  cases fragments.length - place with
  | zero => rfl
  | succ more =>
    rw [List.range'_succ]
    exact List.takeWhile_cons_of_neg (by simp [h])

theorem stretch_of_not_isOpener {place : Nat} (hp : place < fragments.length)
    (h : isOpener fragments place = false) :
    stretch fragments place = place :: stretch fragments (place + 1) := by
  have hm : fragments.length - place = fragments.length - (place + 1) + 1 := by omega
  rw [stretch, hm, List.range'_succ, List.takeWhile_cons_of_pos (by simp [h]), stretch]

theorem amendment_of_isOpener {place : Nat} (h : isOpener fragments place = true) :
    amendment fragments place = none := by
  rw [amendment, lastAmendment, stretch_of_isOpener h]
  rfl

theorem of_lastAmendment {place last : Nat} (h : lastAmendment fragments place = some last) :
    last ∈ stretch fragments place ∧ cueAt fragments last = none ∧
      (responseAt fragments last).isSome = true := by
  obtain ⟨hm, ha⟩ := List.mem_filter.mp (List.mem_of_getLast? h)
  rw [isAmendment, Bool.and_eq_true, Option.isNone_iff_eq_none] at ha
  exact ⟨hm, ha⟩

theorem amendment_of_isAmendment {place : Nat} (hp : place < fragments.length)
    (h : isAmendment fragments place = true) :
    amendment fragments place =
      (amendment fragments (place + 1)).or (responseAt fragments place) := by
  have hn : isOpener fragments place = false := by
    rw [isAmendment, Bool.and_eq_true, Option.isNone_iff_eq_none] at h
    rw [isOpener_eq, h.1]
    rfl
  have hl : lastAmendment fragments place =
      some ((lastAmendment fragments (place + 1)).getD place) := by
    rw [lastAmendment, stretch_of_not_isOpener hp hn, List.filter_cons_of_pos h, List.getLast?_cons,
      lastAmendment]
  rw [amendment, amendment, hl]
  cases hlast : lastAmendment fragments (place + 1) with
  | none => rfl
  | some last =>
    obtain ⟨-, -, hr⟩ := of_lastAmendment hlast
    exact (Option.or_of_isSome hr).symm

theorem amendment_of_not_isAmendment {place : Nat} (hp : place < fragments.length)
    (hn : isOpener fragments place = false) (h : isAmendment fragments place = false) :
    amendment fragments place = amendment fragments (place + 1) := by
  rw [amendment, amendment, lastAmendment, lastAmendment, stretch_of_not_isOpener hp hn,
    List.filter_cons_of_neg (by simp [h])]

theorem amend_amend (done : List Step) (response later : Option Response) :
    amend (amend done response) later = amend done (later.or response) := by
  cases done with
  | nil => cases response <;> cases later <;> rfl
  | cons last earlier => cases response <;> cases later <;> rfl

theorem amend_cons (step : Step) (done : List Step) (response : Option Response) :
    amend (step :: done) response = ⟨step.cue, response.getD step.response⟩ :: done := by
  cases response <;> rfl

theorem amend_none (done : List Step) : amend done none = done := by
  cases done <;> rfl

end Places

section First
variable {fragment : List Char} {rest : List (List Char)} {cue : Cue} {behind : List Char}

theorem cueAt_first : cueAt (fragment :: rest) 0 = Cue.find? fragment :=
  rfl

theorem responseAt_first : responseAt (fragment :: rest) 0 = Response.find? fragment :=
  rfl

theorem ownResponse_of_cue (hc : Cue.find? fragment = some (cue, behind)) :
    ownResponse (fragment :: rest) 0 = Response.find? behind := by
  rw [ownResponse, cueAt_first, hc]
  rfl

theorem firstResponse_of_cue (hc : Cue.find? fragment = some (cue, behind)) :
    firstResponse (fragment :: rest) 0 = (Response.find? behind).or (responseAt rest 0) := by
  rw [firstResponse, ownResponse_of_cue hc]
  rfl

theorem isOpener_of_cue (hc : Cue.find? fragment = some (cue, behind)) :
    isOpener (fragment :: rest) 0 = ((Response.find? behind).or (responseAt rest 0)).isSome := by
  rw [isOpener, cueAt_first, hc, firstResponse_of_cue hc]
  rfl

theorem not_isOpener_of_no_cue (hc : Cue.find? fragment = none) :
    isOpener (fragment :: rest) 0 = false := by
  rw [isOpener, cueAt_first, hc]
  rfl

theorem not_isAmendment_of_cue (hc : Cue.find? fragment = some (cue, behind)) :
    isAmendment (fragment :: rest) 0 = false := by
  rw [isAmendment, cueAt_first, hc]
  rfl

theorem stepAt_of_cue (hc : Cue.find? fragment = some (cue, behind)) {response : Response}
    (hf : (Response.find? behind).or (responseAt rest 0) = some response) :
    stepAt (fragment :: rest) 0 =
      some ⟨cue, (amendment (fragment :: rest) 1).getD response⟩ := by
  rw [stepAt, cueAt_first, hc, firstResponse_of_cue hc, hf]
  cases amendment (fragment :: rest) 1 <;> rfl

theorem opened_cons (hs : serves (fragment :: rest) 1 = false) :
    opened (fragment :: rest) =
      (if isOpener (fragment :: rest) 0 then [stepAt (fragment :: rest) 0] else []) ++
        opened rest := by
  rw [opened_drop hs (Nat.succ_le_succ (Nat.zero_le _)), List.range_one, List.filter_singleton]
  cases isOpener (fragment :: rest) 0 <;> rfl

theorem serves_one_of_not_isOpener (h : isOpener (fragment :: rest) 0 = false) :
    serves (fragment :: rest) 1 = false := by
  rw [serves, h, Bool.false_and]

theorem opened_of_not_isOpener (h : isOpener (fragment :: rest) 0 = false) :
    opened (fragment :: rest) = opened rest := by
  rw [opened_cons (serves_one_of_not_isOpener h), h]
  rfl

theorem amendment_of_cue (hc : Cue.find? fragment = some (cue, behind))
    (h : isOpener (fragment :: rest) 0 = false) :
    amendment (fragment :: rest) 0 = amendment rest 0 := by
  rw [amendment_of_not_isAmendment (Nat.succ_pos _) h (not_isAmendment_of_cue hc)]
  exact (amendment_drop (serves_one_of_not_isOpener h) 0).symm

theorem amendment_of_no_cue (hc : Cue.find? fragment = none) :
    amendment (fragment :: rest) 0 = (amendment rest 0).or (Response.find? fragment) := by
  have hn : isOpener (fragment :: rest) 0 = false := not_isOpener_of_no_cue hc
  have hd : amendment rest 0 = amendment (fragment :: rest) 1 :=
    amendment_drop (serves_one_of_not_isOpener hn) 0
  have ha : isAmendment (fragment :: rest) 0 = (Response.find? fragment).isSome := by
    rw [isAmendment, cueAt_first, hc, responseAt_first]
    rfl
  cases hf : Response.find? fragment with
  | none =>
    rw [hf] at ha
    rw [amendment_of_not_isAmendment (Nat.succ_pos _) hn ha, hd, Option.or_none]
  | some response =>
    rw [hf] at ha
    rw [amendment_of_isAmendment (Nat.succ_pos _) ha, hd, responseAt_first, hf]

theorem opened_of_own (hc : Cue.find? fragment = some (cue, behind)) {response : Response}
    (hr : Response.find? behind = some response) :
    isOpener (fragment :: rest) 0 = true ∧
      opened (fragment :: rest) =
        some ⟨cue, (amendment rest 0).getD response⟩ :: opened rest := by
  have ho : isOpener (fragment :: rest) 0 = true := by
    rw [isOpener_of_cue hc, hr]
    rfl
  have hs : serves (fragment :: rest) 1 = false := by
    rw [serves, ownResponse_of_cue hc, hr, Option.isNone_some, Bool.and_false]
  have hd : amendment rest 0 = amendment (fragment :: rest) 1 := amendment_drop hs 0
  refine ⟨ho, ?_⟩
  rw [opened_cons hs, ho, if_pos rfl, stepAt_of_cue hc (by rw [hr]; rfl), hd]
  rfl

theorem opened_of_served {next : List Char} {later : List (List Char)}
    (hc : Cue.find? fragment = some (cue, behind)) (hr : Response.find? behind = none)
    {response : Response} (hn : Response.find? next = some response) :
    isOpener (fragment :: next :: later) 0 = true ∧
      opened (fragment :: next :: later) =
        some ⟨cue, (amendment later 0).getD response⟩ :: opened later := by
  have hfirst : (Response.find? behind).or (responseAt (next :: later) 0) = some response := by
    rw [hr, responseAt_first, hn]
    rfl
  have ho : isOpener (fragment :: next :: later) 0 = true := by
    rw [isOpener_of_cue hc, hfirst]
    rfl
  have hs : serves (fragment :: next :: later) 1 = true := by
    rw [serves, ho, ownResponse_of_cue hc, hr]
    rfl
  have ho1 : isOpener (fragment :: next :: later) 1 = false := by
    rw [isOpener_eq, hs, Bool.not_true, Bool.and_false]
  have hs2 : serves (fragment :: next :: later) 2 = false := by
    rw [serves, ho1, Bool.false_and]
  have hd : amendment later 0 = amendment (fragment :: next :: later) 2 := amendment_drop hs2 0
  have ha : (amendment (fragment :: next :: later) 1).getD response =
      (amendment later 0).getD response := by
    have hlt : 1 < (fragment :: next :: later).length := Nat.succ_lt_succ (Nat.succ_pos _)
    have hat : responseAt (fragment :: next :: later) 1 = some response := hn
    cases ham : isAmendment (fragment :: next :: later) 1 with
    | false => rw [amendment_of_not_isAmendment hlt ho1 ham, hd]
    | true =>
      rw [amendment_of_isAmendment hlt ham, hat, hd]
      cases amendment (fragment :: next :: later) 2 <;> rfl
  have htwo : (List.range 2).filter (isOpener (fragment :: next :: later)) = [0] := by
    simp [List.range_succ, ho, ho1]
  refine ⟨ho, ?_⟩
  rw [opened_drop hs2 (Nat.succ_le_succ (Nat.succ_le_succ (Nat.zero_le _))), htwo,
    List.map_singleton, stepAt_of_cue hc hfirst, ha]
  rfl

end First

theorem reverse_map_some_cons (step : Step) (done : List Step) (more : List (Option Step)) :
    (step :: done).reverse.map some ++ more = done.reverse.map some ++ some step :: more := by
  rw [List.reverse_cons, List.map_append, List.append_assoc]
  rfl

/-- The walk over the fragments, with some steps already taken: the amendments in front of the next
opener are those of the last step taken. -/
theorem stepsFrom_eq_opened (done : List Step) (fragments : List (List Char)) :
    (stepsFrom done fragments).map some =
      (amend done (amendment fragments 0)).reverse.map some ++ opened fragments := by
  induction done, fragments using stepsFrom.induct with
  | case1 done =>
    have ha : amendment [] 0 = none := rfl
    rw [stepsFrom, ha, amend_none]
    exact (List.append_nil _).symm
  | case2 done fragment rest hc ih =>
    rw [stepsFrom, hc, ih, amend_amend, amendment_of_no_cue hc,
      opened_of_not_isOpener (not_isOpener_of_no_cue hc)]
  | case3 done fragment rest cue behind hc response hr ih =>
    obtain ⟨ho, hopened⟩ : isOpener (fragment :: rest) 0 = true ∧ _ := opened_of_own hc hr
    rw [stepsFrom, hc, amendment_of_isOpener ho, amend_none, hopened]
    simp only [hr]
    rw [ih, amend_cons, reverse_map_some_cons]
  | case4 done fragment cue behind hc hr =>
    have hn : isOpener [fragment] 0 = false := by
      rw [isOpener_of_cue hc, hr]
      rfl
    have ha : amendment [fragment] 0 = none := amendment_of_cue hc hn
    rw [stepsFrom, hc, ha, amend_none, opened_of_not_isOpener hn]
    simp only [hr]
    exact (List.append_nil _).symm
  | case5 done fragment cue behind hc hr next later response hn ih =>
    obtain ⟨ho, hopened⟩ : isOpener (fragment :: next :: later) 0 = true ∧ _ :=
      opened_of_served hc hr hn
    rw [stepsFrom, hc, amendment_of_isOpener ho, amend_none, hopened]
    simp only [hr, hn]
    rw [ih, amend_cons, reverse_map_some_cons]
  | case6 done fragment cue behind hc hr next later hn ih =>
    have ho : isOpener (fragment :: next :: later) 0 = false := by
      rw [isOpener_of_cue hc, hr, responseAt_first, hn]
      rfl
    rw [stepsFrom, hc, amendment_of_cue hc ho, opened_of_not_isOpener ho]
    simp only [hr, hn]
    exact ih

section Kept
variable (fragments : List (List Char))

def counts (place : Nat) : Bool :=
  isOpener fragments place || serves fragments place ||
    (openers fragments).any fun opener => lastAmendment fragments (opener + 1) == some place

def kept : List (List Char) :=
  fragments.mapIdx fun place fragment => if counts fragments place then fragment else []

variable {fragments}

theorem cueAt_kept (place : Nat) :
    cueAt (kept fragments) place =
      if counts fragments place then cueAt fragments place else none := by
  have hblank : Cue.find? [] = none := by decide +kernel
  rw [cueAt, kept, List.getElem?_mapIdx, cueAt]
  cases fragments[place]? <;> cases counts fragments place <;> simp [hblank]

theorem responseAt_kept (place : Nat) :
    responseAt (kept fragments) place =
      if counts fragments place then responseAt fragments place else none := by
  have hblank : Response.find? [] = none := by decide +kernel
  rw [responseAt, kept, List.getElem?_mapIdx, responseAt]
  cases fragments[place]? <;> cases counts fragments place <;> simp [hblank]

theorem ownResponse_kept {place : Nat} (h : counts fragments place = true) :
    ownResponse (kept fragments) place = ownResponse fragments place := by
  rw [ownResponse, cueAt_kept, if_pos h, ownResponse]

theorem counts_of_isOpener {place : Nat} (h : isOpener fragments place = true) :
    counts fragments place = true := by
  rw [counts, h]
  rfl

theorem counts_of_serves {place : Nat} (h : serves fragments place = true) :
    counts fragments place = true := by
  rw [counts, h, Bool.or_true]
  rfl

theorem firstResponse_kept {place : Nat} (h : isOpener fragments place = true) :
    firstResponse (kept fragments) place = firstResponse fragments place := by
  rw [firstResponse, ownResponse_kept (counts_of_isOpener h), firstResponse]
  cases ho : ownResponse fragments place with
  | some response => rfl
  | none =>
    have hs : serves fragments (place + 1) = true := by
      rw [serves, h, ho]
      rfl
    rw [responseAt_kept, if_pos (counts_of_serves hs)]

theorem mem_openers {place : Nat} :
    place ∈ openers fragments ↔ isOpener fragments place = true := by
  rw [openers, List.mem_filter, List.mem_range, and_iff_right_iff_imp]
  intro h
  rw [isOpener_eq, Bool.and_eq_true, Bool.and_eq_true] at h
  obtain ⟨found, hf⟩ := Option.isSome_iff_exists.mp h.1.1
  rw [cueAt] at hf
  obtain ⟨fragment, hg, -⟩ := Option.bind_eq_some_iff.mp hf
  exact (List.getElem?_eq_some_iff.mp hg).1

theorem counts_of_lastAmendment {opener last : Nat} (ho : isOpener fragments opener = true)
    (hl : lastAmendment fragments (opener + 1) = some last) : counts fragments last = true := by
  have hany : ((openers fragments).any fun opener =>
      lastAmendment fragments (opener + 1) == some last) = true :=
    List.any_eq_true.mpr ⟨opener, mem_openers.mpr ho, beq_iff_eq.mpr hl⟩
  rw [counts, hany, Bool.or_true]

theorem cueAt_of_counts {place : Nat} (ho : isOpener fragments place = false)
    (hs : serves fragments place = false) (hc : counts fragments place = true) :
    cueAt fragments place = none := by
  rw [counts, ho, hs] at hc
  obtain ⟨opener, -, hl⟩ := List.any_eq_true.mp hc
  exact (of_lastAmendment (beq_iff_eq.mp hl)).2.1

theorem isOpener_kept_of_serves {place : Nat}
    (hs : serves (kept fragments) place = serves fragments place) :
    isOpener (kept fragments) place = isOpener fragments place := by
  cases ho : isOpener fragments place with
  | true =>
    rw [isOpener_eq, cueAt_kept, if_pos (counts_of_isOpener ho), firstResponse_kept ho, hs,
      ← isOpener_eq, ho]
  | false =>
    rw [isOpener_eq, cueAt_kept, hs]
    cases hserves : serves fragments place with
    | true => exact Bool.and_false _
    | false =>
      -- Either it is an amendment, which has no cue, or it is blanked out.
      by_cases hc : counts fragments place = true
      · rw [if_pos hc, cueAt_of_counts ho hserves hc]
        rfl
      · rw [if_neg hc]
        rfl

theorem serves_kept (place : Nat) : serves (kept fragments) place = serves fragments place := by
  induction place with
  | zero => rfl
  | succ place ih =>
    rw [serves, isOpener_kept_of_serves ih, serves]
    cases ho : isOpener fragments place with
    | false => rfl
    | true => rw [ownResponse_kept (counts_of_isOpener ho)]

theorem isOpener_kept (place : Nat) :
    isOpener (kept fragments) place = isOpener fragments place :=
  isOpener_kept_of_serves (serves_kept place)

theorem getLast?_filter_and {α : Type} {l : List α} {p q : α → Bool}
    (h : ∀ a, (l.filter p).getLast? = some a → q a = true) :
    (l.filter fun a => q a && p a).getLast? = (l.filter p).getLast? := by
  rw [← List.filter_filter]
  cases hl : (l.filter p).getLast? with
  | none => rw [List.getLast?_eq_none_iff.mp hl]; rfl
  | some a =>
    obtain ⟨init, hi⟩ := List.getLast?_eq_some_iff.mp hl
    rw [hi, List.filter_append, List.filter_cons_of_pos (h a hl), List.filter_nil,
      List.getLast?_concat]

theorem length_kept : (kept fragments).length = fragments.length :=
  List.length_mapIdx

theorem lastAmendment_kept {opener : Nat} (ho : isOpener fragments opener = true) :
    lastAmendment (kept fragments) (opener + 1) = lastAmendment fragments (opener + 1) := by
  have hs : stretch (kept fragments) (opener + 1) = stretch fragments (opener + 1) := by
    rw [stretch, length_kept, funext isOpener_kept, stretch]
  have ha : isAmendment (kept fragments) =
      fun place => counts fragments place && isAmendment fragments place := by
    funext place
    rw [isAmendment, cueAt_kept, responseAt_kept, isAmendment]
    cases counts fragments place <;> rfl
  rw [lastAmendment, hs, ha, lastAmendment]
  exact getLast?_filter_and fun last hl => counts_of_lastAmendment ho hl

theorem stepAt_kept {opener : Nat} (ho : isOpener fragments opener = true) :
    stepAt (kept fragments) opener = stepAt fragments opener := by
  have ha : amendment (kept fragments) (opener + 1) = amendment fragments (opener + 1) := by
    rw [amendment, lastAmendment_kept ho, amendment]
    cases hl : lastAmendment fragments (opener + 1) with
    | none => rfl
    | some last =>
      exact (responseAt_kept last).trans (if_pos (counts_of_lastAmendment ho hl))
  rw [stepAt, cueAt_kept, if_pos (counts_of_isOpener ho), ha, firstResponse_kept ho, stepAt]

theorem opened_kept : opened (kept fragments) = opened fragments := by
  have ho : openers (kept fragments) = openers fragments := by
    rw [openers, length_kept, funext isOpener_kept, openers]
  rw [opened, ho, opened]
  exact List.map_congr_left fun opener hm => stepAt_kept (mem_openers.mp hm)

end Kept

theorem map_some_stepsFrom (fragments : List (List Char)) :
    (stepsFrom [] fragments).map some = (openers fragments).map (stepAt fragments) := by
  rw [stepsFrom_eq_opened, opened]
  cases amendment fragments 0 <;> rfl

/-- A sentence has one step for each opener, in order, with the cue of the opener and the response
of the last amendment in front of the next opener, or else the opener's first response. Whatever
else there is can be blanked out. -/
theorem steps_of_openers (command : List Char) :
    (steps command).map some =
        (openers (fragments (normal command))).map (stepAt (fragments (normal command))) ∧
      stepsFrom [] (kept (fragments (normal command))) = steps command := by
  refine ⟨map_some_stepsFrom _, ?_⟩
  have hk : (stepsFrom [] (kept (fragments (normal command)))).map some =
      (steps command).map some := by
    rw [map_some_stepsFrom, steps, map_some_stepsFrom]
    exact opened_kept
  exact List.map_injective_iff.mpr (fun _ _ h => Option.some.inj h) hk

end ChatRules.Sentence
