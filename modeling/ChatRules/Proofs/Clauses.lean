import ChatRules.Proofs.Boundaries
import ChatRules.Sentence.Reading
import Mathlib.Data.List.Induction

namespace ChatRules.Sentence

/-- The steps so far, last first, and the cue that the next fragment may serve. -/
structure Walk where
  done : List Step
  waiting : Option Cue
  deriving DecidableEq, Repr

namespace Walk

def start : Walk := ⟨[], none⟩

def read (done : List Step) (fragment : List Char) : Walk :=
  match Cue.find? fragment with
  | none => ⟨amend done (Response.find? fragment), none⟩
  | some (cue, behind) =>
    match Response.find? behind with
    | some response => ⟨⟨cue, response⟩ :: done, none⟩
    | none => ⟨done, some cue⟩

def take (walk : Walk) (fragment : List Char) : Walk :=
  match walk.waiting, Response.find? fragment with
  | some cue, some response => ⟨⟨cue, response⟩ :: walk.done, none⟩
  | _, _ => read walk.done fragment

def through (fragments : List (List Char)) : Walk :=
  fragments.foldl take start

def cues (walk : Walk) : List Cue :=
  (walk.done.map Step.cue).reverse

theorem take_of_not_waiting (done : List Step) (fragment : List Char) :
    take ⟨done, none⟩ fragment = read done fragment := rfl

theorem take_of_waiting (done : List Step) (cue : Cue) (fragment : List Char) :
    take ⟨done, some cue⟩ fragment =
      match Response.find? fragment with
      | some response => ⟨⟨cue, response⟩ :: done, none⟩
      | none => read done fragment := by
  rw [take]
  cases Response.find? fragment <;> rfl

theorem stepsFrom_eq (done : List Step) (fragments : List (List Char)) :
    stepsFrom done fragments = (fragments.foldl take ⟨done, none⟩).done.reverse := by
  induction done, fragments using stepsFrom.induct with
  | case1 done => rfl
  | case2 done fragment rest hc ih =>
    rw [stepsFrom, List.foldl_cons, take_of_not_waiting, read]
    simp only [hc, ih]
  | case3 done fragment rest cue behind hc response hr ih =>
    rw [stepsFrom, List.foldl_cons, take_of_not_waiting, read]
    simp only [hc, hr, ih]
  | case4 done fragment cue behind hc hr =>
    rw [stepsFrom, List.foldl_cons, take_of_not_waiting, read]
    simp only [hc, hr, List.foldl_nil]
  | case5 done fragment cue behind hc hr next later response hn ih =>
    rw [stepsFrom, List.foldl_cons, take_of_not_waiting, read]
    simp only [hc, hr, hn, List.foldl_cons, take_of_waiting, ih]
  | case6 done fragment cue behind hc hr next later hn ih =>
    rw [stepsFrom, List.foldl_cons, take_of_not_waiting, read]
    simp only [hc, hr, hn, List.foldl_cons, take_of_waiting, ih, take_of_not_waiting]

theorem steps_eq (command : List Char) :
    steps command = (through (fragments (normal command))).done.reverse :=
  stepsFrom_eq [] _

theorem map_cue_amend (done : List Step) (response : Option Response) :
    (amend done response).map Step.cue = done.map Step.cue := by
  cases done with
  | nil => cases response <;> rfl
  | cons last earlier => cases response <;> rfl

theorem take_eq_take_nil (done : List Step) (waiting : Option Cue) (fragment : List Char) :
    (take ⟨done, waiting⟩ fragment).waiting = (take ⟨[], waiting⟩ fragment).waiting ∧
    cues (take ⟨done, waiting⟩ fragment) =
      cues ⟨done, waiting⟩ ++ cues (take ⟨[], waiting⟩ fragment) := by
  have hread : (read done fragment).waiting = (read [] fragment).waiting ∧
      cues (read done fragment) = cues ⟨done, waiting⟩ ++ cues (read [] fragment) := by
    simp only [read]
    cases Cue.find? fragment with
    | none => simp [cues, map_cue_amend]
    | some found =>
      simp only
      cases Response.find? found.2 <;> simp [cues]
  cases waiting with
  | none => exact hread
  | some cue =>
    simp only [take_of_waiting]
    cases Response.find? fragment with
    | none => exact hread
    | some response => simp [cues]

theorem cues_foldl_take (fragments : List (List Char)) (walk : Walk) :
    cues (fragments.foldl take walk) =
      cues walk ++ cues (fragments.foldl take ⟨[], walk.waiting⟩) := by
  induction fragments generalizing walk with
  | nil => simp [cues]
  | cons fragment rest ih =>
    obtain ⟨hw, hc⟩ := take_eq_take_nil walk.done walk.waiting fragment
    rw [List.foldl_cons, List.foldl_cons, ih, ih (take ⟨[], walk.waiting⟩ fragment), hw, hc,
      List.append_assoc]

theorem through_append_singleton (fragments : List (List Char)) (fragment : List Char) :
    through (fragments ++ [fragment]) = take (through fragments) fragment := by
  rw [through, List.foldl_append]
  rfl

theorem waiting_take_eq_some {walk : Walk} {fragment : List Char} {cue : Cue} :
    (take walk fragment).waiting = some cue ↔
      (walk.waiting = none ∨ Response.find? fragment = none) ∧
        ∃ behind, Cue.find? fragment = some (cue, behind) ∧ Response.find? behind = none := by
  have hread : (read walk.done fragment).waiting = some cue ↔
      ∃ behind, Cue.find? fragment = some (cue, behind) ∧ Response.find? behind = none := by
    rw [read]
    cases Cue.find? fragment with
    | none => simp
    | some found =>
      obtain ⟨opening, behind⟩ := found
      cases hb : Response.find? behind <;> simp [hb]
  rw [← hread]
  obtain ⟨done, _ | _⟩ := walk
  · rw [take_of_not_waiting]
    simp
  · rw [take_of_waiting]
    cases Response.find? fragment <;> simp

theorem waiting_through_eq_some {fragments : List (List Char)} {cue : Cue} :
    (through fragments).waiting = some cue ↔
      ∃ earlier last behind, fragments = earlier ++ [last] ∧
        Cue.find? last = some (cue, behind) ∧ Response.find? behind = none ∧
        ((through earlier).waiting = none ∨ Response.find? last = none) := by
  cases fragments using List.reverseRecOn with
  | nil => simp [through, start]
  | append_singleton earlier last =>
    rw [through_append_singleton, waiting_take_eq_some]
    constructor
    · rintro ⟨ho, behind, hc, hb⟩
      exact ⟨earlier, last, behind, rfl, hc, hb, ho⟩
    · rintro ⟨earlier, last, behind, he, hc, hb, ho⟩
      obtain ⟨rfl, hl⟩ := List.append_inj' he rfl
      cases hl
      exact ⟨ho, behind, hc, hb⟩

end Walk

def clause? (fragment : List Char) : Option Step :=
  match Cue.find? fragment with
  | none => none
  | some (cue, behind) => (Response.find? behind).map (Step.mk cue)

theorem clause?_eq_some {fragment : List Char} {step : Step} :
    clause? fragment = some step ↔
      ∃ behind, Cue.find? fragment = some (step.cue, behind) ∧
        Response.find? behind = some step.response := by
  rw [clause?]
  cases Cue.find? fragment with
  | none => simp
  | some found =>
    obtain ⟨cue, behind⟩ := found
    constructor
    · intro h
      obtain ⟨response, hr, rfl⟩ := Option.map_eq_some_iff.mp h
      exact ⟨behind, rfl, hr⟩
    · rintro ⟨behind, hc, hr⟩
      cases hc
      exact Option.map_eq_some_iff.mpr ⟨step.response, hr, rfl⟩

namespace Walk

def opened (waiting : Option Cue) (step : Step) (response : Response) : Step :=
  match waiting with
  | none => step
  | some cue => ⟨cue, response⟩

theorem take_of_clause (walk : Walk) {fragment : List Char} {step : Step}
    (h : clause? fragment = some step) :
    ∃ response, Response.find? fragment = some response ∧
      take walk fragment = ⟨opened walk.waiting step response :: walk.done, none⟩ := by
  obtain ⟨behind, hc, hr⟩ := clause?_eq_some.mp h
  have hs : (Response.find? fragment).isSome = true :=
    Response.isSome_find?_of_behind hc (by rw [hr]; rfl)
  obtain ⟨response, hf⟩ := Option.isSome_iff_exists.mp hs
  refine ⟨response, hf, ?_⟩
  obtain ⟨done, _ | cue⟩ := walk
  · simp only [take_of_not_waiting, read, hc, hr, opened]
  · simp only [take_of_waiting, hf, opened]

theorem countP_le_length (fragments : List (List Char)) (walk : Walk) :
    walk.done.length + fragments.countP (fun f => (clause? f).isSome) ≤
      (fragments.foldl take walk).done.length := by
  induction fragments generalizing walk with
  | nil => simp
  | cons fragment rest ih =>
    refine Nat.le_trans ?_ (ih (take walk fragment))
    cases hf : clause? fragment with
    | none =>
      have hl : walk.done.length ≤ (take walk fragment).done.length := by
        have hc : cues (take walk fragment) = cues walk ++ _ :=
          (take_eq_take_nil walk.done walk.waiting fragment).2
        have hlen := congrArg List.length hc
        simp only [cues, List.length_append, List.length_reverse, List.length_map] at hlen
        omega
      rw [List.countP_cons_of_neg (by simp [hf])]
      omega
    | some step =>
      obtain ⟨response, -, ht⟩ := take_of_clause walk hf
      rw [List.countP_cons_of_pos (by simp [hf]), ht, List.length_cons]
      omega

end Walk

/-- A complete clause opens a step at its place: its own where no cue waits in front of it, and else
the step of that cue, with the response of the clause. So there are no fewer steps than complete
clauses, but a clause behind a cue without a response opens none of its own. -/
theorem clause_opens_unless_awaited (command : List Char) :
    (∀ (before later : List (List Char)) (fragment : List Char) (step : Step),
      fragments (normal command) = before ++ fragment :: later → clause? fragment = some step →
      ∃ response, Response.find? fragment = some response ∧
        Walk.through (before ++ [fragment]) =
          ⟨Walk.opened (Walk.through before).waiting step response :: (Walk.through before).done, none⟩ ∧
        steps command = (later.foldl Walk.take (Walk.through (before ++ [fragment]))).done.reverse ∧
        (steps command).map Step.cue =
          (Walk.through before).cues ++
            (Walk.opened (Walk.through before).waiting step response).cue ::
              (Walk.through later).cues) ∧
    (∀ (before : List (List Char)) (cue : Cue), (Walk.through before).waiting = some cue ↔
      ∃ earlier last behind, before = earlier ++ [last] ∧
        Cue.find? last = some (cue, behind) ∧ Response.find? behind = none ∧
        ((Walk.through earlier).waiting = none ∨ Response.find? last = none)) ∧
    (fragments (normal command)).countP (fun f => (clause? f).isSome) ≤ (steps command).length := by
  refine ⟨?_, fun before cue => Walk.waiting_through_eq_some, ?_⟩
  · intro before later fragment step hf hstep
    obtain ⟨response, hr, ht⟩ := Walk.take_of_clause (Walk.through before) hstep
    rw [← Walk.through_append_singleton] at ht
    have hall : Walk.through (before ++ fragment :: later) =
        later.foldl Walk.take (Walk.through (before ++ [fragment])) := by
      rw [Walk.through, Walk.through, ← List.foldl_append, List.append_assoc, List.singleton_append]
    have hsteps : steps command =
        (later.foldl Walk.take (Walk.through (before ++ [fragment]))).done.reverse := by
      rw [Walk.steps_eq, hf, hall]
    refine ⟨response, hr, ht, hsteps, ?_⟩
    rw [hsteps, List.map_reverse]
    change Walk.cues _ = _
    rw [Walk.cues_foldl_take, ht]
    simp [Walk.cues, Walk.through, Walk.start]
  · have h := Walk.countP_le_length (fragments (normal command)) Walk.start
    rw [Walk.steps_eq, List.length_reverse]
    simpa only [Walk.through, Walk.start, List.length_nil, Nat.zero_add] using h

def twoCues : List Char :=
  "when @a says \"x\" then when @b says \"y\" notify @c".toList

def firstCue : Cue := ⟨.message, "x", some "a", none⟩

def secondStep : Step := ⟨⟨.message, "y", some "b", none⟩, ⟨.direct, Response.notice, some "c"⟩⟩

theorem second_clause_serves_first_cue :
    fragments (normal twoCues) =
      ["when @a says \"x\"".toList] ++ ["when @b says \"y\" notify @c".toList] ∧
    clause? "when @b says \"y\" notify @c".toList = some secondStep ∧
    (steps twoCues).map Step.cue = [firstCue] := by
  have hf : fragments (normal twoCues) =
      ["when @a says \"x\"".toList] ++ "when @b says \"y\" notify @c".toList :: [] := by
    decide +kernel
  have hs : clause? "when @b says \"y\" notify @c".toList = some secondStep := by decide +kernel
  have hw : (Walk.through ["when @a says \"x\"".toList]).waiting = some firstCue := by decide +kernel
  have hd : (Walk.through ["when @a says \"x\"".toList]).done = [] := by decide +kernel
  obtain ⟨response, -, -, -, hcues⟩ := (clause_opens_unless_awaited twoCues).1 _ _ _ _ hf hs
  refine ⟨hf, hs, ?_⟩
  rw [hcues, hw, Walk.cues, hd]
  rfl

end ChatRules.Sentence
