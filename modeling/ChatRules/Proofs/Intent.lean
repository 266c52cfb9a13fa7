import ChatRules.Command.Handler
import ChatRules.Proofs.Letters
import Mathlib.Data.List.Basic

namespace ChatRules

namespace Text

theorem enable_of_lower {s : List Char} (h : lower s = "enable".toList) :
    equalIgnoringAsciiCase s "enable".toList = true := by
  have hp : "enable".toList.all isPlain = true := by decide +kernel
  have hm := map_lowerAscii_of_lowerFrom (List.all_eq_true.mp hp) h
  rw [equalIgnoringAsciiCase, hm]
  decide

theorem not_enable_of_lower {s : List Char} (h : lower s = "disable".toList) :
    equalIgnoringAsciiCase s "enable".toList = false := by
  have hp : "disable".toList.all isPlain = true := by decide +kernel
  have hm := map_lowerAscii_of_lowerFrom (List.all_eq_true.mp hp) h
  rw [equalIgnoringAsciiCase, hm]
  decide

end Text

structure Rule.IsNew (rule : Rule) : Prop where
  enabled : rule.enabled = true
  actions : rule.actions ≠ []

theorem Step.rule_eq_ok {step : Step} {stamp : Stamp} {author : String} {rule : Rule}
    (h : step.rule stamp author = .ok rule) :
    ∃ action, step.response.action = .ok action ∧
      rule = ⟨stamp.id, none, author, stamp.time, true, step.cue.trigger, [action]⟩ := by
  rw [Step.rule] at h
  cases ha : step.response.action with
  | error fault =>
    rw [ha] at h
    cases h
  | ok action =>
    rw [ha] at h
    cases h
    exact ⟨action, rfl, rfl⟩

theorem Step.isNew_of_rule {step : Step} {stamp : Stamp} {author : String} {rule : Rule}
    (h : step.rule stamp author = .ok rule) : rule.IsNew := by
  obtain ⟨action, -, rfl⟩ := Step.rule_eq_ok h
  exact ⟨rfl, List.cons_ne_nil action []⟩

namespace Command
open Text

inductive Intent
  | answer (reply : Except Fault Reply)
  | store (rule : Rule)
  | list
  | delete (id : String)
  | switch (id : String) (enabled : Bool)
  deriving DecidableEq, Repr

namespace Intent

def say (text : String) : Intent :=
  .answer (.ok (.say text))

def ofTokens (stamp : Stamp) (sender : User) (tokens : List (List Char)) : Intent :=
  if tokens = [] then say usageText
  else
    match CreateForm.read tokens with
    | .error fault =>
      if fault.isInput then say ("Error: " ++ fault.message) else .answer (.error fault)
    | .ok (trigger, actions) =>
      if actions = [] then say "Error: At least one action must be specified"
      else .store ⟨stamp.id, none, sender.id, stamp.time, true, trigger, actions⟩

def about (ids : List (List Char)) (intent : String → Intent) : Intent :=
  match ids with
  | id :: _ => intent (String.ofList id)
  | [] => say usageText

def ofWords (stamp : Stamp) (sender : User) : List (List Char) → Intent
  | [] => say helpText
  | sub :: rest =>
    let word := lower sub
    if word = "create".toList then ofTokens stamp sender rest
    else if word = "list".toList then .list
    else if word = "delete".toList then about rest .delete
    else if word = "enable".toList then about rest fun id => .switch id true
    else if word = "disable".toList then about rest fun id => .switch id false
    else if word = "english".toList then .answer (.ok (english (joinBlank rest)))
    else say helpText

def firstWord (line : List Char) : List Char × List Char :=
  match cutAtBlank line with
  | some (sub, rest) => (sub, trim rest)
  | none => (line, [])

def ofLine (stamp : Stamp) (sender : User) (line : List Char) : Intent :=
  let parts := firstWord (trim line)
  if equalIgnoringAsciiCase parts.1 "english".toList then
    .answer (.ok (english (Token.unquoteTrimmed parts.2)))
  else ofWords stamp sender (parts.1 :: Token.split parts.2)

def script : Intent → Script (Except Fault Reply)
  | .answer reply => .done reply
  | .store rule => Command.store rule (.done (.ok (.say (createdText rule))))
  | .list => Command.list
  | .delete id => Command.delete id
  | .switch id enabled => setEnabled id enabled

def IsSound : Intent → Prop
  | .store rule => rule.IsNew
  | _ => True

theorem isSound_ofTokens (stamp : Stamp) (sender : User) (tokens : List (List Char)) :
    (ofTokens stamp sender tokens).IsSound := by
  rw [ofTokens]
  split
  · trivial
  · split
    · split <;> trivial
    · split
      · trivial
      · exact ⟨rfl, ‹_›⟩

theorem isSound_about {ids : List (List Char)} {intent : String → Intent}
    (h : ∀ id, (intent id).IsSound) : (about ids intent).IsSound := by
  cases ids with
  | nil => trivial
  | cons id rest => exact h _

theorem isSound_ofWords (stamp : Stamp) (sender : User) (words : List (List Char)) :
    (ofWords stamp sender words).IsSound := by
  cases words with
  | nil => trivial
  | cons sub rest =>
    rw [ofWords]
    split
    · exact isSound_ofTokens stamp sender rest
    split
    · trivial
    split
    · exact isSound_about fun _ => trivial
    split
    · exact isSound_about fun _ => trivial
    split
    · exact isSound_about fun _ => trivial
    split <;> trivial

theorem isSound_ofLine (stamp : Stamp) (sender : User) (line : List Char) :
    (ofLine stamp sender line).IsSound := by
  rw [ofLine]
  split
  · trivial
  · exact isSound_ofWords stamp sender _

end Intent

theorem create_eq_script (stamp : Stamp) (sender : User) (tokens : List (List Char)) :
    create stamp sender tokens = (Intent.ofTokens stamp sender tokens).script := by
  rw [create, Intent.ofTokens]
  by_cases ht : tokens = []
  · rw [if_pos ht, if_pos ht]
    rfl
  · rw [if_neg ht, if_neg ht]
    cases CreateForm.read tokens with
    | error fault =>
      simp only
      cases fault.isInput <;> rfl
    | ok read =>
      obtain ⟨trigger, actions⟩ := read
      simp only
      by_cases ha : actions = []
      · rw [if_pos ha, if_pos ha]
        rfl
      · rw [if_neg ha, if_neg ha, Rule.draft, if_neg ha]
        rfl

theorem aboutRule_eq_script (ids : List (List Char)) (intent : String → Intent) :
    aboutRule ids (fun id => (intent id).script) = (Intent.about ids intent).script := by
  cases ids <;> rfl

theorem execute_eq_script (stamp : Stamp) (sender : User) (words : List (List Char)) :
    execute stamp sender words = (Intent.ofWords stamp sender words).script := by
  cases words with
  | nil => rfl
  | cons sub rest =>
    simp only [execute, Intent.ofWords]
    by_cases hc : lower sub = "create".toList
    · rw [if_pos hc, if_pos hc, create_eq_script]
    rw [if_neg hc, if_neg hc]
    by_cases hl : lower sub = "list".toList
    · rw [if_pos hl, if_pos hl]
      rfl
    rw [if_neg hl, if_neg hl]
    by_cases hd : lower sub = "delete".toList
    · rw [if_pos hd, if_pos hd]
      exact aboutRule_eq_script rest .delete
    rw [if_neg hd, if_neg hd]
    by_cases he : lower sub = "enable".toList
    · rw [if_pos (.inl he), if_pos he, enable_of_lower he]
      exact aboutRule_eq_script rest fun id => .switch id true
    rw [if_neg he]
    by_cases hb : lower sub = "disable".toList
    · rw [if_pos (.inr hb), if_pos hb, not_enable_of_lower hb]
      exact aboutRule_eq_script rest fun id => .switch id false
    rw [if_neg hb, if_neg (not_or.mpr ⟨he, hb⟩)]
    split <;> rfl

theorem executeLine_eq (stamp : Stamp) (sender : User) (line : List Char) :
    executeLine stamp sender line =
      if equalIgnoringAsciiCase (Intent.firstWord (trim line)).1 "english".toList then
        .done (.ok (english (Token.unquoteTrimmed (Intent.firstWord (trim line)).2)))
      else execute stamp sender
        ((Intent.firstWord (trim line)).1 :: Token.split (Intent.firstWord (trim line)).2) :=
  rfl

theorem executeLine_eq_script (stamp : Stamp) (sender : User) (line : List Char) :
    executeLine stamp sender line = (Intent.ofLine stamp sender line).script := by
  rw [executeLine_eq, Intent.ofLine]
  split
  · rfl
  · exact execute_eq_script stamp sender _

end Command

end ChatRules
