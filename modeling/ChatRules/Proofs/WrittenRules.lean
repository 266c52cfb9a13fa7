import ChatRules.Proofs.ActionSpecs
import ChatRules.Proofs.CommandLines
import ChatRules.Proofs.StoreCalls
import Mathlib.Data.List.Forall2
import Mathlib.Data.List.Perm.Basic

namespace ChatRules
open Text Token Sentence

namespace Action

def sent? : Action → Option (String × String)
  | .direct target text => some (target, text)
  | .post target text => some (target, text)
  | .delete => none

inductive Written : Action → List Char → Prop
  | sends {a : Action} {target text : String} {q : Char} (ha : a.sent? = some (target, text))
    (hn : target ≠ "") (ht : IsUnbroken target.toList) (he : '=' ∉ target.toList)
    (hx : text ≠ "") (hq : isQuote q = true) (hl : q ∉ text.toList) :
    Written a (a.kind.toList ++ ':' :: (target.toList ++ '=' :: wrapped q text.toList))
  | bare {a : Action} (ha : a.sent? = none) : Written a a.kind.toList

theorem Written.spelledBy {a : Action} {spec : List Char} (h : a.Written spec) :
    a.SpelledBy spec := by
  cases h with
  | @sends target text q ha hn _ he hx hq _ =>
    have ht : target.toList ≠ [] := by simpa using hn
    have ht' : text.toList ≠ [] := by simpa using hx
    have hv : IsBare (wrapped q text.toList) text.toList := .quoted hq
    cases a with
    | delete => cases ha
    | direct target text =>
      cases ha
      have hk : InAnyCase "dm" "dm".toList := by decide
      simpa [kind] using SpelledBy.sends .direct hk ht he ht' hv
    | post target text =>
      cases ha
      have hk : InAnyCase "post" "post".toList := by decide
      simpa [kind] using SpelledBy.sends .post hk ht he ht' hv
  | bare ha =>
    cases a with
    | delete =>
      have hk : InAnyCase "delete" "delete".toList := by decide
      have hd : delete.SpelledBy ("delete".toList ++ []) := .delete hk nofun
      simpa [kind] using hd
    | direct => cases ha
    | post => cases ha

theorem kind_unbroken (a : Action) : IsUnbroken a.kind.toList := by
  have h : ∀ k ∈ ["dm", "post", "delete"], IsUnbroken k.toList := by decide +kernel
  cases a <;> exact h _ (by simp [kind])

theorem Written.isWhole {a : Action} {spec : List Char} (h : a.Written spec) : IsWhole spec := by
  have hk := a.kind_unbroken.isWhole
  cases h with
  | @sends target text q _ _ ht _ _ hq hl =>
    refine hk.append (.letter (by decide) (by decide) ?_)
    exact ht.isWhole.append (.letter (by decide) (by decide) (isWhole_wrapped hq hl))
  | bare => exact hk

end Action

namespace CreateForm

inductive Key
  | contains
  | startsWith
  | regex
  deriving DecidableEq, Repr

namespace Key

def word : Key → String
  | contains => "contains="
  | startsWith => "startsWith="
  | regex => "regex="

def token : Key → String → Token
  | contains => .contains
  | startsWith => .startsWith
  | regex => .regex

def condition (t : Trigger) : Key → Option String
  | contains => t.contains
  | startsWith => t.startsWith
  | regex => t.regex

theorem word_unbroken (key : Key) : IsUnbroken key.word.toList := by
  cases key <;> decide +kernel

theorem ofChars_word (key : Key) (value : List Char) :
    Token.ofChars (key.word.toList ++ value) = key.token (Token.textOf value) := by
  cases key <;> simp [Token.ofChars, Token.valueOf, word, token, after?]

end Key

inductive Condition
  | user (name : String)
  | room (name : String)
  | value (key : Key) (text : String)
  deriving DecidableEq, Repr

namespace Condition

def token : Condition → Token
  | user name => .user name
  | room name => .room name
  | value key text => key.token text

def refine (t : Trigger) (c : Condition) : Trigger :=
  c.token.refine t

inductive Written : Condition → List Char → Prop
  | user {name : String} (hs : name.toList.head? = some '@') (hn : IsUnbroken name.toList) :
    Written (user name) name.toList
  | room {name : String} (hs : name.toList.head? = some '#') (hn : IsUnbroken name.toList) :
    Written (room name) name.toList
  | value {key : Key} {text : String} {q : Char} (hq : isQuote q = true) (hl : q ∉ text.toList) :
    Written (value key text) (key.word.toList ++ wrapped q text.toList)

variable {c : Condition} {w : List Char}

theorem Written.ofChars_eq (h : c.Written w) : Token.ofChars w = c.token := by
  cases h with
  | user hs => rw [Token.ofChars, if_pos hs, String.ofList_toList, token]
  | room hs =>
    have hu : ¬ some '#' = some '@' := by decide
    rw [Token.ofChars, hs, if_neg hu, if_pos rfl, String.ofList_toList, token]
  | value hq => rw [Key.ofChars_word, Token.textOf, unquote_wrapped hq, String.ofList_toList, token]

theorem Written.isWhole (h : c.Written w) : IsWhole w := by
  cases h with
  | user _ hn => exact hn.isWhole
  | room _ hn => exact hn.isWhole
  | @value key _ _ hq hl =>
    exact key.word_unbroken.isWhole.append (isWhole_wrapped hq hl)

theorem Written.ne_nil (h : c.Written w) : w ≠ [] := by
  cases h with
  | user hs => exact List.ne_nil_of_mem (List.mem_of_mem_head? hs)
  | room hs => exact List.ne_nil_of_mem (List.mem_of_mem_head? hs)
  | value => exact List.append_ne_nil_of_right_ne_nil _ (List.cons_ne_nil _ _)

def IsIn (t : Trigger) : Condition → Prop
  | user name => t.user = some name
  | room name => t.room = some name
  | value key text => key.condition t = some text

theorem refine_comm {t : Trigger} {d : Condition} (hc : c.IsIn t) (hd : d.IsIn t) (u : Trigger) :
    refine (refine u c) d = refine (refine u d) c := by
  cases c with
  | user name =>
    cases d with
    | user other => rw [Option.some.inj (hc.symm.trans hd)]
    | room other => rfl
    | value key text => cases key <;> rfl
  | room name =>
    cases d with
    | user other => rfl
    | room other => rw [Option.some.inj (hc.symm.trans hd)]
    | value key text => cases key <;> rfl
  | value key text =>
    cases d with
    | user other => cases key <;> rfl
    | room other => cases key <;> rfl
    | value other words =>
      by_cases hk : key = other
      · subst hk
        rw [Option.some.inj (hc.symm.trans hd)]
      · cases key <;> cases other <;> simp at hk <;> rfl

end Condition

end CreateForm

def Trigger.stated (t : Trigger) : List CreateForm.Condition :=
  (t.user.map .user).toList ++ (t.room.map .room).toList ++
    [.contains, .startsWith, .regex].filterMap fun key : CreateForm.Key =>
      (key.condition t).map (.value key)

namespace CreateForm

theorem isIn_of_mem_stated {t : Trigger} {c : Condition} (h : c ∈ t.stated) : c.IsIn t := by
  simp only [Trigger.stated, List.mem_append, Option.mem_toList,
    Option.map_eq_some_iff, List.mem_filterMap] at h
  rcases h with (⟨name, hn, rfl⟩ | ⟨name, hn, rfl⟩) | ⟨key, -, text, hx, rfl⟩
  · exact hn
  · exact hn
  · exact hx

theorem foldl_stated {t : Trigger} (h : t.kind = .message) :
    t.stated.foldl Condition.refine .onMessage = t := by
  obtain ⟨kind, room, user, contains, startsWith, regex⟩ := t
  cases h
  cases user <;> cases room <;> cases contains <;> cases startsWith <;> cases regex <;> rfl

theorem foldl_of_perm {t : Trigger} (h : t.kind = .message) {conditions : List Condition}
    (hp : conditions.Perm t.stated) : conditions.foldl Condition.refine .onMessage = t := by
  have hc : ∀ c ∈ conditions, ∀ d ∈ conditions, ∀ u,
      Condition.refine (Condition.refine u c) d = Condition.refine (Condition.refine u d) c :=
    fun c hc d hd u => Condition.refine_comm (isIn_of_mem_stated (hp.mem_iff.mp hc))
      (isIn_of_mem_stated (hp.mem_iff.mp hd)) u
  exact (hp.foldl_eq' hc _).trans (foldl_stated h)

inductive Clause
  | condition (c : Condition)
  | action (a : Action)
  deriving DecidableEq, Repr

namespace Clause

def condition? : Clause → Option Condition
  | condition c => some c
  | action _ => none

def action? : Clause → Option Action
  | condition _ => none
  | action a => some a

inductive Written : Clause → List Char → Prop
  | condition {c : Condition} {w : List Char} (h : c.Written w) : Written (condition c) w
  | action {a : Action} {spec : List Char} (h : a.Written spec) :
    Written (action a) ("action=".toList ++ spec)

theorem Written.isWhole {clause : Clause} {w : List Char} (h : clause.Written w) :
    w ≠ [] ∧ IsWhole w := by
  cases h with
  | condition h => exact ⟨h.ne_nil, h.isWhole⟩
  | action h =>
    have hk : IsUnbroken "action=".toList := by decide +kernel
    refine ⟨?_, hk.isWhole.append h.isWhole⟩
    exact List.append_ne_nil_of_left_ne_nil (by decide) _

end Clause

theorem readFrom_condition (t : Trigger) (c : Condition) (rest : List Token) :
    readFrom t (c.token :: rest) = readFrom (c.refine t) rest := by
  cases c with
  | value key text => cases key <;> rfl
  | _ => rfl

theorem ofChars_action (spec : List Char) :
    Token.ofChars ("action=".toList ++ spec) = .action spec := by
  simp [Token.ofChars, Token.valueOf, after?]

theorem readFrom_of_written {clauses : List Clause} {words : List (List Char)}
    (h : List.Forall₂ Clause.Written clauses words) (t : Trigger) :
    readFrom t (words.map Token.ofChars) =
      .ok ((clauses.filterMap Clause.condition?).foldl Condition.refine t,
        clauses.filterMap Clause.action?) := by
  induction h generalizing t with
  | nil => rfl
  | cons hw _ ih =>
    rw [List.map_cons]
    cases hw with
    | condition hc => rw [hc.ofChars_eq, readFrom_condition, ih]; rfl
    | action ha => rw [ofChars_action, readFrom, ha.spelledBy.ofSpec_eq, ih]; rfl

/-- Words that write a trigger and actions: a word for each, the actions in their order, and the
conditions in any order and anywhere among them. -/
def Writes (t : Trigger) (actions : List Action) (words : List (List Char)) : Prop :=
  ∃ clauses, List.Forall₂ Clause.Written clauses words ∧
    (clauses.filterMap Clause.condition?).Perm t.stated ∧
    clauses.filterMap Clause.action? = actions

theorem Writes.read_eq {t : Trigger} {actions : List Action} {words : List (List Char)}
    (h : Writes t actions words) (hk : t.kind = .message) : read words = .ok (t, actions) := by
  obtain ⟨clauses, hw, hp, rfl⟩ := h
  rw [read, readFrom_of_written hw, foldl_of_perm hk hp]

theorem Writes.isWhole {t : Trigger} {actions : List Action} {words : List (List Char)}
    (h : Writes t actions words) : ∀ w ∈ words, w ≠ [] ∧ IsWhole w := by
  obtain ⟨clauses, hw, -⟩ := h
  induction hw with
  | nil => exact List.forall_mem_nil _
  | cons h _ ih => exact List.forall_mem_cons.mpr ⟨h.isWhole, ih⟩

theorem Writes.ne_nil {t : Trigger} {actions : List Action} {words : List (List Char)}
    (h : Writes t actions words) (ha : actions ≠ []) : words ≠ [] := by
  rintro rfl
  obtain ⟨clauses, hw, -, rfl⟩ := h
  cases hw
  exact ha rfl

end CreateForm

namespace Command
open CreateForm (Writes)

def authored (stamp : Stamp) (sender : User) (t : Trigger) (actions : List Action) : Rule :=
  ⟨stamp.id, none, sender.id, stamp.time, true, t, actions⟩

section Creating
variable {t : Trigger} {actions : List Action}

theorem execute_create {words : List (List Char)} (hr : CreateForm.read words = .ok (t, actions))
    (hn : words ≠ []) (ha : actions ≠ []) (stamp : Stamp) (sender : User) :
    execute stamp sender ("create".toList :: words) =
      store (authored stamp sender t actions)
        (.done (.ok (.say (createdText (authored stamp sender t actions))))) := by
  have hl : lower "create".toList = "create".toList := by decide +kernel
  rw [execute_eq_script, Intent.ofWords, hl, if_pos rfl, Intent.ofTokens, if_neg hn, hr]
  simp only [if_neg ha]
  rfl

theorem executeLine_create {ws : List Word} (hk : t.kind = .message) (ha : actions ≠ [])
    (hw : Writes t actions (ws.map Word.letters)) (hg : ∀ w ∈ ws, IsGap w.gap)
    (stamp : Stamp) (sender : User) :
    executeLine stamp sender ("create".toList ++ spelled ws) =
      store (authored stamp sender t actions)
        (.done (.ok (.say (createdText (authored stamp sender t actions))))) := by
  have hs : ∀ c ∈ "create".toList, isBlank c = false := eq_false_of_any (by decide)
  have harguments : IsArguments ws := isArguments_of_forall fun w h =>
    ⟨hg w h, hw.isWhole w.letters (List.mem_map_of_mem h)⟩
  rw [executeLine_spelled (by decide) hs (by decide) harguments,
    execute_create (hw.read_eq hk) (hw.ne_nil ha) ha]

theorem run_store {σ : Type} {backend : Backend σ} {rule : Rule} {s s' : σ}
    (h : backend (.create rule) s = (.ok (), s')) (next : Script (Except Fault Reply)) :
    (store rule next).run backend s = next.run backend s' := by
  rw [store, Script.run, h]
  rfl

/-- What is written as words is stored by either store: the trigger and the actions, enabled, by
their author. -/
theorem written_rule_is_stored {ws : List Word} (hk : t.kind = .message) (ha : actions ≠ [])
    (hw : Writes t actions (ws.map Word.letters)) (hg : ∀ w ∈ ws, IsGap w.gap)
    (stamp : Stamp) (sender : User) :
    (∀ m : Memory, m.any (·.id == stamp.id) = false →
      (executeLine stamp sender ("create".toList ++ spelled ws)).run Memory.backend m =
        (.ok (.say (createdText (authored stamp sender t actions))),
          m ++ [⟨stamp.id, none, sender.id, stamp.time, true, t, actions⟩])) ∧
    ∀ table : Table, table.has stamp.id = false →
      ∃ row : Row,
        (executeLine stamp sender ("create".toList ++ spelled ws)).run Table.backend table =
          (.ok (.say (createdText (authored stamp sender t actions))), table ++ [row]) ∧
        row.id = stamp.id ∧ row.enabled = true ∧ row.createdBy = sender.id ∧
        row.trigger? = some t ∧ row.actions? = some actions := by
  have hline := executeLine_create hk ha hw hg stamp sender
  have hact : (authored stamp sender t actions).actions ≠ [] := ha
  constructor
  · intro m hm
    have hc := Memory.backend_create hact (Bool.eq_false_iff.mp hm)
    rw [hline, run_store hc]
    rfl
  · intro table ht
    have hc := Table.backend_append hact (Bool.eq_false_iff.mp ht)
    refine ⟨Row.ofRule (authored stamp sender t actions), ?_, rfl, rfl, rfl,
      Row.trigger_ofRule _, Row.actions_ofRule _⟩
    rw [hline, run_store hc]
    rfl

end Creating

def oddTrigger : Trigger :=
  ⟨.message, some "#a:b", some "@u=1", some "say \"hi\" = #1", some "", none⟩

def oddActions : List Action :=
  [.post "#ops:1" "a=\"b\"", .delete, .direct "@lead" " it's: "]

def oddClauses : List CreateForm.Clause :=
  [.action (.post "#ops:1" "a=\"b\""), .condition (.user "@u=1"), .action .delete,
    .condition (.value .startsWith ""), .condition (.value .contains "say \"hi\" = #1"),
    .action (.direct "@lead" " it's: "), .condition (.room "#a:b")]

def oddWords : List Word :=
  [⟨[' '], "action=".toList ++ ("post".toList ++ ':' ::
      ("#ops:1".toList ++ '=' :: wrapped '\'' "a=\"b\"".toList))⟩,
    ⟨[' ', '\t'], "@u=1".toList⟩,
    ⟨['\u3000'], "action=".toList ++ "delete".toList⟩,
    ⟨[' '], "startsWith=".toList ++ wrapped '\'' []⟩,
    ⟨[' '], "contains=".toList ++ wrapped '\'' "say \"hi\" = #1".toList⟩,
    ⟨[' '], "action=".toList ++ ("dm".toList ++ ':' ::
      ("@lead".toList ++ '=' :: wrapped '"' " it's: ".toList))⟩,
    ⟨[' '], "#a:b".toList⟩]

def oddLine : List Char :=
  "create action=post:#ops:1='a=\"b\"' \t@u=1\u3000action=delete startsWith='' ".toList ++
    "contains='say \"hi\" = #1' action=dm:@lead=\" it's: \" #a:b".toList

theorem writes_odd : Writes oddTrigger oddActions (oddWords.map Word.letters) := by
  refine ⟨oddClauses, ?_, by decide +kernel, rfl⟩
  refine .cons (.action ?_) (.cons (.condition ?_) (.cons (.action ?_) (.cons (.condition ?_)
    (.cons (.condition ?_) (.cons (.action ?_) (.cons (.condition ?_) .nil))))))
  · exact .sends rfl (by decide) (by decide +kernel) (by decide) (by decide) (by decide)
      (by decide)
  · exact .user (by decide) (by decide +kernel)
  · exact .bare rfl
  · exact .value (by decide) (by decide)
  · exact .value (by decide) (by decide)
  · exact .sends rfl (by decide) (by decide +kernel) (by decide) (by decide) (by decide)
      (by decide)
  · exact .room (by decide) (by decide +kernel)

theorem odd_values_are_stored :
    (executeLine ⟨"r1", Session.epoch⟩ ⟨"U9", "admin"⟩ oddLine).run Memory.backend [] =
      (.ok (.say (createdText
          (authored ⟨"r1", Session.epoch⟩ ⟨"U9", "admin"⟩ oddTrigger oddActions))),
        [⟨"r1", none, "U9", Session.epoch, true, oddTrigger, oddActions⟩]) := by
  have hgaps : ∀ w ∈ oddWords, IsGap w.gap := by decide +kernel
  have hline : "create".toList ++ spelled oddWords = oddLine := by decide +kernel
  rw [← hline]
  exact (written_rule_is_stored rfl (by decide) writes_odd hgaps _ _).1 [] rfl

end Command

end ChatRules
