import ChatRules.Proofs.ActionSpecs
import ChatRules.Proofs.Outages

namespace ChatRules
open Text

namespace Action

def IsFull : Action → Prop
  | .direct target text => target ≠ "" ∧ text ≠ ""
  | .post target text => target ≠ "" ∧ text ≠ ""
  | .delete => True

theorem SpelledBy.isFull {spec : List Char} {a : Action} (h : a.SpelledBy spec) : a.IsFull := by
  cases h with
  | sends hm _ ht _ hx _ => cases hm <;> exact ⟨by simpa using ht, by simpa using hx⟩
  | delete => trivial

theorem Refuses.isInput {spec : List Char} {fault : Fault} (h : Refuses fault spec) :
    fault.isInput = true := by
  cases h <;> rfl

theorem isInput_of_ofSpec {spec : List Char} {fault : Fault} (h : ofSpec spec = .error fault) :
    fault.isInput = true :=
  (ofSpec_eq_error_iff.mp h).isInput

theorem isFull_of_ofSpec {spec : List Char} {a : Action} (h : ofSpec spec = .ok a) : a.IsFull :=
  (ofSpec_eq_ok_iff.mp h).isFull

end Action

namespace CreateForm

def Token.spec? : Token → Option (List Char)
  | .action spec => some spec
  | _ => none

def specs (words : List (List Char)) : List (List Char) :=
  (words.map Token.ofChars).filterMap Token.spec?

def triggerOf (words : List (List Char)) : Trigger :=
  (words.map Token.ofChars).foldl Token.refine .onMessage

def Makes : List (List Char) → List Action → Prop :=
  List.Forall₂ fun spec action => Action.ofSpec spec = .ok action

theorem readFrom_of_spec_eq_none {token : Token} (h : token.spec? = none) (t : Trigger)
    (rest : List Token) : readFrom t (token :: rest) = readFrom (token.refine t) rest := by
  cases token with
  | action spec => cases h
  | _ => rfl

theorem readFrom_eq (t : Trigger) (tokens : List Token) :
    readFrom t tokens = ((tokens.filterMap Token.spec?).mapM Action.ofSpec).map fun actions =>
      (tokens.foldl Token.refine t, actions) := by
  induction tokens generalizing t with
  | nil => rfl
  | cons token rest ih =>
    cases hs : token.spec? with
    | none =>
      rw [readFrom_of_spec_eq_none hs, List.foldl_cons, List.filterMap_cons_none hs, ih]
    | some spec =>
      obtain rfl : token = .action spec := by
        cases token <;> cases hs
        rfl
      rw [readFrom, ih, List.filterMap_cons_some hs, mapM_cons_eq, List.foldl_cons]
      cases Action.ofSpec spec with
      | error fault => rfl
      | ok action => cases (rest.filterMap Token.spec?).mapM Action.ofSpec <;> rfl

theorem read_eq (words : List (List Char)) :
    read words =
      ((specs words).mapM Action.ofSpec).map fun actions => (triggerOf words, actions) :=
  readFrom_eq .onMessage (words.map Token.ofChars)

theorem read_cases (words : List (List Char)) :
    (∃ actions, read words = .ok (triggerOf words, actions) ∧ Makes (specs words) actions) ∨
    ∃ spec ∈ specs words, ∃ fault, Action.ofSpec spec = .error fault ∧
      read words = .error fault := by
  rw [read_eq]
  cases h : (specs words).mapM Action.ofSpec with
  | ok actions => exact .inl ⟨actions, rfl, mapM_eq_ok_iff.mp h⟩
  | error fault =>
    obtain ⟨before, spec, after, hs, -, hf⟩ := mapM_eq_error_iff.mp h
    have hm : spec ∈ specs words := hs ▸ List.mem_append_right _ List.mem_cons_self
    exact .inr ⟨spec, hm, fault, hf, rfl⟩

theorem Makes.isFull {specs : List (List Char)} {actions : List Action} (h : Makes specs actions) :
    ∀ a ∈ actions, a.IsFull := by
  induction h with
  | nil => exact List.forall_mem_nil _
  | cons ha _ ih => exact List.forall_mem_cons.mpr ⟨Action.isFull_of_ofSpec ha, ih⟩

theorem Makes.ofSpec_ne_error {specs : List (List Char)} {actions : List Action}
    (h : Makes specs actions) {spec : List Char} (hs : spec ∈ specs) (fault : Fault) :
    Action.ofSpec spec ≠ .error fault := by
  induction h with
  | nil => cases hs
  | cons ha _ ih =>
    rcases List.mem_cons.mp hs with rfl | hs
    · rw [ha]
      exact nofun
    · exact ih hs

end CreateForm

namespace Command
open CreateForm (specs triggerOf Makes)

def subcommands : List String :=
  ["create", "list", "delete", "enable", "disable", "english"]

def aboutOne : List String :=
  ["delete", "enable", "disable"]

/-- What can be told to be mistyped from the words alone. -/
inductive IsMistyped : List (List Char) → Prop
  | noWords : IsMistyped []
  | unknown {sub : List Char} {rest : List (List Char)}
    (hs : String.ofList (lower sub) ∉ subcommands) : IsMistyped (sub :: rest)
  | noId {sub : List Char} (hs : String.ofList (lower sub) ∈ aboutOne) : IsMistyped [sub]
  | badAction {sub spec : List Char} {rest : List (List Char)} {fault : Fault}
    (hs : lower sub = "create".toList) (hm : spec ∈ specs rest)
    (hf : Action.ofSpec spec = .error fault) : IsMistyped (sub :: rest)
  | noAction {sub : List Char} {rest : List (List Char)} (hs : lower sub = "create".toList)
    (hn : specs rest = []) : IsMistyped (sub :: rest)
  | sentence {sub : List Char} {rest : List (List Char)} {fault : Fault}
    (hs : lower sub = "english".toList) (hf : Sentence.steps? (joinBlank rest) = .error fault) :
    IsMistyped (sub :: rest)

inductive Change (stamp : Stamp) (sender : User) (rules : List Rule) :
    List (List Char) → List Rule → Prop
  | created {sub : List Char} {rest : List (List Char)} {actions : List Action}
    (hs : lower sub = "create".toList)
    (hv : Makes (specs rest) actions) (ha : actions ≠ []) :
    Change stamp sender rules (sub :: rest)
      (rules ++ [⟨stamp.id, none, sender.id, stamp.time, true, triggerOf rest, actions⟩])
  | deleted {sub id : List Char} {rest : List (List Char)} (hs : lower sub = "delete".toList) :
    Change stamp sender rules (sub :: id :: rest) (rules.filter (·.id != String.ofList id))
  | switched {sub id : List Char} {rest : List (List Char)} {enabled : Bool}
    (hs : lower sub = (if enabled then "enable" else "disable").toList) :
    Change stamp sender rules (sub :: id :: rest) (switchRule (String.ofList id) enabled rules)
  | shown {sub : List Char} {rest : List (List Char)}
    (hs : lower sub = "list".toList ∨ lower sub = "english".toList) :
    Change stamp sender rules (sub :: rest) rules
  | mistyped {words : List (List Char)} (hm : IsMistyped words) :
    Change stamp sender rules words rules

namespace Intent
variable {stamp : Stamp} {sender : User}

theorem ofTokens_of_badAction {rest : List (List Char)} {spec : List Char} {fault : Fault}
    (hm : spec ∈ specs rest) (hf : Action.ofSpec spec = .error fault) :
    ∃ text, ofTokens stamp sender rest = say text := by
  rw [ofTokens]
  split
  · exact ⟨_, rfl⟩
  rcases CreateForm.read_cases rest with ⟨actions, -, hv⟩ | ⟨bad, -, first, hbad, hr⟩
  · exact absurd hf (hv.ofSpec_ne_error hm fault)
  · rw [hr]
    simp only [Action.isInput_of_ofSpec hbad, if_true]
    exact ⟨_, rfl⟩

theorem ofTokens_of_noAction {rest : List (List Char)} (hn : specs rest = []) :
    ∃ text, ofTokens stamp sender rest = say text := by
  rw [ofTokens]
  split
  · exact ⟨_, rfl⟩
  rcases CreateForm.read_cases rest with ⟨actions, hr, hv⟩ | ⟨bad, hm, -⟩
  · rw [hn] at hv
    cases hv
    rw [hr]
    exact ⟨_, rfl⟩
  · rw [hn] at hm
    cases hm

theorem english_of_error {sentence : List Char} {fault : Fault}
    (h : Sentence.steps? sentence = .error fault) : ∃ text, english sentence = .say text := by
  rw [english]
  split
  · exact ⟨_, rfl⟩
  · rw [h]
    exact ⟨_, rfl⟩

section Subcommands
variable {sub : List Char} {rest : List (List Char)}

theorem ofWords_create (hs : lower sub = "create".toList) :
    ofWords stamp sender (sub :: rest) = ofTokens stamp sender rest := by
  simp [ofWords, hs]

theorem ofWords_list (hs : lower sub = "list".toList) :
    ofWords stamp sender (sub :: rest) = .list := by
  simp [ofWords, hs]

theorem ofWords_delete (hs : lower sub = "delete".toList) :
    ofWords stamp sender (sub :: rest) = about rest .delete := by
  simp [ofWords, hs]

theorem ofWords_switch {enabled : Bool}
    (hs : lower sub = (if enabled then "enable" else "disable").toList) :
    ofWords stamp sender (sub :: rest) = about rest fun id => .switch id enabled := by
  cases enabled <;> simp [ofWords, hs]

theorem ofWords_english (hs : lower sub = "english".toList) :
    ofWords stamp sender (sub :: rest) = .answer (.ok (english (joinBlank rest))) := by
  simp [ofWords, hs]

theorem ofWords_unknown (hs : String.ofList (lower sub) ∉ subcommands) :
    ofWords stamp sender (sub :: rest) = say helpText := by
  have hne : ∀ word ∈ subcommands, lower sub ≠ word.toList := by
    intro word hw he
    rw [he, String.ofList_toList] at hs
    exact hs hw
  simp only [subcommands, List.forall_mem_cons] at hne
  obtain ⟨hc, hl, hd, he, hb, hg, -⟩ := hne
  simp only [ofWords, if_neg hc, if_neg hl, if_neg hd, if_neg he, if_neg hb, if_neg hg]

variable (stamp sender) in
theorem about_cases (hs : String.ofList (lower sub) ∈ aboutOne) :
    (∀ rest, ofWords stamp sender (sub :: rest) = about rest .delete) ∨
      ∃ enabled, ∀ rest,
        ofWords stamp sender (sub :: rest) = about rest fun id => .switch id enabled := by
  have hl : (String.ofList (lower sub)).toList = lower sub := String.toList_ofList
  simp only [aboutOne, List.mem_cons, List.not_mem_nil, or_false] at hs
  rcases hs with hs | hs | hs <;> rw [hs] at hl
  · exact .inl fun rest => ofWords_delete hl.symm
  · exact .inr ⟨true, fun rest => ofWords_switch hl.symm⟩
  · exact .inr ⟨false, fun rest => ofWords_switch hl.symm⟩

end Subcommands

variable (stamp sender) in
theorem ofWords_of_mistyped {words : List (List Char)} (h : IsMistyped words) :
    ∃ text, ofWords stamp sender words = say text := by
  cases h with
  | noWords => exact ⟨_, rfl⟩
  | unknown hs => exact ⟨_, ofWords_unknown hs⟩
  | noId hs =>
    rcases about_cases stamp sender hs with hi | ⟨enabled, hi⟩ <;> exact ⟨_, hi []⟩
  | badAction hs hm hf =>
    rw [ofWords_create hs]
    exact ofTokens_of_badAction hm hf
  | noAction hs hn =>
    rw [ofWords_create hs]
    exact ofTokens_of_noAction hn
  | sentence hs hf =>
    obtain ⟨text, ht⟩ := english_of_error hf
    exact ⟨text, by rw [ofWords_english hs, ht]; rfl⟩

theorem change_of_mistyped {words : List (List Char)} (h : IsMistyped words)
    (rules : List Rule) :
    Change stamp sender rules words
      ((ofWords stamp sender words).deeds.foldl Deed.apply rules) := by
  obtain ⟨text, ht⟩ := ofWords_of_mistyped stamp sender h
  rw [ht]
  exact .mistyped h

theorem change_of_create {sub : List Char} (hs : lower sub = "create".toList)
    (rest : List (List Char)) (rules : List Rule) :
    Change stamp sender rules (sub :: rest)
      ((ofWords stamp sender (sub :: rest)).deeds.foldl Deed.apply rules) := by
  rcases CreateForm.read_cases rest with ⟨actions, hr, hv⟩ | ⟨bad, hm, fault, hf, -⟩
  · cases actions with
    | nil =>
      have hn : specs rest = [] := List.forall₂_nil_right_iff.mp hv
      exact change_of_mistyped (.noAction hs hn) rules
    | cons action more =>
      have hne : rest ≠ [] := by
        rintro rfl
        cases hv
      rw [ofWords_create hs, ofTokens, if_neg hne, hr]
      exact .created hs hv (List.cons_ne_nil action more)
  · exact change_of_mistyped (.badAction hs hm hf) rules

theorem change_of_about {sub : List Char} {intent : String → Intent} {rules : List Rule}
    (hs : String.ofList (lower sub) ∈ aboutOne)
    (hi : ∀ rest, ofWords stamp sender (sub :: rest) = about rest intent)
    (hc : ∀ id rest, Change stamp sender rules (sub :: id :: rest)
      ((intent (String.ofList id)).deeds.foldl Deed.apply rules)) (rest : List (List Char)) :
    Change stamp sender rules (sub :: rest)
      ((ofWords stamp sender (sub :: rest)).deeds.foldl Deed.apply rules) := by
  cases rest with
  | nil => exact change_of_mistyped (.noId hs) rules
  | cons id more =>
    rw [hi]
    exact hc id more

theorem change_ofWords (words : List (List Char)) (rules : List Rule) :
    Change stamp sender rules words
      ((ofWords stamp sender words).deeds.foldl Deed.apply rules) := by
  cases words with
  | nil => exact change_of_mistyped .noWords rules
  | cons sub rest =>
    by_cases hk : String.ofList (lower sub) ∈ subcommands
    · have hl : (String.ofList (lower sub)).toList = lower sub := String.toList_ofList
      simp only [subcommands, List.mem_cons, List.not_mem_nil, or_false] at hk
      rcases hk with hs | hs | hs | hs | hs | hs <;> rw [hs] at hl
      · exact change_of_create hl.symm rest rules
      · rw [ofWords_list hl.symm]
        exact .shown (.inl hl.symm)
      · exact change_of_about (hs ▸ by decide) (fun _ => ofWords_delete hl.symm)
          (fun _ _ => .deleted hl.symm) rest
      · exact change_of_about (hs ▸ by decide) (fun _ => @ofWords_switch _ _ _ _ true hl.symm)
          (fun _ _ => .switched hl.symm) rest
      · exact change_of_about (hs ▸ by decide) (fun _ => @ofWords_switch _ _ _ _ false hl.symm)
          (fun _ _ => .switched hl.symm) rest
      · rw [ofWords_english hl.symm]
        exact .shown (.inr hl.symm)
    · exact change_of_mistyped (.unknown hk) rules

inductive Arises (stamp : Stamp) (sender : User) : Intent → Prop
  | say (text : String) : Arises stamp sender (.say text)
  | english (sentence : List Char) : Arises stamp sender (.answer (.ok (english sentence)))
  | store {specs : List (List Char)} {trigger : Trigger} {actions : List Action}
    (hv : Makes specs actions) (ha : actions ≠ []) :
    Arises stamp sender
      (.store ⟨stamp.id, none, sender.id, stamp.time, true, trigger, actions⟩)
  | list : Arises stamp sender .list
  | delete (id : String) : Arises stamp sender (.delete id)
  | switch (id : String) (enabled : Bool) : Arises stamp sender (.switch id enabled)

theorem arises_ofTokens (tokens : List (List Char)) :
    (ofTokens stamp sender tokens).Arises stamp sender := by
  rw [ofTokens]
  split
  · exact .say _
  rcases CreateForm.read_cases tokens with ⟨actions, hr, hv⟩ | ⟨bad, -, fault, hf, hr⟩
  · rw [hr]
    simp only
    split
    · exact .say _
    · exact .store hv ‹_›
  · rw [hr]
    simp only [Action.isInput_of_ofSpec hf, if_true]
    exact .say _

theorem arises_about {ids : List (List Char)} {intent : String → Intent}
    (h : ∀ id, (intent id).Arises stamp sender) : (about ids intent).Arises stamp sender := by
  cases ids with
  | nil => exact .say _
  | cons id rest => exact h _

variable (stamp sender) in
theorem arises_ofWords (words : List (List Char)) :
    (ofWords stamp sender words).Arises stamp sender := by
  cases words with
  | nil => exact .say _
  | cons sub rest =>
    rw [ofWords]
    split
    · exact arises_ofTokens rest
    split
    · exact .list
    split
    · exact arises_about .delete
    split
    · exact arises_about fun id => .switch id true
    split
    · exact arises_about fun id => .switch id false
    split
    · exact .english _
    · exact .say _

variable (stamp sender) in
theorem arises_ofLine (line : List Char) : (ofLine stamp sender line).Arises stamp sender := by
  rw [ofLine]
  split
  · exact .english _
  · exact arises_ofWords stamp sender _

end Intent

section Running
variable {kind : StoreKind} {rules : List Rule} {u : Unsteady kind.State} {deeds : List Deed}

/-- What a command comes to on a store that keeps the rules: refused somewhere, it hands on the
fault and the store is as it was; else it replies and has done its deeds. -/
inductive Ends (p : Script (Except Fault Reply)) (deeds : List Deed) (rules : List Rule)
    (u : Unsteady kind.State) : Prop
  | refused {fault : Fault} (hs : p.succeeds kind.backend.unsteady u = false)
    (hr : (p.run kind.backend.unsteady u).1 = .error fault)
    (hu : (p.run kind.backend.unsteady u).2.state = u.state)
  | served {reply : Reply} (hs : p.succeeds kind.backend.unsteady u = true)
    (hr : (p.run kind.backend.unsteady u).1 = .ok reply)
    (hk : kind.Keeps (deeds.foldl Deed.apply rules) (p.run kind.backend.unsteady u).2.state)

theorem ends_done (hk : kind.Keeps rules u.state) (reply : Reply) :
    Ends (.done (.ok reply)) [] rules u :=
  .served rfl rfl hk

theorem ends_read {c : StoreCall} {next : c.Answer → Script (Except Fault Reply)}
    (hc : (kind.backend c u.state).2 = u.state)
    (h : ∀ a, (kind.backend c u.state).1 = .ok a → Ends (next a) deeds rules (u.next u.state)) :
    Ends (.call c fun answer => need answer next) deeds rules u := by
  rcases call_cases c next u with ⟨fault, hr, hs⟩ | ⟨a, ha, hr, hs⟩
  · exact .refused hs (congrArg Prod.fst hr) (by rw [hr]; rfl)
  · rw [hc] at hr hs
    cases h a ha with
    | refused hs' hr' hu' => exact .refused (hs ▸ hs') (hr ▸ hr') (hr ▸ hu')
    | served hs' hr' hk' => exact .served (hs ▸ hs') (hr ▸ hr') (hr ▸ hk')

theorem ends_write {c : StoreCall} (reply : Reply)
    (h : ∀ a, (kind.backend c u.state).1 = .ok a →
      kind.Keeps (deeds.foldl Deed.apply rules) (kind.backend c u.state).2) :
    Ends (.call c fun answer => need answer fun _ => .done (.ok reply)) deeds rules u := by
  rcases call_cases c (fun _ => .done (.ok reply)) u with ⟨fault, hr, hs⟩ | ⟨a, ha, hr, hs⟩
  · exact .refused hs (congrArg Prod.fst hr) (by rw [hr]; rfl)
  · exact .served hs (congrArg Prod.fst hr) (by rw [hr]; exact h a ha)

theorem ends_list (hk : kind.Keeps rules u.state) : Ends list [] rules u :=
  ends_read StoreKind.backend_all_snd fun _ _ => .served rfl rfl hk

theorem ends_delete (hk : kind.Keeps rules u.state) (id : String) :
    Ends (delete id) [.deleted id] rules u := by
  refine ends_read (StoreKind.backend_get_snd id) fun found hf => ?_
  cases found with
  | none =>
    have hn : Deed.apply rules (.deleted id) = rules :=
      Memory.filter_of_not_mem (hk.get_none hf)
    refine .served rfl rfl ?_
    rw [List.foldl_cons, hn]
    exact hk
  | some rule => exact ends_write _ fun _ ha => hk.delete ha

theorem ends_setEnabled (hk : kind.Keeps rules u.state) (id : String) (enabled : Bool) :
    Ends (setEnabled id enabled) [.switched id enabled] rules u := by
  refine ends_read (StoreKind.backend_get_snd id) fun found hf => ?_
  cases found with
  | none =>
    have hn : Deed.apply rules (.switched id enabled) = rules :=
      changeRule_of_not_mem (hk.get_none hf)
    refine .served rfl rfl ?_
    rw [List.foldl_cons, hn]
    exact hk
  | some rule => exact ends_write _ fun _ ha => hk.switch hf ha

theorem Intent.Arises.ends {intent : Intent} {stamp : Stamp} {sender : User}
    (h : intent.Arises stamp sender) (hk : kind.Keeps rules u.state) :
    Ends intent.script intent.deeds rules u := by
  cases h with
  | say text => exact ends_done hk _
  | english sentence => exact ends_done hk _
  | store hv ha => exact ends_write _ fun _ hc => hk.create ha hc
  | list => exact ends_list hk
  | delete id => exact ends_delete hk id
  | switch id enabled => exact ends_setEnabled hk id enabled

theorem run_of_mistyped {words : List (List Char)} (h : IsMistyped words) (stamp : Stamp)
    (sender : User) : ∃ text, (execute stamp sender words).run kind.backend.unsteady u =
      (.ok (.say text), u) := by
  obtain ⟨text, ht⟩ := Intent.ofWords_of_mistyped stamp sender h
  exact ⟨text, by rw [execute_eq_script, ht]; rfl⟩

theorem run_of_get_none {id : String} {next : Option Rule → Script (Except Fault Reply)}
    (hk : kind.Keeps rules u.state) (hid : id ∉ rules.map Rule.id) {reply : Reply}
    (hn : next none = .done (.ok reply))
    (h : (Script.call (.get id) fun answer => need answer next).succeeds kind.backend.unsteady u =
      true) :
    (Script.call (.get id) fun answer => need answer next).run kind.backend.unsteady u =
      (.ok reply, u.next u.state) := by
  rcases call_cases (.get id) next u with ⟨fault, -, hs⟩ | ⟨found, hf, hr, -⟩
  · rw [hs] at h
    cases h
  · cases found with
    | none =>
      rw [hr, hn, StoreKind.backend_get_snd]
      rfl
    | some rule => exact absurd (hk.get_some hf) hid

theorem run_of_unknownId {sub id : List Char} {rest : List (List Char)}
    (hs : String.ofList (lower sub) ∈ aboutOne) (hk : kind.Keeps rules u.state)
    (hid : String.ofList id ∉ rules.map Rule.id) (stamp : Stamp) (sender : User)
    (h : (execute stamp sender (sub :: id :: rest)).succeeds kind.backend.unsteady u = true) :
    (execute stamp sender (sub :: id :: rest)).run kind.backend.unsteady u =
      (.ok (notFound (String.ofList id)), u.next u.state) := by
  rw [execute_eq_script] at h ⊢
  rcases Intent.about_cases stamp sender hs with hi | ⟨enabled, hi⟩
  · rw [hi] at h ⊢
    exact run_of_get_none hk hid rfl h
  · rw [hi] at h ⊢
    exact run_of_get_none hk hid rfl h

/-- Whatever calls the store refuses, a command that fails leaves the rules alone, and one whose
calls all are answered replies and changes the rules in one way or not at all. What is mistyped is
told in a reply and changes nothing. -/
theorem execute_changes_one_rule_at_most (kind : StoreKind) (u : Unsteady kind.State)
    {rules : List Rule} (hl : kind.list u.state = .ok rules) (hn : (rules.map Rule.id).Nodup)
    (stamp : Stamp) (sender : User) (words : List (List Char)) :
    let command := execute stamp sender words
    let answer := (command.run kind.backend.unsteady u).1
    let after := (command.run kind.backend.unsteady u).2.state
    (∀ fault, answer = .error fault →
      command.succeeds kind.backend.unsteady u = false ∧ after = u.state) ∧
    (command.succeeds kind.backend.unsteady u = true →
      (∃ reply, answer = .ok reply) ∧
      ∃ rules', Change stamp sender rules words rules' ∧ kind.Holds rules' after ∧
        ∀ rule ∈ rules, kind.kept rule = .ok rule) ∧
    (IsMistyped words →
      ∃ text, command.run kind.backend.unsteady u = (.ok (.say text), u)) ∧
    ∀ (sub id : List Char) (rest : List (List Char)), words = sub :: id :: rest →
      String.ofList (lower sub) ∈ aboutOne → String.ofList id ∉ rules.map Rule.id →
      command.succeeds kind.backend.unsteady u = true →
      answer = .ok (notFound (String.ofList id)) ∧ after = u.state := by
  have hk : kind.Keeps rules u.state := ⟨StoreKind.holds_of_list hl, hn⟩
  have hends := (Intent.arises_ofWords stamp sender words).ends hk
  rw [← execute_eq_script] at hends
  intro command answer after
  refine ⟨?_, ?_, fun hm => run_of_mistyped hm stamp sender, ?_⟩
  · intro fault hf
    cases hends with
    | refused hs _ hu => exact ⟨hs, hu⟩
    | served _ hr => exact nomatch hf.symm.trans hr
  · intro hs
    cases hends with
    | refused hs' => exact nomatch hs.symm.trans hs'
    | served _ hr hk' =>
      exact ⟨⟨_, hr⟩, _, Intent.change_ofWords words rules, hk'.held,
        fun rule => StoreKind.kept_of_mem_list hl⟩
  · rintro sub id rest rfl hsub hid hs
    have hr := run_of_unknownId hsub hk hid stamp sender hs
    exact ⟨congrArg Prod.fst hr, congrArg (fun done => done.2.state) hr⟩

end Running

def foreignTable : Table :=
  [⟨"r1", none, "U9", -1, true, "[\"message\", null, null, \"ping\"]", "[[\"delete\"]]"⟩,
    ⟨"r2", some "b", "U9", 0, true, "[]", " [[\"post\", \"channel\", \"pong\"]] "⟩]

def foreignRules : List Rule :=
  (foreignTable.list.toOption).getD []

def lockedAt (n : Nat) : Unsteady StoreKind.table.State :=
  ⟨fun i => if i = n then some (.store "database is locked") else none, foreignTable⟩

def disableWords : List (List Char) :=
  ["Disable".toList, "r2".toList, "now".toList]

theorem foreign_rule_disabled_or_left :
    (∃ rules', Change ⟨"r3", Session.epoch⟩ ⟨"U1", "john"⟩ foreignRules disableWords rules' ∧
      StoreKind.table.Holds rules' ((execute ⟨"r3", Session.epoch⟩ ⟨"U1", "john"⟩ disableWords).run
        StoreKind.table.backend.unsteady (lockedAt 2)).2.state) ∧
    ((execute ⟨"r3", Session.epoch⟩ ⟨"U1", "john"⟩ disableWords).run
      StoreKind.table.backend.unsteady (lockedAt 1)).1 = .error (.store "database is locked") ∧
    ((execute ⟨"r3", Session.epoch⟩ ⟨"U1", "john"⟩ disableWords).run
      StoreKind.table.backend.unsteady (lockedAt 1)).2.state = foreignTable := by
  have hl : StoreKind.table.list foreignTable = .ok foreignRules := by decide +kernel
  have hn : (foreignRules.map Rule.id).Nodup := by decide +kernel
  have hs : (execute ⟨"r3", Session.epoch⟩ ⟨"U1", "john"⟩ disableWords).succeeds
      StoreKind.table.backend.unsteady (lockedAt 2) = true := by
    decide +kernel
  have hf : ((execute ⟨"r3", Session.epoch⟩ ⟨"U1", "john"⟩ disableWords).run
      StoreKind.table.backend.unsteady (lockedAt 1)).1 = .error (.store "database is locked") := by
    decide +kernel
  obtain ⟨-, hserved, -⟩ := execute_changes_one_rule_at_most .table (lockedAt 2) hl hn
    ⟨"r3", Session.epoch⟩ ⟨"U1", "john"⟩ disableWords
  obtain ⟨hrefused, -⟩ := execute_changes_one_rule_at_most .table (lockedAt 1) hl hn
    ⟨"r3", Session.epoch⟩ ⟨"U1", "john"⟩ disableWords
  obtain ⟨-, rules', hc, hh, -⟩ := hserved hs
  exact ⟨⟨rules', hc, hh⟩, hf, (hrefused _ hf).2⟩

end Command

end ChatRules
