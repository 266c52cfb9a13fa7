import ChatRules.Proofs.CanonicalReading
import ChatRules.Proofs.Feedback
import ChatRules.Proofs.Session

namespace ChatRules
open Text Command Sentence Phrase

theorem Work.ask_then_done {α : Type} (call : HostCall) (answer : Except Fault Unit) (a : α) :
    (do Work.ask call answer; Work.done a) = ⟨[call], answer.map fun _ => a⟩ := by
  cases answer <;> rfl

namespace Action
variable (host : Host) (message : Message)

def postInto (room : Room) (text : String) : List HostCall × Outcome :=
  ([.post room message.sender text],
    .ofResult ((host.post room message.sender text).map fun _ => .completed))

def postByName (name text : String) : List HostCall × Outcome :=
  match host.roomByName name with
  | .ok (some room) =>
    (.roomByName name :: (postInto host message room text).1, (postInto host message room text).2)
  | .ok none => ([.roomByName name], .skipped ("target not found: #" ++ name))
  | .error fault => ([.roomByName name], .ofResult (.error fault))

theorem head?_calls_postByName (name text : String) :
    (postByName host message name text).1.head? = some (.roomByName name) := by
  rw [postByName]
  split <;> rfl

theorem postInto_ne_postByName (room : Room) (name text text' : String) :
    postInto host message room text ≠ postByName host message name text' := by
  intro h
  have hhead := head?_calls_postByName host message name text'
  rw [← h] at hhead
  cases hhead

theorem roomOf_sign_append (name : String) :
    roomOf host message ("#" ++ name) = Work.ask (.roomByName name) (host.roomByName name) := by
  have hs : ("#" ++ name).toList = '#' :: name.toList := by simp
  rw [roomOf, hs]
  simp only [String.ofList_toList]

variable {text : String}

theorem perform_post_sameRoom (ht : text ≠ "") :
    (post sameRoom text).perform host message = postInto host message message.room text := by
  have hs : ¬ (sameRoom = "" ∨ text = "") := not_or.mpr ⟨by decide, ht⟩
  have hattempt : (post sameRoom text).attempt host message =
      ⟨[.post message.room message.sender text],
        (host.post message.room message.sender text).map fun _ => .completed⟩ := by
    rw [attempt, if_neg hs, roomOf_sameRoom]
    exact Work.ask_then_done _ _ _
  rw [perform, hattempt, postInto]

theorem perform_post_name (name : String) (ht : text ≠ "") :
    (post ("#" ++ name) text).perform host message = postByName host message name text := by
  have hs : ¬ ("#" ++ name = "" ∨ text = "") := not_or.mpr ⟨by simp, ht⟩
  rw [perform, attempt, if_neg hs, roomOf_sign_append, postByName]
  cases host.roomByName name with
  | error fault => rfl
  | ok found =>
    cases found with
    | none => rfl
    | some room =>
      exact congrArg
        (fun w : Work Outcome => (HostCall.roomByName name :: w.calls, Outcome.ofResult w.result))
        (Work.ask_then_done (.post room message.sender text) _ Outcome.completed)

end Action

namespace Response

theorem postTarget_of_no_sign {room : String} (h : room.toList.head? ≠ some '#') :
    postTarget (some room) = if room = Action.sameRoom then Action.sameRoom else "#" ++ room := by
  rw [postTarget, if_neg h]
  split
  · assumption
  · rfl

end Response

namespace Sentence.Phrase

theorem IsName.head?_ne_sign {room : List Char} (h : IsName room) :
    (String.ofList room).toList.head? ≠ some '#' := by
  rw [String.toList_ofList]
  intro hs
  exact h.not_mem (by decide +kernel) (by decide) (List.mem_of_mem_head? hs)

end Sentence.Phrase

namespace Rule

def ranOnce (id : String) (performed : List HostCall × Outcome) : Work RuleReport :=
  ⟨performed.1, .ok ⟨id, [performed.2]⟩⟩

theorem calls_ranOnce (id : String) (performed : List HostCall × Outcome) :
    (ranOnce id performed).calls = performed.1 :=
  rfl

theorem run_eq_ranOnce {rule : Rule} {action : Action} (h : rule.actions = [action]) (host : Host)
    (message : Message) :
    rule.run host message = ranOnce rule.id (action.perform host message) := by
  rw [run, h, if_neg (List.cons_ne_nil _ _)]
  simp [ranOnce]

theorem ranOnce_inj {id : String} {first second : List HostCall × Outcome}
    (h : ranOnce id first = ranOnce id second) : first = second := by
  obtain ⟨calls, outcome⟩ := first
  obtain ⟨calls', outcome'⟩ := second
  simpa [ranOnce] using h

end Rule

namespace Step

/-- A room that a sentence names is looked up by that name and posted into, unless the name is the
word for the room of the message: that one is never looked up, and the post goes to the room of the
message. -/
theorem named_room_is_posted_into_iff {text room : List Char} (hn : text ≠ []) (hq : '"' ∉ text)
    (hr : IsName room) (cue : Cue) (stamp : Stamp) (author : String) :
    ∃ response rule, Response.find? (joinBlank (Order.sendTo text room).parts) = some response ∧
      Step.rule ⟨cue, response⟩ stamp author = .ok rule ∧
      (rule.actions = [.post ("#" ++ String.ofList room) (String.ofList text)] ↔
        String.ofList room ≠ Action.sameRoom) ∧
      ∀ host message,
        (rule.run host message = Rule.ranOnce rule.id
            (Action.postByName host message (String.ofList room) (String.ofList text)) ↔
          String.ofList room ≠ Action.sameRoom) ∧
        (String.ofList room = Action.sameRoom →
          rule.run host message = Rule.ranOnce rule.id
            (Action.postInto host message message.room (String.ofList text))) := by
  have ht : String.ofList text ≠ "" := fun h => hn (String.ofList_eq_empty_iff.mp h)
  obtain ⟨rule, hrule, hactions⟩ : ∃ rule,
      Step.rule ⟨cue, (Order.sendTo text room).response⟩ stamp author = .ok rule ∧
      rule.actions =
        [.post (Response.postTarget (some (String.ofList room))) (String.ofList text)] :=
    ⟨_, rfl, rfl⟩
  rw [Response.postTarget_of_no_sign hr.head?_ne_sign] at hactions
  refine ⟨_, rule, Response.find?_sendTo hn hq hr, hrule, ?_⟩
  by_cases hc : String.ofList room = Action.sameRoom
  · rw [if_pos hc] at hactions
    have hrun (host : Host) (message : Message) : rule.run host message =
        Rule.ranOnce rule.id (Action.postInto host message message.room (String.ofList text)) := by
      rw [Rule.run_eq_ranOnce hactions, Action.perform_post_sameRoom host message ht]
    have hother : rule.actions ≠ [.post ("#" ++ String.ofList room) (String.ofList text)] := by
      rw [hactions, hc]
      simp [Action.sameRoom]
    refine ⟨iff_of_false hother (not_not_intro hc), fun host message => ⟨?_, fun _ => hrun _ _⟩⟩
    refine iff_of_false (fun h => ?_) (not_not_intro hc)
    rw [hrun host message] at h
    exact Action.postInto_ne_postByName host message _ _ _ _ (Rule.ranOnce_inj h)
  · rw [if_neg hc] at hactions
    refine ⟨iff_of_true hactions hc, fun host message => ⟨iff_of_true ?_ hc, (absurd · hc)⟩⟩
    rw [Rule.run_eq_ranOnce hactions, Action.perform_post_name host message _ ht]

def twoRooms : Host :=
  { Session.willingHost with
    roomByName := fun name =>
      .ok ([⟨"R2", "channel"⟩, ⟨"R3", "général.2"⟩].find? fun room : Room => room.name == name) }

theorem room_of_message_stands_in_for_channel :
    (∃ response rule,
      Response.find? "send \"it's up\" to #channel".toList = some response ∧
      Step.rule ⟨⟨.message, "ping", none, none⟩, response⟩ ⟨"r1", Session.epoch⟩ "U1" = .ok rule ∧
      (rule.run twoRooms Session.ping).calls =
        [.post ⟨"R1", "support"⟩ ⟨"U1", "john"⟩ "it's up"]) ∧
    ∃ response rule,
      Response.find? "send \"it's up\" to #général.2".toList = some response ∧
      Step.rule ⟨⟨.message, "ping", none, none⟩, response⟩ ⟨"r1", Session.epoch⟩ "U1" = .ok rule ∧
      (rule.run twoRooms Session.ping).calls =
        [.roomByName "général.2", .post ⟨"R3", "général.2"⟩ ⟨"U1", "john"⟩ "it's up"] := by
  have hchannel : IsName "channel".toList := isName_of_all (by decide) (by decide +kernel)
  have hdotted : IsName "général.2".toList :=
    .dotted (s := "général".toList) (by decide) (List.all_eq_true.mp (by decide +kernel))
      (isName_of_all (by decide) (by decide +kernel))
  have hn : "it's up".toList ≠ [] := by decide
  have hq : '"' ∉ "it's up".toList := by decide
  constructor
  · obtain ⟨response, rule, hf, hrule, -, hrun⟩ := named_room_is_posted_into_iff hn hq hchannel
      ⟨.message, "ping", none, none⟩ ⟨"r1", Session.epoch⟩ "U1"
    refine ⟨response, rule, hf, hrule, ?_⟩
    rw [(hrun twoRooms Session.ping).2 (by decide), Rule.calls_ranOnce]
    decide +kernel
  · obtain ⟨response, rule, hf, hrule, -, hrun⟩ := named_room_is_posted_into_iff hn hq hdotted
      ⟨.message, "ping", none, none⟩ ⟨"r1", Session.epoch⟩ "U1"
    refine ⟨response, rule, hf, hrule, ?_⟩
    rw [(hrun twoRooms Session.ping).1.mpr (by decide), Rule.calls_ranOnce]
    decide +kernel

end Step

end ChatRules
