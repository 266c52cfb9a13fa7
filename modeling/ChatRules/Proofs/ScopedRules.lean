import ChatRules.Proofs.CreateArguments
import ChatRules.Proofs.TriggerMeaning
import ChatRules.Proofs.TypedLines

namespace ChatRules

/-- A name that can be typed behind its sign, and not with two of them. -/
structure IsScopeName (sign : Char) (name : List Char) : Prop where
  ne_nil : name ≠ []
  unbroken : ∀ c ∈ name, Text.isBlank c = false
  bare : name.head? ≠ some sign

instance (sign : Char) (name : List Char) : Decidable (IsScopeName sign name) :=
  have := List.decidableBAll (fun c => Text.isBlank c = false) name
  decidable_of_iff (name ≠ [] ∧ (∀ c ∈ name, Text.isBlank c = false) ∧ name.head? ≠ some sign)
    ⟨fun ⟨hn, hu, hb⟩ => ⟨hn, hu, hb⟩, fun ⟨hn, hu, hb⟩ => ⟨hn, hu, hb⟩⟩

namespace CreateForm
variable {tokens : List (List Char)}

structure ScopedTo (tokens : List (List Char)) (user room : List Char) : Prop where
  user : (tokens.filter (·.head? = some '@')).getLast? = some ('@' :: user)
  room : (tokens.filter (·.head? = some '#')).getLast? = some ('#' :: room)

theorem among_sign (sign : Char) (tokens : List (List Char)) :
    among (String.ofList [sign]) tokens = tokens.filter (·.head? = some sign) := by
  rw [among, String.toList_ofList]
  refine List.filter_congr fun token _ => ?_
  cases token <;> simp [List.cons_prefix_cons, eq_comm]

theorem ScopedTo.asksFor {user room : List Char} (h : ScopedTo tokens user room) :
    (triggerOf tokens).AsksFor (.user (String.ofList ('@' :: user))) ∧
      (triggerOf tokens).AsksFor (.room (String.ofList ('#' :: room))) := by
  have hu : (triggerOf tokens).user = some (String.ofList ('@' :: user)) := by
    rw [user_triggerOf]
    exact congrArg _ ((congrArg _ (among_sign '@' tokens)).trans h.user)
  have hr : (triggerOf tokens).room = some (String.ofList ('#' :: room)) := by
    rw [room_triggerOf]
    exact congrArg _ ((congrArg _ (among_sign '#' tokens)).trans h.room)
  exact ⟨⟨hu, Trigger.ne_empty_of_signed String.toList_ofList⟩,
    ⟨hr, Trigger.ne_empty_of_signed String.toList_ofList⟩⟩

end CreateForm

def Condition.IsOnText : Condition → Prop
  | .room _ | .user _ => False
  | .contains _ | .startsWith _ | .regex _ => True

namespace Listener
open CreateForm Text
variable {user room gap gap' text : List Char} {c : Console} {l : Listener} {m : Message}

theorem spoken?_typed (hu : IsScopeName '@' user) (hr : IsScopeName '#' room)
    (hg : Token.IsGap gap) (hg' : Token.IsGap gap') (ht : trim text ≠ [])
    (hm : spoken? c (Line.typed room gap user gap' text) l = some m) :
    m = message (c.directory.user (String.ofList user)) (c.directory.room (String.ofList room))
      (trim text) l := by
  have hread := Line.read?_typed hr.ne_nil hr.unbroken hu.ne_nil hu.unbroken hg hg' ht
  obtain ⟨room', user', text', hl, -, -, rfl⟩ := spoken?_eq_some hm
  obtain ⟨rfl, rfl, rfl⟩ := Line.mk.inj (Option.some.inj (hread.symm.trans hl))
  rfl

theorem names_of_goes_by {sign : Char} {name : List Char} {id handle : String}
    (hn : IsScopeName sign name)
    (h : handle = Directory.bareName sign (String.ofList name) ∨
      id = Directory.bareName sign (String.ofList name)) :
    Names sign (String.ofList (sign :: name)) id ∨
      Names sign (String.ofList (sign :: name)) handle := by
  have hbare : Directory.bareName sign (String.ofList name) = String.ofList name :=
    Directory.bareName_eq_self (by rw [String.toList_ofList]; exact hn.bare)
  have hnames : Names sign (String.ofList (sign :: name)) (String.ofList name) :=
    .inl (by rw [String.toList_ofList, String.toList_ofList])
  rw [hbare] at h
  rcases h with rfl | rfl
  · exact .inr hnames
  · exact .inl hnames

theorem holds_user (hu : IsScopeName '@' user) (d : Directory)
    (hm : m.sender = d.user (String.ofList user)) :
    (Condition.user (String.ofList ('@' :: user))).Holds m := by
  rw [Condition.Holds, hm]
  exact names_of_goes_by hu (d.user_goes_by (String.ofList user))

theorem holds_room (hr : IsScopeName '#' room) (d : Directory)
    (hm : m.room = d.room (String.ofList room)) :
    (Condition.room (String.ofList ('#' :: room))).Holds m := by
  rw [Condition.Holds, hm]
  exact names_of_goes_by hr (d.room_goes_by (String.ofList room))

theorem fires_iff_text {t : Trigger} {user room : String} (hk : t.kind = .message)
    (hu : t.AsksFor (.user user)) (hr : t.AsksFor (.room room))
    (hum : (Condition.user user).Holds m) (hrm : (Condition.room room).Holds m) :
    t.fires m = true ↔ ∀ x : Condition, x.IsOnText → t.AsksFor x → x.Holds m := by
  rw [Trigger.fires_eq_true_iff, Trigger.evaluate_eq_true_iff]
  constructor
  · rintro ⟨-, -, h⟩ x - hx
    exact h x hx
  · intro h
    refine ⟨hk, ⟨_, hu⟩, fun x hx => ?_⟩
    cases x with
    | user value => exact Option.some.inj (hu.1.symm.trans hx.1) ▸ hum
    | room value => exact Option.some.inj (hr.1.symm.trans hx.1) ▸ hrm
    | contains text => exact h _ trivial hx
    | startsWith text => exact h _ trivial hx
    | regex pattern => exact h _ trivial hx

/-- A rule for a user in a room fires on the lines typed under their names just as far as its
conditions on the text hold: the names may be known as names or as ids, also of others, or not known
at all. -/
theorem scoped_rule_fires_by_text {tokens : List (List Char)} (hs : ScopedTo tokens user room)
    (hu : IsScopeName '@' user) (hr : IsScopeName '#' room) (hg : Token.IsGap gap)
    (hg' : Token.IsGap gap') (ht : trim text ≠ [])
    (hm : spoken? c (Line.typed room gap user gap' text) l = some m) :
    (∀ stamps, hear c stamps (Line.typed room gap user gap' text) l =
      (Dispatch.cycle c.host m).andThen fun work =>
        .done (Console.lines work.calls,
          { l.drop m.sender.id with messages := l.messages + 1 })) ∧
    m = message (c.directory.user (String.ofList user)) (c.directory.room (String.ofList room))
      (trim text) l ∧
    (Condition.user (String.ofList ('@' :: user))).Holds m ∧
    (Condition.room (String.ofList ('#' :: room))).Holds m ∧
    (specs tokens = [] → ∃ t, CreateForm.read tokens = .ok (t, [])) ∧
    ∀ t actions, CreateForm.read tokens = .ok (t, actions) →
      t.user = some (String.ofList ('@' :: user)) ∧ t.room = some (String.ofList ('#' :: room)) ∧
        (t.fires m = true ↔ ∀ x : Condition, x.IsOnText → t.AsksFor x → x.Holds m) := by
  have hmessage := spoken?_typed hu hr hg hg' ht hm
  have hum : (Condition.user (String.ofList ('@' :: user))).Holds m :=
    holds_user hu c.directory (congrArg Message.sender hmessage)
  have hrm : (Condition.room (String.ofList ('#' :: room))).Holds m :=
    holds_room hr c.directory (congrArg Message.room hmessage)
  refine ⟨hear_of_spoken hm, hmessage, hum, hrm, fun hn => ?_, fun t actions hread => ?_⟩
  · rcases read_cases tokens with ⟨actions, h, hmakes⟩ | ⟨bad, hb, -⟩
    · rw [hn] at hmakes
      cases hmakes
      exact ⟨_, h⟩
    · rw [hn] at hb
      cases hb
  · obtain ⟨haskuser, haskroom⟩ := hs.asksFor
    have htrigger : t = triggerOf tokens := by
      rcases read_cases tokens with ⟨_, h, -⟩ | ⟨_, -, _, -, h⟩
      · rw [h] at hread
        exact (congrArg Prod.fst (Except.ok.inj hread)).symm
      · rw [h] at hread
        cases hread
    subst htrigger
    exact ⟨haskuser.1, haskroom.1,
      fires_iff_text (kind_triggerOf tokens) haskuser haskroom hum hrm⟩

/-- The one user has the handle of the other as id, and the room is named by its id. -/
def crossed : Console :=
  .ofDirectory ⟨[⟨"john", "mary"⟩, ⟨"U1", "john"⟩], [⟨"R1", "ops"⟩]⟩ none

def scopedTokens : List (List Char) :=
  ["@bob".toList, "#R1".toList, "contains=ping".toList, "@john".toList]

def scopedTrigger : Trigger :=
  ⟨.message, some "#R1", some "@john", some "ping", none, none⟩

def scopedMessage : Message :=
  ⟨"m1", "Pinging  you", ⟨"john", "mary"⟩, ⟨"R1", "ops"⟩⟩

theorem rule_scoped_to_id_of_another_fires :
    ScopedTo scopedTokens "john".toList "R1".toList ∧
    IsScopeName '@' "john".toList ∧ IsScopeName '#' "R1".toList ∧
    spoken? crossed (Line.typed "R1".toList " ".toList "john".toList "\t ".toList
      "Pinging  you ".toList) start = some scopedMessage ∧
    CreateForm.read scopedTokens = .ok (scopedTrigger, []) ∧
    scopedTrigger.fires scopedMessage = true := by
  have hs : ScopedTo scopedTokens "john".toList "R1".toList := ⟨by decide, by decide⟩
  have hu : IsScopeName '@' "john".toList := by decide
  have hr : IsScopeName '#' "R1".toList := by decide
  have hm : spoken? crossed (Line.typed "R1".toList " ".toList "john".toList "\t ".toList
      "Pinging  you ".toList) start = some scopedMessage := by
    decide +kernel
  have hread : CreateForm.read scopedTokens = .ok (scopedTrigger, []) := by decide +kernel
  obtain ⟨-, -, -, -, -, hfires⟩ := scoped_rule_fires_by_text hs hu hr (by decide) (by decide)
    (by decide) hm
  refine ⟨hs, hu, hr, hm, hread, (hfires _ _ hread).2.2.mpr fun x hx ha => ?_⟩
  cases x with
  | room value => exact hx.elim
  | user value => exact hx.elim
  | contains text =>
    obtain rfl := Option.some.inj ha.1
    exact Text.isInfix_iff.mp (by decide +kernel)
  | startsWith text => exact nomatch ha.1
  | regex pattern => exact nomatch ha.1

end Listener

end ChatRules
