import ChatRules.Proofs.Session
import ChatRules.Proofs.Tokens

namespace ChatRules.Command
open Text Token Sentence

namespace Intent
variable {sub : List Char}

theorem firstWord_of_unbroken (hs : ∀ c ∈ sub, isBlank c = false) : firstWord sub = (sub, []) := by
  rw [firstWord, cutAtBlank, cutAt_eq_none hs]

theorem firstWord_append {gap s : List Char} (hs : ∀ c ∈ sub, isBlank c = false)
    (hg : IsGap gap) (ht : IsTrimmed s) : firstWord (sub ++ (gap ++ s)) = (sub, s) := by
  obtain ⟨left, hb, hcut⟩ := cutAtBlank_append hs hg s
  rw [firstWord, hcut]
  simp only [trim_append hb ht]

theorem firstWord_spelled {ws : List Word} (hs : ∀ c ∈ sub, isBlank c = false)
    (h : IsArguments ws) :
    (firstWord (sub ++ spelled ws)).1 = sub ∧
      Token.split (firstWord (sub ++ spelled ws)).2 = ws.map Word.letters := by
  cases ws with
  | nil =>
    rw [spelled_nil, List.append_nil, firstWord_of_unbroken hs]
    exact ⟨rfl, rfl⟩
  | cons w rest =>
    have hsplit := splitFrom_spelled h []
    rw [spelled_cons, splitFrom_gap h.isGap] at hsplit
    rw [spelled_cons, firstWord_append hs h.isGap h.isTrimmed_behind_gap]
    exact ⟨rfl, hsplit⟩

end Intent

section Lines
variable {sub : List Char}

theorem executeLine_spelled {ws : List Word} (hn : sub ≠ []) (hs : ∀ c ∈ sub, isBlank c = false)
    (he : equalIgnoringAsciiCase sub "english".toList = false) (h : IsArguments ws)
    (stamp : Stamp) (sender : User) :
    executeLine stamp sender (sub ++ spelled ws) =
      execute stamp sender (sub :: ws.map Word.letters) := by
  obtain ⟨hfirst, htokens⟩ := Intent.firstWord_spelled hs h
  rw [executeLine_eq, (h.isTrimmed (isTrimmed_of_unbroken hs) hn).trim_eq, hfirst, htokens, he,
    if_neg Bool.false_ne_true]

theorem english_trim (sentence : List Char) : english (trim sentence) = english sentence := by
  rw [english, english, steps?, steps?, trim_trim]

theorem executeLine_quoted (hn : sub ≠ []) (hs : ∀ c ∈ sub, isBlank c = false)
    (he : equalIgnoringAsciiCase sub "english".toList = true) (stamp : Stamp) (sender : User)
    (sentence : List Char) :
    executeLine stamp sender (sub ++ ' ' :: wrapped '"' sentence) =
      .done (.ok (english sentence)) := by
  have hg : IsGap [' '] := ⟨List.cons_ne_nil _ _, by simp [isBlank]⟩
  have hq := isTrimmed_wrapped sentence
  have ht : IsTrimmed (sub ++ ' ' :: wrapped '"' sentence) :=
    (isTrimmed_of_unbroken hs).append hn hq (List.cons_ne_nil _ _) [' ']
  have hf : Intent.firstWord (sub ++ ' ' :: wrapped '"' sentence) = (sub, wrapped '"' sentence) :=
    Intent.firstWord_append hs hg hq
  rw [executeLine_eq, ht.trim_eq, hf, if_pos he, unquoteTrimmed_wrapped, english_trim]

end Lines

theorem execute_english (stamp : Stamp) (sender : User) (sentence : List Char) :
    execute stamp sender ["english".toList, sentence] = .done (.ok (english sentence)) := by
  have hl : lower "english".toList = "english".toList := by decide +kernel
  rw [execute, hl]
  rfl

/-- A command that is given as a line is the command that is given as its words. -/
theorem line_means_its_words {σ : Type} (backend : Backend σ) (s : σ) (stamp : Stamp)
    (sender : User) :
    (∀ sentence,
      (executeLine stamp sender ("english".toList ++ ' ' :: wrapped '"' sentence)).run backend s =
        (execute stamp sender ["english".toList, sentence]).run backend s) ∧
    ∀ sub ws, sub ≠ [] → (∀ c ∈ sub, isBlank c = false) →
      equalIgnoringAsciiCase sub "english".toList = false → IsArguments ws →
      (executeLine stamp sender (sub ++ spelled ws)).run backend s =
        (execute stamp sender (sub :: ws.map Word.letters)).run backend s := by
  constructor
  · intro sentence
    have hw : ∀ c ∈ "english".toList, isBlank c = false := eq_false_of_any (by decide)
    rw [executeLine_quoted (by decide) hw (by decide), execute_english]
  · intro sub ws hn hs he h
    rw [executeLine_spelled hn hs he h]

def openWords : List Word :=
  [⟨[' '], "contains=".toList ++ wrapped '"' "a ' b".toList⟩,
    ⟨['\t', ' '], "action=post:#x=".toList ++ '\'' :: "it is".toList⟩]

theorem open_line_means_its_words :
    (executeLine ⟨"r1", Session.epoch⟩ ⟨"U9", "admin"⟩
        "CREATE contains=\"a ' b\"\t action=post:#x='it is".toList).run Memory.backend [] =
      (execute ⟨"r1", Session.epoch⟩ ⟨"U9", "admin"⟩
        ["CREATE".toList, "contains=\"a ' b\"".toList, "action=post:#x='it is".toList]).run
        Memory.backend [] := by
  have hfirst : IsWhole ("contains=".toList ++ wrapped '"' "a ' b".toList) :=
    (show IsUnbroken "contains=".toList by decide +kernel).isWhole.append
      (isWhole_wrapped (by decide) (by decide))
  have hkey : IsUnbroken "action=post:#x=".toList := by decide +kernel
  have hsecond : IsUnclosed ("action=post:#x=".toList ++ '\'' :: "it is".toList) :=
    ⟨⟨_, _, _, rfl, hkey.isWhole, by decide, by decide⟩, fun c hc => Option.some.inj hc ▸ rfl⟩
  have hwords : IsArguments openWords :=
    .cons (by decide) (by decide +kernel) hfirst (.unclosed (by decide) hsecond)
  have hline : "CREATE".toList ++ spelled openWords =
      "CREATE contains=\"a ' b\"\t action=post:#x='it is".toList := by decide +kernel
  rw [← hline]
  exact (line_means_its_words Memory.backend [] _ _).2 _ _ (by decide)
    (eq_false_of_any (by decide)) (by decide) hwords

end ChatRules.Command
