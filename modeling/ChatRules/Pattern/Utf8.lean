import ChatRules.Text.CharSet

namespace ChatRules.Pattern.Utf8

abbrev ByteRange := Nat × Nat

def encode (n : Nat) : List Nat :=
  if n < 0x80 then [n]
  else if n < 0x800 then [0xC0 + n / 64, 0x80 + n % 64]
  else if n < 0x10000 then [0xE0 + n / 4096, 0x80 + n / 64 % 64, 0x80 + n % 64]
  else [0xF0 + n / 262144, 0x80 + n / 4096 % 64, 0x80 + n / 64 % 64, 0x80 + n % 64]

/-- Where a range is cut so that both parts are simpler, if anywhere: at the surrogates, where the
length changes, and where a block of trailing bytes is not filled. The second part may begin later
than the first part ends. -/
def cut? (first last : Nat) : Option (Nat × Nat) :=
  if first < 0xE000 ∧ 0xD7FF < last then some (0xD7FF, 0xE000)
  else
    match [0x7F, 0x7FF, 0xFFFF].find? fun m => first ≤ m && m < last with
    | some m => some (m, m + 1)
    | none =>
      if last ≤ 0x7F then none
      else
        [64, 4096, 262144].findSome? fun block =>
          if first / block = last / block then none
          else if first % block ≠ 0 then
            let next := (first / block + 1) * block
            some (next - 1, next)
          else if last % block ≠ block - 1 then
            let start := last / block * block
            some (start - 1, start)
          else none

/-- Twenty cuts in each other are more than a range ever needs. -/
def sequencesOf : Nat → Nat → Nat → List (List ByteRange)
  | 0, _, _ => []
  | fuel + 1, first, last =>
    if last < first then []
    else
      match cut? first last with
      | some (a, b) => sequencesOf fuel first a ++ sequencesOf fuel b last
      | none => [(encode first).zip (encode last)]

def sequences (s : CharSet) : List (List ByteRange) :=
  s.ranges.flatMap fun r => sequencesOf 20 r.1 r.2

def groups : List (List ByteRange) → List (ByteRange × List (List ByteRange))
  | [] => []
  | [] :: rest => groups rest
  | (r :: tail) :: rest =>
    match groups rest with
    | (r', tails) :: more => if r = r' then (r, tail :: tails) :: more else (r, [tail]) :: (r', tails) :: more
    | [] => [(r, [tail])]

abbrev State := List (Nat × Nat × Nat)

def share (state : State) (states : List State) : Nat × List State :=
  match states.idxOf? state with
  | some i => (states.length - i, states)
  | none => (states.length + 1, state :: states)

/-- The states that read the sequences, which have at most so many bytes; state 0 comes last. -/
def automaton : Nat → List (List ByteRange) → List State → Nat × List State
  | 0, _, states => (0, states)
  | bytes + 1, seqs, states =>
    if seqs.all List.isEmpty then (0, states)
    else
      let (state, states) := (groups seqs).foldl
        (fun (acc : State × List State) g =>
          let (target, states) := automaton bytes g.2 acc.2
          ((g.1.1, g.1.2, target) :: acc.1, states))
        ([], states)
      share state.reverse states

def beginnings : Nat → List (List ByteRange) → Nat
  | 0, _ => 0
  | bytes + 1, seqs =>
    (groups seqs).foldl (fun n g => n + 1 + beginnings bytes g.2) 0

end ChatRules.Pattern.Utf8
