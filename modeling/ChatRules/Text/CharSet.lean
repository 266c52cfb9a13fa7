/-!
Sets of characters. A set is kept as the sorted code points at which membership changes, so that
union, intersection, difference and complement are one merge, and the least element decides early.
-/

namespace ChatRules

structure CharSet where
  bounds : List Nat
  deriving DecidableEq, Repr

namespace CharSet

def inside : Bool → List Nat → Nat → Bool
  | b, [], _ => b
  | b, x :: xs, n => if n < x then b else inside (!b) xs n

def memCode (s : CharSet) (n : Nat) : Bool :=
  inside false s.bounds n

def mem (s : CharSet) (c : Char) : Bool :=
  s.memCode c.toNat

def empty : CharSet := ⟨[]⟩

def full : CharSet := ⟨[0, 0x110000]⟩

def range (first last : Nat) : CharSet :=
  if first ≤ last then ⟨[first, last + 1]⟩ else empty

def single (c : Char) : CharSet :=
  range c.toNat c.toNat

def ofSorted (ranges : List (Nat × Nat)) : CharSet :=
  ⟨ranges.flatMap fun r => [r.1, r.2 + 1]⟩

def mark (changes : Bool) (x : Nat) (rest : List Nat) : List Nat :=
  if changes then x :: rest else rest

def merge (op : Bool → Bool → Bool) (a b : Bool) : List Nat → List Nat → List Nat
  | [], [] => []
  | x :: xs, [] => mark (op a b != op (!a) b) x (merge op (!a) b xs [])
  | [], y :: ys => mark (op a b != op a (!b)) y (merge op a (!b) [] ys)
  | x :: xs, y :: ys =>
    if x < y then mark (op a b != op (!a) b) x (merge op (!a) b xs (y :: ys))
    else if y < x then mark (op a b != op a (!b)) y (merge op a (!b) (x :: xs) ys)
    else mark (op a b != op (!a) (!b)) x (merge op (!a) (!b) xs ys)
termination_by xs ys => xs.length + ys.length
decreasing_by all_goals simp <;> omega

def combine (op : Bool → Bool → Bool) (s t : CharSet) : CharSet :=
  ⟨merge op false false s.bounds t.bounds⟩

def union : CharSet → CharSet → CharSet := combine (· || ·)

def inter : CharSet → CharSet → CharSet := combine (· && ·)

def diff : CharSet → CharSet → CharSet := combine fun a b => a && !b

def symmDiff : CharSet → CharSet → CharSet := combine (· != ·)

def compl (s : CharSet) : CharSet :=
  full.diff s

def ofCodes (codes : List Nat) : CharSet :=
  ⟨build (codes.mergeSort (· ≤ ·))⟩
where
  build : List Nat → List Nat
    | [] => []
    | n :: rest => extend n n rest
  extend (first last : Nat) : List Nat → List Nat
    | [] => [first, last + 1]
    | n :: rest =>
      if n ≤ last + 1 then extend first n rest
      else first :: (last + 1) :: extend n n rest

def pairs : List Nat → List (Nat × Nat)
  | x :: y :: rest => (x, y - 1) :: pairs rest
  | _ => []

def ranges (s : CharSet) : List (Nat × Nat) :=
  pairs s.bounds

def isEmpty (s : CharSet) : Bool :=
  s.bounds.isEmpty

def below (s : CharSet) (n : Nat) : Bool :=
  s.bounds.all (· ≤ n)

def only? (s : CharSet) : Option Char :=
  match s.bounds with
  | [x, y] => if y = x + 1 then some (Char.ofNat x) else none
  | _ => none

end CharSet

end ChatRules
