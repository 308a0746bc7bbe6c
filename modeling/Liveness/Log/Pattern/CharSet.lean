import Liveness.Text.Boundaries

/-! # Sets of characters

* `CharSet`: a set of characters, kept as the code points at which membership changes.
* `CharSet.union`, `CharSet.inter`, `CharSet.diff`, `CharSet.symmDiff`, `CharSet.complement`: the
  operations on sets.
* `CharSet.named?`: the sets of ASCII that have a name.
* `CharSet.foldCase`: a set with the other case of its ASCII letters.
-/

namespace Liveness.Log
set_option autoImplicit false

/-- A set of characters as the increasing list of code points at which membership changes. -/
structure CharSet where
  boundaries : List Nat
  deriving DecidableEq, Repr

namespace CharSet

/-- Whether a character is in the set. -/
def contains (s : CharSet) (c : Char) : Bool := Text.within s.boundaries c.toNat

/-- The set without characters. -/
def empty : CharSet := ⟨[]⟩

/-- All characters. -/
def all : CharSet := ⟨[0]⟩

/-- The characters from one to another one. -/
def range (first last : Char) : CharSet :=
  if last.toNat = 0x10FFFF then ⟨[first.toNat]⟩ else ⟨[first.toNat, last.toNat + 1]⟩

/-- One character. -/
def single (c : Char) : CharSet := range c c

/-! ## Operations -/

/-- A boundary in front of others, if membership changes there. -/
def change (n : Nat) (before after : Bool) (rest : List Nat) : List Nat :=
  if before = after then rest else n :: rest

/-- The boundaries of a set that is made of two others point by point; `a` and `b` say whether the
points up to now are in them. -/
def merge (f : Bool → Bool → Bool) (a b : Bool) (xs ys : List Nat) : List Nat :=
  match xs, ys with
  | [], [] => []
  | x :: xs, [] => change x (f a b) (f (!a) b) (merge f (!a) b xs [])
  | [], y :: ys => change y (f a b) (f a (!b)) (merge f a (!b) [] ys)
  | x :: xs, y :: ys =>
    if x < y then change x (f a b) (f (!a) b) (merge f (!a) b xs (y :: ys))
    else if y < x then change y (f a b) (f a (!b)) (merge f a (!b) (x :: xs) ys)
    else change x (f a b) (f (!a) (!b)) (merge f (!a) (!b) xs ys)
termination_by xs.length + ys.length

/-- The characters of either set. -/
def union (s t : CharSet) : CharSet := ⟨merge or false false s.boundaries t.boundaries⟩

/-- The characters of both sets. -/
def inter (s t : CharSet) : CharSet := ⟨merge and false false s.boundaries t.boundaries⟩

/-- The characters of the first set that are not in the second. -/
def diff (s t : CharSet) : CharSet :=
  ⟨merge (fun a b => a && !b) false false s.boundaries t.boundaries⟩

/-- The characters of exactly one of the two sets. -/
def symmDiff (s t : CharSet) : CharSet := ⟨merge xor false false s.boundaries t.boundaries⟩

/-- The characters that are not in the set. -/
def complement (s : CharSet) : CharSet :=
  match s.boundaries with
  | 0 :: bs => ⟨bs⟩
  | bs => ⟨0 :: bs⟩

/-- The characters of several sets. -/
def unions (sets : List CharSet) : CharSet := sets.foldl union empty

/-! ## Named sets -/

/-- The lower-case letters of ASCII. -/
def lower : CharSet := range 'a' 'z'

/-- The upper-case letters of ASCII. -/
def upper : CharSet := range 'A' 'Z'

/-- The digits of ASCII. -/
def digit : CharSet := range '0' '9'

/-- The letters of ASCII. -/
def alpha : CharSet := upper.union lower

/-- The letters and digits of ASCII. -/
def alnum : CharSet := digit.union alpha

/-- The letters and digits of ASCII, and the underscore. -/
def word : CharSet := alnum.union (single '_')

/-- The white space of ASCII. -/
def space : CharSet := (range '\t' '\r').union (single ' ')

/-- The visible characters of ASCII. -/
def graph : CharSet := range '!' '~'

/-- The sets of ASCII that have a name. -/
def named? (name : String) : Option CharSet :=
  match name with
  | "alnum" => some alnum
  | "alpha" => some alpha
  | "ascii" => some (range '\x00' '\x7F')
  | "blank" => some ((single '\t').union (single ' '))
  | "cntrl" => some ((range '\x00' '\x1F').union (single '\x7F'))
  | "digit" => some digit
  | "graph" => some graph
  | "lower" => some lower
  | "print" => some (range ' ' '~')
  | "punct" => some (graph.diff alnum)
  | "space" => some space
  | "upper" => some upper
  | "word" => some word
  | "xdigit" => some (unions [digit, range 'A' 'F', range 'a' 'f'])
  | _ => none

/-- A set with the other case of its ASCII letters. -/
def foldCase (s : CharSet) : CharSet :=
  let lowered := (s.inter upper).boundaries.map (· + 0x20)
  let raised := (s.inter lower).boundaries.map (· - 0x20)
  unions [s, ⟨lowered⟩, ⟨raised⟩]

end CharSet
end Liveness.Log
