import Liveness.Log.Pattern

/-! # Finding a pattern

* `Automaton`: a numbered graph of states that stands for a pattern.
* `Automaton.reach`: the states reached at a place, the preferred first.
* `Automaton.run`: what is left to find, character by character.
* `Pattern.finds`: whether the preferred find in a text ends with the text.

A find may begin anywhere. The preferred one begins as early as possible, and from there takes the
first alternative and the longest repetition that lead to a find; once it has ended, no other is
looked for. At each place a state counts once, where it is reached first, so a round of a repetition
that takes no character leads nowhere new.
-/

namespace Liveness.Log
set_option autoImplicit false

/-- A state of an automaton. -/
inductive State where
  | finish
  | take (chars : CharSet) (next : Nat)
  | look (look : Look) (next : Nat)
  | split (first second : Nat)
  deriving Repr

/-- States by their number. -/
structure Automaton where
  states : Array State
  start : Nat

namespace Automaton

/-! ## The automaton of a pattern -/

/-- The number of the state in which a find ends. -/
def finish : Nat := 0

/-- A choice between going on with a round and ending. -/
def choice (greedy : Bool) (round leave : Nat) : State :=
  if greedy then .split round leave else .split leave round

/-- The state at which a pattern begins that goes on at a given state, and all states. The rounds
of a repetition end in one state, which begins the next round or leaves. A repetition begins there
too if its rounds take a character; else the first round has a choice of its own, so that leaving
it counts behind the round. -/
def build : Pattern → Nat → Array State → Nat × Array State
  | .empty, next, states => (next, states)
  | .look l, next, states => (states.size, states.push (.look l next))
  | .one chars, next, states => (states.size, states.push (.take chars next))
  | .seq a b, next, states =>
    let (middle, states) := build b next states
    build a middle states
  | .alt a b, next, states =>
    let (second, states) := build b next states
    let (first, states) := build a next states
    (states.size, states.push (.split first second))
  | .opt greedy a, next, states =>
    let (first, states) := build a next states
    (states.size, states.push (choice greedy first next))
  | .star greedy a, next, states =>
    let (again, first, states) := rounds greedy a next states
    if a.least?.any (0 < ·) then (again, states)
    else (states.size, states.push (choice greedy first next))
  | .plus greedy a, next, states => (rounds greedy a next states).2
  | .capture _ a, next, states => build a next states
where
  /-- The rounds of a repetition: the state behind a round, the one at which a round begins, and all
  states. -/
  rounds (greedy : Bool) (a : Pattern) (next : Nat) (states : Array State) :
      Nat × Nat × Array State :=
    let again := states.size
    let (first, states) := build a again (states.push .finish)
    (again, first, states.setIfInBounds again (choice greedy first next))

/-- The automaton of a pattern. -/
def ofPattern (p : Pattern) : Automaton :=
  let (start, states) := build p finish #[.finish]
  ⟨states, start⟩

/-! ## States at a place -/

/-- The states reached from one without taking a character, in front of those that have been reached
before. -/
def close (a : Automaton) (holds : Look → Bool) : Nat → List Nat → Nat → List Nat
  | 0, seen, _ => seen
  | n + 1, seen, i =>
    if seen.contains i then seen
    else match a.states[i]? with
      | some (.look l next) => if holds l then close a holds n (i :: seen) next else i :: seen
      | some (.split first second) =>
        close a holds n (close a holds n (i :: seen) first) second
      | _ => i :: seen

/-- The states reached from several without taking a character, the preferred first. -/
def reach (a : Automaton) (holds : Look → Bool) (ids : List Nat) : List Nat :=
  (ids.foldl (close a holds a.states.size) []).reverse

/-- Whether a state waits for a condition that has come to hold. -/
def isReleased (a : Automaton) (behind around : Look → Bool) (i : Nat) : Bool :=
  match a.states[i]? with
  | some (.look l _) => around l && !behind l
  | _ => false

/-- The states reached at a place: first by what stands before it, then by what stands around it. -/
def settle (a : Automaton) (behind around : Look → Bool) (ids : List Nat) : List Nat :=
  let found := reach a behind ids
  if found.any (a.isReleased behind around) then reach a around found else found

/-- The state behind a character. -/
def step? (a : Automaton) (c : Char) (i : Nat) : Option Nat :=
  match a.states[i]? with
  | some (.take chars next) => if chars.contains c then some next else none
  | _ => none

/-! ## Search -/

/-- Whether a find could begin and end between the bytes of a character. -/
def findsInside (a : Automaton) (c : Char) : Bool :=
  c.utf8Size != 1 && (settle a (fun _ => false) Look.holdsInside [a.start]).contains finish

/-- Whether the preferred find ends at the end of the text. `ids` are the states at the place behind
the character `before`; while the search goes on, a find may begin there too. -/
def run (a : Automaton) (searching : Bool) (before : Option Char) (ids : List Nat) :
    List Char → Bool
  | [] => (here none).contains finish
  | c :: text =>
    let found := here (some c)
    let goesOn := searching && !found.contains finish && !a.findsInside c
    run a goesOn (some c) ((found.takeWhile (· ≠ finish)).filterMap (a.step? c)) text
where
  /-- The states reached in front of a character. -/
  here (after : Option Char) : List Nat :=
    settle a (Look.holdsBehind before) (Look.holds before after)
      (if searching then ids ++ [a.start] else ids)

end Automaton

/-- Whether the preferred find in a text ends with the text. -/
def Pattern.finds (p : Pattern) (text : List Char) : Bool :=
  (Automaton.ofPattern p).run true none [] text

end Liveness.Log
