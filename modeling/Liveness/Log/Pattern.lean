import Liveness.Log.Pattern.CharSet

/-! # Patterns for the values of fields

* `Look`: a condition on what stands around a place in a text.
* `Pattern`: a regular expression.
* `Pattern.concat`, `Pattern.alternation`, `Pattern.anyNumber`, `Pattern.atLeastOnce`: expressions
  put together in their normal form.
* `Pattern.least?`: how many characters an expression takes at least.

Which of several alternatives is preferred depends on the form of an expression. So alternatives
that begin alike are put together here, the common beginning first: `a*b|a*c` is `a*(b|c)`.
-/

namespace Liveness.Log
set_option autoImplicit false

/-- A condition on what stands around a place in a text. Where `crlf` is set a line may end with a
carriage return, with a line feed or with both. Words are of ASCII. -/
inductive Look where
  | textStart
  | textEnd
  | lineStart (crlf : Bool)
  | lineEnd (crlf : Bool)
  | wordEdge
  | noWordEdge
  | wordStart
  | wordEnd
  deriving DecidableEq, Repr

namespace Look

/-- Whether a character belongs to a word. -/
def isWord (c : Option Char) : Bool := c.any fun c => c.isAlphanum || c = '_'

/-- Whether the characters before and behind a place meet the condition. -/
def holds (before after : Option Char) : Look → Bool
  | textStart => before.isNone
  | textEnd => after.isNone
  | lineStart crlf =>
    before.isNone || before = some '\n' || (crlf && before = some '\r' && after != some '\n')
  | lineEnd false => after.isNone || after = some '\n'
  | lineEnd true =>
    after.isNone || after = some '\r' || (after = some '\n' && before != some '\r')
  | wordEdge => isWord before != isWord after
  | noWordEdge => isWord before == isWord after
  | wordStart => !isWord before && isWord after
  | wordEnd => isWord before && !isWord after

/-- Whether the character before a place is enough to know that the condition is met. -/
def holdsBehind (before : Option Char) : Look → Bool
  | textStart => before.isNone
  | lineStart _ => before.isNone || before = some '\n'
  | _ => false

/-- Whether the condition is met between the bytes of one character. -/
def holdsInside : Look → Bool
  | noWordEdge => true
  | _ => false

end Look

/-- A regular expression. A repetition is greedy or lazy. -/
inductive Pattern where
  | empty
  | look (look : Look)
  | one (chars : CharSet)
  | seq (a b : Pattern)
  | alt (a b : Pattern)
  /-- At most once. -/
  | opt (greedy : Bool) (a : Pattern)
  /-- Any number of times. -/
  | star (greedy : Bool) (a : Pattern)
  /-- At least once. -/
  | plus (greedy : Bool) (a : Pattern)
  /-- A numbered group; no two groups are alike. -/
  | capture (index : Nat) (a : Pattern)
  deriving DecidableEq, Repr

namespace Pattern

/-! ## One behind the other -/

/-- The expressions that stand one behind the other. -/
def parts : Pattern → List Pattern
  | empty => []
  | seq a b => parts a ++ parts b
  | p => [p]

/-- Expressions one behind the other. -/
def ofParts : List Pattern → Pattern
  | [] => empty
  | [p] => p
  | p :: ps => seq p (ofParts ps)

/-- Expressions one behind the other, without nesting. -/
def concat (ps : List Pattern) : Pattern := ofParts (ps.flatMap parts)

/-! ## Alternatives -/

/-- The alternatives of an expression, the preferred first. -/
def choices : Pattern → List Pattern
  | alt a b => choices a ++ choices b
  | p => [p]

/-- The characters of an expression for one character. -/
def chars? : Pattern → Option CharSet
  | one chars => some chars
  | _ => none

/-- Alternatives, the preferred first. Without any of them nothing is found. -/
def ofChoices : List Pattern → Pattern
  | [] => one .empty
  | [p] => p
  | p :: ps => alt p (ofChoices ps)

/-- Alternatives without nesting. If each of them is one character they are a set of characters. -/
def joined (ps : List Pattern) : Pattern :=
  match (ps.flatMap choices).mapM chars? with
  | some sets => one (CharSet.unions sets)
  | none => ofChoices (ps.flatMap choices)

/-- What two lists begin with in common. -/
def shared : List Pattern → List Pattern → List Pattern
  | p :: ps, q :: qs => if p = q then p :: shared ps qs else []
  | _, _ => []

/-- What all of several alternatives begin with. One that has no parts shares nothing. -/
def opening : List Pattern → List Pattern
  | [] => []
  | p :: ps =>
    if (p :: ps).all fun q => 2 ≤ q.parts.length then ps.foldl (fun s q => shared s q.parts) p.parts
    else []

/-- Alternatives without nesting, what all of them begin with in front. -/
def alternation (ps : List Pattern) : Pattern :=
  let cs := ps.flatMap choices
  let front := opening cs
  if front = [] ∨ cs.length ≤ 1 then joined cs
  else concat (front ++ [joined (cs.map fun p => ofParts (p.parts.drop front.length))])

/-! ## Repetition -/

/-- Whether an expression takes no characters at all, so that it stands as well once as often. -/
def takesNothing : Pattern → Bool
  | empty | look _ => true
  | seq a b | alt a b => takesNothing a && takesNothing b
  | opt _ a | capture _ a => takesNothing a
  | one _ | star .. | plus .. => false

/-- An expression any number of times. -/
def anyNumber (greedy : Bool) (p : Pattern) : Pattern :=
  if p.takesNothing then opt greedy p else star greedy p

/-- An expression at least once. -/
def atLeastOnce (greedy : Bool) (p : Pattern) : Pattern :=
  if p.takesNothing then p else plus greedy p

/-- How many characters an expression takes at least, unless a part of it is found nowhere. -/
def least? : Pattern → Option Nat
  | empty | look _ => some 0
  | one chars => if chars = .empty then none else some 1
  | seq a b => do some ((← least? a) + (← least? b))
  | alt a b => do some (min (← least? a) (← least? b))
  | opt _ a | star _ a => (least? a).map fun _ => 0
  | plus _ a | capture _ a => least? a

end Pattern
end Liveness.Log
