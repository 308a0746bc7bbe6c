import Liveness.Log.Pattern.Bracket
import Liveness.Text.Alphanumeric

/-! # Reading patterns

* `Pattern.Piece`: a piece of a pattern with the depth of its form.
* `Pattern.Scope`: what holds for the pieces that follow.
* `Pattern.parse?`: the pattern written by a text.
-/

namespace Liveness.Log.Pattern
set_option autoImplicit false

/-- A piece of a pattern with the depth of its form. One that only changes the flags cannot be
repeated. -/
structure Piece where
  pattern : Pattern
  depth : Nat := 0
  repeats : Bool := true
  deriving DecidableEq, Repr

/-- What holds for the pieces that follow: the flags, the number of groups that have begun, and the
names of groups. -/
structure Scope where
  flags : Flags := {}
  groups : Nat := 0
  names : List (List Char) := []
  deriving DecidableEq, Repr

/-! ## Pieces put together -/

/-- The greatest depth of several pieces. -/
def Piece.deepest (pieces : List Piece) : Nat := pieces.foldl (fun n p => max n p.depth) 0

/-- The depth of a form of several pieces, which adds to them unless it is one piece alone. -/
def Piece.depthOfAll (pieces : List Piece) : Nat :=
  Piece.deepest pieces + if pieces.length ≤ 1 then 0 else 1

/-- Pieces one behind the other; the last one is first in the list. -/
def Piece.inRow (pieces : List Piece) : Piece :=
  { pattern := concat (pieces.reverse.map (·.pattern)), depth := depthOfAll pieces }

/-- Pieces of which one is taken; the last one is first in the list. -/
def Piece.inChoice (pieces : List Piece) : Piece :=
  { pattern := alternation (pieces.reverse.map (·.pattern)), depth := depthOfAll pieces }

/-- A piece that may be repeated as a mark says. -/
def Piece.repeated? (mark : Char) (greedy : Bool) (p : Piece) : Option Piece :=
  if p.repeats then
    match mark with
    | '?' => some { pattern := opt greedy p.pattern, depth := p.depth + 1 }
    | '*' => some { pattern := anyNumber greedy p.pattern, depth := p.depth + 1 }
    | '+' => some { pattern := atLeastOnce greedy p.pattern, depth := p.depth + 1 }
    | _ => none
  else none

/-! ## Single pieces -/

/-- The pattern of a character that stands for itself. -/
def char? (f : Flags) (c : Char) : Option Pattern :=
  if f.ignoreCase then
    if f.unicode then none else some (one (CharSet.single c).foldCase)
  else some (one (.single c))

/-- The pattern of a period. -/
def period? (f : Flags) : Option Pattern :=
  if !f.unicode then none
  else if f.dotAll then some (one .all)
  else if f.crlf then some (one (CharSet.all.diff (CharSet.union (.single '\n') (.single '\r'))))
  else some (one (CharSet.all.diff (.single '\n')))

/-- The pattern of an escape. -/
def ofEscape? (f : Flags) : Escape → Option Pattern
  | .char c => char? f c
  | .look l => some (look l)
  | .chars s => some (one s)

/-- The piece that a text begins with, and the text behind it. -/
def piece? (f : Flags) : List Char → Option (Piece × List Char)
  | '[' :: rest =>
    (Bracket.read? f rest).map fun (b, r) => ({ pattern := one b.chars, depth := b.depth }, r)
  | '\x5c' :: rest => do
    let (e, rest) ← Escape.read? f rest
    (ofEscape? f e).map fun p => ({ pattern := p }, rest)
  | '.' :: rest => (period? f).map fun p => ({ pattern := p }, rest)
  | '^' :: rest =>
    some ({ pattern := look (if f.multiline then .lineStart f.crlf else .textStart) }, rest)
  | '$' :: rest =>
    some ({ pattern := look (if f.multiline then .lineEnd f.crlf else .textEnd) }, rest)
  | '\x7b' :: _ => none
  | c :: rest => (char? f c).map fun p => ({ pattern := p }, rest)
  | [] => none

/-! ## Groups -/

/-- What an opening parenthesis begins. -/
inductive Opening where
  /-- A numbered group. -/
  | capture (name : Option (List Char))
  /-- A group that only holds its pieces together. -/
  | plain (flags : Flags)
  /-- No group, but flags for the pieces that follow. -/
  | change (flags : Flags)
  deriving DecidableEq, Repr

/-- Whether a text is the name of a group. -/
def isName : List Char → Bool
  | [] => false
  | c :: cs =>
    (c = '_' || Text.isAlphabetic c) &&
      cs.all fun c => c = '_' || c = '.' || c = '[' || c = ']' || Text.isAlphanumeric c

/-- The name of a group up to its closing angle bracket, and the text behind it. -/
def name? (text : List Char) : Option (Opening × List Char) :=
  match text.dropWhile (· ≠ '>') with
  | _ :: rest =>
    if isName (text.takeWhile (· ≠ '>')) then
      some (.capture (some (text.takeWhile (· ≠ '>'))), rest)
    else none
  | [] => none

/-- Flags up to a colon or a closing parenthesis, and the text behind it. -/
def flags? (f : Flags) (text : List Char) : Option (Opening × List Char) :=
  let letters := text.takeWhile fun c => c ≠ ':' && c ≠ ')'
  match text.drop letters.length, f.read? letters with
  | ':' :: rest, some f => some (.plain f, rest)
  | ')' :: rest, some f => if letters = [] then none else some (.change f, rest)
  | _, _ => none

/-- What an opening parenthesis begins that has been read, and the text behind it. -/
def opening? (f : Flags) (text : List Char) : Option (Opening × List Char) :=
  match f.skip text with
  | '?' :: 'P' :: '<' :: rest => name? rest
  | '?' :: '<' :: rest => name? rest
  | '?' :: rest => flags? f rest
  | rest => some (.capture none, rest)

/-- What holds inside of a group; two groups have different names. -/
def Scope.enter? (s : Scope) : Opening → Option Scope
  | .capture none => some { s with groups := s.groups + 1 }
  | .capture (some name) =>
    if s.names.contains name then none
    else some { s with groups := s.groups + 1, names := name :: s.names }
  | .plain f | .change f => some { s with flags := f }

/-- The piece of a group. -/
def Opening.wrap (o : Opening) (s : Scope) (body : Piece) : Piece :=
  match o with
  | .capture _ => { pattern := Pattern.capture s.groups body.pattern, depth := body.depth + 1 }
  | _ => { pattern := body.pattern, depth := body.depth + 1 }

/-! ## Patterns -/

/-- Whether a character says how often the piece before it may stand. -/
def isRepetition (c : Char) : Bool := c = '?' || c = '*' || c = '+'

/-- The body of a group, or of the whole pattern, up to a closing parenthesis or the end. `done` are
the alternatives before, and `row` the pieces of the present one, the last one first. -/
def body? : Nat → Scope → List Piece → List Piece → List Char → Option (Piece × Scope × List Char)
  | 0, _, _, _, _ => none
  | n + 1, s, done, row, text =>
    match s.flags.skip text with
    | [] => some (.inChoice (.inRow row :: done), s, [])
    | ')' :: rest => some (.inChoice (.inRow row :: done), s, ')' :: rest)
    | '|' :: rest => body? n s (.inRow row :: done) [] rest
    | '(' :: rest => do
      let (o, rest) ← opening? s.flags rest
      let inside ← s.enter? o
      match o with
      | .change _ => body? n inside done ({ pattern := empty, repeats := false } :: row) rest
      | _ =>
        match ← body? n inside [] [] rest with
        | (b, behind, ')' :: rest) =>
          body? n { behind with flags := s.flags } done (o.wrap inside b :: row) rest
        | _ => none
    | c :: rest =>
      if isRepetition c then
        match row with
        | [] => none
        | p :: row =>
          let lazy := rest.head? = some '?'
          (p.repeated? c (lazy == s.flags.swapGreed)).bind fun p =>
            body? n s done (p :: row) (if lazy then rest.drop 1 else rest)
      else (piece? s.flags (c :: rest)).bind fun (p, rest) => body? n s done (p :: row) rest

/-- The greatest depth of a pattern. -/
def maxDepth : Nat := 250

/-- The pattern written by a text, which has no more pieces than characters. -/
def parse? (text : List Char) : Option Pattern :=
  match body? (text.length + 1) {} [] [] text with
  | some (p, _, []) => if p.depth ≤ maxDepth then some p.pattern else none
  | _ => none

end Liveness.Log.Pattern
