import Liveness.Log.Pattern.Escape

/-! # Classes in brackets

* `Bracket`: a class in brackets with the depth of its form.
* `Bracket.Draft`: a class that is being read.
* `Bracket.read?`: the class whose opening bracket has been read.

A class lists characters, ranges, named classes and other classes in brackets. Two classes are put
together by `&&` (what is in both), `--` (what is in the first alone) and `~~` (what is in one
alone); of several such marks the first counts first.
-/

namespace Liveness.Log
set_option autoImplicit false

/-- A class in brackets with the depth of its form. -/
structure Bracket where
  chars : CharSet := .empty
  depth : Nat := 0
  deriving DecidableEq, Repr

namespace Bracket

/-- How two classes are put together. -/
inductive Operation where
  | inter
  | diff
  | symmDiff
  deriving DecidableEq, Repr

/-- Two classes put together. -/
def Operation.apply : Operation → CharSet → CharSet → CharSet
  | inter => CharSet.inter
  | diff => CharSet.diff
  | symmDiff => CharSet.symmDiff

/-- A class that is being read: the last mark with what stands before it, and the items behind
it. -/
structure Draft where
  before : Option (Operation × Bracket) := none
  chars : CharSet := .empty
  count : Nat := 0
  depth : Nat := 0
  deriving DecidableEq, Repr

/-- A class with both cases of its letters, where these count as one. -/
def folded (f : Flags) (s : CharSet) : CharSet := if f.ignoreCase then s.foldCase else s

namespace Draft

/-- One more item. -/
def add (d : Draft) (item : Bracket) : Draft :=
  { d with
    chars := d.chars.union item.chars, count := d.count + 1, depth := max d.depth item.depth }

/-- The class up to here. -/
def close (d : Draft) (f : Flags) : Bracket :=
  let side : Bracket := ⟨folded f d.chars, if d.count ≤ 1 then d.depth else d.depth + 1⟩
  match d.before with
  | none => side
  | some (op, left) => ⟨op.apply left.chars side.chars, max left.depth side.depth + 1⟩

/-- One more mark between classes. -/
def operate (d : Draft) (f : Flags) (op : Operation) : Draft := { before := some (op, d.close f) }

end Draft

/-! ## Items -/

/-- A class whose case and sign are settled. Where characters of every script count, letters have
their own case alone; where they do not, nothing outside ASCII is in a class. -/
def settle? (f : Flags) (negated : Bool) (s : CharSet) : Option CharSet :=
  if negated then if f.unicode then some (folded f s).complement else none
  else some (folded f s)

/-- Characters that are listed, if the flags admit them. -/
def listed? (f : Flags) (s : CharSet) : Option CharSet :=
  if f.unicode then if f.ignoreCase then none else some s
  else if s.inter ⟨[0x80]⟩ = .empty then some s else none

/-- A character or an escape, and the text behind it. -/
def unit? (f : Flags) : List Char → Option (Escape × List Char)
  | '\x5c' :: rest => Escape.read? f rest
  | c :: rest => some (.char c, rest)
  | [] => none

/-- The characters of an item that is no range. -/
def single? (f : Flags) : Escape → Option CharSet
  | .char c => listed? f (.single c)
  | .chars s => some s
  | .look _ => none

/-- A character, an escape or a range, and the text behind it. A hyphen in front of another one or
of a closing bracket makes no range. -/
def range? (f : Flags) (text : List Char) : Option (CharSet × List Char) := do
  let (first, rest) ← unit? f text
  match f.skip rest with
  | '-' :: behind =>
    if f.glance? behind = some ']' || f.glance? behind = some '-' then
      (single? f first).map (·, '-' :: behind)
    else
      let (last, rest) ← unit? f (f.skip behind)
      match first, last with
      | .char a, .char b => if a ≤ b then (listed? f (.range a b)).map (·, rest) else none
      | _, _ => none
  | rest => (single? f first).map (·, rest)

/-- A named class whose opening bracket has been read, and the text behind it. -/
def named? (f : Flags) : List Char → Option (Option CharSet × List Char)
  | ':' :: rest =>
    let (negated, rest) := match rest with
      | '^' :: rest => (true, rest)
      | _ => (false, rest)
    match rest.dropWhile (· ≠ ':') with
    | ':' :: ']' :: behind =>
      (CharSet.named? (String.ofList (rest.takeWhile (· ≠ ':')))).map fun s =>
        ((listed? f s).bind (settle? f negated), behind)
    | _ => none
  | _ => none

/-! ## Classes -/

/-- Hyphens that a class begins with stand for themselves. -/
def hyphens (f : Flags) (d : Draft) : List Char → List Char → Draft × List Char
  | _ :: fuel, text =>
    match f.skip text with
    | '-' :: rest => hyphens f (d.add ⟨.single '-', 0⟩) fuel rest
    | text => (d, text)
  | [], text => (d, text)

/-- The beginning of a class whose opening bracket has been read: whether it is negated, what stands
for itself there, and the text behind it. -/
def opening (f : Flags) (text : List Char) : Bool × Draft × List Char :=
  let (negated, text) := match f.skip text with
    | '^' :: rest => (true, rest)
    | text => (false, text)
  let (d, text) := hyphens f {} text text
  match d.count, text with
  | 0, ']' :: rest => (negated, d.add ⟨.single ']', 0⟩, rest)
  | _, _ => (negated, d, text)

/-- The class that a draft becomes with the items up to the closing bracket, and the text behind
it. -/
def items? (f : Flags) : Nat → Draft → List Char → Option (Bracket × List Char)
  | 0, _, _ => none
  | n + 1, d, text =>
    match f.skip text with
    | [] => none
    | ']' :: rest => some (d.close f, rest)
    | '[' :: rest =>
      match named? f rest with
      | some (s, rest) => s.bind fun s => items? f n (d.add ⟨s, 0⟩) rest
      | none => do
        let (negated, inner, rest) := opening f rest
        let (b, rest) ← items? f n inner rest
        let s ← settle? f negated b.chars
        items? f n (d.add ⟨s, b.depth + 1⟩) rest
    | '&' :: '&' :: rest => items? f n (d.operate f .inter) rest
    | '-' :: '-' :: rest => items? f n (d.operate f .diff) rest
    | '~' :: '~' :: rest => items? f n (d.operate f .symmDiff) rest
    | text => (range? f text).bind fun (s, rest) => items? f n (d.add ⟨s, 0⟩) rest

/-- The class whose opening bracket has been read, and the text behind it. -/
def read? (f : Flags) (text : List Char) : Option (Bracket × List Char) := do
  let (negated, d, rest) := opening f text
  let (b, rest) ← items? f (text.length + 1) d rest
  let s ← settle? f negated b.chars
  some (⟨s, b.depth + 1⟩, rest)

end Bracket
end Liveness.Log
