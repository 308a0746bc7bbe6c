import Liveness.Yaml.Cursor

/-! # Texts in a document

* `Content.plain?`: a text without quotes.
* `Content.quoted?`: a text between quotes.
* `Content.block?`: a text of indented lines below its mark.
-/

namespace Liveness.Yaml.Content
set_option autoImplicit false

/-! ## Without quotes -/

/-- Whether a text without quotes has to end. A colon ends it if white space follows, and inside of
brackets their marks do. -/
def stops (flow : Bool) : List Char → Bool
  | [] => true
  | ':' :: rest => rest.head?.all isSpace || (flow && rest.head?.any isFlowMark)
  | c :: _ => isSpace c || (flow && isFlowMark c)

/-- The characters up to white space or the end of a text without quotes. -/
def plainRun (flow : Bool) : List Char → List Char
  | [] => []
  | c :: rest => if stops flow (c :: rest) then [] else c :: plainRun flow rest

/-- A text without quotes from what has been read of it, whether a line has ended behind it, and the
place behind it. Outside of brackets further lines must be indented. -/
def plainFrom? (flow : Bool) (indent : Int) :
    Nat → List Char → Gap → Cursor → Option (List Char × Bool × Cursor)
  | 0, _, _, _ => none
  | n + 1, done, g, c =>
    if c.separates || c.text.head? = some '#' then some (done, g.broken, c)
    else
      let run := plainRun flow c.text
      let (done, g) := if run = [] then (done, g) else (done ++ g.text ++ run, {})
      let c := c.skip run.length
      if !c.text.head?.any isSpace then some (done, g.broken, c)
      else do
        let (g, c) ← g.read? indent (c.text.length + 1) c
        if !flow && c.column < indent then some (done, g.broken, c)
        else plainFrom? flow indent n done g c

/-- A text without quotes. Each of its runs and gaps takes a character. -/
def plain? (flow : Bool) (indent : Int) (c : Cursor) : Option (List Char × Bool × Cursor) :=
  plainFrom? flow indent (c.text.length + 2) [] {} c

/-! ## Between quotes -/

/-- The character that stands for another one behind a backslash. -/
def escaped? : Char → Option Char
  | '0' => some '\x00'
  | 'a' => some '\x07'
  | 'b' => some '\x08'
  | 't' | '\t' => some '\t'
  | 'n' => some '\n'
  | 'v' => some '\x0b'
  | 'f' => some '\x0c'
  | 'r' => some '\r'
  | 'e' => some '\x1b'
  | ' ' => some ' '
  | '\x22' => some '\x22'
  | '\x27' => some '\x27'
  | '\x5c' => some '\x5c'
  | 'N' => some (Char.ofNat 0x85)
  | '_' => some (Char.ofNat 0xA0)
  | 'L' => some (Char.ofNat 0x2028)
  | 'P' => some (Char.ofNat 0x2029)
  | _ => none

/-- How many digits write the code point behind a letter. -/
def digitCount? : Char → Option Nat
  | 'x' => some 2
  | 'u' => some 4
  | 'U' => some 8
  | _ => none

/-- The character behind a backslash, and the text behind it. -/
def escape? : List Char → Option (Char × List Char)
  | [] => none
  | c :: rest =>
    match digitCount? c with
    | none => (escaped? c).map (·, rest)
    | some count => do
      let digits ← (rest.take count).mapM Text.hexDigit?
      if digits.length < count then none
      else (Text.character? (digits.foldl (16 * · + ·) 0)).map (·, rest.drop count)

/-- The characters up to white space or the quote, whether the end of a line behind them is escaped,
and the text from there. -/
def quotedRun? (single : Bool) : Nat → List Char → Option (List Char × Bool × List Char)
  | 0, text => some ([], false, text)
  | _ + 1, [] => some ([], false, [])
  | n + 1, c :: rest =>
    let go (c : Char) (rest : List Char) : Option (List Char × Bool × List Char) :=
      (quotedRun? single n rest).map fun (t, b, r) => (c :: t, b, r)
    if isSpace c then some ([], false, c :: rest)
    else if single then
      match c, rest with
      | '\x27', '\x27' :: rest => go '\x27' rest
      | '\x27', _ => some ([], false, c :: rest)
      | _, _ => go c rest
    else if c = '\x22' then some ([], false, c :: rest)
    else if c = '\x5c' then
      match breakLength rest with
      | 0 => (escape? rest).bind fun (e, rest) => go e rest
      | k => some ([], true, rest.drop k)
    else go c rest

/-- A text between quotes from what has been read of it, and the place behind its closing quote. -/
def quotedFrom? (single : Bool) : Nat → List Char → Cursor → Option (List Char × Cursor)
  | 0, _, _ => none
  | n + 1, done, c =>
    if c.separates || c.text = [] then none
    else do
      let (run, escapedBreak, rest) ← quotedRun? single (c.text.length + 1) c.text
      let c := c.goTo rest
      if c.text.head? = some (if single then '\x27' else '\x22') then some (done ++ run, c.next)
      else
        let (g, c) ← Gap.read? 0 (c.text.length + 1) { broken := escapedBreak } c
        quotedFrom? single n (done ++ run ++ g.text) c

/-- A text between quotes whose opening quote is here. Each of its runs and gaps takes a
character. -/
def quoted? (single : Bool) (c : Cursor) : Option (List Char × Cursor) :=
  quotedFrom? single (c.text.length + 2) [] c.next

/-! ## In lines -/

/-- What is kept of the ends of lines behind a text. -/
inductive Chomp where
  | none
  | one
  | all
  deriving DecidableEq, Repr

/-- The sign for what is kept of the ends of lines. -/
def chomp? : Char → Option Chomp
  | '+' => some .all
  | '-' => some .none
  | _ => none

/-- A digit that is not zero. -/
def step? (c : Char) : Option Nat :=
  if c.isDigit && c ≠ '0' then some (c.toNat - '0'.toNat) else none

/-- What is kept of the ends of lines, by how much the lines are indented, or zero if that is not
said, and the text behind. -/
def header : List Char → Chomp × Nat × List Char
  | [] => (.one, 0, [])
  | c :: rest =>
    match chomp? c, step? c with
    | some k, _ =>
      match rest.head?.bind step? with
      | some n => (k, n, rest.drop 1)
      | none => (k, 0, rest)
    | none, some n =>
      match rest.head?.bind chomp? with
      | some k => (k, n, rest.drop 1)
      | none => (.one, n, rest)
    | none, none => (.one, 0, c :: rest)

/-- The place of the first line below a mark; only a comment may stand behind the mark. -/
def firstLine? (c : Cursor) : Option Cursor :=
  let c := (c.skipWhile isBlank).skipComment
  if c.text.head?.all isBreak then some c.skipBreak else none

/-- Empty lines and the indentation of the next one. The first line that is not empty settles an
indentation of zero, which is at least `least`. The result is the indentation, the number of empty
lines, and the place behind them. -/
def emptyLines? (least : Nat) : Nat → Nat → Nat → Nat → Cursor → Option (Nat × Nat × Cursor)
  | 0, _, _, _, _ => none
  | n + 1, indent, widest, count, c =>
    let spaces := (c.text.takeWhile (· = ' ')).length
    let c := c.skip (if indent = 0 then spaces else min spaces (indent - c.column))
    let widest := max widest c.column
    if c.text.head? = some '\t' && (indent = 0 || c.column < indent) then none
    else if c.text.head?.any isBreak then
      emptyLines? least n indent widest (count + 1) c.skipBreak
    else some (if indent = 0 then max widest least else indent, count, c)

/-- Lines that are being read. -/
structure Lines where
  done : List Char := []
  /-- Whether a line has ended. -/
  ended : Bool := false
  /-- The number of empty lines behind it. -/
  empty : Nat
  /-- Whether the last line begins with a blank. -/
  blank : Bool := false

/-- What stands between the lines and the next one, which begins with a blank or not. Where lines
are folded a single end of a line is a space, but not next to a line that begins with a blank. -/
def Lines.joint (l : Lines) (literal blank : Bool) : List Char :=
  let first :=
    if !literal && l.ended && !l.blank && !blank then if l.empty = 0 then [' '] else []
    else if l.ended then ['\n'] else []
  first ++ List.replicate l.empty '\n'

/-- All lines with the right indentation, and the place behind them. -/
def lines? (literal : Bool) (least : Nat) :
    Nat → Nat → Lines → Cursor → Option (Lines × Cursor)
  | 0, _, _, _ => none
  | n + 1, indent, l, c =>
    if c.column = indent && c.text ≠ [] then
      let blank := c.text.head?.any isBlank
      let line := c.text.takeWhile (!isBreak ·)
      let done := l.done ++ l.joint literal blank ++ line
      let c := c.skip line.length
      if c.text = [] then some ({ done, empty := 0 }, c)
      else do
        let (indent, empty, c) ← emptyLines? least (c.text.length + 1) indent 0 0 c.skipBreak
        lines? literal least n indent { done, ended := true, empty, blank } c
    else some (l, c)

/-- The text of lines with what is kept of the ends of lines behind them. -/
def Lines.text (l : Lines) (chomp : Chomp) : List Char :=
  let last := if l.ended then ['\n'] else []
  match chomp with
  | .none => l.done
  | .one => l.done ++ last
  | .all => l.done ++ last ++ List.replicate l.empty '\n'

/-- A text of indented lines whose mark is here. `outer` is the indentation around it. -/
def block? (literal : Bool) (outer : Int) (c : Cursor) : Option (List Char × Cursor) := do
  let (chomp, step, rest) := header c.next.text
  let c ← firstLine? (c.goTo rest)
  let indent := if step = 0 then 0 else outer.toNat + step
  let least := max (outer + 1).toNat 1
  let (indent, empty, c) ← emptyLines? least (c.text.length + 1) indent 0 0 c
  let (l, c) ← lines? literal least (c.text.length + 1) indent { empty } c
  some (l.text chomp, c)

end Liveness.Yaml.Content
