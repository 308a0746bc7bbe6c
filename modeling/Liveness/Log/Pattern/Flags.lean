import Liveness.Text.Blank

/-! # The flags of a pattern

* `Flags`: how the pieces of a pattern are read.
* `Flags.read?`: the flags changed by the letters behind an opening parenthesis and a question mark.
* `Flags.skip`: a pattern without the blanks and comments that it begins with.
-/

namespace Liveness.Log
set_option autoImplicit false

/-- How the pieces of a pattern are read. -/
structure Flags where
  /-- Letters stand for both of their cases. -/
  ignoreCase : Bool := false
  /-- The marks for the ends of the text stand for the ends of a line. -/
  multiline : Bool := false
  /-- A period stands for a line feed too. -/
  dotAll : Bool := false
  /-- Repetitions are lazy, and greedy where a question mark follows. -/
  swapGreed : Bool := false
  /-- A carriage return may end a line. -/
  crlf : Bool := false
  /-- Blanks and comments between the pieces mean nothing. -/
  spaced : Bool := false
  /-- Classes are of all characters, and not of ASCII alone. -/
  unicode : Bool := true
  deriving DecidableEq, Repr

namespace Flags

/-- The flags with the one of a letter set. -/
def set? (f : Flags) (letter : Char) (value : Bool) : Option Flags :=
  match letter with
  | 'i' => some { f with ignoreCase := value }
  | 'm' => some { f with multiline := value }
  | 's' => some { f with dotAll := value }
  | 'U' => some { f with swapGreed := value }
  | 'R' => some { f with crlf := value }
  | 'x' => some { f with spaced := value }
  | 'u' => some { f with unicode := value }
  | _ => none

/-- The flags changed by letters: those behind a hyphen are taken away. -/
def setAll? (f : Flags) (value : Bool) : List Char → Option Flags
  | [] => some f
  | '-' :: letters => setAll? f false letters
  | letter :: letters => (f.set? letter value).bind fun f => setAll? f value letters

/-- The flags changed by letters, each at most once. Something is taken away behind a hyphen. -/
def read? (f : Flags) (letters : List Char) : Option Flags :=
  if letters.eraseDups = letters ∧ letters.getLast? ≠ some '-' then f.setAll? true letters else none

/-! ## Blanks and comments -/

/-- A text without the blanks and comments that it begins with, in a comment or outside of it. -/
def skipFrom (comment : Bool) : List Char → List Char
  | [] => []
  | c :: text =>
    if comment then skipFrom (c ≠ '\n') text
    else if Text.isBlank c then skipFrom false text
    else if c = '#' then skipFrom true text
    else c :: text

/-- A text without the blanks and comments that it begins with, where these mean nothing. -/
def skip (f : Flags) (text : List Char) : List Char :=
  if f.spaced then skipFrom false text else text

/-- The character behind the blanks that a text begins with, and behind a number sign among them. -/
def glance? (f : Flags) (text : List Char) : Option Char :=
  if f.spaced then
    match text.dropWhile Text.isBlank with
    | '#' :: rest => (rest.dropWhile Text.isBlank).head?
    | rest => rest.head?
  else text.head?

end Flags
end Liveness.Log
