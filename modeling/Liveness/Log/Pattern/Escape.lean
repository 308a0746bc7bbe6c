import Liveness.Log.Pattern
import Liveness.Log.Pattern.Flags
import Liveness.Text.Hexadecimal

/-! # Escapes in a pattern

* `Escape`: what a backslash with the characters behind it stands for.
* `Escape.read?`: the escape whose backslash has been read.

Classes and conditions on words are known for ASCII alone. So they are refused where characters of
every script count, and a class that leaves ASCII is refused where they do not.
-/

namespace Liveness.Log
set_option autoImplicit false

/-- What a backslash with the characters behind it stands for. -/
inductive Escape where
  | char (c : Char)
  | look (look : Look)
  | chars (chars : CharSet)
  deriving DecidableEq, Repr

namespace Escape

/-- Whether a character behind a backslash stands for itself: any of ASCII but letters, digits and
angle brackets. -/
def isMark (c : Char) : Bool := c.toNat < 0x80 && !c.isAlphanum && c ≠ '<' && c ≠ '>'

/-- The character with a name of one letter. -/
def control? : Char → Option Char
  | 'a' => some '\x07'
  | 'f' => some '\x0c'
  | 'n' => some '\n'
  | 'r' => some '\r'
  | 't' => some '\t'
  | 'v' => some '\x0b'
  | _ => none

/-- The condition of a letter or an angle bracket, if it says nothing of words or words are of
ASCII. -/
def look? (f : Flags) (c : Char) : Option Look :=
  match c, f.unicode with
  | 'A', _ => some .textStart
  | 'z', _ => some .textEnd
  | 'b', false => some .wordEdge
  | 'B', false => some .noWordEdge
  | '<', false => some .wordStart
  | '>', false => some .wordEnd
  | _, _ => none

/-- The class of a letter, where classes are of ASCII. -/
def chars? (f : Flags) (c : Char) : Option CharSet :=
  match c, f.unicode with
  | 'd', false => some .digit
  | 's', false => some .space
  | 'w', false => some .word
  | _, _ => none

/-- How many hexadecimal digits follow a letter. -/
def digitCount? : Char → Option Nat
  | 'x' => some 2
  | 'u' => some 4
  | 'U' => some 8
  | _ => none

/-- The number written by some hexadecimal digits, and the text behind them. -/
def digits? (f : Flags) : Nat → Nat → List Char → Option (Nat × List Char)
  | 0, value, text => some (value, text)
  | count + 1, value, text =>
    match f.skip text with
    | [] => none
    | c :: rest => (Text.hexDigit? c).bind fun d => digits? f count (16 * value + d) rest

/-- The character with a number of some digits. Two digits stand for a byte. -/
def ofDigits? (f : Flags) (count : Nat) (text : List Char) : Option (Escape × List Char) :=
  match digits? f count 0 text with
  | none => none
  | some (n, rest) =>
    if count = 2 && 0x80 ≤ n && !f.unicode then none
    else (Text.character? n).map fun c => (char c, rest)

/-- The escape whose backslash has been read, and the text behind it. -/
def read? (f : Flags) : List Char → Option (Escape × List Char)
  | [] => none
  | c :: rest =>
    if isMark c then some (char c, rest)
    else match digitCount? c, control? c, look? f c, chars? f c with
      | some count, _, _, _ => ofDigits? f count rest
      | _, some e, _, _ => some (char e, rest)
      | _, _, some l, _ => some (look l, rest)
      | _, _, _, some s => some (chars s, rest)
      | _, _, _, _ => none

end Escape
end Liveness.Log
