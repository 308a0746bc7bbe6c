import Liveness.Text.Boundaries
import Liveness.Text.Quoted.Hidden

/-! # Quoted text in messages

* `Quoted.escape`: how one character is written between the quotes.
* `quoted`: a text between double quotes, with everything escaped that would not show as itself.
-/

namespace Liveness.Text
set_option autoImplicit false

namespace Quoted

/-- A character that shows as itself: it has a glyph, and does not alter the character before. -/
def isPlain (c : Char) : Bool := !within hidden c.toNat

/-- A code point in lower-case hexadecimal, between braces. -/
def codePoint (c : Char) : List Char :=
  '\x5c' :: 'u' :: '\x7b' :: (Nat.toDigits 16 c.toNat ++ ['\x7d'])

/-- How one character is written between the quotes. -/
def escape (c : Char) : List Char :=
  if c = '\x00' then ['\x5c', '0']
  else if c = '\t' then ['\x5c', 't']
  else if c = '\n' then ['\x5c', 'n']
  else if c = '\r' then ['\x5c', 'r']
  else if c = '\x22' then ['\x5c', '\x22']
  else if c = '\x5c' then ['\x5c', '\x5c']
  else if isPlain c then [c]
  else codePoint c

end Quoted

/-- A text between double quotes. -/
def quoted (text : String) : String :=
  String.ofList ('\x22' :: (text.toList.flatMap Quoted.escape ++ ['\x22']))

end Liveness.Text
