import Liveness.Datum
import Liveness.Text.Hexadecimal

/-! # Writing JSON

* `Json.writeString`: a string between quotes.
* `Json.write`: a value on one line, without spaces.
-/

namespace Liveness.Json
set_option autoImplicit false

/-- How one character is written in a string. -/
def writeChar (c : Char) : List Char :=
  if c = '\x22' ∨ c = '\x5c' then ['\x5c', c]
  else if c = '\x08' then ['\x5c', 'b']
  else if c = '\x0c' then ['\x5c', 'f']
  else if c = '\n' then ['\x5c', 'n']
  else if c = '\r' then ['\x5c', 'r']
  else if c = '\t' then ['\x5c', 't']
  else if c.toNat < 0x20 then
    '\x5c' :: 'u' :: Text.hexadecimal 4 c.toNat
  else [c]

/-- A string between quotes. -/
def writeString (text : String) : List Char :=
  '\x22' :: (text.toList.flatMap writeChar ++ ['\x22'])

mutual
/-- A value on one line. A number that JSON cannot write is null. -/
def write : Datum → List Char
  | .null => ['n', 'u', 'l', 'l']
  | .flag true => ['t', 'r', 'u', 'e']
  | .flag false => ['f', 'a', 'l', 's', 'e']
  | .integer n => Decimal.ofInt n
  | .number n => if n.isFinite then n.text else ['n', 'u', 'l', 'l']
  | .text t => writeString t
  | .list items => '[' :: (writeItems items ++ [']'])
  | .table members => '\x7b' :: (writeMembers members ++ ['\x7d'])
termination_by structural d => d

/-- The items of a list with commas between them. -/
def writeItems : List Datum → List Char
  | [] => []
  | d :: items => write d ++ (if items.isEmpty then [] else ',' :: writeItems items)
termination_by structural ds => ds

/-- The members of a table with commas between them. -/
def writeMembers : List (String × Datum) → List Char
  | [] => []
  | m :: members => writeMember m ++ (if members.isEmpty then [] else ',' :: writeMembers members)
termination_by structural ms => ms

/-- A name and its value. -/
def writeMember : String × Datum → List Char
  | (name, d) => writeString name ++ ':' :: write d
termination_by structural m => m
end

end Liveness.Json
