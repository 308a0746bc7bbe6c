import Liveness.Text.Boundaries
import Liveness.Text.Lowercase.Table
import Liveness.Text.Lowercase.Cased
import Liveness.Text.Lowercase.Ignorable

/-! # Lower case

* `Lowercase.ofChar`: the lower case of one character on its own, which may be two characters.
* `lowercase`: the lower case of a text. It is character by character, except that a capital sigma
  at the end of a word becomes the final form of the letter.
-/

namespace Liveness.Text
set_option autoImplicit false

namespace Lowercase

/-- The capital I with a dot above is the one letter whose lower case has two characters. -/
def dottedCapitalI : Char := Char.ofNat 0x130

/-- The lower case of one character on its own. -/
def ofChar (c : Char) : List Char :=
  if c = dottedCapitalI then ['i', Char.ofNat 0x307]
  else match spans.find? (·.contains c.toNat) with
    | some s => [Char.ofNat (c.toNat + s.offset).toNat]
    | none => [c]

/-- Letters that have case. -/
def isCased (c : Char) : Bool := within cased c.toNat

/-- Characters that the rule for sigma looks past. -/
def isIgnorable (c : Char) : Bool := within ignorable c.toNat

/-- Whether the first character that is not ignorable is a cased letter. -/
def meetsCased : List Char → Bool
  | [] => false
  | c :: rest => if isIgnorable c then meetsCased rest else isCased c

/-- Capital sigma. -/
def capitalSigma : Char := Char.ofNat 0x3A3

/-- The lower case of a text that follows other text; `word` says whether that text ends, up to
ignorable characters, in a cased letter. -/
def ofText (word : Bool) : List Char → List Char
  | [] => []
  | c :: rest =>
    let here :=
      if c = capitalSigma then
        if word && !meetsCased rest then [Char.ofNat 0x3C2] else [Char.ofNat 0x3C3]
      else ofChar c
    here ++ ofText (if isIgnorable c then word else isCased c) rest

end Lowercase

/-- The lower case of a text. -/
def lowercase (text : List Char) : List Char := Lowercase.ofText false text

example : lowercase "LOCAL".toList = "local".toList := by decide +kernel
example : lowercase "ΑΣ".toList = "ας".toList := by decide +kernel
example : lowercase "ΑΣ.Β".toList = "ασ.β".toList := by decide +kernel

end Liveness.Text
