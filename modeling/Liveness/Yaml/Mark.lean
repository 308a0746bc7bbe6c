import Liveness.Yaml.Cursor

/-! # Tags, anchors and directives

* `Mark.tag?`: the tag of a value.
* `Mark.name?`: the name of an anchor.
* `Mark.directive?`: a directive in front of a document.

None of the directives changes how a document is read.
-/

namespace Liveness.Yaml.Mark
set_option autoImplicit false

/-! ## Tags -/

/-- The number of octets of a character, from the first of them. -/
def octetCount? (octet : Nat) : Option Nat :=
  if octet < 0x80 then some 1
  else if octet < 0xC0 then none
  else if octet < 0xE0 then some 2
  else if octet < 0xF0 then some 3
  else if octet < 0xF8 then some 4
  else none

/-- An octet written as a percent sign and two digits, and the text behind it. -/
def octet? : List Char → Option (Nat × List Char)
  | '%' :: a :: b :: rest => do some (16 * (← Text.hexDigit? a) + (← Text.hexDigit? b), rest)
  | _ => none

/-- The number made of an octet and a given number of further ones, and the text behind them. -/
def moreOctets? (code : Nat) : Nat → List Char → Option (Nat × List Char)
  | 0, text => some (code, text)
  | n + 1, text => do
    let (octet, rest) ← octet? text
    if octet / 0x40 = 2 then moreOctets? (0x100 * code + octet) n rest else none

/-- A character written in octets, and the text behind it. -/
def encoded? (text : List Char) : Option (Char × List Char) := do
  let (first, rest) ← octet? text
  let (code, rest) ← moreOctets? first ((← octetCount? first) - 1) rest
  (Text.character? code).map (·, rest)

/-- Whether a tag may have a character. -/
def isTagChar (c : Char) : Bool :=
  isNameChar c || [';', '/', '?', ':', '@', '&', '=', '+', '$', ',', '.', '!', '~', '*', '\x27',
    '(', ')', '[', ']', '%'].contains c

/-- The characters of a tag, and the text behind them. -/
def tagChars? : Nat → List Char → Option (List Char × List Char)
  | 0, text => some ([], text)
  | _ + 1, [] => some ([], [])
  | n + 1, c :: rest =>
    if c = '%' then do
      let (e, rest) ← encoded? (c :: rest)
      (tagChars? n rest).map fun (t, r) => (e :: t, r)
    else if isTagChar c then (tagChars? n rest).map fun (t, r) => (c :: t, r)
    else some ([], c :: rest)

/-- The characters of a tag, of which there must be one, and the text behind them. -/
def tagText? (text : List Char) : Option (List Char × List Char) :=
  (tagChars? text.length text).bind fun (t, r) =>
    if r.length = text.length then none else some (t, r)

/-- The handle with which a tag begins: a name between exclamation marks, of which the second may be
missing. -/
def handle? : List Char → Option (List Char × List Char)
  | '!' :: rest =>
    let name := rest.takeWhile isNameChar
    match rest.drop name.length with
    | '!' :: rest => some ('!' :: name ++ ['!'], rest)
    | rest => some ('!' :: name, rest)
  | _ => none

/-- A tag, and the text behind it: its name if it is one of the core tags, which have two
exclamation marks in front. -/
def tag? (text : List Char) : Option (Option (List Char) × List Char) :=
  match text with
  | '!' :: '<' :: rest =>
    match tagText? rest with
    | some (_, '>' :: rest) => some (none, rest)
    | _ => none
  | _ => do
    let (handle, rest) ← handle? text
    if handle = ['!', '!'] then (tagText? rest).map fun (t, r) => (some t, r)
    else if 2 ≤ handle.length && handle.getLast? = some '!' then
      (tagText? rest).map fun (_, r) => (none, r)
    else (tagChars? rest.length rest).map fun (_, r) => (none, r)

/-! ## Anchors -/

/-- Whether a character may follow the name of an anchor. -/
def endsName (c : Char) : Bool :=
  isSpace c || ['?', ':', ',', ']', '\x7d', '%', '@', Char.ofNat 0x60].contains c

/-- The name of an anchor whose sign has been read, and the text behind it. -/
def name? (text : List Char) : Option (List Char × List Char) :=
  let name := text.takeWhile isNameChar
  let rest := text.drop name.length
  if name ≠ [] && rest.head?.all endsName then some (name, rest) else none

/-! ## Directives -/

/-- The digits of a version, and the text behind them. -/
def versionPart? (text : List Char) : Option (List Char) :=
  let digits := text.takeWhile Char.isDigit
  if digits = [] || 9 < digits.length then none else some (text.drop digits.length)

/-- The text behind a version. -/
def version? (text : List Char) : Option (List Char) :=
  match versionPart? (text.dropWhile isBlank) with
  | some ('.' :: rest) => versionPart? rest
  | _ => none

/-- The text behind the handle and the beginning of a tag. -/
def tagRule? (text : List Char) : Option (List Char) := do
  let (handle, rest) ← handle? (text.dropWhile isBlank)
  if handle ≠ ['!'] && handle.getLast? ≠ some '!' then none
  else
    let (_, rest) ← tagText? (rest.dropWhile isBlank)
    if rest.head?.all isSpace then some rest else none

/-- The place behind a directive whose percent sign is here. -/
def directive? (c : Cursor) : Option Cursor := do
  let c := c.next
  let name := c.text.takeWhile isNameChar
  let c := c.skip name.length
  if name = [] || !c.spaceAt 0 then none
  else
    let rest ←
      if name = ['Y', 'A', 'M', 'L'] then version? c.text
      else if name = ['T', 'A', 'G'] then tagRule? c.text
      else some (c.text.dropWhile (!isBreak ·))
    let c := ((c.goTo rest).skipWhile isBlank).skipComment
    if c.text.head?.all isBreak then some c.skipBreak else none

end Liveness.Yaml.Mark
