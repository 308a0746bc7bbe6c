import Liveness.Text.Quoted

/-! # Header fields

* `HeaderName`: a name in lower case.
* `HeaderValue`: the bytes of a value, without control characters other than the tab.
* `Headers`: fields in the order of their arrival, where a name may come several times.
* `Headers.text`: the fields as written in the log, grouped by name.
-/

namespace Liveness.Http
set_option autoImplicit false

/-! ## Names -/

/-- Letters, digits and the marks that may stand in the name of a field. -/
def isNameChar (c : Char) : Bool :=
  c.isAlphanum ||
    ['!', '\x22', '#', '$', '%', '&', '\x27', '*', '+', '-', '.', '^', '_', '\x60', '|',
      '~'].contains c

/-- Whether a text is the name of a field in lower case. -/
def isFieldName (text : String) : Bool :=
  !text.toList.isEmpty && text.toList.length ≤ 65535 &&
    text.toList.all fun c => isNameChar c && !c.isUpper

/-- The name of a header field. Names that differ in the case of letters are the same. -/
structure HeaderName where
  text : String
  isFieldName_text : isFieldName text = true
  deriving DecidableEq

/-- The header name written by a text in any case. -/
def HeaderName.ofString? (text : String) : Option HeaderName :=
  let lower := String.ofList (text.toList.map Char.toLower)
  if h : isFieldName lower = true then some ⟨lower, h⟩ else none

/-! ## Values -/

/-- The bytes of a value: all but control characters, and the tab. -/
def isValueByte (b : UInt8) : Bool := (32 ≤ b && b != 127) || b == 9

/-- The value of a header field. -/
structure HeaderValue where
  bytes : List UInt8
  all_isValueByte : bytes.all isValueByte = true
  deriving DecidableEq

namespace HeaderValue

/-- The value with given bytes. -/
def ofBytes? (bytes : List UInt8) : Option HeaderValue :=
  if h : bytes.all isValueByte = true then some ⟨bytes, h⟩ else none

/-- The value with given characters. -/
def ofString? (text : String) : Option HeaderValue := ofBytes? text.toUTF8.toList

/-- The visible characters of ASCII. -/
def isVisible (c : Char) : Bool := 0x21 ≤ c.toNat && c.toNat ≤ 0x7E

/-- The value with given characters, each of them visible. -/
def ofVisible (text : List Char) (h : text.all isVisible = true) : HeaderValue where
  bytes := text.map fun c => UInt8.ofNat c.toNat
  all_isValueByte := by
    simp only [List.all_map, List.all_eq_true, Function.comp_apply]
    intro c hc
    have visible := List.all_eq_true.1 h c hc
    simp only [isVisible, Bool.and_eq_true, decide_eq_true_eq] at visible
    have small : ∀ n < 0x7F, 0x21 ≤ n → isValueByte (UInt8.ofNat n) = true := by decide
    exact small _ (Nat.lt_succ_of_le visible.2) visible.1

/-- One byte of a value as shown between quotes. -/
def showByte (b : UInt8) : List Char :=
  if b = 34 then ['\x5c', '\x22']
  else if (32 ≤ b && b < 127) || b == 9 then [Char.ofNat b.toNat]
  else '\x5c' :: 'x' :: Nat.toDigits 16 b.toNat

/-- A value between quotes. -/
def text (v : HeaderValue) : List Char :=
  '\x22' :: (v.bytes.flatMap showByte ++ ['\x22'])

end HeaderValue

/-! ## Fields -/

/-- The fields of a message in the order of their arrival. -/
abbrev Headers := List (HeaderName × HeaderValue)

namespace Headers

/-- The length of the body. -/
def contentLength : HeaderName := ⟨"content-length", by decide⟩

/-- The identifier of a request. -/
def requestId : HeaderName := ⟨"x-request-id", by decide⟩

/-- All values of a name, in order. -/
def values (name : HeaderName) (headers : Headers) : List HeaderValue :=
  headers.filterMap fun (n, v) => if n = name then some v else none

/-- The first value of a name. -/
def first? (name : HeaderName) (headers : Headers) : Option HeaderValue :=
  (headers.find? (·.1 = name)).map (·.2)

/-- The fields with those of one name together, names in the order of their first appearance. -/
def grouped (headers : Headers) : Headers :=
  (headers.map (·.1)).eraseDups.flatMap fun name => (headers.values name).map (name, ·)

/-- One field as written in the log. -/
def fieldText (field : HeaderName × HeaderValue) : List Char :=
  (Text.quoted field.1.text).toList ++ ':' :: ' ' :: field.2.text

/-- The fields as written in the log: a list between braces, grouped by name. -/
def text (headers : Headers) : List Char :=
  '\x7b' :: ([',', ' '].intercalate (headers.grouped.map fieldText) ++ ['\x7d'])

end Headers
end Liveness.Http
