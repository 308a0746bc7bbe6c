import Liveness.Http.Wire.Answer

/-! # Requests as a client sends them

* `Line`: a line with a header field, blanks included; `Line.field` is the field.
* `Sent`: a request of the newer version, with its body; `Sent.headBytes` and `Sent.bytes` are what
  goes over the connection.
* `Sent.IsTaken`: the requests that the server takes.
* `Sent.head`, `Sent.request`: what it is to read of such a request.
-/

namespace Liveness.Http.Wire
set_option autoImplicit false

open Answer (newline)

/-! ## Bytes -/

/-- What holds of all 256 bytes holds of a byte. -/
theorem of_all_bytes {p : UInt8 → Prop} (h : ∀ n < 256, p (UInt8.ofNat n)) (b : UInt8) : p b := by
  have := h b.toNat b.toNat_lt
  rwa [UInt8.ofNat_toNat] at this

/-- A letter, digit or mark of a token may stand in the name of a field, in lower case. -/
theorem isNameChar_of_isTokenByte {b : UInt8} (h : isTokenByte b = true) :
    (isNameChar (Char.ofNat b.toNat).toLower && !(Char.ofNat b.toNat).toLower.isUpper) = true := by
  revert h
  revert b
  refine @of_all_bytes _ ?_
  decide +kernel

/-! ## Lines -/

/-- Whether a name, blanks, a value and further blanks make a line with a header field. The value
neither begins nor ends with a blank. -/
def isLine (name before value after : List UInt8) : Bool :=
  !name.isEmpty && name.length ≤ 65535 && name.all isTokenByte && before.all isBlank &&
    value.all isValueByte && !value.head?.any isBlank && !value.getLast?.any isBlank &&
    after.all isBlank

/-- A line with a header field: a name in any case, a colon, and a value with blanks around it. -/
structure Line where
  name : List UInt8
  before : List UInt8
  value : List UInt8
  after : List UInt8
  isLine_parts : isLine name before value after = true

namespace Line

theorem parts (l : Line) :
    (l.name ≠ [] ∧ l.name.length ≤ 65535 ∧ l.name.all isTokenByte = true) ∧
      l.before.all isBlank = true ∧
      (l.value.all isValueByte = true ∧ l.value.head?.any isBlank = false ∧
        l.value.getLast?.any isBlank = false) ∧
      l.after.all isBlank = true := by
  have h := l.isLine_parts
  simp only [isLine, Bool.and_eq_true, Bool.not_eq_true', List.isEmpty_eq_false_iff,
    decide_eq_true_eq] at h
  obtain ⟨⟨⟨⟨⟨⟨⟨full, short⟩, token⟩, before⟩, value⟩, head⟩, last⟩, after⟩ := h
  exact ⟨⟨full, short, token⟩, before, ⟨value, head, last⟩, after⟩

/-- The bytes of a line. -/
def bytes (l : Line) : List UInt8 :=
  l.name ++ byte ':' :: (l.before ++ l.value ++ l.after ++ newline)

/-- The name of the field in lower case. -/
def lowerName (l : Line) : String := String.ofList ((chars l.name).map Char.toLower)

theorem isFieldName_lowerName (l : Line) : isFieldName l.lowerName = true := by
  have text : l.lowerName.toList = (chars l.name).map Char.toLower := String.toList_ofList
  have length : l.lowerName.toList.length = l.name.length := by
    rw [text, List.length_map, chars, List.length_map]
  have full : l.lowerName.toList.isEmpty = false := by
    rw [List.isEmpty_eq_false_iff, ← List.length_pos_iff, length, List.length_pos_iff]
    exact l.parts.1.1
  have short : decide (l.lowerName.toList.length ≤ 65535) = true := by
    rw [length]
    exact decide_eq_true l.parts.1.2.1
  have lower : (l.lowerName.toList.all fun c => isNameChar c && !c.isUpper) = true := by
    rw [text, chars, List.map_map, List.all_map, List.all_eq_true]
    intro b hb
    exact isNameChar_of_isTokenByte (List.all_eq_true.1 l.parts.1.2.2 b hb)
  rw [isFieldName, full, short, lower]
  rfl

/-- The field of a line. -/
def field (l : Line) : HeaderName × HeaderValue :=
  (⟨l.lowerName, l.isFieldName_lowerName⟩, ⟨l.value, l.parts.2.2.1.1⟩)

theorem field?_eq_field (l : Line) : field? (l.name, l.value) = some l.field := by
  have name : HeaderName.ofString? (text l.name) = some l.field.1 := by
    rw [HeaderName.ofString?, text, String.toList_ofList]
    exact dif_pos l.isFieldName_lowerName
  have value : HeaderValue.ofBytes? l.value = some l.field.2 := dif_pos l.parts.2.2.1.1
  rw [field?, name, value]
  rfl

end Line

/-- The bytes of a text in ASCII. -/
def ascii (text : String) : List UInt8 := text.toList.map byte

/-- A line with the host that is asked. -/
def hostLine : Line where
  name := ascii "Host"
  before := ascii " "
  value := ascii "localhost"
  after := []
  isLine_parts := by decide

/-! ## Requests -/

/-- The protocol and its newer version. -/
def protocol11 : List UInt8 := Reader.protocolName ++ [byte '1']

/-- The bytes of a request line that begins with a word, and of header lines, up to the empty line
behind them. -/
def writeLines (word target : List UInt8) (lines : List Line) : List UInt8 :=
  word ++ 32 :: (target ++ 32 :: (protocol11 ++ newline)) ++ lines.flatMap Line.bytes ++ newline

/-- A request as a client sends it: a word in place of the method, the target of a URI, header lines
and a body. -/
structure Sent where
  word : List UInt8
  target : List UInt8
  uri : Uri
  lines : List Line
  body : List UInt8
  word_ne_nil : word ≠ []
  isTokenByte_word : word.all isTokenByte = true
  isTargetByte_target : target.all isTargetByte = true
  parse?_target : Uri.parse? (chars target) = some uri

namespace Sent

/-- The bytes in front of the body. -/
def headBytes (q : Sent) : List UInt8 := writeLines q.word q.target q.lines

/-- The bytes of a request. -/
def bytes (q : Sent) : List UInt8 := q.headBytes ++ q.body

/-- Whether a request asks for a tunnel. -/
def asksForTunnel (q : Sent) : Bool := text q.word = "CONNECT"

/-- Whether a request asks for the head of the response alone. -/
def asksForHead (q : Sent) : Bool := text q.word = "HEAD"

/-- The requests that the server takes: the first word names a method, there are not too many lines,
and the head is not too long. -/
structure IsTaken (q : Sent) : Prop where
  named : isMethodName (text q.word) = true
  few : q.lines.length ≤ Reader.maxFields
  small : q.headBytes.length ≤ Reader.maxSize

/-- The head to be read. -/
def head (q : Sent) : Head := ⟨q.word, q.target, .http11, q.lines.map fun l => (l.name, l.value)⟩

/-- The method of a request. A word that names none counts as `GET`: the router looks at the target
alone. -/
def method (q : Sent) : Method := (Method.ofString? (text q.word)).getD ⟨"GET", by decide⟩

/-- The request to be understood. -/
def request (q : Sent) : Request :=
  { method := q.method, uri := q.uri, headers := q.lines.map Line.field }

/-! ## Methods -/

theorem ofString?_word {q : Sent} (h : q.IsTaken) :
    Method.ofString? (text q.word) = some q.method := by
  rw [method, Method.ofString?, dif_pos h.named, Option.getD_some]

end Sent
end Liveness.Http.Wire
