import Liveness.Http.Message

/-! # Request heads on a connection

A head is read byte by byte, so how the bytes arrive has no influence on what is read.

* `Head`: a request line and header fields as they are sent.
* `Reader`: what has been read of a head; `Reader.next` reads one more byte.
* `Reader.feed`: the same for bytes that have arrived, up to the end of the head.
* `Head.request?`: the request that a head makes.
-/

namespace Liveness.Http.Wire
set_option autoImplicit false

/-! ## Refusals -/

/-- Why a head is refused. -/
inductive Refusal where
  | malformed
  | targetTooLong
  | tooLarge
  deriving DecidableEq, Repr

/-- The status of the response to a head that is refused. -/
def Refusal.status : Refusal → Status
  | malformed => ⟨400, by decide⟩
  | targetTooLong => ⟨414, by decide⟩
  | tooLarge => ⟨431, by decide⟩

/-! ## Bytes -/

/-- The byte of an ASCII character. -/
def byte (c : Char) : UInt8 := UInt8.ofNat c.toNat

/-- The characters of bytes, one for each. -/
def chars (bytes : List UInt8) : List Char := bytes.map fun b => Char.ofNat b.toNat

/-- The text of bytes, a character for each. -/
def text (bytes : List UInt8) : String := String.ofList (chars bytes)

/-- Carriage return. -/
def cr : UInt8 := 13

/-- Line feed. -/
def lf : UInt8 := 10

/-- Space and tab. -/
def isBlank (b : UInt8) : Bool := b = 32 || b = 9

/-- The bytes of a token. -/
def isTokenByte (b : UInt8) : Bool :=
  let c := Char.ofNat b.toNat
  b < 128 && (c.isAlphanum ||
    ['!', '#', '$', '%', '&', '\x27', '*', '+', '-', '.', '^', '_', '\x60', '|', '~'].contains c)

/-- The bytes of a request target. -/
def isTargetByte (b : UInt8) : Bool := 33 ≤ b && b < 127

/-! ## Heads -/

/-- A request line and header fields as they are sent, values without the blanks around them. -/
structure Head where
  method : List UInt8
  target : List UInt8
  version : Version
  fields : List (List UInt8 × List UInt8)
  deriving DecidableEq

/-- Where in a head the reader is. -/
inductive Place where
  /-- In front of the request line, where empty lines are skipped. -/
  | gap
  | gapEnd
  | method
  | target
  /-- In the name of the protocol, with what is still to come of it. -/
  | protocol (left : List UInt8)
  | lineEnd
  | lineFeed
  | fieldStart
  | name
  | blank
  | value
  | valueFeed
  | lastFeed
  deriving DecidableEq, Repr

/-- What has been read of a head. The word that is being read has its last byte first, and the
fields have the last one first. -/
structure Reader where
  place : Place := .gap
  word : List UInt8 := []
  method : List UInt8 := []
  target : List UInt8 := []
  version : Version := .http11
  name : List UInt8 := []
  fields : List (List UInt8 × List UInt8) := []
  /-- The number of bytes read. -/
  count : Nat := 0
  deriving DecidableEq

/-- What one more byte makes of a head. -/
inductive Progress where
  | more (reader : Reader)
  | done (head : Head)
  | refused (refusal : Refusal)

namespace Reader

/-- The greatest number of header fields. -/
def maxFields : Nat := 100

/-- The size at which a head that has not ended is refused. -/
def maxSize : Nat := 417792

/-- The name of the protocol up to the last digit of its version. -/
def protocolName : List UInt8 := ['H', 'T', 'T', 'P', '/', '1', '.'].map byte

/-- The head that has been read. -/
def head (r : Reader) : Head := ⟨r.method, r.target, r.version, r.fields.reverse⟩

/-- Goes on to another place. -/
def goTo (r : Reader) (place : Place) : Progress := .more { r with place }

/-- Adds a byte to the word that is being read. -/
def push (r : Reader) (place : Place) (b : UInt8) : Progress :=
  .more { r with place, word := b :: r.word }

/-- The field that has been read, without the blanks behind its value. -/
def endField (r : Reader) (place : Place) : Progress :=
  let value := (r.word.dropWhile isBlank).reverse
  .more { r with place, word := [], fields := (r.name, value) :: r.fields }

/-- In front of the request line. -/
def gapStep (r : Reader) (b : UInt8) : Progress :=
  if b = cr then r.goTo .gapEnd
  else if b = lf then r.goTo .gap
  else if isTokenByte b then r.push .method b
  else .refused .malformed

/-- In the value of a field. -/
def valueStep (r : Reader) (b : UInt8) : Progress :=
  if b = cr then r.goTo .valueFeed
  else if b = lf then r.endField .fieldStart
  else if isValueByte b then r.push .value b
  else .refused .malformed

/-- At the start of a line behind the request line. -/
def fieldStartStep (r : Reader) (b : UInt8) : Progress :=
  if b = cr then r.goTo .lastFeed
  else if b = lf then .done r.head
  else if !isTokenByte b then .refused .malformed
  else if r.fields.length < maxFields then r.push .name b
  else .refused .tooLarge

/-- What one more byte makes of a head, whatever its size. -/
def step (r : Reader) (b : UInt8) : Progress :=
  match r.place with
  | .gap => r.gapStep b
  | .gapEnd => if b = lf then r.goTo .gap else .refused .malformed
  | .method =>
    if b = 32 then .more { r with place := .target, method := r.word.reverse, word := [] }
    else if isTokenByte b then r.push .method b
    else .refused .malformed
  | .target =>
    if b = 32 then
      .more { r with place := .protocol protocolName, target := r.word.reverse, word := [] }
    else if isTargetByte b then r.push .target b
    else .refused .malformed
  | .protocol [] =>
    if b = byte '1' then .more { r with place := .lineEnd, version := .http11 }
    else if b = byte '0' then .more { r with place := .lineEnd, version := .http10 }
    else .refused .malformed
  | .protocol (c :: left) => if b = c then r.goTo (.protocol left) else .refused .malformed
  | .lineEnd =>
    if b = cr then r.goTo .lineFeed
    else if b = lf then r.goTo .fieldStart
    else .refused .malformed
  | .lineFeed => if b = lf then r.goTo .fieldStart else .refused .malformed
  | .fieldStart => r.fieldStartStep b
  | .name =>
    if b = byte ':' then .more { r with place := .blank, name := r.word.reverse, word := [] }
    else if isTokenByte b then r.push .name b
    else .refused .malformed
  | .blank => if isBlank b then r.goTo .blank else r.valueStep b
  | .value => r.valueStep b
  | .valueFeed => if b = lf then r.endField .fieldStart else .refused .malformed
  | .lastFeed => if b = lf then .done r.head else .refused .malformed

/-- What one more byte makes of a head. The size is checked at every byte; a reader that checks it once
for each arrival lets a head through that is larger by less than an arrival. -/
def next (r : Reader) (b : UInt8) : Progress :=
  match r.step b with
  | .more r' =>
    if r.count + 1 < maxSize then .more { r' with count := r.count + 1 } else .refused .tooLarge
  | p => p

/-- What bytes that have arrived make of a head. -/
inductive Fed where
  | more (reader : Reader)
  /-- The head has ended in front of the rest. -/
  | done (head : Head) (rest : List UInt8)
  | refused (refusal : Refusal)

/-- What bytes that have arrived make of a head. -/
def feed (r : Reader) : List UInt8 → Fed
  | [] => .more r
  | b :: bytes =>
    match r.next b with
    | .more r => feed r bytes
    | .done head => .done head bytes
    | .refused refusal => .refused refusal

theorem length_of_feed_done {r : Reader} {bytes rest : List UInt8} {head : Head}
    (h : r.feed bytes = .done head rest) : rest.length < bytes.length := by
  induction bytes generalizing r with
  | nil => simp [feed] at h
  | cons b bs ih =>
    rw [feed] at h
    split at h
    · exact Nat.lt_succ_of_lt (ih h)
    · simp only [Fed.done.injEq] at h
      simp [h.2]
    · simp at h

/-- Bytes may arrive in pieces. -/
theorem feed_append (r : Reader) (a b : List UInt8) :
    r.feed (a ++ b) = match r.feed a with
      | .more r => r.feed b
      | .done head rest => .done head (rest ++ b)
      | .refused refusal => .refused refusal := by
  induction a generalizing r with
  | nil => rfl
  | cons x a ih =>
    simp only [List.cons_append, feed]
    cases r.next x with
    | more r => exact ih r
    | done head => rfl
    | refused refusal => rfl

end Reader

/-! ## Requests -/

/-- The header field that a head holds. -/
def field? (field : List UInt8 × List UInt8) : Option (HeaderName × HeaderValue) := do
  some (← HeaderName.ofString? (text field.1), ← HeaderValue.ofBytes? field.2)

/-- The request that a head makes. -/
def Head.request? (h : Head) : Except Refusal Request :=
  if Uri.maxLength < h.target.length then .error .targetTooLong
  else
    match Method.ofString? (text h.method), Uri.parse? (chars h.target), h.fields.mapM field? with
    | some method, some uri, some headers => .ok { method, uri, version := h.version, headers }
    | _, _, _ => .error .malformed

end Liveness.Http.Wire
