import Liveness.Http.Wire.Head
import Liveness.Number.Decimal
import Liveness.Text.Hexadecimal

/-! # Request bodies on a connection

* `Framing`: how much of a body is still to come.
* `Framing.piece`: one piece of a body out of the bytes that have arrived.
* `Plan`: how a request is framed, and whether the connection stays open behind it.
* `Plan.ofRequest?`: the plan that the header fields of a request make.
-/

namespace Liveness.Http.Wire
set_option autoImplicit false

/-! ## Chunks -/

/-- Where in a body of chunks the reader is. -/
inductive Chunk where
  | start
  | size (size : Nat)
  | sizeBlank (size : Nat)
  | extension (size : Nat)
  | sizeFeed (size : Nat)
  /-- In the data of a chunk, with so much of it still to come. -/
  | data (left : Nat)
  | dataReturn
  | dataFeed
  | trailer
  | trailerFeed
  | endReturn
  | endFeed
  | ended
  deriving DecidableEq, Repr

namespace Chunk

/-- A size with one more digit; it must fit in 64 bits. -/
def digit (size : Nat) (b : UInt8) : Option Chunk :=
  (Text.hexDigit? (Char.ofNat b.toNat)).bind fun d =>
    if 16 * size + d < Decimal.unsignedLimit then some (.size (16 * size + d)) else none

/-- Behind the size of a chunk. -/
def afterSize (size : Nat) (b : UInt8) : Option Chunk :=
  if isBlank b then some (.sizeBlank size)
  else if b = byte ';' then some (.extension size)
  else if b = cr then some (.sizeFeed size)
  else none

/-- One more byte outside the data of a chunk. -/
def step (c : Chunk) (b : UInt8) : Option Chunk :=
  match c with
  | start => digit 0 b
  | size n =>
    (digit n b).or (if (Text.hexDigit? (Char.ofNat b.toNat)).isSome then none else afterSize n b)
  | sizeBlank n => afterSize n b
  | extension n => if b = cr then some (sizeFeed n) else if b = lf then none else some (extension n)
  | sizeFeed n => if b = lf then some (if n = 0 then endReturn else data n) else none
  | data _ => none
  | dataReturn => if b = cr then some dataFeed else none
  | dataFeed => if b = lf then some start else none
  | trailer => some (if b = cr then trailerFeed else trailer)
  | trailerFeed => if b = lf then some endReturn else none
  | endReturn => some (if b = cr then endFeed else trailer)
  | endFeed => if b = lf then some ended else none
  | ended => none

end Chunk

/-! ## Framing -/

/-- How much of a body is still to come. -/
inductive Framing where
  | length (left : Nat)
  | chunked (place : Chunk)
  deriving DecidableEq, Repr

/-- A piece of a body. -/
inductive Piece where
  /-- No data has arrived. -/
  | waiting (framing : Framing)
  /-- Some data has arrived in front of the rest, and there is more to come. -/
  | part (framing : Framing) (rest : List UInt8)
  /-- The body has ended in front of the rest. -/
  | finished (rest : List UInt8)
  | broken

/-- A piece of a body of chunks: the data of one of them, as far as it has arrived. -/
def Chunk.piece : Chunk → List UInt8 → Piece
  | c, [] => .waiting (.chunked c)
  | .data left, b :: bytes =>
    let here := b :: bytes
    if left ≤ here.length then .part (.chunked .dataReturn) (here.drop left)
    else .part (.chunked (.data (left - here.length))) []
  | c, b :: bytes =>
    match c.step b with
    | some .ended => .finished bytes
    | some c => c.piece bytes
    | none => .broken

namespace Framing

/-- A piece of a body out of bytes that have arrived. -/
def piece : Framing → List UInt8 → Piece
  | length left, bytes =>
    if bytes = [] then .waiting (length left)
    else if left ≤ bytes.length then .finished (bytes.drop left)
    else .part (length (left - bytes.length)) []
  | chunked place, bytes => place.piece bytes

theorem length_of_chunk_piece {c : Chunk} {bytes rest : List UInt8}
    (h : c.piece bytes = .finished rest) : rest.length ≤ bytes.length := by
  induction bytes generalizing c with
  | nil => simp [Chunk.piece] at h
  | cons b bs ih =>
    unfold Chunk.piece at h
    split at h
    · simp at h
    · simp only at h
      split at h <;> simp at h
    · rename_i heq
      injection heq with hb hbs
      subst hb; subst hbs
      split at h
      · simp only [Piece.finished.injEq] at h
        simp [h]
      · exact Nat.le_succ_of_le (ih h)
      · simp at h

theorem length_of_chunk_part {c : Chunk} {bytes rest : List UInt8} {f : Framing}
    (h : c.piece bytes = .part f rest) : rest.length ≤ bytes.length := by
  induction bytes generalizing c with
  | nil => simp [Chunk.piece] at h
  | cons b bs ih =>
    unfold Chunk.piece at h
    split at h
    · simp at h
    · rename_i heq
      simp only at h
      split at h
      · simp only [Piece.part.injEq] at h
        rw [← h.2]
        exact heq ▸ (List.drop_sublist _ _).length_le
      · simp only [Piece.part.injEq] at h
        simp [← h.2]
    · rename_i heq
      injection heq with hb hbs
      subst hb; subst hbs
      split at h
      · simp at h
      · exact Nat.le_succ_of_le (ih h)
      · simp at h

theorem length_of_finished {f : Framing} {bytes rest : List UInt8}
    (h : f.piece bytes = .finished rest) : rest.length ≤ bytes.length := by
  cases f with
  | chunked c => exact length_of_chunk_piece h
  | length left =>
    simp only [piece] at h
    split at h
    · simp at h
    · split at h
      · simp only [Piece.finished.injEq] at h
        exact h ▸ (List.drop_sublist _ _).length_le
      · simp at h

theorem length_of_part {f g : Framing} {bytes rest : List UInt8}
    (h : f.piece bytes = .part g rest) : rest.length ≤ bytes.length := by
  cases f with
  | chunked c => exact length_of_chunk_part h
  | length left =>
    simp only [piece] at h
    split at h
    · simp at h
    · split at h
      · simp at h
      · simp only [Piece.part.injEq] at h
        simp [← h.2]

end Framing

/-! ## Plans -/

/-- How a request is framed, and what follows it. -/
structure Plan where
  /-- The body, unless it is empty. -/
  body : Option Framing
  /-- Whether the connection stays open. -/
  keepAlive : Bool
  /-- Whether the client waits for leave to send the body. -/
  expects : Bool
  deriving DecidableEq, Repr

/-- What the header fields read so far say about the framing. -/
structure Framed where
  /-- Whether the last transfer encoding is by chunks, if there is any. -/
  encoded : Option Bool := none
  length : Option Nat := none
  keepAlive : Bool
  expects : Bool := false
  deriving DecidableEq, Repr

namespace Framed

/-- The words of a value between commas, in lower case and without the blanks around them. A value
that is not all ASCII has none. -/
def words (v : HeaderValue) : List (List Char) :=
  if v.bytes.all (· < 128) then
    ((chars v.bytes).splitOnP (· = ',')).map fun word =>
      let isBlank (c : Char) : Bool := c = ' ' || c = '\t'
      (((word.dropWhile isBlank).reverse.dropWhile isBlank).reverse).map Char.toLower
  else []

/-- The greatest length of a body. -/
def maxLength : Nat := Decimal.unsignedLimit - 3

/-- One more header field. -/
def add (version : Version) (s : Framed) (field : HeaderName × HeaderValue) :
    Except Refusal Framed :=
  let (name, value) := field
  if name.text = "transfer-encoding" then
    if version = .http10 then .error .malformed
    else .ok { s with encoded := some ((words value).getLast? = some "chunked".toList) }
  else if name.text = "content-length" then
    if s.encoded.isSome then .ok s
    else match Decimal.read? (chars value.bytes) with
      | none => .error .malformed
      | some n =>
        if Decimal.unsignedLimit ≤ n then .error .malformed
        else if s.length.any (· ≠ n) then .error .malformed
        else if maxLength < n then .error .tooLarge
        else .ok { s with length := some n }
  else if name.text = "connection" then
    if s.keepAlive then .ok { s with keepAlive := !(words value).contains "close".toList }
    else .ok { s with keepAlive := (words value).contains "keep-alive".toList }
  else if name.text = "expect" then
    .ok { s with expects := (chars value.bytes).map Char.toLower = "100-continue".toList }
  else .ok s

/-- The plan of a request whose header fields have all been read. -/
def plan (s : Framed) : Except Refusal Plan :=
  match s.encoded with
  | some true => .ok ⟨some (.chunked .start), s.keepAlive, s.expects⟩
  | some false => .error .malformed
  | none =>
    match s.length with
    | none | some 0 => .ok ⟨none, s.keepAlive, s.expects⟩
    | some n => .ok ⟨some (.length n), s.keepAlive, s.expects⟩

end Framed

/-- The plan that the header fields of a request make. A connection stays open behind a request of
the newer version, and behind one of the older only on demand. -/
def Plan.ofRequest? (request : Request) : Except Refusal Plan := do
  let start : Framed := { keepAlive := request.version = .http11 }
  (← request.headers.foldlM (Framed.add request.version) start).plan

end Liveness.Http.Wire
