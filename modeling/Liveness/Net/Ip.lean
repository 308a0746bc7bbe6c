import Liveness.Number.Decimal
import Liveness.Text.Cut
import Liveness.Text.Hexadecimal

/-! # Internet addresses

* `Ip`: an address of either version.
* `Ip.text`: the shortest way to write it.
* `Ip.read?`: the address that the name of a host spells out.
* `Ip.literal?`: the same in the form that it has in an endpoint.
* `Endpoint`, `Endpoint.text`, `Endpoint.read?`: an address with a port.
-/

namespace Liveness.Net
set_option autoImplicit false

/-- An internet address, by its bytes or by its groups of 16 bits. -/
inductive Ip where
  | v4 (bytes : Vector UInt8 4)
  | v6 (groups : Vector UInt16 8)
  deriving DecidableEq, Repr

namespace Ip

/-! ## Writing -/

/-- Four bytes in decimal with points between them. -/
def dotted (bytes : List UInt8) : List Char :=
  ['.'].intercalate (bytes.map fun b => Decimal.ofNat b.toNat)

/-- Groups in hexadecimal with colons between them. -/
def colons (groups : List UInt16) : List Char :=
  [':'].intercalate (groups.map fun g => Nat.toDigits 16 g.toNat)

/-- How many groups from the `i`th on are zero. -/
def zeros (groups : List UInt16) (i : Nat) : Nat := ((groups.drop i).takeWhile (· = 0)).length

/-- Where the longest run of zeros begins, and the first of several. -/
def longestZeros (groups : List UInt16) : Nat :=
  (List.range groups.length).foldl (fun i j => if zeros groups i < zeros groups j then j else i) 0

/-- Groups with two colons in place of the longest run of two zeros or more. -/
def shortened (groups : List UInt16) : List Char :=
  let i := longestZeros groups
  let n := zeros groups i
  if 2 ≤ n then colons (groups.take i) ++ [':', ':'] ++ colons (groups.drop (i + n))
  else colons groups

/-- The upper and the lower byte of a group. -/
def halves (group : UInt16) : List UInt8 := [(group >>> 8).toUInt8, group.toUInt8]

/-- The address in text. One that stands for an address of the older version shows it. -/
def text : Ip → List Char
  | v4 bytes => dotted bytes.toList
  | v6 groups =>
    match groups.toList with
    | [0, 0, 0, 0, 0, 0xFFFF, g, h] => "::ffff:".toList ++ dotted (halves g ++ halves h)
    | all => shortened all

/-! ## Reading -/

/-- A run of digits in a base up to 16. -/
def digits? (base : Nat) (text : List Char) : Option Nat :=
  if text = [] then none
  else text.foldlM (fun n c => ((Text.hexDigit? c).filter (· < base)).map (base * n + ·)) 0

/-- A number in decimal, in octal behind a zero, or in hexadecimal behind a zero and an x. -/
def number? : List Char → Option Nat
  | '0' :: 'x' :: text | '0' :: 'X' :: text => digits? 16 text
  | '0' :: text => if text = [] then some 0 else digits? 8 text
  | text => digits? 10 text

/-- The word that up to four numbers make, each a byte but the last, which fills what is left. -/
def word? (bytes : Nat) : List Nat → Option Nat
  | [] => none
  | [n] => if n < 1 <<< (8 * bytes) then some n else none
  | n :: ns =>
    if n < 256 ∧ 1 < bytes then (word? (bytes - 1) ns).map (n <<< (8 * (bytes - 1)) + ·) else none

/-- The address of four bytes that make a word. -/
def ofWord (n : Nat) : Ip :=
  v4 #v[.ofNat (n >>> 24), .ofNat (n >>> 16), .ofNat (n >>> 8), .ofNat n]

/-- An address of the older version, of up to four numbers with points between them. -/
def readV4? (text : List Char) : Option Ip :=
  ((text.splitOnP (· = '.')).mapM number?).bind fun ns => (word? 4 ns).map ofWord

/-- A byte in decimal without a leading zero. -/
def byte? (text : List Char) : Option Nat :=
  (Decimal.read? text).filter fun n => n < 256 && Decimal.ofNat n = text

/-- Two groups written as four bytes. -/
def pair? (text : List Char) : Option (List UInt16) :=
  match (text.splitOnP (· = '.')).mapM byte? with
  | some [a, b, c, d] => some [.ofNat (256 * a + b), .ofNat (256 * c + d)]
  | _ => none

/-- Up to four digits. -/
def group? (text : List Char) : Option UInt16 :=
  if text.length ≤ 4 then (digits? 16 text).map UInt16.ofNat else none

/-- Groups with colons between them; the last two may be written as four bytes. -/
def groups? : List (List Char) → Option (List UInt16)
  | [] => some []
  | [last] => (pair? last).or ((group? last).map ([·]))
  | first :: rest => (group? first).bind fun g => (groups? rest).map (g :: ·)

/-- The groups of a text, which may be empty. -/
def run? (text : List Char) : Option (List UInt16) :=
  if text = [] then some [] else groups? (text.splitOnP (· = ':'))

/-- The parts of a text around its first two colons in a row. -/
def around? : List Char → Option (List Char × List Char)
  | ':' :: ':' :: rest => some ([], rest)
  | c :: rest => (around? rest).map fun (before, behind) => (c :: before, behind)
  | [] => none

/-- An address of eight groups. -/
def ofGroups? (groups : List UInt16) : Option Ip :=
  if h : groups.toArray.size = 8 then some (v6 ⟨groups.toArray, h⟩) else none

/-- An address of the newer version. Two colons in a row stand for one zero group or more. -/
def readV6? (text : List Char) : Option Ip :=
  match around? text with
  | none => (run? text).bind ofGroups?
  | some (before, behind) => do
    let head ← ((before.splitOnP (· = ':')).mapM group?).or (if before = [] then some [] else none)
    let tail ← run? behind
    if head.length + tail.length < 8 then
      ofGroups? (head ++ List.replicate (8 - head.length - tail.length) 0 ++ tail)
    else none

/-- A text without the brackets around it. -/
def unbracketed? : List Char → Option (List Char)
  | '[' :: rest => if rest.getLast? = some ']' then some rest.dropLast else none
  | _ => none

/-- The address that the name of a host spells out. -/
def read? (name : List Char) : Option Ip := (readV4? name).or (readV6? name)

/-- Four bytes in decimal, or an address of the newer version in brackets, without a zone. -/
def literal? (text : List Char) : Option Ip :=
  match unbracketed? text with
  | some inner => readV6? inner
  | none =>
    match (text.splitOnP (· = '.')).mapM byte? with
    | some [a, b, c, d] => some (v4 #v[.ofNat a, .ofNat b, .ofNat c, .ofNat d])
    | _ => none

end Ip

/-! ## Endpoints -/

/-- Where a server listens. -/
structure Endpoint where
  ip : Ip
  port : UInt16
  deriving DecidableEq, Repr

namespace Endpoint

/-- The address and the port with a colon between them. An address with colons stands in
brackets. -/
def text (e : Endpoint) : List Char :=
  let host := match e.ip with
    | .v4 _ => e.ip.text
    | .v6 _ => '[' :: e.ip.text ++ [']']
  host ++ ':' :: Decimal.ofNat e.port.toNat

/-- The endpoint that a text writes: what stands behind its last colon is the port. -/
def read? (text : List Char) : Option Endpoint := do
  let (host, digits) ← Text.splitLast? ':' text
  let ip ← Ip.literal? host
  let port ← (Decimal.read? digits).filter (· < UInt16.size)
  some ⟨ip, .ofNat port⟩

end Endpoint
end Liveness.Net
