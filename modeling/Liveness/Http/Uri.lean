/-! # Request URIs

* `Uri`: the four forms that a request line may name its resource in.
* `Uri.parse?`: the URI written by a text, if it writes one; a fragment is dropped.
* `Uri.requestTarget`: what the router compares, which is empty for the forms that name a host.
* `Uri.text`: the URI as written in the log.
-/

namespace Liveness.Http
set_option autoImplicit false

/-- A path and the query behind it. -/
structure PathAndQuery where
  path : List Char
  query : Option (List Char)
  deriving DecidableEq, Repr

/-- The four forms of a request URI. -/
inductive Uri where
  /-- A path on the server that is asked. -/
  | origin (resource : PathAndQuery)
  /-- The server as a whole. -/
  | asterisk
  /-- A host alone. -/
  | authority (host : List Char)
  /-- A resource with its scheme and host. -/
  | absolute (scheme host : List Char) (resource : PathAndQuery)
  deriving DecidableEq, Repr

/-! ## Path and query -/

namespace PathAndQuery

/-- The characters of a path. -/
def isPathChar (c : Char) : Bool :=
  let n := c.toNat
  n == 0x21 || (0x24 ≤ n && n ≤ 0x3B) || n == 0x3D || (0x40 ≤ n && n ≤ 0x5F) ||
    (0x61 ≤ n && n ≤ 0x7A) || n == 0x7C || n == 0x7E || n == 0x22 || n == 0x7B || n == 0x7D

/-- The characters of a query. -/
def isQueryChar (c : Char) : Bool :=
  let n := c.toNat
  n == 0x21 || (0x24 ≤ n && n ≤ 0x3B) || n == 0x3D || (0x3F ≤ n && n ≤ 0x7E)

/-- The query that a text begins with, up to its end or to a fragment. -/
def parseQuery? (text : List Char) : Option (List Char) :=
  match text.dropWhile isQueryChar with
  | [] | '#' :: _ => some (text.takeWhile isQueryChar)
  | _ => none

/-- A path, a query after a question mark, and a fragment that is dropped unread. -/
def parse? (text : List Char) : Option PathAndQuery :=
  let path := text.takeWhile isPathChar
  match text.dropWhile isPathChar with
  | [] | '#' :: _ => some ⟨path, none⟩
  | '?' :: rest => (parseQuery? rest).map fun query => ⟨path, some query⟩
  | _ => none

/-- The query with its question mark. -/
def queryText : Option (List Char) → List Char
  | some query => '?' :: query
  | none => []

/-- The path and the query as one text; an empty path is the root. -/
def text (p : PathAndQuery) : List Char :=
  (if p.path = [] then ['/'] else p.path) ++ queryText p.query

end PathAndQuery

/-! ## Host -/

/-- What a reader of a host has seen: the colons that may still belong to a port, the square
brackets of a literal address, and a percent sign that no user name has taken. -/
structure HostScan where
  colons : Nat := 0
  opened : Bool := false
  closed : Bool := false
  percent : Bool := false
  deriving DecidableEq, Repr

namespace HostScan

/-- The greatest number of colons in a host, as in a literal address. -/
def maxColons : Nat := 8

/-- The marks that may stand in a host. -/
def isHostMark (c : Char) : Bool :=
  ['!', '$', '&', '\x27', '(', ')', '*', '+', ',', '-', '.', ';', '=', '_', '~'].contains c

/-- One more character of a host, if it may stand there. -/
def step (s : HostScan) (c : Char) : Option HostScan :=
  if c = ':' then
    if s.colons < maxColons then some { s with colons := s.colons + 1 } else none
  else if c = '[' then
    if s.percent || s.opened then none else some { s with opened := true }
  else if c = ']' then
    if !s.opened || s.closed then none
    else some { s with closed := true, colons := 0, percent := false }
  else if c = '@' then some { s with colons := 0, percent := false }
  else if c = '%' then some { s with percent := true }
  else if c.isAlphanum || isHostMark c then some s
  else none

/-- Whether a host may end here. -/
def isComplete (s : HostScan) : Bool :=
  s.opened == s.closed && s.colons ≤ 1 && !s.percent

end HostScan

/-- Whether a text can be a host, with an optional user name before it and port behind it. -/
def isHost (text : List Char) : Bool :=
  match text.foldlM HostScan.step {} with
  | some s => s.isComplete && text.getLast? != some '@'
  | none => false

/-- A character that ends the host. -/
def endsHost (c : Char) : Bool := c = '/' || c = '?' || c = '#'

/-! ## Scheme -/

/-- The characters of a scheme. -/
def isSchemeChar (c : Char) : Bool :=
  c.isAlphanum || c = '+' || c = '-' || c = '.' || c = '~'

/-- The greatest length of a scheme. -/
def maxSchemeLength : Nat := 64

/-- A well-known scheme is kept in lower case, any other as it is written. -/
def normalScheme (name : List Char) : List Char :=
  let lower := name.map Char.toLower
  if lower = ['h', 't', 't', 'p'] ∨ lower = ['h', 't', 't', 'p', 's'] then lower else name

/-! ## The whole URI -/

namespace Uri

/-- The greatest length of a URI in bytes. -/
def maxLength : Nat := 65534

/-- The length of a text in bytes. -/
def byteLength : List Char → Nat
  | [] => 0
  | c :: cs => c.utf8Size + byteLength cs

/-- A resource behind a scheme: a host, which may not be empty, and a path. -/
def parseAbsolute? (scheme text : List Char) : Option Uri :=
  let host := text.takeWhile (!endsHost ·)
  if host = [] ∨ !isHost host then none
  else (PathAndQuery.parse? (text.dropWhile (!endsHost ·))).map (absolute scheme host)

/-- A URI that begins with neither a slash nor an asterisk alone. -/
def parseHosted? (text : List Char) : Option Uri :=
  let name := text.takeWhile isSchemeChar
  match text.dropWhile isSchemeChar with
  | ':' :: '/' :: '/' :: rest =>
    if name.length > maxSchemeLength then none else parseAbsolute? (normalScheme name) rest
  | _ => if text.all (!endsHost ·) && isHost text then some (authority text) else none

/-- The URI written by a text. -/
def parse? (text : List Char) : Option Uri :=
  if byteLength text > maxLength then none
  else match text with
    | [] => none
    | ['*'] => some asterisk
    | '/' :: _ => (PathAndQuery.parse? text).map origin
    | _ => parseHosted? text

/-- What the router compares: the path and query as sent. It is empty where the URI names a host. -/
def requestTarget : Uri → List Char
  | origin resource => resource.text
  | asterisk => ['*']
  | authority _ | absolute .. => []

/-- The URI as written in the log. -/
def text : Uri → List Char
  | origin resource => resource.text
  | asterisk => ['*']
  | authority host => host
  | absolute scheme host resource => scheme ++ ':' :: '/' :: '/' :: host ++ resource.text

end Uri
end Liveness.Http
