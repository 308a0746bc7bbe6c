import Liveness.Number.Floating
import Liveness.Yaml.Token

/-! # Values in a document

* `Node`: a value, in which the parts of a map are not yet paired.
* `Node.ofPlain`: the value that a text without quotes stands for.
* `Node.read?`: the value that begins with a token.
* `Node.document?`: the value of a document, if it has one.
-/

namespace Liveness.Yaml
set_option autoImplicit false

/-- A value in a document. -/
inductive Node where
  /-- What a tag does not allow, or a value inside of itself. -/
  | bad
  | null
  | flag (value : Bool)
  | integer (value : Int)
  /-- A number in double precision as it is written. -/
  | number (text : List Char)
  | text (content : List Char)
  | list (items : List Node)
  /-- Keys and values by turns. -/
  | map (parts : List Node)
  deriving Repr

namespace Node

/-! ## Texts without quotes -/

/-- A number behind an optional sign, if 64 bits hold it. -/
def signed? (read : List Char → Option Nat) (text : List Char) : Option Int :=
  let (negative, digits) := Floating.sign text
  ((read digits).map fun n => if negative then -(n : Int) else n).filter Decimal.isSigned

/-- The digits of a number in a base of at most sixteen. -/
def inBase? (base : Nat) (text : List Char) : Option Nat := do
  let ds ← text.mapM Text.hexDigit?
  if ds ≠ [] && ds.all (· < base) then some (ds.foldl (base * · + ·) 0) else none

/-- The integer that a text writes in base sixteen, eight or ten, the last with up to two signs of
which the first is a plus sign. -/
def integer? (text : List Char) : Option Int :=
  let other := match text with
    | '0' :: 'x' :: rest => signed? (inBase? 16) rest
    | '0' :: 'o' :: rest => signed? (inBase? 8) rest
    | '+' :: rest => signed? Decimal.read? rest
    | _ => none
  other.or (signed? Decimal.read? text)

/-- The words for numbers that are no numbers or not finite, beyond those that are read as such. -/
def isWord (text : List Char) : Bool :=
  [".inf", ".Inf", ".INF", "+.inf", "+.Inf", "+.INF", "-.inf", "-.Inf", "-.INF", ".nan",
    ".NAN"].contains (String.ofList text)

/-- Whether a text writes a number in double precision. -/
def isNumber (text : List Char) : Bool := isWord text || (Floating.read? text).isSome

/-- The value that a text without quotes stands for. -/
def ofPlain (t : List Char) : Node :=
  match String.ofList t, integer? t with
  | "~", _ | "null", _ => null
  | "true", _ => flag true
  | "false", _ => flag false
  | _, some n => integer n
  | _, none => if isNumber t then number t else text t

/-- The value that a text without quotes stands for below a core tag. -/
def ofTagged (tag t : List Char) : Node :=
  match String.ofList tag, String.ofList t with
  | "bool", "true" => flag true
  | "bool", "false" => flag false
  | "bool", _ => bad
  | "int", _ => ((signed? Decimal.read? t).map integer).getD bad
  | "float", _ => if isNumber t then number t else bad
  | "null", "~" | "null", "null" => null
  | "null", _ => bad
  | _, _ => text t

/-- The value of a text with an optional tag, whose name is known if it is a core tag. -/
def ofText (plain : Bool) (tag : Option (Option (List Char))) (t : List Char) : Node :=
  match plain, tag with
  | false, _ | true, some none => text t
  | true, some (some name) => ofTagged name t
  | true, none => ofPlain t

/-! ## Anchors -/

/-- The anchors up to a place: their numbers by name, and their values by number. -/
structure Anchors where
  count : Nat := 0
  numbers : List (List Char × Nat) := []
  nodes : List (Nat × Node) := []

/-- One more anchor, which hides earlier ones of its name. -/
def Anchors.declare (a : Anchors) (name : List Char) : Anchors :=
  { a with count := a.count + 1, numbers := (name, a.count) :: a.numbers }

/-- The value of an anchor. -/
def Anchors.define (a : Anchors) (number : Option Nat) (node : Node) : Anchors :=
  match number with
  | some n => { a with nodes := (n, node) :: a.nodes }
  | none => a

/-- The value that a name stands for. It is not known inside of itself. -/
def Anchors.get? (a : Anchors) (name : List Char) : Option Node :=
  (a.numbers.lookup name).map fun n => (a.nodes.lookup n).getD bad

/-- What stands in front of a value. -/
structure Properties where
  anchor : Option Nat := none
  tag : Option (Option (List Char)) := none

/-- An anchor and a tag in front of a value, in any order, and the tokens behind them. -/
def properties (a : Anchors) (tokens : List Token) : Properties × Anchors × List Token :=
  match tokens with
  | .anchor name :: .tag tag :: rest | .tag tag :: .anchor name :: rest =>
    (⟨some a.count, some tag⟩, a.declare name, rest)
  | .anchor name :: rest => (⟨some a.count, none⟩, a.declare name, rest)
  | .tag tag :: rest => (⟨none, some tag⟩, a, rest)
  | _ => ({}, a, tokens)

/-! ## Values from tokens -/

/-- Where a value stands: whether it may be an indented list or map, and whether it may be a list
that is not indented. -/
structure Spot where
  block : Bool := true
  level : Bool := false

/-- A value and all that follows it. -/
abbrev Found := Node × Anchors × List Token

/-- Several values and all that follows them. -/
abbrev FoundAll := List Node × Anchors × List Token

/-- One more value in front of others. -/
def FoundAll.cons (node : Node) (found : FoundAll) : FoundAll := (node :: found.1, found.2)

/-- Whether a token leaves out a part of an indented map. -/
def isMapMark (t : Option Token) : Bool := t = some .key || t = some .value || t = some .blockEnd

/-- Whether a token leaves out a part of a list or map in brackets. -/
def isFlowEnd (last : Token) (t : Option Token) : Bool := t = some .comma || t = some last

mutual
/-- The value that begins with a token. -/
def read? : Nat → Spot → Anchors → List Token → Option Found
  | 0, _, _, _ => none
  | n + 1, spot, a, tokens =>
    match tokens with
    | .alias name :: rest => (a.get? name).map (·, a, rest)
    | _ =>
      let (p, a, tokens) := properties a tokens
      (content? n spot p a tokens).map fun (node, a, rest) => (node, a.define p.anchor node, rest)

/-- The value behind its properties. It may be left out if there are any. -/
def content? : Nat → Spot → Properties → Anchors → List Token → Option Found
  | 0, _, _, _, _ => none
  | n + 1, spot, p, a, tokens =>
    match tokens with
    | .text plain t :: rest => some (ofText plain p.tag t, a, rest)
    | .leftBracket :: rest => (flowItems? n true a rest).map fun (xs, a, r) => (list xs, a, r)
    | .leftBrace :: rest => (flowParts? n true a rest).map fun (xs, a, r) => (map xs, a, r)
    | .item :: _ =>
      if spot.level then (levelItems? n a tokens).map fun (xs, a, r) => (list xs, a, r)
      else omitted p a tokens
    | .listStart :: rest =>
      if spot.block then (items? n a rest).map fun (xs, a, r) => (list xs, a, r)
      else omitted p a tokens
    | .mapStart :: rest =>
      if spot.block then (parts? n a rest).map fun (xs, a, r) => (map xs, a, r)
      else omitted p a tokens
    | _ => omitted p a tokens

/-- The items of an indented list. -/
def items? : Nat → Anchors → List Token → Option FoundAll
  | 0, _, _ => none
  | n + 1, a, tokens =>
    match tokens with
    | .blockEnd :: rest => some ([], a, rest)
    | .item :: rest =>
      if rest.head? = some .item || rest.head? = some .blockEnd then
        (items? n a rest).map (FoundAll.cons null)
      else do
        let (x, a, rest) ← read? n {} a rest
        (items? n a rest).map (FoundAll.cons x)
    | _ => none

/-- The items of a list that is not indented. -/
def levelItems? : Nat → Anchors → List Token → Option FoundAll
  | 0, _, _ => none
  | n + 1, a, tokens =>
    match tokens with
    | .item :: rest =>
      if rest.head? = some .item || isMapMark rest.head? then
        (levelItems? n a rest).map (FoundAll.cons null)
      else do
        let (x, a, rest) ← read? n {} a rest
        (levelItems? n a rest).map (FoundAll.cons x)
    | _ => some ([], a, tokens)

/-- The keys and values of an indented map. -/
def parts? : Nat → Anchors → List Token → Option FoundAll
  | 0, _, _ => none
  | n + 1, a, tokens =>
    match tokens with
    | .blockEnd :: rest => some ([], a, rest)
    | .key :: rest => do
      let (k, a, rest) ← part? n a rest
      let (v, a, rest) ← valuePart? n a rest
      (parts? n a rest).map fun found => (found.cons v).cons k
    | .value :: _ => do
      let (v, a, rest) ← valuePart? n a tokens
      (parts? n a rest).map fun found => (found.cons v).cons null
    | _ => none

/-- A key or a value of an indented map, which may be left out. -/
def part? : Nat → Anchors → List Token → Option Found
  | 0, _, _ => none
  | n + 1, a, tokens =>
    if isMapMark tokens.head? then some (null, a, tokens)
    else read? n { level := true } a tokens

/-- The value behind its colon, if there is one. -/
def valuePart? : Nat → Anchors → List Token → Option Found
  | 0, _, _ => none
  | n + 1, a, tokens =>
    match tokens with
    | .value :: rest => part? n a rest
    | _ => some (null, a, tokens)

/-- The items of a list in brackets. -/
def flowItems? : Nat → Bool → Anchors → List Token → Option FoundAll
  | 0, _, _, _ => none
  | n + 1, first, a, tokens =>
    match tokens with
    | .rightBracket :: rest => some ([], a, rest)
    | _ =>
      match first, tokens with
      | true, _ => flowItem? n a tokens
      | false, .comma :: .rightBracket :: rest => some ([], a, rest)
      | false, .comma :: rest => flowItem? n a rest
      | false, _ => none

/-- An item of a list in brackets, which may be a key and a value alone, and the items behind it. -/
def flowItem? : Nat → Anchors → List Token → Option FoundAll
  | 0, _, _ => none
  | n + 1, a, tokens =>
    match tokens with
    | .key :: .value :: rest | .key :: .comma :: rest | .key :: .rightBracket :: rest => do
      let (v, a, rest) ← flowValue? n .rightBracket a rest
      (flowItems? n false a rest).map (FoundAll.cons (map [null, v]))
    | .key :: rest => do
      let (k, a, rest) ← read? n { block := false } a rest
      let (v, a, rest) ← flowValue? n .rightBracket a rest
      (flowItems? n false a rest).map (FoundAll.cons (map [k, v]))
    | _ => do
      let (x, a, rest) ← read? n { block := false } a tokens
      (flowItems? n false a rest).map (FoundAll.cons x)

/-- The keys and values of a map in brackets. -/
def flowParts? : Nat → Bool → Anchors → List Token → Option FoundAll
  | 0, _, _, _ => none
  | n + 1, first, a, tokens =>
    match tokens with
    | .rightBrace :: rest => some ([], a, rest)
    | _ =>
      match first, tokens with
      | true, _ => flowPart? n a tokens
      | false, .comma :: .rightBrace :: rest => some ([], a, rest)
      | false, .comma :: rest => flowPart? n a rest
      | false, _ => none

/-- A key of a map in brackets with its value, and what is behind them. One without a question mark
or a colon has no value. -/
def flowPart? : Nat → Anchors → List Token → Option FoundAll
  | 0, _, _ => none
  | n + 1, a, tokens => do
    let marked := tokens.head? = some .key || tokens.head? = some .value
    let (k, a, rest) ← flowKey? n a tokens
    let (v, a, rest) ← if marked then flowValue? n .rightBrace a rest else some (null, a, rest)
    (flowParts? n false a rest).map fun found => (found.cons v).cons k

/-- A key of a map in brackets, which may be left out. -/
def flowKey? : Nat → Anchors → List Token → Option Found
  | 0, _, _ => none
  | n + 1, a, tokens =>
    match tokens with
    | .key :: rest =>
      if rest.head? = some .value || isFlowEnd .rightBrace rest.head? then some (null, a, rest)
      else read? n { block := false } a rest
    | .value :: _ => some (null, a, tokens)
    | _ => read? n { block := false } a tokens

/-- The value behind its colon in brackets, if there is one. -/
def flowValue? : Nat → Token → Anchors → List Token → Option Found
  | 0, _, _, _ => none
  | n + 1, last, a, tokens =>
    match tokens with
    | .value :: rest =>
      if isFlowEnd last rest.head? then some (null, a, rest)
      else read? n { block := false } a rest
    | _ => some (null, a, tokens)

/-- A value that is left out. -/
def omitted (p : Properties) (a : Anchors) (tokens : List Token) : Option Found :=
  if p.tag.isSome || p.anchor.isSome then some (ofText true p.tag [], a, tokens) else none
end

/-! ## Documents -/

/-- Whether a token ends an empty document. -/
def endsEmpty : Token → Bool
  | .directive | .documentStart | .documentEnd => true
  | _ => false

/-- The value of the only document, if there is one. -/
def document? (tokens : List Token) : Option (Option Node) := do
  let bound := 4 * tokens.length + 4
  let (node, rest) ←
    match tokens with
    | [] => some (none, [])
    | t :: _ =>
      if t = .directive || t = .documentStart then
        match tokens.dropWhile (· = .directive) with
        | .documentStart :: rest =>
          if rest.head?.all endsEmpty then some (some null, rest)
          else (read? bound {} {} rest).map fun (node, _, rest) => (some node, rest)
        | _ => none
      else (read? bound {} {} tokens).map fun (node, _, rest) => (some node, rest)
  if rest.all (· = .documentEnd) then some node else none

end Node
end Liveness.Yaml
