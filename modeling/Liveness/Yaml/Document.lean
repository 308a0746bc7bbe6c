import Liveness.Datum
import Liveness.Yaml.Node

/-! # Documents of indented lists and maps

* `Node.datum?`: the plain data of a value.
* `parse?`: the table that a document writes.
-/

namespace Liveness.Yaml
set_option autoImplicit false

namespace Node

/-! ## Maps -/

/-- The name that a key stands for: a text or an integer, which are told apart. -/
def name? : Node → Option (Bool × String)
  | text t => some (true, String.ofList t)
  | integer n => some (false, String.ofList (Decimal.ofInt n))
  | _ => none

/-- A key with the data of its value. -/
abbrev Entry := Option (Bool × String) × Option Datum

/-- The table of some entries. Of two with one key the later counts, and of two keys with one name
too. -/
def table? : List Entry → Option Members
  | [] => some []
  | (key, d) :: more =>
    if more.any (·.1 = key) then table? more
    else match key, d, table? more with
      | some (_, name), some d, some members =>
        some (if members.any (·.1 = name) then members else (name, d) :: members)
      | _, _, _ => none

/-! ## Data -/

mutual
/-- The plain data of a value. What has none is null, but a number that double precision does not
know is refused. -/
def datum? : Node → Option Datum
  | bad => some .null
  | null => some .null
  | flag b => some (.flag b)
  | integer n => some (.integer n)
  | number t => (Floating.read? t).map .number
  | text t => some (.text (String.ofList t))
  | list items => (data? items).map .list
  | map parts => (table? (entries none parts)).map .table
termination_by structural x => x

/-- The plain data of the items of a list. -/
def data? : List Node → Option (List Datum)
  | [] => some []
  | x :: items =>
    match datum? x, data? items with
    | some d, some ds => some (d :: ds)
    | _, _ => none
termination_by structural xs => xs

/-- The entries of a map, whose keys and values come by turns; what is bad is no key. -/
def entries (key : Option Node) : List Node → List Entry
  | [] => []
  | x :: parts =>
    match key with
    | some k => (k.name?, datum? x) :: entries none parts
    | none =>
      match x with
      | bad => entries none parts
      | _ => entries (some x) parts
termination_by structural xs => xs
end

end Node

/-- The table that a document writes. A document that is no table has no members. -/
def parse? (text : List Char) : Option Members := do
  match ← Node.document? (← Token.ofText? text) with
  | none => some []
  | some node =>
    match ← node.datum? with
    | .table members => some members
    | _ => some []

end Liveness.Yaml
