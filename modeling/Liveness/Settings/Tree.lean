import Liveness.Datum

/-! # Settings in layers

* `Tree`: a tree of settings that remembers where each value came from.
* `Tree.Step`, `Tree.Path`: the way from the root to a value.
* `Tree.merge`: a tree laid over another one; tables are joined, all else is replaced.
* `Tree.put`: a value laid over what stands at the end of a path.
-/

namespace Liveness.Settings
set_option autoImplicit false

/-- Where a value came from. -/
inductive Origin where
  | file (name : String)
  | vars
  deriving DecidableEq, Repr

/-- The origin as named in messages. -/
def Origin.text : Origin → String
  | file name => name
  | vars => "the environment"

/-- A value without parts. -/
inductive Scalar where
  | null
  | flag (value : Bool)
  | integer (value : Int)
  | number (value : Binary64)
  | text (value : String)
  deriving DecidableEq, Repr

/-- A tree of settings. What the program itself puts there has no origin. -/
inductive Tree where
  | leaf (origin : Option Origin) (value : Scalar)
  | list (origin : Option Origin) (items : List Tree)
  | table (origin : Option Origin) (entries : List (String × Tree))

namespace Tree

/-- Named trees. -/
abbrev Entries := List (String × Tree)

/-- A table without entries. -/
def empty : Tree := table none []

/-- Where a value came from. -/
def origin : Tree → Option Origin
  | leaf o _ | list o _ | table o _ => o

/-! ## From the data of a file -/

mutual
/-- The data of a file, all of it from there. -/
def ofDatum (o : Option Origin) : Datum → Tree
  | .null => leaf o .null
  | .flag b => leaf o (.flag b)
  | .integer n => leaf o (.integer n)
  | .number x => leaf o (.number x)
  | .text s => leaf o (.text s)
  | .list items => list o (ofData o items)
  | .table members => table o (ofMembers o members)
termination_by structural d => d

/-- The items of a list in a file. -/
def ofData (o : Option Origin) : List Datum → List Tree
  | [] => []
  | d :: data => ofDatum o d :: ofData o data
termination_by structural ds => ds

/-- The members of a table in a file. -/
def ofMembers (o : Option Origin) : List (String × Datum) → Entries
  | [] => []
  | m :: members => ofMember o m :: ofMembers o members
termination_by structural ms => ms

/-- A member of a table in a file. -/
def ofMember (o : Option Origin) : String × Datum → String × Tree
  | (name, d) => (name, ofDatum o d)
termination_by structural m => m
end

/-! ## Tables -/

/-- The entries of a tree; only a table has any. -/
def entries : Tree → Entries
  | table _ es => es
  | _ => []

/-- The origin of a tree that serves as a table. What is made into one has none. -/
def tableOrigin : Tree → Option Origin
  | table o _ => o
  | _ => none

/-- The tree under a name. -/
def get? (name : String) (t : Tree) : Option Tree := t.entries.lookup name

/-- Named trees with a given one under its name. -/
def putEntry (name : String) (value : Tree) : Entries → Entries
  | [] => [(name, value)]
  | (k, v) :: es => if k = name then (k, value) :: es else (k, v) :: putEntry name value es

/-- Changes the tree under a name. What is no table becomes one, and a name that is new stands for
an empty table before the change. -/
def alter (name : String) (change : Tree → Tree) (t : Tree) : Tree :=
  table t.tableOrigin (putEntry name (change ((t.get? name).getD empty)) t.entries)

mutual
/-- A tree laid over another one. The entries of a table are laid over those of the other one by
name; anything else takes its place. -/
def merge (below : Tree) : Tree → Tree
  | leaf o v => leaf o v
  | list o items => list o items
  | table _ es => mergeEntries below es
termination_by structural t => t

/-- Entries laid over a tree one after the other. -/
def mergeEntries (below : Tree) : List (String × Tree) → Tree
  | [] => below
  | e :: es => mergeEntries (mergeEntry below e) es
termination_by structural es => es

/-- An entry laid over a tree. -/
def mergeEntry (below : Tree) : String × Tree → Tree
  | (name, value) => alter name (fun old => merge old value) below
termination_by structural e => e
end

/-! ## Lists -/

/-- The items of a tree; only a list has any. -/
def items : Tree → List Tree
  | list _ ts => ts
  | _ => []

/-- The origin of a tree that serves as a list. What is made into one has none. -/
def listOrigin : Tree → Option Origin
  | list o _ => o
  | _ => none

/-- The place that an index means; a negative one counts from the end. -/
def place (index : Int) (length : Nat) : Nat :=
  match index with
  | .ofNat n => n
  | .negSucc n => length - (n + 1)

/-- Changes the item at an index. What is no list becomes one, and missing items are null. -/
def alterItem (index : Int) (change : Tree → Tree) (t : Tree) : Tree :=
  let i := place index t.items.length
  let padded := t.items ++ List.replicate (i + 1 - t.items.length) (leaf none .null)
  list t.listOrigin (padded.modify i change)

/-! ## Paths -/

/-- A step from a tree to a part of it. -/
inductive Step where
  | name (name : String)
  | index (index : Int)
  deriving DecidableEq, Repr

/-- The way from the root of all settings to a value. -/
structure Path where
  root : String
  steps : List Step
  deriving DecidableEq, Repr

/-- A value laid over what stands at the end of some steps. An item of a list is replaced. -/
def putAt (value : Tree) : List Step → Tree → Tree
  | [], t => merge t value
  | .name k :: steps, t => alter k (putAt value steps) t
  | [.index i], t => alterItem i (fun _ => value) t
  | .index i :: steps, t => alterItem i (putAt value steps) t

/-- A value laid over what stands at the end of a path. -/
def put (t : Tree) (path : Path) (value : Tree) : Tree :=
  alter path.root (putAt value path.steps) t

end Tree
end Liveness.Settings
