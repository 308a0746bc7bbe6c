import Liveness.Datum
import Liveness.Toml.Moment

/-! # Tables under construction

A document names its tables piece by piece, and what may still be added to a table depends on how it
was made.

* `Entry`: a value or a table that may grow.
* `Entry.assign?`: a value put under a dotted key.
* `Entry.insert?`: a section of the document put under its header.
* `Entry.datum?`: what an entry has become when the document has ended.
-/

namespace Liveness.Toml
set_option autoImplicit false

/-- What a name stands for while the document is read. -/
inductive Entry where
  /-- A finished value. -/
  | value (datum : Datum)
  /-- A date or a time of day as it is written. -/
  | moment (text : List Char)
  | list (items : List Entry)
  /-- A table in braces. -/
  | inline (entries : List (String × Entry))
  /-- A table made by dotted keys, which further dotted keys of its section may extend. -/
  | dotted (entries : List (String × Entry))
  /-- A table made by headers; it is defined once a header names it and not only a part of it. -/
  | table (defined : Bool) (entries : List (String × Entry))
  /-- A list of tables, the newest first; headers below it extend the newest. -/
  | tables (elements : List (List (String × Entry)))

namespace Entry

/-- Named entries. -/
abbrev Entries := List (String × Entry)

/-! ## Growth -/

/-- Replaces what a name stands for. -/
def put (name : String) (entry : Entry) (entries : Entries) : Entries :=
  entries.map fun (k, e) => if k = name then (k, entry) else (k, e)

/-- Puts an entry under a dotted key. -/
def assign? (entry : Entry) : String → List String → Entries → Option Entries
  | name, [], entries => some (entries ++ [(name, entry)])
  | name, next :: more, entries =>
    match entries.lookup name with
    | none => (assign? entry next more []).map fun es => entries ++ [(name, dotted es)]
    | some (dotted es) => (assign? entry next more es).map fun es => put name (dotted es) entries
    | some _ => none

/-- What a header makes of the entry that it names. -/
def define? (many : Bool) (body : Entries) : Option Entry → Option Entry
  | none => some (if many then tables [body] else table true body)
  | some (table false entries) => if many then none else some (table true (entries ++ body))
  | some (tables elements) => if many then some (tables (body :: elements)) else none
  | some _ => none

/-- Puts the body of a section under its header; `many` is a header in double brackets. -/
def insert? (many : Bool) (body : Entries) : String → List String → Entries → Option Entries
  | name, [], entries =>
    match entries.lookup name with
    | none => (define? many body none).map fun e => entries ++ [(name, e)]
    | old => (define? many body old).map fun e => put name e entries
  | name, next :: more, entries =>
    match entries.lookup name with
    | none => (insert? many body next more []).map fun es => entries ++ [(name, table false es)]
    | some (table defined es) =>
      (insert? many body next more es).map fun es => put name (table defined es) entries
    | some (tables (newest :: older)) =>
      (insert? many body next more newest).map fun es => put name (tables (es :: older)) entries
    | some _ => none

/-! ## The end of the document -/

/-- A table whose first name this is stands for a date or a time of day. -/
def momentName : String := "$__toml_private_datetime"

/-- Whether entries stand for a date or a time of day. -/
def isMoment (entries : Entries) : Bool := (entries.head?.map (·.1)) = some momentName

/-- Whether an entry was made by headers. -/
def isSection : Entry → Bool
  | table .. | tables _ => true
  | _ => false

/-- The canonical text of a date or a time of day. -/
def momentDatum? (text : List Char) : Option Datum :=
  (Moment.read? text).map fun m => .text (String.ofList m.text)

/-- What a table has become, from its entries and from the values of these, if all have one. The
text of a date or a time of day stands for the table alone, and what else is in it does not count,
but it must have no sections. In any other table a name stands for one value. -/
def close? (entries : Entries) (members : Option Members) : Option Datum :=
  match entries with
  | (name, first) :: more =>
    if name = momentName then
      match first with
      | value (.text s) => if more.any (·.2.isSection) then none else momentDatum? s.toList
      | _ => none
    else if entries.map (·.1) = (entries.map (·.1)).eraseDups then members.map .table
    else none
  | [] => some (.table [])

mutual
/-- What an entry has become. -/
def datum? : Entry → Option Datum
  | value d => some d
  | moment text => momentDatum? text
  | list items => (datums? items).map .list
  | inline entries => close? entries (members? entries)
  | dotted entries => close? entries (members? entries)
  | table _ entries => close? entries (members? entries)
  | tables elements => (elements? elements).map fun ds => .list ds.reverse
termination_by structural e => e

/-- What the items of a list have become. -/
def datums? : List Entry → Option (List Datum)
  | [] => some []
  | e :: entries =>
    match datum? e, datums? entries with
    | some d, some ds => some (d :: ds)
    | _, _ => none
termination_by structural es => es

/-- What named entries have become. -/
def members? : List (String × Entry) → Option Members
  | [] => some []
  | e :: entries =>
    match member? e, members? entries with
    | some m, some ms => some (m :: ms)
    | _, _ => none
termination_by structural es => es

/-- What a named entry has become. -/
def member? : String × Entry → Option (String × Datum)
  | (name, entry) => (datum? entry).map (name, ·)
termination_by structural e => e

/-- What the tables of a list have become. -/
def elements? : List (List (String × Entry)) → Option (List Datum)
  | [] => some []
  | entries :: elements =>
    match close? entries (members? entries), elements? elements with
    | some d, some ds => some (d :: ds)
    | _, _ => none
termination_by structural es => es
end

end Entry
end Liveness.Toml
