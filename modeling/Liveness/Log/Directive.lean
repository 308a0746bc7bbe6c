import Liveness.Log.Field
import Liveness.Log.Level
import Liveness.Log.Pattern.Automaton
import Liveness.Log.Pattern.Reader
import Liveness.Number.Floating

/-! # Directives

* `Site`: what is known of an event or a span before it happens.
* `Directive`: a limit for the events and spans of some sites.
* `Directive.parse?`: the directive written by a text.
* `Directive.concerns`: whether a directive is about a site.
-/

namespace Liveness.Log
set_option autoImplicit false

/-- What is known of an event or a span before it happens. Only a span has a name. -/
structure Site where
  span : Option String
  level : Level
  target : String
  fields : List String
  deriving DecidableEq, Repr

/-- What the value of a field must be. A number behind a minus sign is told apart from others, be
it zero. No field holds a number with a fraction. Patterns are told apart by what they are written
as. -/
inductive Wanted where
  | flag (value : Bool)
  | natural (value : Nat)
  | integer (value : Int)
  | fraction (value : Binary64)
  | pattern (source : List Char) (pattern : Pattern)
  deriving DecidableEq, Repr

/-- A field that a span must have, and what its value must be. -/
structure FieldMatch where
  name : String
  value : Option Wanted
  deriving DecidableEq, Repr

/-- A limit for the events and spans of some sites. -/
structure Directive where
  target : Option String
  span : Option String
  field : Option FieldMatch
  limit : Limit
  deriving DecidableEq, Repr

namespace Wanted

/-- Whether a value is wanted. -/
def accepts : Wanted → Value → Bool
  | flag b, .flag v => b = v
  | natural n, .integer v => n = v
  | integer n, .integer v => n = v
  | pattern _ p, .text s => p.finds s.toList
  | _, _ => false

/-! ## Reading -/

/-- What a text asks a value to be: a truth value, a number, or text that a pattern finds. -/
def parse? (text : List Char) : Option Wanted :=
  if text = ['t', 'r', 'u', 'e'] then some (flag true)
  else if text = ['f', 'a', 'l', 's', 'e'] then some (flag false)
  else match Decimal.readUnsigned? text, Decimal.readSigned? text with
    | some n, _ => some (natural n)
    | none, some n => some (integer n)
    | none, none =>
      match Floating.read? text with
      | some x => some (fraction x.unsignedZero)
      | none => (Pattern.parse? text).map (pattern text)

end Wanted

namespace FieldMatch

/-- A name, and behind an equals sign what the value must be. A second equals sign ends it. -/
def parse? (text : List Char) : Option FieldMatch :=
  let name := String.ofList (text.takeWhile (· ≠ '='))
  match text.dropWhile (· ≠ '=') with
  | [] => some ⟨name, none⟩
  | _ :: rest => (Wanted.parse? (rest.takeWhile (· ≠ '='))).map fun w => ⟨name, some w⟩

/-- Whether fields have the name with a wanted value. -/
def holds (m : FieldMatch) (fields : Fields) : Bool :=
  match m.value with
  | none => true
  | some w => (fields.get? m.name).any w.accepts

end FieldMatch

namespace Directive

/-! ## Reading

A directive is `target[span{field}]=level`, where every part may be missing, or a level alone. White
space around it is no part of its form. The parts are cut where they stand in the directive without
that white space, but out of the text with it. -/

/-- The part of a directive that is being read, with what has been read of it. -/
inductive Part where
  | start
  | word (text : List Char)
  | span (text : List Char)
  | field (text : List Char)
  | fieldEnd
  | spanEnd
  | limit (text : List Char)
  deriving DecidableEq, Repr

/-- A directive that is being read. Without a level everything is let through. -/
structure Draft where
  part : Part := .start
  target : Option String := none
  span : Option String := none
  field : Option FieldMatch := none
  deriving DecidableEq, Repr

/-- A character that a target or a level may begin with. -/
def beginsWord (c : Char) : Bool := c = '-' || c = ':' || c = '_' || Text.isAlphanumeric c

/-- One more character: `c` says what it means, `d` is what is cut. -/
def Draft.step (s : Draft) : Char × Char → Option Draft
  | (c, d) =>
    match s.part with
    | .start =>
      if c = '[' then some { s with part := .span [] }
      else if beginsWord c then some { s with part := .word [d] }
      else none
    | .word t =>
      if c = '=' then some { s with target := some (String.ofList t), part := .limit [] }
      else if c = '[' then some { s with target := some (String.ofList t), part := .span [] }
      else some { s with part := .word (t ++ [d]) }
    | .span t =>
      if c = ']' then some { s with span := some (String.ofList t), part := .spanEnd }
      else if c = '\x7b' then
        some { s with span := if t = [] then none else some (String.ofList t), part := .field [] }
      else some { s with part := .span (t ++ [d]) }
    | .field t =>
      if c = '\x7d' then
        if t = [] then none
        else (FieldMatch.parse? t).map fun m => { s with field := some m, part := .fieldEnd }
      else some { s with part := .field (t ++ [d]) }
    | .fieldEnd => if c = ']' then some { s with part := .spanEnd } else none
    | .spanEnd => if c = '=' then some { s with part := .limit [] } else none
    | .limit t => some { s with part := .limit (t ++ [d]) }

/-- The directive that is read when its form has ended, with the rest of the text. -/
def Draft.finish? (s : Draft) (rest : List Char) : Option Directive :=
  let all := Limit.downTo .trace
  match s.part with
  | .word t =>
    match Limit.read? (t ++ rest) with
    | some limit => some ⟨none, none, none, limit⟩
    | none => some ⟨some (String.ofList (t ++ rest)), none, none, all⟩
  | .limit t =>
    if t ++ rest = [] then some ⟨s.target, s.span, s.field, all⟩
    else (Limit.read? (t ++ rest)).map fun limit => ⟨s.target, s.span, s.field, limit⟩
  | .spanEnd => some ⟨s.target, s.span, s.field, all⟩
  | _ => none

/-- The directive written by a text. -/
def parse? (text : List Char) : Option Directive :=
  let form := Text.trim text
  match (form.zip text).foldlM Draft.step {} with
  | some draft => draft.finish? (text.drop form.length)
  | none => none

/-! ## Sites -/

/-- Whether a directive is about spans alone, by their name or their fields. -/
def isDynamic (d : Directive) : Bool := d.span.isSome || d.field.isSome

/-- Whether a directive has no condition but its target and the presence of a field. -/
def isStatic (d : Directive) : Bool := d.span.isNone && d.field.all (·.value.isNone)

/-- Whether a target begins with the one of the directive. -/
def hasTarget (d : Directive) (target : String) : Bool :=
  d.target.all fun t => t.toList.isPrefixOf target.toList

/-- Whether a site has the field of the directive. -/
def hasField (d : Directive) (site : Site) : Bool :=
  d.field.all fun m => site.fields.contains m.name

/-- Whether a directive is about a span, as far as its site tells. -/
def concernsSpan (d : Directive) (site : Site) : Bool :=
  d.hasTarget site.target && d.span.all (site.span = some ·) && d.hasField site

/-- Whether a directive without conditions on spans is about a site. A span need not have the
field. -/
def concerns (d : Directive) (site : Site) : Bool :=
  d.hasTarget site.target && (site.span.isSome || d.hasField site)

/-- Whether two directives are about the same, so that the later replaces the earlier. -/
def sameKey (a b : Directive) : Bool :=
  a.target = b.target && a.span = b.span && a.field = b.field

/-- The length of the target; a missing one is shorter than an empty one. -/
def targetLength (d : Directive) : Nat :=
  match d.target with
  | some t => t.length + 1
  | none => 0

/-- The name of the field, and nothing if there is none. -/
def fieldName (d : Directive) : String :=
  match d.field with
  | some m => m.name
  | none => ""

/-- Whether a directive is more specific than another one: by the length of its target, then by
having a field, then by the order of names. -/
def moreSpecific (a b : Directive) : Bool :=
  if a.targetLength ≠ b.targetLength then b.targetLength < a.targetLength
  else if a.field.isSome ≠ b.field.isSome then a.field.isSome
  else if a.target ≠ b.target then b.target.getD "" < a.target.getD ""
  else b.fieldName < a.fieldName

end Directive
end Liveness.Log
