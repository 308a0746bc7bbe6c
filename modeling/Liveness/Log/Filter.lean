import Liveness.Log.Directive

/-! # Filters

* `Filter`: directives in force, the most specific first.
* `Filter.ofText`: the filter of a text, in which pieces that are no directives have no effect.
* `Filter.ofVariable?`: the filter of a text in which every piece must be a directive.
* `Filter.choose`: the filter of a program, which a variable may replace.
* `Filter.admitsSpan`, `Filter.admitsEvent`: what is let through.
-/

namespace Liveness.Log
set_option autoImplicit false

/-- Directives in force. -/
structure Filter where
  /-- The directives that hold at all times, the most specific first. -/
  fixed : List Directive
  /-- The directives that hold inside some spans. -/
  inSpans : List Directive
  /-- The most generous limit that a scoped directive ever had. -/
  reach : Limit
  deriving Repr

namespace Filter

/-- A filter without directives, which lets nothing through. -/
def empty : Filter := ⟨[], [], .off⟩

/-! ## Making a filter -/

/-- A directive put among others by how specific it is, in place of one about the same. -/
def place (d : Directive) (ds : List Directive) : List Directive :=
  let others := ds.filter (!·.sameKey d)
  others.takeWhile (·.moreSpecific d) ++ d :: others.dropWhile (·.moreSpecific d)

/-- A directive that holds at all times. -/
def addFixed (f : Filter) (d : Directive) : Filter :=
  { f with fixed := place { d with field := d.field.map fun m => ⟨m.name, none⟩ } f.fixed }

/-- A directive that holds inside some spans. -/
def addScoped (f : Filter) (d : Directive) : Filter :=
  { f with
    inSpans := f.inSpans.filter (!·.sameKey d) ++ [d]
    reach := f.reach.max d.limit }

/-- The filter of some directives. Those about spans alone are scoped, all without further
conditions hold at all times, and of two about the same the later is in force. -/
def ofDirectives (ds : List Directive) : Filter :=
  let inSpans := ds.filter (·.isDynamic)
  let fixed := ds.filter (!·.isDynamic) ++ inSpans.filter (·.isStatic)
  inSpans.foldl addScoped (fixed.foldl addFixed empty)

/-- The pieces of a text between commas, without empty ones. -/
def pieces (text : List Char) : List (List Char) :=
  (text.splitOnP (· = ',')).filter (· ≠ [])

/-- What a filter without directives does. -/
def fallback : Directive := ⟨none, none, none, .downTo .error⟩

/-- The filter of a text. Pieces that are no directives have no effect, and without directives
errors are let through. -/
def ofText (text : String) : Filter :=
  match (pieces text.toList).filterMap Directive.parse? with
  | [] => ofDirectives [fallback]
  | ds => ofDirectives ds

/-- The filter of a text in which every piece must be a directive. Without directives nothing is let
through. -/
def ofVariable? (text : String) : Option Filter :=
  ((pieces text.toList).mapM Directive.parse?).map ofDirectives

/-- The filter of a program: that of a variable if it is set and well formed, else the default. -/
def choose (setting : Option String) (text : String) : Filter :=
  (setting.bind ofVariable?).getD (ofText text)

/-! ## Applying a filter -/

/-- Whether the most specific fixed directive about a site lets it through. -/
def admitsFixed (f : Filter) (site : Site) : Bool :=
  match f.fixed.find? (·.concerns site) with
  | some d => d.limit.admits site.level
  | none => false

/-- Whether one of the scopes that are open lets a site through. -/
def admitsScoped (f : Filter) (scopes : List Limit) (site : Site) : Bool :=
  f.reach.admits site.level && scopes.any (·.admits site.level)

/-- The scoped directives about a span. -/
def about (f : Filter) (site : Site) : List Directive := f.inSpans.filter (·.concernsSpan site)

/-- Whether a span is let through. One that a scoped directive is about is so whatever its fields
hold. -/
def admitsSpan (f : Filter) (scopes : List Limit) (site : Site) : Bool :=
  (f.reach.admits site.level && !(f.about site).isEmpty) || f.admitsScoped scopes site ||
    f.admitsFixed site

/-- Whether an event is let through. -/
def admitsEvent (f : Filter) (scopes : List Limit) (site : Site) : Bool :=
  f.admitsScoped scopes site || f.admitsFixed site

/-- The limit that holds inside a span, if a scoped directive is about it: the most generous one
among those whose field holds. -/
def scope? (f : Filter) (site : Site) (fields : Fields) : Option Limit :=
  match f.about site with
  | [] => none
  | ds => some ((ds.filter fun d => d.field.all (·.holds fields)).foldl
      (fun limit d => limit.max d.limit) .off)

end Filter
end Liveness.Log
