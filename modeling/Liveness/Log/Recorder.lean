import Liveness.Log.Filter
import Liveness.Log.Record
import Liveness.Text.Uppercase

/-! # Recording events and spans

* `Recorder`: a filter and the spans that are open.
* `Recorder.event`, `Recorder.enter`, `Recorder.exit`, `Recorder.message`: what is written when
  something happens.
* `Step`, `Recorder.step`, `Recorder.run`: the same for a sequence of happenings.
* `Recorder.close`: what is written when all open spans are closed.
-/

namespace Liveness.Log
set_option autoImplicit false

/-- An open span. Its fields include those of the spans around it. -/
structure OpenSpan where
  name : String
  level : Level
  target : String
  fields : Fields
  /-- The limit that a directive sets inside the span. -/
  scope : Option Limit
  /-- When the span was opened. -/
  since : Nat
  deriving Repr

/-- A filter and the spans that are open, the innermost first. A span that the filter does not let
through is kept as none. -/
structure Recorder where
  name : String
  filter : Filter
  spans : List (Option OpenSpan) := []
  /-- The time in milliseconds. -/
  now : Nat := 0

namespace Recorder

/-- A recorder with the filter of a program, which a variable may replace. -/
def make (name text : String) (setting : Option String) : Recorder :=
  { name, filter := .choose setting text }

/-- The open spans that were let through, the innermost first. -/
def visible (r : Recorder) : List OpenSpan := r.spans.filterMap id

/-- The innermost open span that was let through. -/
def current? (r : Recorder) : Option OpenSpan := r.visible.head?

/-- The limits that directives set inside the open spans. -/
def scopes (r : Recorder) : List Limit := r.visible.filterMap (·.scope)

/-- The fields that an open span gives to what happens inside it. -/
def inherited (r : Recorder) : Fields :=
  match r.current? with
  | some span => span.fields
  | none => []

/-! ## Messages -/

/-- The mark of a span in a message. -/
def mark (span : String) (kind : String) : String :=
  "[" ++ String.ofList (Text.uppercase span.toList) ++ " - " ++ kind ++ "]"

/-- A message with the mark of the span in which it is written. -/
def marked (r : Recorder) (message : String) : String :=
  match r.current? with
  | some span => mark span.name "EVENT" ++ " " ++ message
  | none => message

/-! ## Events -/

/-- The record of an event. The fields of the span in which it happens are laid over its own. -/
def eventRecord (r : Recorder) (level : Level) (target message : String) (fields : Fields) :
    Record :=
  ⟨r.name, level, r.marked message, target, r.inherited.overlay fields⟩

/-- What is known of an event. -/
def eventSite (level : Level) (target : String) (text : Option String) (fields : Fields) : Site :=
  ⟨none, level, target, (if text.isSome then ["message"] else []) ++ fields.names⟩

/-- An event. Without a text its message is its target. -/
def event (r : Recorder) (level : Level) (target : String) (text : Option String)
    (fields : Fields) : List Record :=
  if r.filter.admitsEvent r.scopes (eventSite level target text fields) then
    [r.eventRecord level target (text.getD target) fields]
  else []

/-- The target of the records of plain messages. -/
def messageTarget : String := "log"

/-- The field that holds the target of a plain message. -/
def messageField : String := "log.target"

/-- What is known of a plain message. -/
def messageSite (level : Level) (target : String) : Site :=
  ⟨none, level, target, ["message", messageField, "log.module_path", "log.file", "log.line"]⟩

/-- A plain message. It is judged by its own target, which becomes a field of the record. -/
def message (r : Recorder) (level : Level) (target text : String) : List Record :=
  if r.filter.admitsEvent r.scopes (messageSite level target) then
    [r.eventRecord level messageTarget text [(messageField, .text target)]]
  else []

/-! ## Spans -/

/-- The record of a span at its start or its end. -/
def spanRecord (r : Recorder) (span : OpenSpan) (kind : String) (fields : Fields) : Record :=
  ⟨r.name, span.level, mark span.name kind, span.target, fields.overlay span.fields⟩

/-- Opens a span. Its own fields are laid over those of the spans around it. -/
def enter (r : Recorder) (level : Level) (target name : String) (fields : Fields) :
    Recorder × List Record :=
  let site : Site := ⟨some name, level, target, fields.names⟩
  if r.filter.admitsSpan r.scopes site then
    let span : OpenSpan := ⟨name, level, target, fields.overlay r.inherited,
      r.filter.scope? site fields, r.now⟩
    ({ r with spans := some span :: r.spans }, [r.spanRecord span "START" []])
  else ({ r with spans := none :: r.spans }, [])

/-- The field that holds how long a span was open. -/
def elapsedField : String := "elapsed_milliseconds"

/-- The record at the end of a span. -/
def endRecord (r : Recorder) (span : OpenSpan) : Record :=
  r.spanRecord span "END" [(elapsedField, .integer (r.now - span.since))]

/-- Closes the innermost span, if there is one. -/
def exit (r : Recorder) : Recorder × List Record :=
  match r.spans with
  | [] => (r, [])
  | span :: spans => ({ r with spans }, span.toList.map r.endRecord)

/-- Closes all open spans, the innermost first. -/
def close (r : Recorder) : List Record := r.visible.map r.endRecord

end Recorder

/-! ## Sequences -/

/-- Something that happens. -/
inductive Step where
  | event (level : Level) (target : String) (text : Option String) (fields : Fields)
  | enter (level : Level) (target name : String) (fields : Fields)
  | exit
  | message (level : Level) (target text : String)
  deriving Repr

namespace Recorder

/-- What a step changes, and what is written. -/
def step (r : Recorder) : Step → Recorder × List Record
  | .event level target text fields => (r, r.event level target text fields)
  | .enter level target name fields => r.enter level target name fields
  | .exit => r.exit
  | .message level target text => (r, r.message level target text)

/-- What a sequence of steps changes, and what each step writes. -/
def run (r : Recorder) : List Step → Recorder × List (List Record)
  | [] => (r, [])
  | s :: steps =>
    let (r, records) := r.step s
    let (r, rest) := run r steps
    (r, records :: rest)

end Recorder
end Liveness.Log
