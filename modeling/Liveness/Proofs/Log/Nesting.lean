import Liveness.Log.Recorder

/-! # Spans in the log are well nested

* `Entry`, `Recorder.journal`: the records of a sequence of steps, each with what it tells of.
* `Nested`: a reading of entries with a stack of the spans that have started and not ended.
* `Paired`: steps that leave behind them the spans that they found.
* `nested_journal`: what one step keeps, carried over a whole sequence by induction.
* `wellNested_make`: the log of every sequence is balanced, and spans that are not let through have
  no part in it.
-/

namespace Liveness.Log
set_option autoImplicit false

/-! ## Entries -/

/-- A record with what it tells of: a span of some name that starts, one that ends, or something
that happens, in its own words. -/
inductive Entry where
  | start (name : String) (record : Record)
  | stop (record : Record)
  | note (words : String) (record : Record)

def Entry.record : Entry → Record
  | start _ record | stop record | note _ record => record

def Step.entry : Step → Record → Entry
  | .event _ target text _ => .note (text.getD target)
  | .enter _ _ name _ => .start name
  | .exit => .stop
  | .message _ _ text => .note text

/-- All that is written in a sequence of steps, and behind it when the spans left open are closed. -/
def Recorder.journal (r : Recorder) (steps : List Step) : List Entry :=
  (List.zipWith (fun s => List.map s.entry) steps (r.run steps).2).flatten ++
    (r.run steps).1.close.map .stop

/-! ## Reading -/

/-- The fields of a record but for the time that a span was open. -/
def Record.lasting (r : Record) : Fields := r.fields.filter (·.1 ≠ Recorder.elapsedField)

/-- A record that ends the span of a given name that another record has started. -/
structure Record.Ends (name : String) (first last : Record) : Prop where
  message : last.message = Recorder.mark name "END"
  level : last.level = first.level
  target : last.target = first.target
  fields : last.lasting = first.lasting

/-- Words with the mark of the innermost span that has started. -/
def located (started : List (String × Record)) (words : String) : String :=
  match started with
  | [] => words
  | (name, _) :: _ => Recorder.mark name "EVENT" ++ " " ++ words

/-- Entries read behind spans that have started and not ended, the innermost first. Each end is that
of the innermost one, and none is left at last. -/
inductive Nested : List (String × Record) → List Entry → Prop
  | done : Nested [] []
  | start {started : List (String × Record)} {name : String} {record : Record} {rest : List Entry}
      (message : record.message = Recorder.mark name "START")
      (inside : Nested ((name, record) :: started) rest) :
      Nested started (.start name record :: rest)
  | stop {started : List (String × Record)} {name : String} {first last : Record}
      {rest : List Entry} (ends : Record.Ends name first last) (outside : Nested started rest) :
      Nested ((name, first) :: started) (.stop last :: rest)
  | note {started : List (String × Record)} {words : String} {record : Record} {rest : List Entry}
      (message : record.message = located started words) (behind : Nested started rest) :
      Nested started (.note words record :: rest)

/-- Steps in which spans are entered and left in pairs. -/
inductive Paired : List Step → Prop
  | nil : Paired []
  | event {level : Level} {target : String} {text : Option String} {fields : Fields}
      {rest : List Step} : Paired rest → Paired (.event level target text fields :: rest)
  | message {level : Level} {target text : String} {rest : List Step} :
      Paired rest → Paired (.message level target text :: rest)
  | span {level : Level} {target name : String} {fields : Fields} {inside rest : List Step} :
      Paired inside → Paired rest →
      Paired (.enter level target name fields :: (inside ++ .exit :: rest))

namespace Recorder

/-! ## Runs -/

theorem run_cons (r : Recorder) (s : Step) (steps : List Step) :
    r.run (s :: steps) =
      (((r.step s).1.run steps).1, (r.step s).2 :: ((r.step s).1.run steps).2) := rfl

theorem run_append (r : Recorder) (before after : List Step) :
    r.run (before ++ after) =
      (((r.run before).1.run after).1, (r.run before).2 ++ ((r.run before).1.run after).2) := by
  induction before generalizing r with
  | nil => rfl
  | cons s before ih =>
    rw [List.cons_append, run_cons, run_cons, ih]
    rfl

theorem length_run (r : Recorder) (steps : List Step) :
    (r.run steps).2.length = steps.length := by
  induction steps generalizing r with
  | nil => rfl
  | cons s steps ih => rw [run_cons, List.length_cons, List.length_cons, ih]

theorem journal_cons (r : Recorder) (s : Step) (steps : List Step) :
    r.journal (s :: steps) = (r.step s).2.map s.entry ++ (r.step s).1.journal steps := by
  rw [journal, run_cons, List.zipWith_cons_cons, List.flatten_cons, List.append_assoc]
  rfl

theorem record_entry (s : Step) (record : Record) : (s.entry record).record = record := by
  cases s <;> rfl

/-- The journal holds the records in the order in which they are written. -/
theorem map_record_journal (r : Recorder) (steps : List Step) :
    (r.journal steps).map Entry.record = (r.run steps).2.flatten ++ (r.run steps).1.close := by
  induction steps generalizing r with
  | nil =>
    have same : Entry.record ∘ Entry.stop = id := rfl
    show (r.close.map Entry.stop).map Entry.record = r.close
    rw [List.map_map, same, List.map_id]
  | cons s steps ih =>
    have same : Entry.record ∘ s.entry = id := funext (record_entry s)
    rw [journal_cons, List.map_append, List.map_map, same, List.map_id, ih, run_cons,
      List.flatten_cons, List.append_assoc]

/-! ## One step -/

/-- A recorder in one more span. -/
def within (r : Recorder) (span : Option OpenSpan) : Recorder :=
  { r with spans := span :: r.spans }

/-- The span that is entered if it is let through. -/
def entered (r : Recorder) (level : Level) (target name : String) (fields : Fields) : OpenSpan :=
  ⟨name, level, target, fields.overlay r.inherited,
    r.filter.scope? ⟨some name, level, target, fields.names⟩ fields, r.now⟩

/-- Whether a span is let through. -/
def admits (r : Recorder) (level : Level) (target name : String) (fields : Fields) : Bool :=
  r.filter.admitsSpan r.scopes ⟨some name, level, target, fields.names⟩

theorem step_event (r : Recorder) (level : Level) (target : String) (text : Option String)
    (fields : Fields) : r.step (.event level target text fields) =
      (r, if r.filter.admitsEvent r.scopes (eventSite level target text fields) then
        [r.eventRecord level target (text.getD target) fields] else []) := rfl

theorem step_message (r : Recorder) (level : Level) (target text : String) :
    r.step (.message level target text) =
      (r, if r.filter.admitsEvent r.scopes (messageSite level target) then
        [r.eventRecord level messageTarget text [(messageField, .text target)]] else []) := rfl

theorem step_enter (r : Recorder) (level : Level) (target name : String) (fields : Fields) :
    r.step (.enter level target name fields) =
      if r.admits level target name fields then
        (r.within (r.entered level target name fields),
          [r.spanRecord (r.entered level target name fields) "START" []])
      else (r.within none, []) := rfl

theorem step_exit_within (r : Recorder) (span : Option OpenSpan) :
    (r.within span).step .exit = (r, span.toList.map r.endRecord) := rfl

theorem step_exit_of_nil {r : Recorder} (h : r.spans = []) : r.step .exit = (r, []) := by
  simp only [step, exit, h]

theorem eq_within_of_spans {r : Recorder} {span : Option OpenSpan} {spans : List (Option OpenSpan)}
    (h : r.spans = span :: spans) : r = within { r with spans } span := by
  cases r
  cases h
  rfl

/-- The open spans that have a record of their start. -/
def started (r : Recorder) : List (String × Record) :=
  r.visible.map fun span => (span.name, r.spanRecord span "START" [])

theorem started_within_some (r : Recorder) (span : OpenSpan) :
    (r.within span).started = (span.name, r.spanRecord span "START" []) :: r.started := rfl

theorem marked_eq_located (r : Recorder) (words : String) :
    r.marked words = located r.started words := by
  unfold marked current? started
  cases r.visible <;> rfl

theorem ends_endRecord (r : Recorder) (span : OpenSpan) :
    Record.Ends span.name (r.spanRecord span "START" []) (r.endRecord span) where
  message := rfl
  level := rfl
  target := rfl
  fields := by
    have first : (r.spanRecord span "START" []).fields = span.fields := by
      simp [spanRecord, Fields.overlay]
    have last : (r.endRecord span).fields =
        span.fields.filter (·.1 ≠ elapsedField) ++
          [(elapsedField, .integer (r.now - span.since))] := by
      refine congrArg (· ++ _) (List.filter_congr fun f _ => ?_)
      by_cases h : f.1 = elapsedField <;> simp [h]
    simp [Record.lasting, first, last]

/-- What one step writes may be read in front of anything that can be read behind it. -/
theorem nested_step (r : Recorder) (s : Step) {rest : List Entry}
    (h : Nested (r.step s).1.started rest) :
    Nested r.started ((r.step s).2.map s.entry ++ rest) := by
  cases s with
  | event level target text fields =>
    rw [step_event]
    split
    · exact .note (marked_eq_located r _) h
    · exact h
  | message level target text =>
    rw [step_message]
    split
    · exact .note (marked_eq_located r _) h
    · exact h
  | enter level target name fields =>
    rw [step_enter] at h ⊢
    split at h
    · next admitted =>
      rw [if_pos admitted]
      exact .start rfl h
    · next hidden =>
      rw [if_neg hidden]
      exact h
  | exit =>
    cases hs : r.spans with
    | nil =>
      rw [step_exit_of_nil hs] at h ⊢
      exact h
    | cons span spans =>
      rw [eq_within_of_spans hs, step_exit_within] at h ⊢
      cases span with
      | none => exact h
      | some span =>
        rw [started_within_some]
        exact .stop (ends_endRecord _ span) h

/-- What is written when the open spans are closed ends those that have started. -/
theorem nested_close (r : Recorder) : Nested r.started (r.close.map .stop) := by
  unfold started close
  induction r.visible with
  | nil => exact .done
  | cons span spans ih => exact .stop (ends_endRecord r span) ih

theorem nested_journal (r : Recorder) (steps : List Step) :
    Nested r.started (r.journal steps) := by
  induction steps generalizing r with
  | nil => exact nested_close r
  | cons s steps ih =>
    rw [journal_cons]
    exact nested_step r s (ih (r.step s).1)

/-! ## Spans that are not let through -/

theorem length_step_enter (r : Recorder) (level : Level) (target name : String)
    (fields : Fields) : (r.step (.enter level target name fields)).2.length =
      if r.admits level target name fields then 1 else 0 := by
  rw [step_enter]
  split <;> rfl

theorem step_exit_of_enter (r : Recorder) (level : Level) (target name : String)
    (fields : Fields) : (r.step (.enter level target name fields)).1.step .exit =
      (r, if r.admits level target name fields then
        [r.endRecord (r.entered level target name fields)] else []) := by
  rw [step_enter]
  split <;> rfl

/-- Steps in pairs leave the open spans as they were. -/
theorem run_paired {steps : List Step} (h : Paired steps) (r : Recorder) : (r.run steps).1 = r := by
  induction h generalizing r with
  | nil => rfl
  | event _ ih => exact ih r
  | message _ ih => exact ih r
  | span _ _ ihInside ihRest =>
    rw [run_cons, run_append, ihInside, run_cons, step_exit_of_enter, ihRest]

/-- The step that leaves a span writes as many records as the one that entered it. -/
theorem length_step_exit (r : Recorder) (before : List Step) (level : Level)
    (target name : String) (fields : Fields) {inside : List Step} (h : Paired inside) :
    ((r.run (before ++ .enter level target name fields :: inside)).1.step .exit).2.length =
      if (r.run before).1.admits level target name fields then 1 else 0 := by
  rw [run_append, run_cons, run_paired h, step_exit_of_enter, apply_ite List.length]
  rfl

theorem getElem?_run (r : Recorder) (before : List Step) (s : Step) (after : List Step) :
    (r.run (before ++ s :: after)).2[before.length]? = some ((r.run before).1.step s).2 := by
  rw [run_append, run_cons, List.getElem?_append_right (Nat.le_of_eq (length_run r before)),
    length_run, Nat.sub_self, List.getElem?_cons_zero]

end Recorder

/-! ## The log of a program -/

/-- The log of a sequence of steps is balanced: every end is that of the innermost span that has
started and not ended, whose name, level, target and fields it repeats, and what happens is marked
with the name of that span. A span writes its start, and its end where it is left, if and only if it
is let through. -/
theorem wellNested_make (name text : String) (setting : Option String) (steps : List Step) :
    let r := Recorder.make name text setting
    (r.journal steps).map Entry.record = (r.run steps).2.flatten ++ (r.run steps).1.close ∧
      Nested [] (r.journal steps) ∧
      ∀ (before after : List Step) (level : Level) (target span : String) (fields : Fields),
        steps = before ++ .enter level target span fields :: after →
        let there := (r.run before).1
        let count := if there.admits level target span fields then 1 else 0
        (r.run steps).2[before.length]?.map List.length = some count ∧
          ∀ inside rest, after = inside ++ .exit :: rest → Paired inside →
            (r.run steps).2[before.length + inside.length + 1]?.map List.length = some count := by
  intro r
  refine ⟨r.map_record_journal steps, r.nested_journal steps, ?_⟩
  intro before after level target span fields split there count
  constructor
  · rw [split, Recorder.getElem?_run, Option.map_some, Recorder.length_step_enter]
  · intro inside rest hafter paired
    have place : steps =
        (before ++ .enter level target span fields :: inside) ++ .exit :: rest := by
      rw [split, hafter, List.append_assoc, List.cons_append]
    have length : (before ++ Step.enter level target span fields :: inside).length =
        before.length + inside.length + 1 := by
      rw [List.length_append, List.length_cons, Nat.add_assoc]
    rw [place, ← length, Recorder.getElem?_run, Option.map_some,
      Recorder.length_step_exit r before level target span fields paired]

/-- A span that is let through, one inside of it that is not, and one step out too many. -/
def hiddenSteps : List Step :=
  [.enter .info "app" "outer" [], .enter .debug "app" "inner" [],
    .event .info "app" (some "here") [], .exit, .exit, .exit]

theorem wellNested_make_hidden :
    let r := Recorder.make "app" "info" none
    Nested [] (r.journal hiddenSteps) ∧
      (r.run hiddenSteps).2[1]?.map List.length = some 0 ∧
      (r.run hiddenSteps).2[3]?.map List.length = some 0 := by
  intro r
  obtain ⟨-, nested, spans⟩ := wellNested_make "app" "info" none hiddenSteps
  obtain ⟨start, stop⟩ := spans [.enter .info "app" "outer" []] _ .debug "app" "inner" [] rfl
  exact ⟨nested, start, stop [.event .info "app" (some "here") []] _ rfl (.event .nil)⟩

end Liveness.Log
