import Liveness.Proofs.Log.Fields
import Liveness.Proofs.Log.Nesting

/-! # Fields of the spans around a record

* `enclosing`: the own fields of the open spans, read off what was done and written before.
* `Step.value?`: the value that a name has in what a step writes.
* `Inherits`: open spans that pass on what the spans around them have.
* `inherits_run`: what one step keeps, carried over a whole sequence by induction.
* `fields_make`: the fields of every record are those of the step and of the open spans.
-/

namespace Liveness.Log
set_option autoImplicit false

/-! ## The spans around a step -/

/-- The fields that a step brings itself. -/
def Step.fields : Step → Fields
  | .event _ _ _ fields => fields
  | .enter _ _ _ fields => fields
  | .message _ target _ => [(Recorder.messageField, .text target)]
  | .exit => []

/-- The own fields of the open spans behind a step, the innermost first. A span whose start is not
written is not let through, and stands there as none. -/
def Step.around (s : Step) (written : List Record) (around : List (Option Fields)) :
    List (Option Fields) :=
  match s with
  | .enter _ _ _ fields => (if written = [] then none else some fields) :: around
  | .exit => around.tail
  | .event .. => around
  | .message .. => around

/-- The same behind steps, each with what it has written. -/
def enclosing (around : List (Option Fields)) (history : List (Step × List Record)) :
    List (Option Fields) :=
  history.foldl (fun around (s, written) => s.around written around) around

/-- The value of a name in the innermost span that has it. -/
def innermost? (around : List (Option Fields)) (key : String) : Option Value :=
  (around.filterMap id).findSome? (·.get? key)

theorem innermost?_cons_some (own : Fields) (around : List (Option Fields)) (key : String) :
    innermost? (some own :: around) key = (own.get? key).or (innermost? around key) := by
  show List.findSome? _ (own :: around.filterMap id) = _
  rw [List.findSome?_cons]
  cases own.get? key <;> rfl

/-- The value of a name in what a step writes: the spans have precedence over what happens inside
them, and a span that starts has precedence over those around it. What is written at the end of a
span is what the span has. -/
def Step.value? (s : Step) (around : List (Option Fields)) (key : String) : Option Value :=
  match s with
  | .enter _ _ _ fields => (fields.get? key).or (innermost? around key)
  | _ => (innermost? around key).or (s.fields.get? key)

/-- Open spans with the own fields of each: a span that is let through has its own fields, and
besides those what the spans around it have. -/
inductive Inherits : List (Option OpenSpan) → List (Option Fields) → Prop
  | nil : Inherits [] []
  | hidden {spans : List (Option OpenSpan)} {around : List (Option Fields)} :
      Inherits spans around → Inherits (none :: spans) (none :: around)
  | shown {spans : List (Option OpenSpan)} {around : List (Option Fields)} {span : OpenSpan}
      {own : Fields}
      (value : ∀ key, span.fields.get? key = (own.get? key).or (innermost? around key)) :
      Inherits spans around → Inherits (some span :: spans) (some own :: around)

namespace Recorder

variable {r : Recorder} {around : List (Option Fields)}

/-! ## Steps -/

theorem inherited_within_none (r : Recorder) : (r.within none).inherited = r.inherited := rfl

theorem inherited_within_some (r : Recorder) (span : OpenSpan) :
    (r.within (some span)).inherited = span.fields := rfl

theorem get?_inherited_of_spans {spans : List (Option OpenSpan)} (h : Inherits spans around)
    {r : Recorder} (hs : r.spans = spans) (key : String) :
    r.inherited.get? key = innermost? around key := by
  induction h generalizing r with
  | nil =>
    have none : r.current? = none := by rw [current?, visible, hs]; rfl
    rw [inherited, none]
    rfl
  | hidden _ ih =>
    rw [eq_within_of_spans hs, inherited_within_none]
    exact ih rfl
  | shown value _ _ =>
    rw [eq_within_of_spans hs, inherited_within_some, value, innermost?_cons_some]

theorem get?_inherited (h : Inherits r.spans around) (key : String) :
    r.inherited.get? key = innermost? around key := get?_inherited_of_spans h rfl key

/-- A step does to the open spans what is read off what it writes. -/
theorem inherits_step (h : Inherits r.spans around) (s : Step) :
    Inherits (r.step s).1.spans (s.around (r.step s).2 around) := by
  cases s with
  | event level target text fields => exact h
  | message level target text => exact h
  | enter level target name fields =>
    rw [step_enter]
    split
    · refine .shown (fun key => ?_) h
      rw [entered, Fields.get?_overlay, get?_inherited h]
    · exact .hidden h
  | exit =>
    cases hs : r.spans with
    | nil =>
      rw [step_exit_of_nil hs, hs]
      rw [hs] at h
      cases h
      exact .nil
    | cons span spans =>
      rw [eq_within_of_spans hs, step_exit_within]
      rw [hs] at h
      cases h with
      | hidden rest => exact rest
      | shown _ rest => exact rest

theorem inherits_run (h : Inherits r.spans around) (steps : List Step) :
    Inherits (r.run steps).1.spans (enclosing around (steps.zip (r.run steps).2)) := by
  -- On the steps, for all that may have been done and written before them.
  induction steps generalizing r around with
  | nil => exact h
  | cons s steps ih => exact ih (inherits_step h s)

/-- What stands in front of a step depends on the steps before it alone. -/
theorem zip_run_append (r : Recorder) (before after : List Step) :
    before.zip (r.run (before ++ after)).2 = before.zip (r.run before).2 := by
  have alone : before = before ++ [] := (List.append_nil before).symm
  rw [run_append]
  nth_rewrite 1 [alone]
  rw [List.zip_append (r.length_run before).symm, List.zip_nil_left, List.append_nil]

/-- The value of a name in what a step writes. -/
theorem get?_of_mem_step (h : Inherits r.spans around) {s : Step} {record : Record}
    (hr : record ∈ (r.step s).2) {key : String} (timeless : s = .exit → key ≠ elapsedField) :
    record.fields.get? key = s.value? around key := by
  cases s with
  | event level target text fields =>
    rw [fields_of_event hr, Fields.get?_overlay, get?_inherited h]
    rfl
  | message level target text =>
    rw [fields_of_message hr, Fields.get?_overlay, get?_inherited h]
    rfl
  | enter level target name fields =>
    rw [fields_of_enter hr, Fields.get?_overlay, get?_inherited h]
    rfl
  | exit =>
    -- At its end the span is still open, so its fields are those that it gives to what is inside.
    obtain ⟨time, fields⟩ := fields_of_exit hr
    have own : Fields.get? [(elapsedField, time)] key = none := lookup_cons_ne (timeless rfl) _ _
    rw [fields, Fields.get?_overlay, get?_inherited h, own]
    exact Option.or_none.symm

/-! ## Distinct names -/

/-- The fields of each open span have distinct names. -/
def Distinct (r : Recorder) : Prop := ∀ span, some span ∈ r.spans → span.fields.names.Nodup

theorem nodup_inherited (h : r.Distinct) : r.inherited.names.Nodup := by
  unfold inherited current?
  cases visible : r.visible with
  | nil => exact List.nodup_nil
  | cons span spans =>
    have shown : some span ∈ r.spans := by
      have first : span ∈ r.visible := visible ▸ List.mem_cons_self
      obtain ⟨_, there, rfl⟩ := List.mem_filterMap.1 first
      exact there
    exact h span shown

theorem distinct_step (h : r.Distinct) {s : Step} (own : s.fields.names.Nodup) :
    (r.step s).1.Distinct := by
  cases s with
  | event level target text fields => exact h
  | message level target text => exact h
  | enter level target name fields =>
    rw [step_enter]
    split
    · intro span open'
      obtain entered | outer := List.mem_cons.1 open'
      · cases entered
        exact Fields.nodup_overlay own (nodup_inherited h)
      · exact h span outer
    · intro span open'
      obtain entered | outer := List.mem_cons.1 open'
      · cases entered
      · exact h span outer
  | exit =>
    cases hs : r.spans with
    | nil =>
      rw [step_exit_of_nil hs]
      exact h
    | cons span spans =>
      rw [eq_within_of_spans hs, step_exit_within]
      exact fun span outer => h span (hs ▸ List.mem_cons_of_mem _ outer)

theorem distinct_run (h : r.Distinct) {steps : List Step}
    (own : ∀ s ∈ steps, s.fields.names.Nodup) : (r.run steps).1.Distinct := by
  induction steps generalizing r with
  | nil => exact h
  | cons s steps ih =>
    obtain ⟨first, rest⟩ := List.forall_mem_cons.1 own
    exact ih (distinct_step h first) rest

theorem nodup_of_mem_step (h : r.Distinct) {s : Step} (own : s.fields.names.Nodup) {record : Record}
    (hr : record ∈ (r.step s).2) : record.fields.names.Nodup := by
  cases s with
  | event level target text fields =>
    rw [fields_of_event hr]
    exact Fields.nodup_overlay (nodup_inherited h) own
  | message level target text =>
    rw [fields_of_message hr]
    exact Fields.nodup_overlay (nodup_inherited h) own
  | enter level target name fields =>
    rw [fields_of_enter hr]
    exact Fields.nodup_overlay own (nodup_inherited h)
  | exit =>
    obtain ⟨time, fields⟩ := fields_of_exit hr
    rw [fields]
    exact Fields.nodup_overlay (List.pairwise_singleton _ _) (nodup_inherited h)

end Recorder

/-! ## The log of a program -/

/-- What a step of a program writes has the fields of the step and of all open spans that are let
through, and no other, but for the time at the end of a span. Of several values of a name the
innermost span's is there; that of a span counts and not that of what happens inside it. No name
comes twice in a record if none does in what a step brings. -/
theorem fields_make (name text : String) (setting : Option String) (before after : List Step)
    (s : Step) :
    let r := Recorder.make name text setting
    let written := (r.run (before ++ s :: after)).2
    let around := enclosing [] (before.zip written)
    ∃ records, written[before.length]? = some records ∧ ∀ record ∈ records,
      (∀ key, (s = .exit → key ≠ Recorder.elapsedField) →
        record.fields.get? key = s.value? around key) ∧
      ((∀ t ∈ s :: before, t.fields.names.Nodup) → record.fields.names.Nodup) := by
  intro r written around
  have inherits : Inherits (r.run before).1.spans around := by
    show Inherits _ (enclosing [] (before.zip written))
    rw [r.zip_run_append]
    exact Recorder.inherits_run .nil before
  refine ⟨_, r.getElem?_run before s after, fun record hr => ⟨?_, fun own => ?_⟩⟩
  · exact fun key timeless => Recorder.get?_of_mem_step inherits hr timeless
  · obtain ⟨here, there⟩ := List.forall_mem_cons.1 own
    have none : r.Distinct := fun _ h => nomatch h
    exact Recorder.nodup_of_mem_step (Recorder.distinct_run none there) here hr

/-- A query in a request, with a span between them that is not let through. -/
def querySteps : List Step :=
  [.enter .info "app" "request" [("id", .integer 1), ("user", .text "ana")],
    .enter .info "app" "attempt" [("id", .integer 2), ("again", .flag true)], .exit,
    .enter .debug "app" "hidden" [("secret", .text "x")],
    .enter .info "app" "db query" [("id", .integer 3), ("n", .integer 0)]]

theorem fields_make_query :
    let r := Recorder.make "app" "info" none
    let event : Step := .event .warn "app" (some "slow") [("n", .integer 7), ("flag", .flag true)]
    ∃ record, (r.run (querySteps ++ [event])).2[5]? = some [record] ∧
      record.fields.names.Nodup ∧ record.fields.get? "id" = some (.integer 3) ∧
      record.fields.get? "user" = some (.text "ana") ∧
      record.fields.get? "n" = some (.integer 0) ∧
      record.fields.get? "flag" = some (.flag true) ∧
      record.fields.get? "again" = none ∧ record.fields.get? "secret" = none := by
  intro r event
  have around : enclosing [] (querySteps.zip (r.run (querySteps ++ [event])).2) =
      [some [("id", .integer 3), ("n", .integer 0)], none,
        some [("id", .integer 1), ("user", .text "ana")]] := by decide +kernel
  have count : ((r.run (querySteps ++ [event])).2[querySteps.length]?).map List.length =
      some 1 := by decide +kernel
  obtain ⟨records, written, fields⟩ := fields_make "app" "info" none querySteps [] event
  rw [written] at count
  obtain ⟨record, rfl⟩ := List.length_eq_one_iff.1 (Option.some.inj count)
  obtain ⟨value, nodup⟩ := fields record (List.mem_singleton.2 rfl)
  have value (key : String) := value key nofun
  rw [around] at value
  exact ⟨record, written, nodup (by decide), value "id", value "user", value "n", value "flag",
    value "again", value "secret"⟩

end Liveness.Log
