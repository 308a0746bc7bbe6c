import Liveness.Proofs.Lists
import Liveness.Proofs.Log.Nesting
import Liveness.Proofs.Log.Placement

/-! # Which filter is in force

* `Filter.pieces_intercalate`, `Filter.of_mem_pieces`: the pieces of a text are what stands between
  its commas.
* `Filter.ofVariable?_eq_some`, `Filter.ofVariable?_eq_none`: a variable counts as a whole or not at
  all.
* `Filter.cleaned`: a text without its pieces that are no directives, which makes the same filter.
* `Recorder.output`: all that a sequence of steps writes.
* `output_make_variable`: what a program writes under a variable. Without a piece it silences the
  program, which the same text as the default does not.
-/

namespace Liveness.Log
set_option autoImplicit false

namespace Filter

/-! ## Pieces -/

theorem pieces_intercalate {ps : List (List Char)} (h : ∀ p ∈ ps, p ≠ [] ∧ ',' ∉ p) :
    pieces ([','].intercalate ps) = ps := by
  have whole : ps.filter (· ≠ []) = ps :=
    List.filter_eq_self.2 fun p hp => decide_eq_true (h p hp).1
  by_cases none : ps = []
  · rw [none]
    rfl
  · have split : ([','].intercalate ps).splitOnP (· = ',') = ps :=
      List.splitOn_intercalate ',' (fun p hp => (h p hp).2) none
    rw [pieces, split, whole]

theorem comma_not_mem_of_mem_splitOnP {text p : List Char} (h : p ∈ text.splitOnP (· = ',')) :
    ',' ∉ p := by
  induction text generalizing p with
  | nil =>
    obtain rfl := List.mem_singleton.1 (List.splitOnP_nil ▸ h)
    exact List.not_mem_nil
  | cons c text ih =>
    rw [List.splitOnP_cons_eq_if_modifyHead] at h
    split at h
    · obtain rfl | behind := List.mem_cons.1 h
      · exact List.not_mem_nil
      · exact ih behind
    · next other =>
      cases rest : text.splitOnP (· = ',') with
      | nil => exact absurd rest (List.splitOnP_ne_nil _ _)
      | cons q qs =>
        rw [rest, List.modifyHead_cons] at h
        obtain rfl | behind := List.mem_cons.1 h
        · have own : ',' ∉ q := ih (rest ▸ List.mem_cons_self)
          exact fun comma => (List.mem_cons.1 comma).elim (fun e => other (by simp [← e])) own
        · exact ih (rest ▸ List.mem_cons_of_mem q behind)

theorem of_mem_pieces {text p : List Char} (h : p ∈ pieces text) : p ≠ [] ∧ ',' ∉ p := by
  obtain ⟨cut, full⟩ := List.mem_filter.1 h
  exact ⟨of_decide_eq_true full, comma_not_mem_of_mem_splitOnP cut⟩

/-! ## Two readings of a text -/

variable {text : String}

theorem ofVariable?_eq_some
    (h : ∀ p ∈ pieces text.toList, (Directive.parse? p).isSome = true) :
    ofVariable? text = some (ofDirectives ((pieces text.toList).filterMap Directive.parse?)) := by
  rw [ofVariable?, mapM_eq_filterMap h, Option.map_some]

theorem ofVariable?_eq_none {p : List Char} (hp : p ∈ pieces text.toList)
    (h : Directive.parse? p = none) : ofVariable? text = none := by
  rw [ofVariable?, mapM_eq_none hp h, Option.map_none]

theorem ofText_of_ne_nil (h : (pieces text.toList).filterMap Directive.parse? ≠ []) :
    ofText text = ofDirectives ((pieces text.toList).filterMap Directive.parse?) := by
  unfold ofText
  split
  · next none => exact absurd none h
  · rfl

/-- A text of directives makes the same filter in a variable, unless it has none at all. -/
theorem ofVariable?_eq_ofText (full : pieces text.toList ≠ [])
    (h : ∀ p ∈ pieces text.toList, (Directive.parse? p).isSome = true) :
    ofVariable? text = some (ofText text) := by
  have read : (pieces text.toList).filterMap Directive.parse? ≠ [] := by
    obtain ⟨p, hp⟩ := List.exists_mem_of_ne_nil _ full
    obtain ⟨d, hd⟩ := Option.isSome_iff_exists.1 (h p hp)
    exact List.ne_nil_of_mem (List.mem_filterMap.2 ⟨p, hp, hd⟩)
  rw [ofVariable?_eq_some h, ofText_of_ne_nil read]

/-- A text without those of its pieces that are no directives. -/
def cleaned (text : String) : String :=
  String.ofList ([','].intercalate
    ((pieces text.toList).filter fun p => (Directive.parse? p).isSome))

theorem pieces_cleaned (text : String) : pieces (cleaned text).toList =
    (pieces text.toList).filter fun p => (Directive.parse? p).isSome := by
  rw [cleaned, String.toList_ofList]
  exact pieces_intercalate fun p hp => of_mem_pieces (List.mem_filter.1 hp).1

theorem ofText_cleaned (text : String) : ofText (cleaned text) = ofText text := by
  have same : (pieces (cleaned text).toList).filterMap Directive.parse? =
      (pieces text.toList).filterMap Directive.parse? := by
    rw [pieces_cleaned, List.filterMap_filter]
    refine List.filterMap_congr fun p _ => ?_
    cases Directive.parse? p <;> rfl
  rw [ofText, ofText, same]

theorem choose_none (text : String) : choose none text = ofText text := rfl

theorem choose_of_ofVariable?_eq_some {setting text : String} {f : Filter}
    (h : ofVariable? setting = some f) : choose (some setting) text = f := by
  rw [choose, Option.bind_some, h, Option.getD_some]

theorem choose_of_ofVariable?_eq_none {setting : String} (h : ofVariable? setting = none)
    (text : String) : choose (some setting) text = ofText text := by
  rw [choose, Option.bind_some, h, Option.getD_none]

end Filter

namespace Recorder

/-! ## Recorders that write nothing -/

/-- What a sequence of steps writes, step by step, and what is written behind it when the spans left
open are closed. -/
def output (r : Recorder) (steps : List Step) : List (List Record) × List Record :=
  ((r.run steps).2, (r.run steps).1.close)

/-- A recorder that lets nothing through, and in whose open spans nothing was. -/
structure IsSilent (r : Recorder) : Prop where
  filter : r.filter = .empty
  visible : r.visible = []

theorem admitsEvent_empty (scopes : List Limit) (site : Site) :
    Filter.empty.admitsEvent scopes site = false := Filter.admitsEvent_flat [] scopes site

theorem admitsSpan_empty (scopes : List Limit) (site : Site) :
    Filter.empty.admitsSpan scopes site = false := Filter.admitsSpan_flat [] scopes site

variable {r : Recorder}

theorem IsSilent.step (h : r.IsSilent) (s : Step) :
    (r.step s).2 = [] ∧ (r.step s).1.IsSilent := by
  cases s with
  | event level target text fields =>
    rw [step_event, h.filter, admitsEvent_empty]
    exact ⟨rfl, h⟩
  | message level target text =>
    rw [step_message, h.filter, admitsEvent_empty]
    exact ⟨rfl, h⟩
  | enter level target name fields =>
    have refused : r.admits level target name fields = false := by
      rw [admits, h.filter, admitsSpan_empty]
    rw [step_enter, refused]
    exact ⟨rfl, h.filter, h.visible⟩
  | exit =>
    cases hs : r.spans with
    | nil =>
      rw [step_exit_of_nil hs]
      exact ⟨rfl, h⟩
    | cons span spans =>
      rw [eq_within_of_spans hs, step_exit_within]
      have visible := h.visible
      rw [Recorder.visible, hs] at visible
      cases span with
      | none => exact ⟨rfl, h.filter, visible⟩
      | some span => cases visible

theorem IsSilent.output (h : r.IsSilent) (steps : List Step) :
    r.output steps = (steps.map fun _ => [], []) := by
  induction steps generalizing r with
  | nil =>
    rw [Recorder.output, run, close, h.visible]
    rfl
  | cons s steps ih =>
    obtain ⟨nothing, silent⟩ := h.step s
    have behind := ih silent
    rw [Recorder.output, Prod.mk.injEq] at behind
    rw [Recorder.output, run_cons, nothing, behind.1, behind.2]
    rfl

variable {name text : String} {setting : Option String}

theorem isSilent_make (h : Filter.choose setting text = .empty) :
    (make name text setting).IsSilent where
  filter := h
  visible := rfl

theorem make_congr {name text text' : String} {setting setting' : Option String}
    (h : Filter.choose setting text = Filter.choose setting' text') :
    make name text setting = make name text' setting' := by
  rw [make, make, h]

end Recorder

/-! ## The output of a program -/

/-- A variable that has pieces, all of them directives, does what its text does as the default, and
the default has no part in it. A variable with a piece that is no directive has no effect. One
without pieces silences the program. In the default itself, pieces that are no directives may as
well be left out. -/
theorem output_make_variable (name text setting : String) (steps : List Step) :
    let output (text : String) (setting : Option String) :=
      (Recorder.make name text setting).output steps
    let pieces := Filter.pieces setting.toList
    (pieces ≠ [] → (∀ p ∈ pieces, (Directive.parse? p).isSome = true) →
        output text (some setting) = output setting none) ∧
      (pieces = [] → output text (some setting) = (steps.map fun _ => [], [])) ∧
      ((∃ p ∈ pieces, Directive.parse? p = none) →
        output text (some setting) = output text none) ∧
      output text none = output (Filter.cleaned text) none := by
  intro output pieces
  have same {first second : Option String} {text text' : String}
      (h : Filter.choose first text = Filter.choose second text') :
      output text first = output text' second :=
    congrArg (Recorder.output · steps) (Recorder.make_congr h)
  refine ⟨?_, ?_, ?_, ?_⟩
  · intro full read
    refine same ?_
    rw [Filter.choose_none, Filter.choose_of_ofVariable?_eq_some]
    exact Filter.ofVariable?_eq_ofText full read
  · intro none
    have read : Filter.ofVariable? setting = some .empty := by
      rw [Filter.ofVariable?, show Filter.pieces setting.toList = [] from none]
      rfl
    have silent : (Recorder.make name text (some setting)).IsSilent :=
      Recorder.isSilent_make (Filter.choose_of_ofVariable?_eq_some read)
    exact silent.output steps
  · rintro ⟨p, hp, refused⟩
    refine same ?_
    rw [Filter.choose_none, Filter.choose_of_ofVariable?_eq_none]
    exact Filter.ofVariable?_eq_none hp refused
  · refine same ?_
    rw [Filter.choose_none, Filter.choose_none, Filter.ofText_cleaned]

/-- An empty variable, none of whose pieces is malformed, and a default with the same text. -/
theorem output_ne_of_empty_variable :
    (∀ p ∈ Filter.pieces "".toList, (Directive.parse? p).isSome = true) ∧
      (Recorder.make "test" "info" (some "")).output [.message .error "app" "down"] ≠
        (Recorder.make "test" "" none).output [.message .error "app" "down"] := by
  constructor
  · intro p hp
    cases hp
  · decide

/-- A variable of two directives, one without any, and one with a piece that is none. -/
theorem output_make_variable_parts :
    let steps : List Step := [.message .warn "app::db" "slow", .message .debug "app::db" "query"]
    (Recorder.make "test" "off" (some ",app::db=debug,warn")).output steps =
        (Recorder.make "test" ",app::db=debug,warn" none).output steps ∧
      (Recorder.make "test" "trace" (some ",,")).output steps = ([[], []], []) ∧
      (Recorder.make "test" "info,=" (some "off,=")).output steps =
        (Recorder.make "test" "info,=" none).output steps := by
  intro steps
  refine ⟨?_, ?_, ?_⟩
  · have parts := output_make_variable "test" "off" ",app::db=debug,warn" steps
    exact parts.1 (by decide) (by decide)
  · have silent := output_make_variable "test" "trace" ",," steps
    exact silent.2.1 (by decide)
  · have ignored := output_make_variable "test" "info,=" "off,=" steps
    exact ignored.2.2.1 ⟨['='], by decide, by decide⟩

end Liveness.Log
