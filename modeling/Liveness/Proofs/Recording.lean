import Liveness.Proofs.Log.Fields
import Liveness.Proofs.Log.Levels
import Liveness.Proofs.Route
import Liveness.Proofs.Service

/-! # What requests leave in the log

* `records_trace`: a request is recorded in four places, as no answer says that the server has
  failed.
* `trace_of_hidden`, `trace_of_shown`: what is written there under a filter of one level.
* `handleAll_log`: nothing under the filters of the program and below, and four records for each
  request under the first one that lets them through.
-/

namespace Liveness
set_option autoImplicit false

open Http (Request)

namespace Log.Recorder

variable {r : Recorder} {limit : Limit} (h : r.filter = .bare limit) (level : Level)
  (target : String) (fields : Fields)
include h

theorem event_of_bare (text : Option String) : r.event level target text fields =
    if limit.admits level then [r.eventRecord level target (text.getD target) fields] else [] := by
  rw [event, h, Filter.admitsEvent_bare]
  rfl

theorem enter_of_bare (name : String) : r.enter level target name fields =
    if limit.admits level then
      (r.within (r.entered level target name fields),
        [r.spanRecord (r.entered level target name fields) "START" []])
    else (r.within none, []) := by
  have same : r.admits level target name fields = limit.admits level := by
    rw [admits, h, Filter.admitsSpan_bare]
  rw [← same]
  exact r.step_enter level target name fields

end Log.Recorder

/-! ## One request -/

theorem isServerError_respond (q : Request) : (respond q).status.isServerError = false := by
  show (dispatch q.method q.uri).status.isServerError = false
  obtain found | missing := dispatch_eq_healthy_or q.method q.uri
  · rw [found]
    rfl
  · rw [missing]
    rfl

theorem records_trace (r : Log.Recorder) (q : Request) :
    let entered := r.enter .debug "tower_http::trace::make_span" "request" (spanFields q)
    (trace r q).2.2 =
      entered.2 ++
      entered.1.event .debug "tower_http::trace::on_request"
        (some "started processing request") [] ++
      entered.1.event .debug "tower_http::trace::on_response"
        (some "finished processing request")
        (responseFields (entered.1.now - r.now) (respond q)) ++
      entered.1.exit.2 := by
  intro entered
  unfold trace
  simp only [isServerError_respond, Bool.false_eq_true, if_false, List.append_nil]
  rfl

/-- The span in which a request is answered. -/
def requestSpan (r : Log.Recorder) (q : Request) : Log.OpenSpan :=
  r.entered .debug "tower_http::trace::make_span" "request" (spanFields q)

/-- What the records of one request say, and where they come from. -/
def requestRecords : List (String × String) :=
  [("[REQUEST - START]", "tower_http::trace::make_span"),
    ("[REQUEST - EVENT] started processing request", "tower_http::trace::on_request"),
    ("[REQUEST - EVENT] finished processing request", "tower_http::trace::on_response"),
    ("[REQUEST - END]", "tower_http::trace::make_span")]

section
variable {r : Log.Recorder} {limit : Log.Limit} (h : r.filter = .bare limit) (q : Request)
include h

theorem trace_of_hidden (hidden : limit.admits .debug = false) : (trace r q).2.2 = [] := by
  have inside : (r.within none).filter = .bare limit := h
  have entered (target : String) (fields : Log.Fields) :
      r.enter .debug target "request" fields = (r.within none, []) := by
    rw [Log.Recorder.enter_of_bare h, hidden]
    rfl
  have event (target : String) (text : Option String) (fields : Log.Fields) :
      (r.within none).event .debug target text fields = [] := by
    rw [Log.Recorder.event_of_bare inside, hidden]
    rfl
  rw [records_trace, entered, event, event]
  rfl

variable (shown : limit.admits .debug = true)
include shown

theorem trace_of_shown :
    let inside := r.within (requestSpan r q)
    (trace r q).2.2 =
      [r.spanRecord (requestSpan r q) "START" [],
        inside.eventRecord .debug "tower_http::trace::on_request" "started processing request" [],
        inside.eventRecord .debug "tower_http::trace::on_response" "finished processing request"
          (responseFields 0 (respond q)),
        inside.endRecord (requestSpan r q)] := by
  intro inside
  have filter : inside.filter = .bare limit := h
  have entered : r.enter .debug "tower_http::trace::make_span" "request" (spanFields q) =
      (inside, [r.spanRecord (requestSpan r q) "START" []]) := by
    rw [Log.Recorder.enter_of_bare h, shown]
    rfl
  have event (target text : String) (fields : Log.Fields) :
      inside.event .debug target (some text) fields =
        [inside.eventRecord .debug target text fields] := by
    rw [Log.Recorder.event_of_bare filter, shown]
    rfl
  have instant : inside.now - r.now = 0 := Nat.sub_self r.now
  rw [records_trace, entered, event, event, instant]
  rfl

theorem view_of_shown :
    (trace r q).2.2.map (fun record => (record.message, record.target)) = requestRecords := by
  have start : Log.Recorder.mark "request" "START" = "[REQUEST - START]" := by decide
  have started : Log.Recorder.mark "request" "EVENT" ++ " " ++ "started processing request" =
      "[REQUEST - EVENT] started processing request" := by decide
  have finished : Log.Recorder.mark "request" "EVENT" ++ " " ++ "finished processing request" =
      "[REQUEST - EVENT] finished processing request" := by decide
  have stop : Log.Recorder.mark "request" "END" = "[REQUEST - END]" := by decide
  rw [trace_of_shown h q shown, requestRecords, ← start, ← started, ← finished, ← stop]
  rfl

theorem level_of_shown {record : Log.Record} (hr : record ∈ (trace r q).2.2) :
    record.level = .debug := by
  rw [trace_of_shown h q shown] at hr
  simp only [List.mem_cons, List.not_mem_nil, or_false] at hr
  obtain rfl | rfl | rfl | rfl := hr <;> rfl

/-- What is written in the span of a request has the fields of the span. -/
theorem mem_fields_of_shown {record : Log.Record} (hr : record ∈ (trace r q).2.2)
    {f : String × Log.Value} (hf : f ∈ spanFields q) : f ∈ record.fields := by
  have own : f ∈ (requestSpan r q).fields := Log.Fields.mem_overlay_of_upper hf
  have timeless : f.1 ≠ Log.Recorder.elapsedField := by
    have known : f.1 ∈ (spanFields q).names := List.mem_map_of_mem hf
    have apart : ∀ name ∈ ["method", "uri", "version", "headers"],
        name ≠ Log.Recorder.elapsedField := by decide
    exact apart f.1 known
  rw [trace_of_shown h q shown] at hr
  simp only [List.mem_cons, List.not_mem_nil, or_false] at hr
  obtain rfl | rfl | rfl | rfl := hr
  · exact Log.Fields.mem_overlay_of_lower own rfl
  · exact Log.Fields.mem_overlay_of_upper own
  · exact Log.Fields.mem_overlay_of_upper own
  · refine Log.Fields.mem_overlay_of_lower own ?_
    simp [timeless]

end

/-! ## Lists of requests -/

/-- The records of each of a list of requests in a program whose filter no variable replaces. -/
def logs (supply : Supply) (name text : String) (requests : List Request) :
    List (List Log.Record) :=
  (Service.handleAll supply { recorder := .make name text none } requests).map Prod.snd

section
variable (supply : Supply) (name : String) (requests : List Request)

theorem getElem?_logs (text : String) (i : Nat) :
    (logs supply name text requests)[i]? = requests[i]?.map fun q =>
      (trace (.make name text none)
        (identify supply ((requests.take i).countP lacksId) q).1).2.2 := by
  rw [logs, List.getElem?_map, getElem?_answers, Option.map_map, Nat.zero_add]
  rfl

theorem flatten_logs_of_hidden (limit : Log.Limit) (hidden : limit.admits .debug = false) :
    (logs supply name limit.word requests).flatten = [] := by
  refine List.flatten_eq_nil_iff.2 fun records h => ?_
  obtain ⟨i, hi⟩ := List.mem_iff_getElem?.1 h
  rw [getElem?_logs] at hi
  obtain ⟨q, -, rfl⟩ := Option.map_eq_some_iff.1 hi
  exact trace_of_hidden (Log.Filter.choose_word limit) _ hidden

theorem map_view_logs_of_shown (limit : Log.Limit) (shown : limit.admits .debug = true) :
    (logs supply name limit.word requests).flatten.map (fun r => (r.message, r.target)) =
      (List.replicate requests.length requestRecords).flatten := by
  rw [List.map_flatten]
  refine congrArg List.flatten (List.eq_replicate_iff.2 ⟨?_, fun views h => ?_⟩)
  · rw [List.length_map, logs, List.length_map, length_handleAll]
  · obtain ⟨records, hr, rfl⟩ := List.mem_map.1 h
    obtain ⟨i, hi⟩ := List.mem_iff_getElem?.1 hr
    rw [getElem?_logs] at hi
    obtain ⟨q, -, rfl⟩ := Option.map_eq_some_iff.1 hi
    exact view_of_shown (Log.Filter.choose_word limit) _ shown

end

/-- Under a filter that lets nothing of the level of debugging through, the log stays empty, so that
any two lists of requests leave the same. Under the one of that level each request leaves four
records in front of those of the next, all of them with its method and target, and none of a
failure. -/
theorem handleAll_log (name : String) :
    (∀ text ∈ ["off", "error", "warn", "info"], ∀ supply supply' requests requests',
      (logs supply name text requests).flatten = [] ∧
        (logs supply name text requests).flatten = (logs supply' name text requests').flatten) ∧
      ∀ supply requests,
        let log := logs supply name "debug" requests
        log.flatten.map (fun r => (r.message, r.target)) =
            (List.replicate requests.length requestRecords).flatten ∧
          ∀ (i : Nat) (q : Request), requests[i]? = some q → ∃ records, log[i]? = some records ∧
            records.map (fun r => (r.message, r.target)) = requestRecords ∧
            ∀ record ∈ records, record.level = .debug ∧
              ("method", .text q.method.name) ∈ record.fields ∧
              ("uri", .text (String.ofList q.uri.text)) ∈ record.fields := by
  have hidden : ∀ text ∈ ["off", "error", "warn", "info"], ∀ supply requests,
      (logs supply name text requests).flatten = [] := by
    intro text ht supply requests
    simp only [List.mem_cons, List.not_mem_nil, or_false] at ht
    obtain rfl | rfl | rfl | rfl := ht
    · exact flatten_logs_of_hidden supply name requests .off rfl
    · exact flatten_logs_of_hidden supply name requests (.downTo .error) rfl
    · exact flatten_logs_of_hidden supply name requests (.downTo .warn) rfl
    · exact flatten_logs_of_hidden supply name requests (.downTo .info) rfl
  refine ⟨?_, ?_⟩
  · intro text ht supply supply' requests requests'
    rw [hidden text ht supply requests, hidden text ht supply' requests']
    exact ⟨rfl, rfl⟩
  · intro supply requests log
    have shown : Log.Limit.admits (.downTo .debug) .debug = true := rfl
    have filter : (Log.Recorder.make name "debug" none).filter = .bare (.downTo .debug) :=
      Log.Filter.choose_word (.downTo .debug)
    refine ⟨map_view_logs_of_shown supply name requests _ shown, ?_⟩
    intro i q hq
    have records := getElem?_logs supply name requests "debug" i
    rw [hq, Option.map_some] at records
    refine ⟨_, records, view_of_shown filter _ shown, fun record hr => ?_⟩
    have fields {f : String × Log.Value} := mem_fields_of_shown filter _ shown hr (f := f)
    refine ⟨level_of_shown filter _ shown hr, fields ?_, fields ?_⟩
    · rw [spanFields, identify_method]
      exact List.mem_cons_self
    · rw [spanFields, identify_uri]
      exact List.mem_cons_of_mem _ List.mem_cons_self

theorem handleAll_log_tagged :
    (logs Uuid.ofBits "app" "info" [taggedRequest]).flatten = [] ∧
      ∃ records, (logs Uuid.ofBits "app" "debug" [taggedRequest])[0]? = some records ∧
        records.map (fun r => (r.message, r.target)) = requestRecords := by
  obtain ⟨hidden, shown⟩ := handleAll_log "app"
  obtain ⟨records, there, view, -⟩ := (shown Uuid.ofBits [taggedRequest]).2 0 taggedRequest rfl
  have empty := (hidden "info" (by decide) Uuid.ofBits Uuid.ofBits [taggedRequest] []).1
  exact ⟨empty, records, there, view⟩

end Liveness
