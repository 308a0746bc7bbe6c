import Liveness.Proofs.Connection
import Liveness.Proofs.Recording

/-! # Connections and their recorders

* `Connection.Alike`, `Outcome.Alike`: connections that differ in their recorders, and outcomes with
  the same answers.
* `Connection.receive_alike`: what arrives keeps connections alike, and they answer the same.
* `Connection.silent_receive`: under a filter that hides debugging, requests leave nothing in the log.
-/

namespace Liveness
set_option autoImplicit false

open Http (Version)
open Http.Wire

/-- Connections that differ in their recorders only. -/
structure Connection.Alike (c c' : Connection) : Prop where
  phase : c.phase = c'.phase
  version : c.version = c'.version
  drawn : c.service.drawn = c'.service.drawn

/-- Outcomes with the same answers, of connections that differ in their recorders only. -/
structure Outcome.Alike (o o' : Outcome) : Prop where
  connection : o.connection.Alike o'.connection
  answers : o.answers = o'.answers

/-- An outcome that leaves nothing in the log, of a connection that keeps its recorder. -/
structure Outcome.IsSilent (r : Log.Recorder) (o : Outcome) : Prop where
  recorder : o.connection.service.recorder = r
  records : o.records = []

/-- A recorder that lets nothing of the level of debugging through. -/
def Log.Recorder.IsQuiet (r : Recorder) : Prop :=
  ∃ limit, r.filter = .bare limit ∧ limit.admits .debug = false

theorem Outcome.alike_mk {s s' : Service} (drawn : s.drawn = s'.drawn) (phase : Phase) (v : Version)
    (answers : List Answer) (records records' : List Log.Record) :
    Alike ⟨⟨s, phase, v⟩, answers, records⟩ ⟨⟨s', phase, v⟩, answers, records'⟩ :=
  ⟨⟨rfl, rfl, drawn⟩, rfl⟩

namespace Connection

/-! ## One turn -/

section
variable (env : Surroundings) {s s' : Service} (v : Version) (reader : Reader) (bytes : List UInt8)

/-- By induction on the bytes, of which each request takes some: what decides over the next turn is
the same, as a recorder has no part in it. -/
theorem serve_alike (drawn : s.drawn = s'.drawn) :
    (serve env s v reader bytes).Alike (serve env s' v reader bytes) := by
  induction h : bytes.length using Nat.strongRecOn generalizing s s' v reader bytes with
  | ind n ih =>
    rw [serve_eq (s := s), serve_eq (s := s')]
    cases fed : reader.feed bytes with
    | more r => exact Outcome.alike_mk drawn ..
    | refused refusal => exact Outcome.alike_mk drawn ..
    | done head rest =>
      dsimp only
      cases understand head with
      | error refusal => exact Outcome.alike_mk drawn ..
      | ok made =>
        have response : (s.handle env.supply made.1).2.1 = (s'.handle env.supply made.1).2.1 := by
          rw [handle_response, handle_response, drawn]
        have drawn' : (s.handle env.supply made.1).1.drawn =
            (s'.handle env.supply made.1).1.drawn := by
          rw [handle_drawn, handle_drawn, drawn]
        dsimp only
        rw [response]
        cases Answer.ofResponse? env.now made.1 made.2 (s'.handle env.supply made.1).2.1 with
        | none => exact Outcome.alike_mk drawn' ..
        | some a =>
          dsimp only
          cases behind : sequel made.2 rest with
          | close => exact Outcome.alike_mk drawn' ..
          | body f => exact Outcome.alike_mk drawn' ..
          | request rest' =>
            dsimp only
            cases made.2.keepAlive with
            | false => exact Outcome.alike_mk drawn' ..
            | true =>
              have shorter : rest'.length < n := h ▸
                Nat.lt_of_le_of_lt (length_of_sequel behind) (Reader.length_of_feed_done fed)
              obtain ⟨same, answers⟩ := ih _ shorter made.1.version {} rest' drawn' rfl
              rw [if_pos rfl, if_pos rfl]
              exact ⟨same, congrArg (a :: ·) answers⟩

variable (quiet : s.recorder.IsQuiet)
include quiet

theorem records_handle (supply : Supply) (q : Http.Request) : (s.handle supply q).2.2 = [] := by
  obtain ⟨limit, filter, hidden⟩ := quiet
  exact trace_of_hidden filter _ hidden

theorem silent_serve : (serve env s v reader bytes).IsSilent s.recorder := by
  have handled {s s' : Service} (quiet : s.recorder.IsQuiet) {q : Http.Request}
      {response : Http.Response} {records : List Log.Record}
      (h : s.handle env.supply q = (s', response, records)) :
      s'.recorder = s.recorder ∧ records = [] := by
    have recorder := handle_recorder env.supply s q
    have none := records_handle quiet env.supply q
    rw [h] at recorder none
    exact ⟨recorder, none⟩
  fun_induction serve env s v reader bytes with
  | case1 s v reader bytes r fed => exact ⟨rfl, rfl⟩
  | case2 s v reader bytes refusal fed => exact ⟨rfl, rfl⟩
  | case3 s v reader bytes head rest fed refusal understood => exact ⟨rfl, rfl⟩
  | case4 s v reader bytes head rest fed q plan understood s' response records h unanswered =>
    exact ⟨(handled quiet h).1, (handled quiet h).2⟩
  | case5 s v reader bytes head rest fed q plan understood s' response records h a answered close =>
    exact ⟨(handled quiet h).1, (handled quiet h).2⟩
  | case6 s v reader bytes head rest fed q plan understood s' response records h a answered f body =>
    exact ⟨(handled quiet h).1, (handled quiet h).2⟩
  | case7 s v reader bytes head rest fed q plan understood s' response records h a answered rest'
      next stays after ih =>
    obtain ⟨recorder, none⟩ := handled quiet h
    obtain ⟨kept, silent⟩ := ih (recorder ▸ quiet)
    exact ⟨kept.trans recorder, List.append_eq_nil_iff.2 ⟨none, silent⟩⟩
  | case8 s v reader bytes head rest fed q plan understood s' response records h a answered rest'
      next ends =>
    exact ⟨(handled quiet h).1, (handled quiet h).2⟩

end

/-! ## Arrivals -/

theorem receive_alike (env : Surroundings) (bytes : List UInt8) {c c' : Connection}
    (h : c.Alike c') : (c.receive env bytes).Alike (c'.receive env bytes) := by
  have closed : c.close.Alike c'.close := ⟨rfl, h.version, h.drawn⟩
  rw [receive, receive, h.phase, h.version]
  cases c'.phase with
  | closed => exact ⟨h, rfl⟩
  | head reader => exact serve_alike env _ reader bytes h.drawn
  | body f keepAlive =>
    dsimp only
    split
    · exact ⟨h, rfl⟩
    · cases lastPiece (f.piece bytes) with
      | body f' => exact ⟨closed, rfl⟩
      | close => exact ⟨closed, rfl⟩
      | request rest =>
        cases keepAlive with
        | false => exact ⟨closed, rfl⟩
        | true => exact serve_alike env _ {} rest h.drawn

theorem silent_receive (env : Surroundings) (bytes : List UInt8) {c : Connection}
    (quiet : c.service.recorder.IsQuiet) :
    (c.receive env bytes).IsSilent c.service.recorder := by
  rw [receive]
  cases c.phase with
  | closed => exact ⟨rfl, rfl⟩
  | head reader => exact silent_serve env _ reader bytes quiet
  | body f keepAlive =>
    dsimp only
    split
    · exact ⟨rfl, rfl⟩
    · cases lastPiece (f.piece bytes) with
      | body f' => exact ⟨rfl, rfl⟩
      | close => exact ⟨rfl, rfl⟩
      | request rest =>
        cases keepAlive with
        | false => exact ⟨rfl, rfl⟩
        | true => exact silent_serve env _ {} rest quiet

end Connection
end Liveness
