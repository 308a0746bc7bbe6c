import Mathlib
import Liveness.Proofs.Listening
import Liveness.Proofs.Log.Choice
import Liveness.Proofs.Serving

/-! # A run of the program

Each stage of the start gives its part or ends the program, and only the last one writes and sends.

* `Program.does_serve`: what the program does once it listens.
* `Program.does_start_of_bound`: it comes so far with settings and an address.
* `Host.run_outcome`: a start that fails is the end, and one that succeeds is recorded once.
-/

namespace Liveness
set_option autoImplicit false

open Execution (Does does_pure does_value does_emit)
open Net (BindError Endpoint OsError)
open Settings (Application Folder LoadError Variables)

/-! ## Stages -/

section
variable {α β : Type} {x : ExceptT StartError Execution α} {f : α → ExceptT StartError Execution β}
  {effects more : List Effect}

/-- A stage that gives its part leaves the rest to those behind it. -/
theorem does_next {a : α} {value : Option (Except StartError β)}
    (first : x.run.Does (some (.ok a)) effects) (rest : (f a).run.Does value more) :
    (x >>= f).run.Does value (effects ++ more) := by
  rw [ExceptT.run_bind]
  exact first.bind rest

theorem does_lift {x : Execution α} {a : α} (h : x.Does (some a) effects) :
    (ExceptT.lift x : ExceptT StartError Execution α).run.Does (some (.ok a)) effects := by
  rw [ExceptT.run_lift]
  exact h.map Except.ok

/-- A stage that fails is the last one. -/
theorem does_failure {e : StartError} (failed : x.run.Does (some (.error e)) effects) :
    (x >>= f).run.Does (some (.error e)) effects := by
  rw [ExceptT.run_bind, ← List.append_nil effects]
  exact failed.bind (does_pure _)

end

section
variable {ε α : Type} (wrap : ε → StartError) {answer : Except ε α}

theorem does_attempt (answer : Except ε α) :
    (Program.attempt (m := Execution) wrap (pure answer)).run.Does
      (some (answer.mapError wrap)) [] := by
  rw [Program.attempt, ExceptT.run_mk, map_pure]
  exact does_pure _

theorem does_given {a : α} (given : answer = .ok a) :
    (Program.attempt (m := Execution) wrap (pure answer)).run.Does (some (.ok a)) [] := by
  rw [given]
  exact does_attempt wrap _

theorem does_refused {e : ε} (refused : answer = .error e) :
    (Program.attempt (m := Execution) wrap (pure answer)).run.Does (some (.error (wrap e))) [] := by
  rw [refused]
  exact does_attempt wrap _

end

/-! ## What is recorded -/

/-- The record of a program that listens. -/
def listening (endpoint : Endpoint) : Log.Record where
  name := Program.name
  level := .info
  message := "listening"
  target := Program.logTarget
  fields := [("address", .text (String.ofList endpoint.text))]

namespace Program

section
variable {vars : Variables} (unset : vars.get? filterVariable = none)
include unset

theorem filter_recorder : (recorder vars).filter = .bare (.downTo .info) := by
  rw [recorder, unset]
  exact Log.Filter.choose_word (.downTo .info)

theorem greeting_recorder (endpoint : Endpoint) :
    greeting (recorder vars) endpoint = [listening endpoint] := by
  rw [greeting, Log.Recorder.event_of_bare (filter_recorder unset)]
  rfl

theorem admitsEvent_greetingSite :
    (recorder vars).filter.admitsEvent (recorder vars).scopes greetingSite = true := by
  rw [filter_recorder unset, Log.Filter.admitsEvent_bare]
  rfl

theorem isQuiet_connect : (Server.connect ⟨recorder vars⟩).service.recorder.IsQuiet :=
  ⟨.downTo .info, filter_recorder unset, rfl⟩

end

/-! ## Starting -/

section
variable {host : Host} {vars : Variables} {folder : Folder} {application : Application}
  {asked : Endpoint}

/-- The recorder of the program becomes that of the process, which has none yet. -/
theorem does_install (vars : Variables) :
    (attempt (m := Execution) .log (pure (Log.Installation.install {} (recorder vars)))).run.Does
      (some (.ok ⟨some (recorder vars)⟩)) [] :=
  does_given .log rfl

theorem does_start_of_noFolder {e : OsError} (missing : host.folder settingsPath = .error e) :
    (start host.system vars).run.Does (some (.error (.folder e))) [] := by
  have settings : (configuration host.system vars).run.Does (some (.error (.folder e))) [] :=
    does_failure (does_refused .folder missing)
  exact does_next (does_install vars) (does_failure settings)

variable (found : host.folder settingsPath = .ok folder)
include found

theorem does_start_of_refused {e : LoadError} (refused : Settings.load folder vars = .error e) :
    (start host.system vars).run.Does (some (.error (.settings e))) [] := by
  have settings : (configuration host.system vars).run.Does (some (.error (.settings e))) [] :=
    does_next (does_given .folder found) (does_refused .settings refused)
  exact does_next (does_install vars) (does_failure settings)

variable (loaded : Settings.load folder vars = .ok application)
include loaded

theorem does_configuration :
    (configuration host.system vars).run.Does (some (.ok application)) [] :=
  does_next (does_given .folder found) (does_given .settings loaded)

theorem does_start_of_unbound {e : BindError} (unbound : host.bind application.address = .error e) :
    (start host.system vars).run.Does (some (.error (.bind e))) [] := by
  have listener := does_refused .bind unbound
  rw [← host.listenOn_system] at listener
  exact does_next (does_install vars)
    (does_next (does_configuration found loaded) (does_failure listener))

/-- With settings and with an address for them, the program listens. -/
theorem does_start_of_bound (bound : host.bind application.address = .ok asked)
    {value : Option (Except StartError Unit)} {effects : List Effect}
    (serves : (serve host.system (recorder vars) asked).run.Does value effects) :
    (start host.system vars).run.Does value effects := by
  have listener := does_given .bind bound
  rw [← host.listenOn_system] at listener
  exact does_next (does_install vars)
    (does_next (does_configuration found loaded) (does_next listener serves))

end

/-! ## Listening -/

section
variable {host : Host} {vars : Variables} (unset : vars.get? filterVariable = none)
  {asked endpoint : Endpoint}
include unset

theorem does_serve_of_nameless {e : OsError} (nameless : host.name asked = .error e) :
    (serve host.system (recorder vars) asked).run.Does (some (.error (.name e))) [] := by
  have greet : (greet host.system (recorder vars) asked).run.Does (some (.error (.name e))) [] := by
    rw [greet, if_pos (admitsEvent_greetingSite unset)]
    exact does_failure (does_refused .name nameless)
  exact does_failure greet

variable (named : host.name asked = .ok endpoint)
include named

theorem does_greet : (greet host.system (recorder vars) asked).run.Does (some (.ok ()))
    [.record (listening endpoint)] := by
  rw [greet, if_pos (admitsEvent_greetingSite unset)]
  refine does_next (does_given .name named) (does_lift ?_)
  rw [greeting_recorder unset]
  exact does_emit _

theorem does_serve_of_unregistered {e : OsError} (unregistered : host.register asked = .error e) :
    (serve host.system (recorder vars) asked).run.Does (some (.error (.register e)))
      [.record (listening endpoint)] :=
  does_next (does_greet unset named) (does_failure (does_refused .register unregistered))

/-- Once it serves, it writes no more to its log, and each client is answered as on a connection of its
own. -/
theorem does_serve (registered : host.register asked = .ok ()) :
    ∃ served, (serve host.system (recorder vars) asked).run.Does
        (host.ending.map (·.mapError .accept)) (.record (listening endpoint) :: served) ∧
      Effect.recorded served = [] ∧ Effect.reported served = [] ∧
      ∀ client, Effect.sentTo client served = (Server.connect ⟨recorder vars⟩).meetAll
        ((host.arrivals.filter (·.1 = client)).map (·.2)) := by
  obtain ⟨served, does, reports, sent, records⟩ :=
    Host.does_attend (fun _ => Server.connect ⟨recorder vars⟩) host.arrivals
  refine ⟨served, ?_, records fun _ => isQuiet_connect unset, reports, sent⟩
  have accepts : (attempt .accept (host.system.serve asked ⟨recorder vars⟩)).run.Does
      (host.ending.map (·.mapError .accept)) served := by
    have serves := does.bind (f := fun _ => OptionT.mk (pure host.ending)) (does_value host.ending)
    rw [List.append_nil] at serves
    exact serves.map _
  exact does_next (does_greet unset named) (does_next (does_given .register registered) accepts)

end
end Program

/-! ## The whole run -/

namespace Host

/-- What becomes of a program that serves: the code with which it ends, if it does, and what it
reports. -/
def finish : Option (Except OsError Unit) → Option Nat × List Effect
  | none => (none, [])
  | some (.ok ()) => (some 0, [])
  | some (.error e) => (some StartError.exitCode, [.report (StartError.accept e).report])

section
variable {host : Host} {vars : Variables} {effects : List Effect}

theorem run_of_does {code : Option Nat} (does : (Program.run host.system vars).Does code effects) :
    host.run vars = (code, effects) := does []

theorem run_of_error {e : StartError}
    (failed : (Program.start host.system vars).run.Does (some (.error e)) effects) :
    host.run vars = (some StartError.exitCode, effects ++ [.report e.report]) :=
  run_of_does (failed.bind ((does_emit [.report e.report]).bind (does_pure StartError.exitCode)))

theorem run_of_served {ending : Option (Except OsError Unit)}
    (serves : (Program.start host.system vars).run.Does
      (ending.map (·.mapError .accept)) effects) :
    host.run vars = ((finish ending).1, effects ++ (finish ending).2) := by
  match ending with
  | none =>
    rw [finish, List.append_nil]
    exact run_of_does serves.bind_never
  | some (.ok ()) => exact run_of_does (serves.bind (does_pure 0))
  | some (.error e) => exact run_of_error serves

end

/-- Where a port is asked for, it is the one that the host listens on. -/
def KeepsPorts (host : Host) : Prop :=
  ∀ asked endpoint, host.name asked = .ok endpoint → asked.port ≠ 0 → endpoint.port = asked.port

/-- A program that finds no folder, no settings or no address to listen on ends with a code other than
zero: it reports the error, and neither writes to its log nor sends anything. Else it asks for the port
of its settings. If no variable sets its filter, it writes one record and no other, with the address on
which it listens. From then on each client is answered as on a connection of its own, whatever the
others send and whatever recorder there is. -/
theorem run_outcome (host : Host) (vars : Variables) :
    (∀ e, host.folder Program.settingsPath = .error e →
      host.run vars = (some 1, [.report (StartError.folder e).report])) ∧
    ∀ folder, host.folder Program.settingsPath = .ok folder →
      (∀ e, Settings.load folder vars = .error e →
        host.run vars = (some 1, [.report (StartError.settings e).report])) ∧
      ∀ application, Settings.load folder vars = .ok application →
        (∀ e, host.bind application.address = .error e →
          host.run vars = (some 1, [.report (StartError.bind e).report])) ∧
        ∀ asked, host.bind application.address = .ok asked →
          host.listen asked = .ok () ∧ asked.port = application.port ∧
          (vars.get? Program.filterVariable = none →
            (∀ e, host.name asked = .error e →
              host.run vars = (some 1, [.report (StartError.name e).report])) ∧
            ∀ endpoint, host.name asked = .ok endpoint →
              (∃ ip, endpoint.text = ip ++ ':' :: Decimal.ofNat endpoint.port.toNat) ∧
              (host.KeepsPorts → application.port ≠ 0 → endpoint.port = application.port) ∧
              (∀ e, host.register asked = .error e → host.run vars =
                (some 1, [.record (listening endpoint), .report (StartError.register e).report])) ∧
              (host.register asked = .ok () →
                ∃ served, host.run vars = ((finish host.ending).1,
                    .record (listening endpoint) :: served ++ (finish host.ending).2) ∧
                  Effect.recorded served = [] ∧ Effect.reported served = [] ∧
                  ∀ (client : Nat) (recorder : Log.Recorder),
                    let fresh : Connection := { service := { recorder } }
                    let sent := (host.arrivals.filter (·.1 = client)).map (·.2)
                    Effect.sentTo client served = fresh.meetAll sent ∧
                      ∀ env, (∀ a ∈ sent, a.surroundings = env) →
                        Effect.sentTo client served =
                          (fresh.receiveAll env (sent.map (·.bytes))).bytes)) := by
  refine ⟨fun e missing => run_of_error (Program.does_start_of_noFolder missing),
    fun folder found => ⟨fun e refused => run_of_error (Program.does_start_of_refused found refused),
      fun application loaded => ⟨fun e unbound =>
        run_of_error (Program.does_start_of_unbound found loaded unbound), ?_⟩⟩⟩
  intro asked bound
  obtain ⟨port, listens⟩ := of_bind bound
  have starts {value : Option (Except StartError Unit)} {effects : List Effect}
      (serves : (Program.serve host.system (Program.recorder vars) asked).run.Does value effects) :
      (Program.start host.system vars).run.Does value effects :=
    Program.does_start_of_bound found loaded bound serves
  refine ⟨listens, port, fun unset => ⟨fun e nameless =>
    run_of_error (starts (Program.does_serve_of_nameless unset nameless)), ?_⟩⟩
  intro endpoint named
  refine ⟨⟨_, rfl⟩, fun keeps chosen => ?_, fun e unregistered =>
    run_of_error (starts (Program.does_serve_of_unregistered unset named unregistered)), ?_⟩
  · rw [← port] at chosen ⊢
    exact keeps asked endpoint named chosen
  intro registered
  obtain ⟨served, serves, records, reports, sent⟩ := Program.does_serve unset named registered
  refine ⟨served, run_of_served (starts serves), records, reports, fun client recorder => ?_⟩
  have alike : (Server.connect ⟨Program.recorder vars⟩).Alike { service := { recorder } } :=
    ⟨rfl, rfl, rfl⟩
  rw [sent client]
  exact ⟨Connection.meetAll_alike alike _, fun env still =>
    Connection.meetAll_eq_receiveAll still alike⟩

/-- A machine that takes every endpoint, chooses the same port whenever it is asked to, and gets a
request in two pieces. -/
def localHost : Host where
  folder path := .ok ⟨path, fun _ => none⟩
  lookup _ := .error (.unresolved "Name or service not known")
  listen _ := .ok ()
  name asked := .ok { asked with port := if asked.port = 0 then 49152 else asked.port }
  register _ := .ok ()
  arrivals := [(1, ⟨0, Connection.still, Http.Wire.ascii "GET /healthz HTTP/1.1\r\n"⟩),
    (1, ⟨5, Connection.still, Http.Wire.ascii "\r\n"⟩)]
  ending := none

theorem run_outcome_local :
    (∃ served, localHost.run [] = (none, .record (listening ⟨.v4 #v[0, 0, 0, 0], 8080⟩) :: served) ∧
      Effect.sentTo 1 served = (Connection.loopback.connect.receiveAll Connection.still
        (localHost.arrivals.map (·.2.bytes))).bytes) ∧
      localHost.KeepsPorts ∧
      localHost.run [("APP_ENVIRONMENT", "staging")] = (some 1, [.report
        "Error: staging is not a supported environment. Must be \x60local\x60 or \x60production\x60\n"]) := by
  refine ⟨?_, ?_, ?_⟩
  · have loaded : Settings.load ⟨"config", fun _ => none⟩ [] = .ok ⟨"0.0.0.0", 8080⟩ := by cbv
    have bound : localHost.bind (Application.address ⟨"0.0.0.0", 8080⟩) =
        .ok ⟨.v4 #v[0, 0, 0, 0], 8080⟩ := by cbv
    obtain ⟨-, started⟩ := run_outcome localHost []
    obtain ⟨-, -, unset⟩ := ((started _ rfl).2 _ loaded).2 _ bound
    have named : localHost.name ⟨.v4 #v[0, 0, 0, 0], 8080⟩ = .ok ⟨.v4 #v[0, 0, 0, 0], 8080⟩ := rfl
    obtain ⟨-, -, -, registered⟩ := (unset rfl).2 _ named
    obtain ⟨served, runs, -, -, sent⟩ := registered rfl
    have serving : finish localHost.ending = (none, []) := rfl
    rw [serving, List.append_nil] at runs
    refine ⟨served, runs, (sent 1 _).2 Connection.still fun a ha => ?_⟩
    obtain ⟨arrival, mem, rfl⟩ := List.mem_map.1 ha
    have all : ∀ arrival ∈ localHost.arrivals, arrival.2.surroundings = Connection.still := by
      simp [localHost]
    exact all arrival (List.mem_of_mem_filter mem)
  · intro asked endpoint named chosen
    cases named
    exact if_neg chosen
  · have refused : Settings.load ⟨"config", fun _ => none⟩ [("APP_ENVIRONMENT", "staging")] =
        .error (.unsupportedEnvironment "staging") := by cbv
    have text : (StartError.settings (.unsupportedEnvironment "staging")).report =
        "Error: staging is not a supported environment. Must be \x60local\x60 or \x60production\x60\n" := by decide +kernel
    obtain ⟨-, started⟩ := run_outcome localHost [("APP_ENVIRONMENT", "staging")]
    rw [(started _ rfl).1 _ refused, text]

end Host
end Liveness
