import Liveness.Host
import Liveness.Proofs.Independence

/-! # Serving the clients of a host

* `Execution.Does`: what an execution gives and what it appends to the effects so far.
* `Connection.meetAll`: the bytes that a connection sends for arrivals at any times.
* `Host.does_attend`: clients are served as if each were alone.
-/

namespace Liveness
set_option autoImplicit false

/-! ## Executions -/

/-- An execution ends with a value, or goes on for ever, and does these effects, whatever has been done
before. -/
def Execution.Does {α : Type} (x : Execution α) (value : Option α) (effects : List Effect) : Prop :=
  ∀ done, x.run.run done = (value, done ++ effects)

namespace Execution

section
variable {α β : Type} {x : Execution α} {f : α → Execution β} {effects more : List Effect}

theorem does_pure (a : α) : Does (pure a) (some a) [] := fun done =>
  Prod.ext rfl (List.append_nil done).symm

theorem does_value (value : Option α) : Does (OptionT.mk (pure value)) value [] := fun done =>
  Prod.ext rfl (List.append_nil done).symm

theorem does_emit (effects : List Effect) : Does (Host.emit effects) (some ()) effects :=
  fun _ => rfl

theorem Does.bind {a : α} {value : Option β} (first : x.Does (some a) effects)
    (second : (f a).Does value more) : (x >>= f).Does value (effects ++ more) := by
  intro done
  have next := second (done ++ effects)
  rw [List.append_assoc] at next
  rw [OptionT.run_bind, Option.elimM, StateT.run_bind, first done]
  exact next

theorem Does.map {value : Option α} (h : x.Does value effects) (g : α → β) :
    (g <$> x).Does (value.map g) effects := by
  intro done
  rw [OptionT.run_map, StateT.run_map, h done]
  rfl

theorem Does.bind_never (never : x.Does none effects) : (x >>= f).Does none effects := by
  intro done
  rw [OptionT.run_bind, Option.elimM, StateT.run_bind, never done]
  rfl

end
end Execution

/-! ## Effects -/

namespace Effect

/-- The records among effects. -/
def recorded (effects : List Effect) : List Log.Record :=
  effects.filterMap fun
    | record r => some r
    | _ => none

/-- The bytes that are sent to a client. -/
def sentTo (client : Nat) (effects : List Effect) : List UInt8 :=
  effects.flatMap fun
    | send receiver bytes => if receiver = client then bytes else []
    | _ => []

/-- The errors that are reported. -/
def reported (effects : List Effect) : List String :=
  effects.filterMap fun
    | report text => some text
    | _ => none

end Effect

/-- What is done about an outcome of the connection to a client. -/
def Outcome.effects (o : Outcome) (client : Nat) : List Effect :=
  o.records.map .record ++ if o.bytes.isEmpty then [] else [.send client o.bytes]

section
variable (o : Outcome) (sender client : Nat)

theorem Outcome.recorded_effects : Effect.recorded (o.effects sender) = o.records := by
  rw [effects, Effect.recorded, List.filterMap_append, List.filterMap_map]
  split <;> simp

theorem Outcome.reported_effects : Effect.reported (o.effects sender) = [] := by
  rw [effects, Effect.reported, List.filterMap_append, List.filterMap_map]
  split <;> simp

theorem Outcome.sentTo_effects :
    Effect.sentTo client (o.effects sender) = if sender = client then o.bytes else [] := by
  rw [effects, Effect.sentTo, List.flatMap_append, List.flatMap_map]
  by_cases silent : o.bytes.isEmpty = true
  · simp [List.isEmpty_iff.1 silent]
  · simp [silent]

end

/-! ## One client -/

namespace Connection

/-- The bytes that a connection sends for arrivals. -/
def meetAll (c : Connection) : List Arrival → List UInt8
  | [] => []
  | a :: arrivals => (c.meet a).bytes ++ meetAll (c.meet a).connection arrivals

theorem meet_alike {c c' : Connection} (h : c.Alike c') (a : Arrival) :
    (c.meet a).Alike (c'.meet a) :=
  receive_alike a.surroundings a.bytes ⟨h.phase, h.version, h.drawn⟩

theorem meetAll_alike {c c' : Connection} (h : c.Alike c') (arrivals : List Arrival) :
    c.meetAll arrivals = c'.meetAll arrivals := by
  induction arrivals generalizing c c' with
  | nil => rfl
  | cons a arrivals ih =>
    have first := meet_alike h a
    rw [meetAll, meetAll, Outcome.bytes, Outcome.bytes, first.answers, ih first.connection]

/-- Where the surroundings stay the same, the time of an arrival has no part in the answers. -/
theorem meetAll_eq_receiveAll {env : Surroundings} {arrivals : List Arrival}
    (still : ∀ a ∈ arrivals, a.surroundings = env) {c c' : Connection} (h : c.Alike c') :
    c.meetAll arrivals = (c'.receiveAll env (arrivals.map (·.bytes))).bytes := by
  induction arrivals generalizing c c' with
  | nil => rfl
  | cons a arrivals ih =>
    have timeless : (c.atTime a.now).Alike c' := ⟨h.phase, h.version, h.drawn⟩
    have first := receive_alike a.surroundings a.bytes timeless
    have rest := ih (fun b hb => still b (List.mem_cons_of_mem _ hb)) first.connection
    rw [still a List.mem_cons_self] at first rest
    rw [List.map_cons, meetAll, receiveAll, meet, still a List.mem_cons_self, rest]
    rw [Outcome.bytes, Outcome.bytes, Outcome.bytes, first.answers, List.flatMap_append]

theorem silent_meet {c : Connection} (quiet : c.service.recorder.IsQuiet) (a : Arrival) :
    (c.meet a).connection.service.recorder.IsQuiet ∧ (c.meet a).records = [] := by
  have timeless : (c.atTime a.now).service.recorder.IsQuiet := quiet
  have silent := silent_receive a.surroundings a.bytes timeless
  rw [← silent.recorder] at timeless
  exact ⟨timeless, silent.records⟩

end Connection

/-! ## All clients -/

namespace Host
open Execution

theorem does_deliver (client : Nat) (bytes : List UInt8) :
    (link.deliver client bytes).Does (some ())
      (if bytes.isEmpty then [] else [.send client bytes]) := by
  rw [Link.deliver]
  split
  · exact does_pure ()
  · exact does_emit _

theorem does_answer (client : Nat) (c : Connection) (a : Arrival) :
    (c.answer link client a).Does (some (c.meet a).connection) ((c.meet a).effects client) := by
  have sent := (does_deliver client (c.meet a).bytes).bind (f := fun _ => pure (c.meet a).connection)
    (does_pure (c.meet a).connection)
  rw [List.append_nil] at sent
  exact (does_emit _).bind sent

/-- What clients send, each on a connection of its own. By induction on what arrives: it concerns the
connection to its client only. -/
theorem does_attend (connections : Nat → Connection) (arrivals : List (Nat × Arrival)) :
    ∃ effects, (link.attend connections arrivals).Does (some ()) effects ∧
      Effect.reported effects = [] ∧
      (∀ client, Effect.sentTo client effects = (connections client).meetAll
        ((arrivals.filter (·.1 = client)).map (·.2))) ∧
      ((∀ client, (connections client).service.recorder.IsQuiet) →
        Effect.recorded effects = []) := by
  induction arrivals generalizing connections with
  | nil => exact ⟨[], does_pure (), rfl, fun _ => rfl, fun _ => rfl⟩
  | cons arrival arrivals ih =>
    obtain ⟨sender, a⟩ := arrival
    obtain ⟨effects, does, reports, sent, records⟩ := ih fun other =>
      if other = sender then ((connections sender).meet a).connection else connections other
    refine ⟨((connections sender).meet a).effects sender ++ effects,
      (does_answer sender _ a).bind does, ?_, fun client => ?_, fun quiet => ?_⟩
    · rw [Effect.reported, List.filterMap_append]
      exact List.append_eq_nil_iff.2 ⟨Outcome.reported_effects _ sender, reports⟩
    · -- Only the client that sent something is sent something.
      rw [Effect.sentTo, List.flatMap_append]
      have first := Outcome.sentTo_effects ((connections sender).meet a) sender client
      by_cases own : sender = client
      · subst own
        rw [List.filter_cons_of_pos (by simp), List.map_cons, Connection.meetAll]
        have rest := sent sender
        rw [if_pos rfl] at first rest
        exact congrArg₂ (· ++ ·) first rest
      · rw [List.filter_cons_of_neg (by simpa using own)]
        have rest := sent client
        rw [if_neg own] at first
        rw [if_neg (Ne.symm own)] at rest
        exact congrArg₂ (· ++ ·) first rest
    · obtain ⟨still, none⟩ := Connection.silent_meet (quiet sender) a
      rw [Effect.recorded, List.filterMap_append]
      refine List.append_eq_nil_iff.2
        ⟨(Outcome.recorded_effects _ sender).trans none, records fun client => ?_⟩
      split
      · exact still
      · exact quiet client

end Host
end Liveness
