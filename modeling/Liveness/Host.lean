import Liveness.Program

/-! # Hosts that are given by what they answer

* `Effect`: what a program does to the world.
* `Host`: the answers of a system, and what arrives from clients.
* `Host.run`: what the program does on a host.
-/

namespace Liveness
set_option autoImplicit false

open Net (BindError Endpoint Ip OsError)
open Settings (Folder Variables)

/-- What a program does to the world: it writes to its log, sends bytes to a client, or reports an
error. -/
inductive Effect where
  | record (record : Log.Record)
  | send (client : Nat) (bytes : List UInt8)
  | report (text : String)

/-- A run that may go on for ever, with all that it has done. -/
abbrev Execution := OptionT (StateM (List Effect))

/-- The answers of a system. A listener is the endpoint that was asked for. -/
structure Host where
  folder : String → Except OsError Folder
  lookup : String → Except BindError (List Ip)
  listen : Endpoint → Except OsError Unit
  name : Endpoint → Except OsError Endpoint
  register : Endpoint → Except OsError Unit
  /-- What arrives from which client once the program serves. -/
  arrivals : List (Nat × Arrival)
  /-- How it ends that clients are accepted, if it does. -/
  ending : Option (Except OsError Unit)

namespace Host

/-- What comes of the wish to listen on an endpoint. -/
def grant (host : Host) (e : Endpoint) : Except OsError Endpoint := (host.listen e).map fun () => e

/-- What comes of the wish to listen on an address. -/
def bind (host : Host) (address : String) : Except BindError Endpoint :=
  Id.run (Net.listenOn (fun e => pure (host.grant e)) (fun name => pure (host.lookup name)) address)

/-- Does something to the world. -/
def emit (effects : List Effect) : Execution Unit :=
  modify fun done => done ++ effects

/-- A log and clients. -/
def link : Link Execution Nat where
  write records := emit (records.map .record)
  send client bytes := emit [.send client bytes]

/-- The system of a host. -/
def system (host : Host) : System Execution Nat Endpoint where
  toLink := link
  folder path := pure (host.folder path)
  lookup name := pure (host.lookup name)
  listen e := pure (host.grant e)
  name e := pure (host.name e)
  register e := pure (host.register e)
  serve _ server := do
    link.attend (fun _ => server.connect) host.arrivals
    OptionT.mk (pure host.ending)
  report text := emit [.report text]

/-- The code with which the program ends on a host, if it does, and what it has done. -/
def run (host : Host) (vars : Variables) : Option Nat × List Effect :=
  (Program.run host.system vars).run.run []

end Host
end Liveness
