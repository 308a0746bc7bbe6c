import Liveness.Connection

/-! # Serving clients

* `Server`: a server, which has a connection for each client.
* `Link`: what a program writes and sends while it serves.
* `Connection.answer`: answers what has arrived from a client.
* `Link.attend`: the same for what arrives from several clients.
-/

namespace Liveness
set_option autoImplicit false

/-- A server, which records what it does. -/
structure Server where
  recorder : Log.Recorder

/-- A connection to a client. -/
def Server.connect (s : Server) : Connection := { service := { recorder := s.recorder } }

/-- What a program writes to its log and sends to its clients. -/
structure Link (m : Type → Type) (Client : Type) where
  write : List Log.Record → m Unit
  send : Client → List UInt8 → m Unit

variable {m : Type → Type} [Monad m] {Client : Type}

/-- Sends bytes to a client, if there are any. -/
def Link.deliver (link : Link m Client) (client : Client) (bytes : List UInt8) : m Unit :=
  if bytes.isEmpty then pure () else link.send client bytes

/-- Answers what has arrived from a client. -/
def Connection.answer (link : Link m Client) (client : Client) (c : Connection) (a : Arrival) :
    m Connection := do
  let outcome := c.meet a
  link.write outcome.records
  link.deliver client outcome.bytes
  return outcome.connection

/-- Answers what arrives from several clients, each on a connection of its own. -/
def Link.attend [DecidableEq Client] (link : Link m Client) (connections : Client → Connection) :
    List (Client × Arrival) → m Unit
  | [] => pure ()
  | (client, a) :: arrivals => do
    let c ← (connections client).answer link client a
    attend link (fun other => if other = client then c else connections other) arrivals

end Liveness
