import Liveness.Log.Installation
import Liveness.Net.Listen
import Liveness.Server
import Liveness.Settings.Load

/-! # The program

* `StartError`: why the program ends, and how it reports that.
* `System`: what the program asks of the system on which it runs.
* `Program.start`: installs a recorder, loads the settings, listens and serves.
* `Program.run`: the same up to the code with which the program ends.
-/

namespace Liveness
set_option autoImplicit false

open Net (BindError Endpoint Ip OsError)
open Settings (Application Folder LoadError Variables)

/-! ## Errors -/

/-- Why the program ends. -/
inductive StartError where
  | log (error : Log.InstallError)
  /-- There is no current folder. -/
  | folder (error : OsError)
  | settings (error : LoadError)
  | bind (error : BindError)
  /-- The system does not say where the program listens. -/
  | name (error : OsError)
  /-- What has been bound cannot be served. -/
  | register (error : OsError)
  /-- No more clients can be accepted. -/
  | accept (error : OsError)
  deriving DecidableEq, Repr

namespace StartError

/-- The error as it is reported. -/
def text : StartError → String
  | log e => e.parts
  | folder e => e.message
  | settings e => e.message
  | bind e => e.parts
  | name e => e.parts
  | register e => "hyper::Error(Listen, " ++ e.parts ++ ")"
  | accept e => "hyper::Error(Accept, " ++ e.parts ++ ")"

/-- What the program writes before it ends. -/
def report (e : StartError) : String := "Error: " ++ e.text ++ "\n"

/-- The code with which the program ends. -/
def exitCode : Nat := 1

end StartError

/-! ## The system -/

/-- What the program asks of the system. -/
structure System (m : Type → Type) (Client Listener : Type) extends Link m Client where
  /-- A folder that is looked for in the current one. -/
  folder : String → m (Except OsError Folder)
  /-- The addresses of a host. -/
  lookup : String → m (Except BindError (List Ip))
  listen : Endpoint → m (Except OsError Listener)
  /-- Where a listener listens. -/
  name : Listener → m (Except OsError Endpoint)
  /-- Makes a listener ready to be served. -/
  register : Listener → m (Except OsError Unit)
  /-- Accepts clients and answers what arrives from them, as long as that is possible. -/
  serve : Listener → Server → m (Except OsError Unit)
  /-- Writes an error for the user. -/
  report : String → m Unit

/-! ## Starting -/

namespace Program

/-- The name of the program in its log. -/
def name : String := "healthz-server"

/-- The target of the records of the program itself. -/
def logTarget : String := "healthz_server"

/-- The filter of the log where no variable sets one. -/
def defaultFilter : String := "info"

/-- The variable that sets the filter of the log. -/
def filterVariable : String := "RUST_LOG"

/-- The folder of the configuration files. -/
def settingsPath : String := "config"

/-- The recorder of the program. -/
def recorder (vars : Variables) : Log.Recorder :=
  .make name defaultFilter (vars.get? filterVariable)

/-- What is recorded when the program begins to listen. -/
def greeting (r : Log.Recorder) (e : Endpoint) : List Log.Record :=
  r.event .info logTarget (some "listening") [("address", .text (String.ofList e.text))]

/-- What is known of the greeting before it is known where the program listens. -/
def greetingSite : Log.Site := ⟨none, .info, logTarget, ["message", "address"]⟩

variable {m : Type → Type} [Monad m] {Client Listener : Type} (system : System m Client Listener)

/-- Goes on with an answer of the system, or ends with its error. -/
def attempt {ε α : Type} (wrap : ε → StartError) (answer : m (Except ε α)) : ExceptT StartError m α :=
  ExceptT.mk ((·.mapError wrap) <$> answer)

/-- The application settings that the files and the variables give. -/
def configuration (vars : Variables) : ExceptT StartError m Application := do
  let folder ← attempt .folder (system.folder settingsPath)
  attempt .settings (pure (Settings.load folder vars))

/-- Records where the program listens. The system is asked only if that is recorded. -/
def greet (r : Log.Recorder) (listener : Listener) : ExceptT StartError m Unit := do
  if r.filter.admitsEvent r.scopes greetingSite then
    let endpoint ← attempt .name (system.name listener)
    system.write (greeting r endpoint)

/-- Records where the program listens, and serves. -/
def serve (r : Log.Recorder) (listener : Listener) : ExceptT StartError m Unit := do
  greet system r listener
  attempt .register (system.register listener)
  attempt .accept (system.serve listener ⟨r⟩)

/-- Installs the recorder, loads the settings, listens on their address and serves. What is recorded
from then on, by the program itself and for its clients, goes to the recorder of the process. -/
def start (vars : Variables) : ExceptT StartError m Unit := do
  let process ← attempt .log (pure (Log.Installation.install {} (recorder vars)))
  let application ← configuration system vars
  let listener ← attempt .bind (Net.listenOn system.listen system.lookup application.address)
  serve system process.recorder listener

/-- Starts the program, and reports why it ends. -/
def run (vars : Variables) : m Nat := do
  match ← (start system vars).run with
  | .ok () => return 0
  | .error e =>
    system.report e.report
    return StartError.exitCode

end Program
end Liveness
