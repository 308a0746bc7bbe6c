import Liveness.Program
import Std.Async.DNS
import Std.Async.System
import Std.Async.TCP
import Std.Internal.UV.System
import Std.Time

/-! # The program on this machine

* `Machine.system`: files, sockets, clocks and the standard streams as a system.
* `main`: the program on it.
-/

namespace Liveness.Machine
set_option autoImplicit false

open Net (BindError Endpoint Ip OsError)
open Settings (Environment Folder)
open Std.Async (Async DNS.getAddrInfo)
open Std.Async.TCP.Socket (Client)
open Std.Net (IPAddr SocketAddress)

abbrev Listener := Std.Async.TCP.Socket.Server

/-- The time at the zero meridian. -/
def now : IO Std.Time.PlainDateTime := do
  return .ofWallTime (.ofTimestamp (← Std.Time.Timestamp.now) .zero)

/-! ## The log -/

/-- The process and the time, as records have them. -/
def source : IO Log.Source := do
  return ⟨← Std.Async.System.getHostName, (← Std.Internal.UV.System.osGetPid).toNat,
    (← now).format "uuuu-MM-dd'T'HH:mm:ss.SSSSSSSSS'Z'"⟩

/-- Writes records to the standard output. -/
def write (records : List Log.Record) : IO Unit := do
  unless records.isEmpty do
    let stdout ← IO.getStdout
    let source ← source
    records.forM fun r => stdout.putStr (r.line source ++ "\n")
    stdout.flush

/-! ## The settings -/

/-- The configuration files that can be read. -/
def readFolder (path : String) : IO Folder := do
  let folder : Folder := ⟨path, fun _ => none⟩
  let names := [Environment.development, .production].flatMap fun e => (Folder.names e).map (·.1)
  let files ← names.filterMapM fun name => do
    try return some (name, ← IO.FS.readBinFile (folder.join name)) catch _ => return none
  return { folder with file? := fun name => files.lookup name }

/-! ## Errors -/

/-- What the system says when it refuses. -/
def refusal : IO.Error → OsError
  | .permissionDenied .. => ⟨13, "PermissionDenied", "Permission denied"⟩
  | .resourceBusy .. => ⟨98, "AddrInUse", "Address already in use"⟩
  | .unsupportedOperation .. => ⟨99, "AddrNotAvailable", "Cannot assign requested address"⟩
  | .resourceExhausted .. => ⟨24, "Uncategorized", "Too many open files"⟩
  | .noFileOrDirectory .. => ⟨2, "NotFound", "No such file or directory"⟩
  | e => ⟨22, "InvalidInput", toString e⟩

/-- What an action gives, or what the system says. -/
def attempt {α : Type} (action : Async α) : Async (Except OsError α) := do
  try return .ok (← action) catch e => return .error (refusal e)

/-! ## Listening -/

/-- An endpoint as the system takes it. -/
def socketAddress (e : Endpoint) : SocketAddress :=
  match e.ip with
  | .v4 bytes => .v4 ⟨⟨bytes⟩, e.port⟩
  | .v6 groups => .v6 ⟨⟨groups⟩, e.port⟩

/-- An address as the system gives it. -/
def ofIPAddr : IPAddr → Ip
  | .v4 a => .v4 a.octets
  | .v6 a => .v6 a.segments

/-- Listens on an endpoint. -/
def listen (e : Endpoint) : Async Listener := do
  let listener ← Std.Async.TCP.Socket.Server.mk
  listener.bind (socketAddress e)
  listener.listen 1024
  return listener

/-- The addresses of a host. -/
def lookup (name : String) : Async (Except BindError (List Ip)) := do
  match Ip.read? name.toList with
  | some ip => return .ok [ip]
  | none =>
    try return .ok ((← DNS.getAddrInfo name "").toList.map ofIPAddr)
    catch _ => return .error (.unresolved "Name or service not known")

/-! ## Serving -/

/-- What a connection draws on while it receives so many bytes. No request takes fewer than fourteen
bytes, so there are identifiers for all of them. -/
def surroundings (drawn size : Nat) : IO Surroundings := do
  let ids ← (List.range (size / 14 + 1)).mapM fun _ => do
    let bytes ← IO.getRandomBytes 16
    return Uuid.ofBits (bytes.toList.foldl (fun n b => 256 * n + b.toNat) 0)
  let date := (← now).format "EEE, dd MMM uuuu HH:mm:ss 'GMT'"
  return {
    supply n := ids.getD (n - drawn) (.ofBits 0)
    now := (Http.HeaderValue.ofString? date).getD Http.Wire.Answer.zero }

/-- The standard output and the clients. -/
def link : Link Async Client where
  write records := write records
  send client bytes := client.send ⟨bytes.toArray⟩

/-- Answers what a client sends until one of the two closes the connection. -/
partial def converse (client : Client) (c : Connection) : Async Unit := do
  if c.isClosed then client.shutdown
  else match ← client.recv? 65536 with
    | none => return
    | some bytes =>
      let surroundings ← surroundings c.service.drawn bytes.size
      let c ← c.answer link client ⟨← IO.monoMsNow, surroundings, bytes.toList⟩
      converse client c

/-- Serves every client. -/
partial def serveAll (listener : Listener) (server : Server) : Async Unit := do
  let client ← listener.accept
  Std.Async.background (try converse client server.connect catch _ => return)
  serveAll listener server

/-- This machine. A listener is served as it is. -/
def system : System Async Client Listener where
  toLink := link
  folder path := attempt do
    let _ ← IO.currentDir
    readFolder path
  lookup := lookup
  listen e := attempt (listen e)
  name listener := attempt do
    let name ← listener.getSockName
    return ⟨ofIPAddr name.ipAddr, name.port⟩
  register _ := return .ok ()
  serve listener server := attempt (serveAll listener server)
  report text := do (← IO.getStderr).putStr text

end Liveness.Machine

/-- The program. -/
def main : IO UInt32 := do
  let vars := (← Std.Internal.UV.System.osEnviron).toList
  let code ← (Liveness.Program.run Liveness.Machine.system vars).block
  return code.toUInt32
