import ScionEcho.Export.Exporter
import ScionEcho.Export.WriteRequest
import ScionEcho.Machine.Datagrams
import Std.Async.DNS
import Std.Async.TCP

/-!
# The client of a database

Writes points to a server over a connection of its own for every write.
-/

namespace ScionEcho.Machine

open Std.Async Std.Net

/-- The server that a client writes to, with the client's token and organization. -/
structure Account where
  server : Server
  token : String
  organization : String

/-- Runs an action, whose failure is one of the client. -/
def clientGuarded {α : Type} (act : IO α) : ExceptT ClientError IO α :=
  ExceptT.mk do
    try return .ok (← act)
    catch e => return .error ⟨toString e⟩

def addressOf (server : Server) : Async SocketAddress := do
  let port := UInt16.ofNat server.port.toNat
  let found : Array IPAddr ← DNS.getAddrInfo server.host ""
  match found.toList with
  | .v4 addr :: _ => return .v4 ⟨addr, port⟩
  | .v6 addr :: _ => return .v6 ⟨addr, port⟩
  | [] => throw (IO.userError "the host of the database is not known")

/-- Sends a request and reads the start of the response. -/
def exchange (server : Server) (request : String) : Async String := do
  let client ← TCP.Socket.Client.mk
  client.connect (← addressOf server)
  client.send request.toUTF8
  let response := (← client.recv? 4096).getD .empty
  return (String.fromUTF8? response).getD ""

def writeLine (a : Account) (bucket line : String) : IO Unit := do
  let request := a.server.writeRequest a.token a.organization bucket line
  let response ← (exchange a.server request).block
  match statusOf? response with
  | some status =>
    if status < 200 ∨ 299 < status then throw (IO.userError s!"the database answers {status}")
  | none => throw (IO.userError "the database does not answer")

def databaseClient (account : IO.Ref (Option Account)) (log : LogRecord → IO Unit) :
    InfluxClient IO :=
  { connect := fun url token organization => clientGuarded do
      match Server.ofUrl? url with
      | some server => account.set (some ⟨server, token, organization⟩)
      | none => throw (IO.userError "the address of the database cannot be used")
    writeApi := pure ()
    write := fun bucket line => clientGuarded do
      match ← account.get with
      | some a => writeLine a bucket line
      | none => throw (IO.userError "there is no connection")
    close := clientGuarded (account.set none)
    log }

end ScionEcho.Machine
