import ScionEcho.Export.Exporter
import ScionEcho.Scripted.Trace

/-!
# Scripted databases

The client of a database that writes nothing and fails where it is told to.
-/

namespace ScionEcho.Scripted

/-- Where the client fails, and with which text. -/
structure Database where
  connectFailure : Option String := none
  writerFailure : Option String := none
  writeFailure : Option String := none

namespace Database

section

variable {m : Type → Type} [Monad m] [MonadStateOf Trace m]

def client (d : Database) (log : LogRecord → m Unit) : InfluxClient m :=
  { connect := fun url token organization => do
      note (.clientMade url token organization)
      failIf ClientError.mk d.connectFailure
    writeApi := do
      note .writerObtained
      failIf ClientError.mk d.writerFailure
    write := fun bucket line => do
      note (.written bucket line)
      failIf ClientError.mk d.writeFailure
    close := note .clientClosed
    log }

end

/-- What came of an exporter: whether it was connected, its exports, and the same after it was
closed. -/
structure Report where
  connected : Bool
  exports : List (Except NumberError Bool)
  connectedAfterClose : Bool
  exportAfterClose : Except NumberError Bool

def close (k : InfluxClient (StateM Trace)) (e : Exporter) : StateM Trace Exporter := do
  match ← (e.close k).run with
  | .ok closed => return closed
  | .error _ => return e

/-- Makes an exporter, exports a result so many times, and closes the exporter before and after
one more export. -/
def exercise (d : Database) (config : ExportSettings) (result : Measurement)
    (source destination : Endpoint) (times : Nat) : Report × Trace :=
  let k := d.client noteLog
  let run : StateM Trace Report := do
    let e ← Exporter.open k config
    let once (e : Exporter) := (e.exportResult k result source destination).run
    let exports ← (List.replicate times ()).mapM fun _ => once e
    let closed ← close k e
    let late ← once closed
    let _ ← close k closed
    return ⟨e.connected, exports, closed.connected, late⟩
  run.run []

end Database

end ScionEcho.Scripted
