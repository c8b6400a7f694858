import ScionEcho.Address.Endpoint
import ScionEcho.Config.Basic
import ScionEcho.Export.LineProtocol
import ScionEcho.Log.Record

/-!
# Export of results

An exporter writes one point for each finished run. It connects when it is made, if the export is
enabled; from then on it either holds a client and a way to write, or neither. Failures of the
client are reported and go no further.
-/

namespace ScionEcho

/-- A failure of the client of the database, with its text. -/
structure ClientError where
  text : String
  deriving DecidableEq, Repr

/-- The client of a time series database. -/
structure InfluxClient (m : Type → Type) where
  /-- Makes a client for an address, with a token and an organization. -/
  connect : (url token organization : String) → ExceptT ClientError m Unit
  /-- Obtains the way to write from the client. -/
  writeApi : ExceptT ClientError m Unit
  write : (bucket line : String) → ExceptT ClientError m Unit
  close : ExceptT ClientError m Unit
  log : LogRecord → m Unit

/-- An exporter: its settings, and whether it holds a client and a way to write. -/
structure Exporter where
  config : ExportSettings
  hasClient : Bool
  hasWriter : Bool
  deriving DecidableEq, Repr

namespace Exporter

def loggerName : String := "scionlat.export.influx"

/-- Whether the exporter can write. -/
def connected (e : Exporter) : Bool := e.hasWriter

def point (result : Measurement) (summary : Summary) (rtt latency : Float)
    (source destination : Endpoint) : Point :=
  { measurement := "scion_latency"
    tags := [
      ("src_ia", toString source.ia), ("dst_ia", toString destination.ia),
      ("src_host", toString source.host), ("dst_host", toString destination.host)]
    fields := [
      ("rtt_ms", .real rtt), ("latency_ms", .real latency), ("min_ms", .real summary.minMs),
      ("max_ms", .real summary.maxMs), ("jitter_ms", .real summary.jitterMs),
      ("samples", .integer result.count), ("attempts", .integer result.attempts)] }

section

variable {m : Type → Type} [Monad m]

def report (k : InfluxClient m) (level : Level) (message : String) : m Unit :=
  k.log ⟨loggerName, level, message⟩

def connect (k : InfluxClient m) (config : ExportSettings) : ExceptT ClientError m Unit := do
  k.connect config.url config.token config.organization
  k.writeApi

def «open» (k : InfluxClient m) (config : ExportSettings) : m Exporter := do
  if config.enabled then
    match ← (connect k config).run with
    | .ok () =>
      report k .info "InfluxDB connection established"
      return ⟨config, true, true⟩
    | .error e =>
      report k .error s!"Failed to connect to InfluxDB: {e.text}"
      return ⟨config, false, false⟩
  else return ⟨config, false, false⟩

def reportFailure (k : InfluxClient m) (text : String) : m Bool := do
  report k .error s!"Failed to send data to InfluxDB: {text}"
  return false

/-- Writes a result; whether it was written. The spread of the samples is computed before anything
is guarded, so that its failure is the caller's. -/
def exportResult (k : InfluxClient m) (e : Exporter) (result : Measurement)
    (source destination : Endpoint) : ExceptT NumberError m Bool := do
  if e.hasWriter then
    match result.summary with
    | .error cause => throw cause
    | .ok summary =>
      match result.averageRttMs, result.averageLatencyMs with
      | .ok rtt, .ok latency =>
        let line := (point result summary rtt latency source destination).line
        match ← ExceptT.lift (k.write e.config.bucket line).run with
        | .ok () => return true
        | .error cause => ExceptT.lift (reportFailure k cause.text)
      | .error cause, _ | _, .error cause => ExceptT.lift (reportFailure k cause.message)
  else return false

def close (k : InfluxClient m) (e : Exporter) : ExceptT ClientError m Exporter := do
  if e.hasClient then
    k.close
    return { e with hasClient := false, hasWriter := false }
  else return e

end

end Exporter

end ScionEcho
