import ScionEcho.Config.Value
import ScionEcho.Packet.Encode
import ScionEcho.Seconds
import ScionEcho.Session.Failure
import ScionEcho.Text.Capital
import ScionEcho.Text.Quoted

/-!
# Configurations

A configuration has four sections. It is built from a table, in which every section and every key
may be left out, and which is refused as soon as a section is no table, a key is unknown, or a
value has the wrong type. Whether the values make sense together is checked apart from that.
-/

namespace ScionEcho

structure ProbeSettings where
  samples : Int := 5
  maxAttempts : Int := 20
  /-- How long each reply is awaited; without limit if it is zero. -/
  timeout : Seconds := .real 1.0

structure SessionSettings where
  recvBuffer : Int := 2500
  mtu : Int := minMtu
  deriving DecidableEq, Repr

structure LogSettings where
  level : String := "WARNING"
  /-- The log file; none if the name is empty. -/
  file : String := ""
  /-- The size at which a log file is rotated, in units of `2 ^ 20` bytes. -/
  maxSize : Int := 10
  backupCount : Int := 5
  deriving DecidableEq, Repr

structure ExportSettings where
  enabled : Bool := false
  url : String := ""
  organization : String := ""
  token : String := ""
  bucket : String := ""
  deriving DecidableEq, Repr

structure Config where
  probe : ProbeSettings := {}
  transport : SessionSettings := {}
  logging : LogSettings := {}
  influx : ExportSettings := {}

inductive ConfigError
  | notFound (path : String)
  | notLoaded
  | notTable (part : String)
  | unknownKey (part key : String)
  | invalidType (part key typeName : String)
  | samples
  | maxAttempts (most wanted : Int)
  | timeout
  | recvBuffer
  | influx
  | level (name : String)
  deriving DecidableEq, Repr

def ConfigError.message : ConfigError → String
  | .notFound path => s!"Configuration file {path} not found"
  | .notLoaded => "Failed to load configuration"
  | .notTable part => s!"[{part}] must be a table"
  | .unknownKey part key => s!"Unknown configuration key: {part}.{key}"
  | .invalidType part key typeName => s!"{part}.{key} has invalid type {typeName}"
  | .samples => "probe.samples must be at least 1"
  | .maxAttempts most wanted =>
    s!"probe.max_attempts ({most}) must not be less than probe.samples ({wanted})"
  | .timeout => "probe.timeout must not be negative"
  | .recvBuffer => "transport.recv_buffer must hold at least one MTU"
  | .influx => "influxdb.url and influxdb.bucket are required when export is enabled"
  | .level name => s!"Unknown logging.level {Text.quote name}"

/-! ### Building a configuration from a table -/

/-- The types that a key may ask for. -/
inductive FieldType
  | integer
  /-- An integer or a double. -/
  | number
  | text
  | boolean
  deriving DecidableEq, Repr

/-- Whether a value has the type that a key asks for. No value is converted, and a boolean is not
an integer. -/
def FieldType.accepts : FieldType → ConfigValue → Bool
  | .integer, .integer _ => true
  | .number, .integer _ => true
  | .number, .real _ => true
  | .text, .text _ => true
  | .boolean, .boolean _ => true
  | _, _ => false

/-- A section: its name, and its keys with their types. -/
structure SectionKeys where
  name : String
  keys : List (String × FieldType)

namespace SectionKeys

def probe : SectionKeys :=
  ⟨"probe", [("samples", .integer), ("max_attempts", .integer), ("timeout", .number)]⟩

def transport : SectionKeys := ⟨"transport", [("recv_buffer", .integer), ("mtu", .integer)]⟩

def logging : SectionKeys :=
  ⟨"logging",
    [("level", .text), ("file", .text), ("max_size", .integer), ("backup_count", .integer)]⟩

def influxdb : SectionKeys :=
  ⟨"influxdb",
    [("enabled", .boolean), ("url", .text), ("organization", .text), ("token", .text),
      ("bucket", .text)]⟩

/-- The first entry that is not as the section asks for. -/
def checkEntries (part : SectionKeys) : ConfigTable → Except ConfigError Unit
  | [] => .ok ()
  | (key, value) :: rest =>
    match part.keys.lookup key with
    | none => .error (.unknownKey part.name key)
    | some type =>
      if type.accepts value then part.checkEntries rest
      else .error (.invalidType part.name key value.typeName)

/-- The entries of a section of a table, checked. A section left out has no entries. -/
def read (part : SectionKeys) (table : ConfigTable) : Except ConfigError ConfigTable :=
  match table.lookup part.name with
  | none => .ok []
  | some (.table entries _) =>
    match part.checkEntries entries with
    | .ok () => .ok entries
    | .error e => .error e
  | some _ => .error (.notTable part.name)

end SectionKeys

namespace Config

open ConfigValue (integer? seconds? text? boolean?)

/-- The configuration that a table describes. Of several offences the first is reported, in the
order of the sections and within a section in the order of its entries. -/
def ofTable (table : ConfigTable) : Except ConfigError Config := do
  let probe ← SectionKeys.probe.read table
  let transport ← SectionKeys.transport.read table
  let logging ← SectionKeys.logging.read table
  let influx ← SectionKeys.influxdb.read table
  let d : Config := {}
  return {
    probe := {
      samples := probe.value integer? "samples" d.probe.samples
      maxAttempts := probe.value integer? "max_attempts" d.probe.maxAttempts
      timeout := probe.value seconds? "timeout" d.probe.timeout }
    transport := {
      recvBuffer := transport.value integer? "recv_buffer" d.transport.recvBuffer
      mtu := transport.value integer? "mtu" d.transport.mtu }
    logging := {
      level := logging.value text? "level" d.logging.level
      file := logging.value text? "file" d.logging.file
      maxSize := logging.value integer? "max_size" d.logging.maxSize
      backupCount := logging.value integer? "backup_count" d.logging.backupCount }
    influx := {
      enabled := influx.value boolean? "enabled" d.influx.enabled
      url := influx.value text? "url" d.influx.url
      organization := influx.value text? "organization" d.influx.organization
      token := influx.value text? "token" d.influx.token
      bucket := influx.value text? "bucket" d.influx.bucket } }

/-! ### Checking a configuration -/

/-- The level names that a configuration may use, in capitals. -/
def levelNames : List String := ["DEBUG", "INFO", "WARNING", "ERROR", "CRITICAL"]

/-- The first reason why the values of a configuration do not make sense. -/
def check (c : Config) : Except ConfigError Unit :=
  if c.probe.samples < 1 then .error .samples
  else if c.probe.maxAttempts < c.probe.samples then
    .error (.maxAttempts c.probe.maxAttempts c.probe.samples)
  else if c.probe.timeout.isNegative then .error .timeout
  else if c.transport.recvBuffer < c.transport.mtu then .error .recvBuffer
  else if c.influx.enabled && (c.influx.url = "" || c.influx.bucket = "") then .error .influx
  else if Text.capitals c.logging.level ∉ levelNames then .error (.level c.logging.level)
  else .ok ()

end Config

/-- How long a reply is awaited; without limit unless the timeout is positive. -/
def ProbeSettings.receiveTimeout (p : ProbeSettings) : Option Seconds :=
  if p.timeout.isPositive then some p.timeout else none

end ScionEcho
