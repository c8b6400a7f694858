import ScionEcho.Config.File
import ScionEcho.Export.Exporter
import ScionEcho.Log.Logging
import ScionEcho.Probe.Run

/-!
# Faults of a command

What can go wrong while a command works, from its configuration to its export, and how a command
ends. A foreseen fault is reported; any other ends the command as it stands.
-/

namespace ScionEcho

/-- What can go wrong while a command works. -/
inductive Fault
  | load (cause : LoadError)
  /-- The name of the log file holds the character zero. -/
  | logFileName
  | address (cause : Address.ParseError)
  | settings (cause : SettingsError)
  | run (cause : Failure)
  | number (cause : NumberError)
  | client (cause : ClientError)
  | os (cause : OsError)

namespace Fault

def message : Fault → String
  | .load cause => cause.message
  | .logFileName => "embedded null byte"
  | .address cause => cause.message
  | .settings cause => cause.message
  | .run cause => cause.message
  | .number cause => cause.message
  | .client cause => cause.text
  | .os cause => cause.text

/-- Whether a measurement foresees the fault and reports it. -/
def foreseen : Fault → Bool
  | .load (.config _) => true
  | .address (.numeral _) => false
  | .address _ => true
  | .run cause => cause.foreseen
  | _ => false

/-- Whether the fault is a failure of the operating system that is not part of a session. -/
def ofSystem : Fault → Bool
  | .os _ | .load (.os _) | .run (.os _) => true
  | _ => false

def isCancellation : Fault → Bool
  | .run (.cancelled _) => true
  | _ => false

end Fault

inductive Exit
  | status (code : Nat)
  /-- With a fault that was not foreseen. -/
  | fault (cause : Fault)

/-- The streams and files that every command uses. -/
structure Console (m : Type → Type) where
  readConfig : String → m FileContent
  /-- Opens the log file, for which its folders are made. -/
  openLogFile : String → ExceptT OsError m Unit
  appendLogFile : String → m Unit
  stdout : String → m Unit
  stderr : String → m Unit

namespace Console

variable {m : Type → Type} [Monad m]

/-- Writes the lines that a record leads to. -/
def emit (k : Console m) (l : Logging) (r : LogRecord) : m Unit := do
  k.stderr (l.stderrText r)
  k.appendLogFile (l.fileText r)

/-- Writes the lines that records lead to, one record after the other. -/
def emitAll (k : Console m) : Logging → List LogRecord → m Unit
  | _, [] => pure ()
  | l, r :: records => do
    k.emit l r
    emitAll k (l.after r) records

/-- The configuration from the file at a path, or the default. -/
def loadConfig (k : Console m) (path : Option String) (o : Config.Overrides) :
    m (Except LoadError Config) := do
  match path with
  | none => return Config.load none .missing o
  | some path =>
    if path = "" then return Config.load none .missing o
    else return Config.load (some path) (← k.readConfig path) o

/-- Sets up the log. A log file that cannot be opened is reported and done without. -/
def setupLogging (k : Console m) (l : Logging) (c : LogSettings) (level : Option Level) :
    ExceptT Fault m Logging := do
  if c.file = "" then return l.setup c level false
  else if '\x00' ∈ c.file.toList then throw .logFileName
  else
    match ← ExceptT.lift (k.openLogFile c.file).run with
    | .ok () => return l.setup c level true
    | .error cause =>
      let l := l.setup c level false
      ExceptT.lift (k.emit l (Logging.fileWarning c cause))
      return l.after (Logging.fileWarning c cause)

/-- The level that a command asks for instead of the one of its configuration. -/
def commandLevel (verbose : Bool) : Option Level := if verbose then some .debug else none

end Console

end ScionEcho
