import ScionEcho.CommandLine.Fault
import ScionEcho.Scripted.Folder

/-!
# Scripted terminals

The streams and files of a command, kept as text.
-/

namespace ScionEcho.Scripted

structure Terminal where
  folder : Folder := {}
  /-- Where the log file stands, if it is open. -/
  logFile : Option Place := none
  stdout : String := ""
  stderr : String := ""
  /-- Whether signals are handled by the command. -/
  handlesSignals : Bool := false

namespace Terminal

/-- The name of the configuration file that a script starts with. -/
def configName : String := "config.toml"

/-- A terminal in a folder that holds a configuration file, if there is one. -/
def ofConfig : Option Bytes → Terminal
  | none => {}
  | some content => { folder := .ofFile configName content }

/-- The terminal with a log file open, or the reason why it cannot be opened. -/
def openLog (t : Terminal) (path : String) : Except OsError Unit × Terminal :=
  match t.folder.openLog path with
  | .error cause => (.error cause, t)
  | .ok (place, folder) => (.ok (), { t with folder, logFile := some place })

def appendLog (t : Terminal) (text : String) : Terminal :=
  match t.logFile with
  | none => t
  | some place => { t with folder := t.folder.append place text }

section

variable {m : Type → Type} [Monad m] [MonadStateOf Terminal m]

def console : Console m :=
  { readConfig := fun path => return (← getThe Terminal).folder.read path
    openLogFile := fun path => ExceptT.mk (modifyGetThe Terminal fun t => t.openLog path)
    appendLogFile := fun text => modifyThe Terminal fun t => t.appendLog text
    stdout := fun text => modifyThe Terminal fun t => { t with stdout := t.stdout ++ text }
    stderr := fun text => modifyThe Terminal fun t => { t with stderr := t.stderr ++ text } }

/-- Makes signals reach the command, or lets them count as before. -/
def handleSignals (handled : Bool) : m Unit :=
  modifyThe Terminal fun t => { t with handlesSignals := handled }

end

/-- Sets up the log so many times, one setup after the other. -/
def setupTimes (c : LogSettings) (level : Option Level) :
    Nat → Logging → ExceptT Fault (StateM Terminal) Logging
  | 0, l => pure l
  | times + 1, l => do setupTimes c level times (← console.setupLogging l c level)

/-- Sets up the log so many times and reports records to it: the log, and the terminal after
that. -/
def logging (t : Terminal) (c : LogSettings) (level : Option Level) (times : Nat)
    (records : List LogRecord) : Except Fault Logging × Terminal :=
  let run : StateM Terminal (Except Fault Logging) := do
    match ← (setupTimes c level times {}).run with
    | .error cause => return .error cause
    | .ok l =>
      console.emitAll l records
      return .ok l
  run.run t

end Terminal

end ScionEcho.Scripted
