import ScionEcho.Config.Basic
import ScionEcho.Log.Record
import ScionEcho.Text.Capital

/-!
# Logging

Where records go. Loggers are made when they are first asked for, and form a tree by the points in
their names; each may have a level, and a record passes if it reaches the level of the nearest
logger that has one. What was decided for a logger and a level is kept until a level is set.
Handlers stand at the root, each with a level of its own. Setting up the log replaces the handlers
and sets the levels, whatever was there before.
-/

namespace ScionEcho

open Text

/-- Where a handler writes. -/
inductive Sink
  | stderr
  /-- A file that is rotated at a size, so many older ones being kept. -/
  | file (path : String) (maxBytes backupCount : Int)
  deriving DecidableEq, Repr

/-- How a handler writes a record. -/
inductive LineFormat
  /-- Logger, level and message. -/
  | full
  /-- Level, logger and message, with colons between them. -/
  | basic
  deriving DecidableEq, Repr

/-- The name of a logger as it is shown. The root logger has a name of its own. -/
def shownLogger (logger : String) : String := if logger = "" then "root" else logger

def LineFormat.line : LineFormat → LogRecord → String
  | .full, r => s!"{shownLogger r.logger} - {r.level.name} - {r.message}"
  | .basic, r => s!"{r.level.name}:{shownLogger r.logger}:{r.message}"

/-- A handler of the root logger. -/
structure Handler where
  sink : Sink
  level : Level
  format : LineFormat
  deriving DecidableEq, Repr

/-- The loggers with their levels, and the handlers of the root logger. -/
structure Logging where
  root : Level := .warning
  /-- The levels of other loggers; a logger that is not listed has none. -/
  levels : List (String × Level) := []
  handlers : List Handler := []
  /-- The loggers that have been made. -/
  loggers : List String := []
  /-- Whether records of a level pass a logger, where it was decided since a level was last set. -/
  decided : List ((String × Level) × Bool) := []
  deriving DecidableEq, Repr

namespace Logging

def mainLogger : String := "scionlat"

def setupLogger : String := "scionlat.core.logger"

def rootLogger : String := ""

/-- Loggers of other libraries that report much below warnings. -/
def quietLoggers : List String := ["urllib3", "influxdb_client"]

/-! ### Levels -/

/-- The levels by name, in capitals. -/
def levelsByName : List (String × Level) :=
  [("CRITICAL", .critical), ("FATAL", .critical), ("ERROR", .error), ("WARNING", .warning),
    ("WARN", .warning), ("INFO", .info), ("DEBUG", .debug), ("NOTSET", .notset)]

/-- The level with a name, in letters of any case; an unknown name means warnings. -/
def levelOfName (name : String) : Level := (levelsByName.lookup (capitals name)).getD .warning

def levelOf (l : Logging) (logger : String) : Level := (l.levels.lookup logger).getD .notset

def setLevel (l : Logging) (logger : String) (level : Level) : Logging :=
  { l with
    levels := (logger, level) :: l.levels.filter (·.1 ≠ logger)
    loggers := logger :: l.loggers
    decided := [] }

/-- The names of the loggers above a logger, nearest first, among those that have been made. The
logger above is the first one that is found by cutting the name at its points, from the last one
on; the point directly in front of a cut is passed over, and so is one at the very front. The
characters come in reverse. -/
def above (made : List Char → Bool) : List Char → List (List Char)
  | [] => []
  | '.' :: c :: rest =>
    if made (c :: rest) then (c :: rest) :: above made (c :: rest) else above made rest
  | _ :: rest => above made rest

/-- Whether a logger has been made. The characters of its name come in reverse. -/
def isMade (l : Logging) (cs : List Char) : Bool := String.ofList cs.reverse ∈ l.loggers

/-- The names of a logger and of the loggers above it, nearest first. -/
def lineage (l : Logging) (logger : String) : List String :=
  logger :: (above l.isMade logger.toList.reverse).map fun cs => String.ofList cs.reverse

/-- The level that a record of a logger has to reach. -/
def effectiveLevel (l : Logging) (logger : String) : Level :=
  (((l.lineage logger).map l.levelOf).find? (· ≠ .notset)).getD l.root

/-! ### Records -/

/-- Whether records of a level pass a logger. Only positive levels can be reported. -/
def isEnabledFor (l : Logging) (logger : String) (level : Level) : Bool :=
  0 < level && l.effectiveLevel logger ≤ level

/-- Whether a record passes its logger. -/
def passes (l : Logging) (r : LogRecord) : Bool :=
  (l.decided.lookup (r.logger, r.level)).getD (l.isEnabledFor r.logger r.level)

/-- The log after a record: its logger has been made, and what was decided is kept. -/
def after (l : Logging) (r : LogRecord) : Logging :=
  { l with
    loggers := r.logger :: l.loggers
    decided := ((r.logger, r.level), l.passes r) :: l.decided }

/-- The lines that a record leads to, with their sinks. A record that passes while there is no
handler is shown without anything around it, if it is at least a warning. -/
def linesOf (l : Logging) (r : LogRecord) : List (Sink × String) :=
  if !l.passes r then []
  else if l.handlers.isEmpty then
    if Level.warning ≤ r.level then [(.stderr, r.message)] else []
  else
    (l.handlers.filter fun h => h.level ≤ r.level).map fun h => (h.sink, h.format.line r)

def stderrText (l : Logging) (r : LogRecord) : String :=
  String.join ((l.linesOf r).filterMap fun (sink, line) =>
    if sink = .stderr then some (line ++ "\n") else none)

def fileText (l : Logging) (r : LogRecord) : String :=
  String.join ((l.linesOf r).filterMap fun (sink, line) =>
    if sink = .stderr then none else some (line ++ "\n"))

/-! ### Setup -/

/-- The log with a plain handler, unless it has a handler already. -/
def ensureHandler (l : Logging) : Logging :=
  if l.handlers.isEmpty then { l with handlers := [⟨.stderr, .notset, .basic⟩] } else l

/-- The log file that a configuration asks for. -/
def fileSink? (c : LogSettings) : Option Sink :=
  if c.file = "" then none else some (.file c.file (c.maxSize * 0x100000) c.backupCount)

/-- The level that a setup uses: one that is given, or else that of the configuration. -/
def setupLevel (c : LogSettings) (level : Option Level) : Level :=
  level.getD (levelOfName c.level)

/-- The log after a setup, in which the log file could be opened or not. -/
def setup (l : Logging) (c : LogSettings) (level : Option Level) (fileOpened : Bool) : Logging :=
  let level := setupLevel c level
  let file := if fileOpened then (fileSink? c).toList else []
  let base : Logging :=
    { l with
      root := level
      handlers := (.stderr :: file).map fun sink => ⟨sink, level, .full⟩
      decided := [] }
  quietLoggers.foldl (fun l logger => l.setLevel logger .warning) (base.setLevel mainLogger level)

/-- The report that the log file cannot be opened. -/
def fileWarning (c : LogSettings) (cause : OsError) : LogRecord :=
  ⟨setupLogger, .warning, s!"Logging to {c.file} disabled: {cause.text}"⟩

theorem root_setup (l : Logging) (c : LogSettings) (level : Option Level) (fileOpened : Bool) :
    (l.setup c level fileOpened).root = setupLevel c level := by
  simp [setup, quietLoggers, setLevel]

theorem handlers_setup (l : Logging) (c : LogSettings) (level : Option Level)
    (fileOpened : Bool) :
    (l.setup c level fileOpened).handlers =
      (.stderr :: if fileOpened then (fileSink? c).toList else []).map
        fun sink => ⟨sink, setupLevel c level, .full⟩ := by
  simp [setup, quietLoggers, setLevel]

end Logging

end ScionEcho
