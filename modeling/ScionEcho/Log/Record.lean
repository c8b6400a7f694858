/-!
# Log records

What the parts of the program report while they work: a message with a level, under the name of
the part.
-/

namespace ScionEcho

/-- The level of a record. The named levels are ten apart; any integer is a level. -/
abbrev Level := Int

namespace Level

def notset : Level := 0
def debug : Level := 10
def info : Level := 20
def warning : Level := 30
def error : Level := 40
def critical : Level := 50

def name (level : Level) : String :=
  if level = critical then "CRITICAL"
  else if level = error then "ERROR"
  else if level = warning then "WARNING"
  else if level = info then "INFO"
  else if level = debug then "DEBUG"
  else if level = notset then "NOTSET"
  else s!"Level {level}"

end Level

/-- A message of one part of the program. -/
structure LogRecord where
  logger : String
  level : Level
  message : String
  deriving DecidableEq, Repr

end ScionEcho
