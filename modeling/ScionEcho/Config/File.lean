import ScionEcho.Config.Basic
import ScionEcho.Text.Utf8
import ScionEcho.Toml.Document

/-!
# Configuration files

A configuration is read from a TOML file in UTF-8 and may be overridden by the command line.
-/

namespace ScionEcho

open Text

/-- What is found at a path. -/
inductive FileContent
  | missing
  /-- Something that cannot be read, such as a directory. -/
  | unreadable
  /-- The path cannot even be looked up. -/
  | inaccessible (cause : OsError)
  | bytes (content : Bytes)
  deriving DecidableEq, Repr

inductive LoadError
  | config (cause : ConfigError)
  | encoding (cause : Utf8Error)
  /-- The document leads its reader to an impasse. -/
  | document (cause : Toml.Impasse)
  | os (cause : OsError)
  deriving DecidableEq, Repr

def LoadError.message : LoadError → String
  | .config cause => cause.message
  | .encoding cause => cause.message
  | .document cause => cause.message
  | .os cause => cause.text

/-- The steps of a path. Empty steps and single points lead nowhere and are left out. -/
def pathSteps (path : List Char) : List (List Char) :=
  (splitOn '/' path).filter fun step => !step.isEmpty && step ≠ ['.']

/-- The root that a path starts from: none, one slash, or exactly two. -/
def pathRoot (path : List Char) : List Char :=
  match (path.takeWhile (· = '/')).length with
  | 0 => []
  | 2 => ['/', '/']
  | _ => ['/']

def shownPath (path : List Char) : List Char :=
  match pathRoot path ++ join '/' (pathSteps path) with
  | [] => ['.']
  | shown => shown

namespace Config

/-- The configuration in the bytes of a file, whose document is read with the given reader. -/
def ofBytes (content : Bytes) (read : Toml.Reader := Toml.read) : Except LoadError Config :=
  match decodeUtf8 content with
  | .error cause => .error (.encoding cause)
  | .ok text =>
    match read text with
    | .error .malformed => .error (.config .notLoaded)
    | .error (.impasse cause) => .error (.document cause)
    | .ok table =>
      match ofTable table with
      | .error cause => .error (.config cause)
      | .ok config => .ok config

def ofFile (path : String) (content : FileContent) (read : Toml.Reader := Toml.read) :
    Except LoadError Config :=
  match content with
  | .missing => .error (.config (.notFound (String.ofList (shownPath path.toList))))
  | .unreadable => .error (.config .notLoaded)
  | .inaccessible cause => .error (.os cause)
  | .bytes bytes => ofBytes bytes read

structure Overrides where
  samples : Option Int := none
  attempts : Option Int := none
  timeout : Option Seconds := none

/-- A configuration with the settings of the command line in place of its own. -/
def override (c : Config) (o : Overrides) : Config :=
  { c with
    probe := {
      samples := o.samples.getD c.probe.samples
      maxAttempts := o.attempts.getD c.probe.maxAttempts
      timeout := o.timeout.getD c.probe.timeout } }

/-- A configuration that was checked. -/
def checked (c : Config) : Except LoadError Config :=
  match c.check with
  | .ok () => .ok c
  | .error cause => .error (.config cause)

/-- The configuration for a run: from the file at a path, or the default, overridden and checked.
An empty path means no file. -/
def load (path : Option String) (content : FileContent) (o : Overrides)
    (read : Toml.Reader := Toml.read) : Except LoadError Config := do
  let base ←
    match path with
    | none => pure {}
    | some path => if path = "" then pure {} else ofFile path content read
  (base.override o).checked

end Config

end ScionEcho
