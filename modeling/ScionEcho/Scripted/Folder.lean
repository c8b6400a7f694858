import ScionEcho.Config.File

/-!
# Scripted folders

A small file system: folders and files under a root, and a working folder that relative paths
start from. It holds what a command reads and writes, and refuses what a real one would refuse.
-/

namespace ScionEcho.Scripted

open Text

/-- What a path may lead to. -/
inductive FileNode
  | folder
  | file (content : Bytes)
  deriving DecidableEq, Repr

inductive FileError
  | missing
  | alreadyThere
  | notFolder
  | isFolder
  | nameTooLong
  deriving DecidableEq, Repr

/-- The text that reports the cause for a path in the form in which it is shown. -/
def FileError.report (path : List Char) (cause : FileError) : OsError :=
  let (number, text) : Nat × String :=
    match cause with
    | .missing => (2, "No such file or directory")
    | .alreadyThere => (17, "File exists")
    | .notFolder => (20, "Not a directory")
    | .isFolder => (21, "Is a directory")
    | .nameTooLong => (36, "File name too long")
  ⟨s!"[Errno {number}] {text}: {String.ofList (quoted path)}"⟩

/-- The names that lead from the root to a file or folder. -/
abbrev Place := List (List Char)

/-- Files and folders, each with its place. The root and the working folder are not listed. -/
structure Folder where
  nodes : List (Place × FileNode) := []
  deriving DecidableEq, Repr

namespace Folder

/-- The working folder. -/
def here : Place := ["work".toList]

def maxName : Nat := 255

/-- The folder with a file in the working folder. -/
def ofFile (name : String) (content : Bytes) : Folder := ⟨[(here ++ [name.toList], .file content)]⟩

/-- What stands at a place. -/
def node? (f : Folder) (place : Place) : Option FileNode :=
  if place = [] ∨ place = here then some .folder else f.nodes.lookup place

/-- Puts a file or folder at a place. -/
def put (f : Folder) (place : Place) (node : FileNode) : Folder :=
  ⟨(place, node) :: f.nodes.filter (·.1 ≠ place)⟩

/-- Goes one step on from a place. -/
def enter (f : Folder) (place : Place) (step : List Char) : Except FileError Place :=
  match f.node? place with
  | none => .error .missing
  | some (.file _) => .error .notFolder
  | some .folder =>
    if maxName < (String.ofList step).utf8ByteSize then .error .nameTooLong
    else if step = ['.', '.'] then .ok place.dropLast
    else .ok (place ++ [step])

/-- The place that steps lead to, whether or not something stands there. -/
def walk (f : Folder) (start : Place) (steps : List (List Char)) : Except FileError Place :=
  steps.foldlM f.enter start

/-- Where a path starts. -/
def start (path : List Char) : Place := if pathRoot path = [] then here else []

/-- What stands where a path leads. -/
def find (f : Folder) (path : List Char) : Except FileError FileNode :=
  match f.walk (start path) (pathSteps path) with
  | .error cause => .error cause
  | .ok place =>
    match f.node? place with
    | none => .error .missing
    | some node => .ok node

def read (f : Folder) (path : String) : FileContent :=
  let path := path.toList
  if '\x00' ∈ path then .missing
  else
    match f.find path with
    | .ok (.file content) => .bytes content
    | .ok .folder => .unreadable
    | .error .nameTooLong => .inaccessible (FileError.nameTooLong.report (shownPath path))
    | .error _ => .missing

/-! ### Log files -/

/-- Whether a folder is where steps lead. -/
def isFolderAt (f : Folder) (base : Place) (steps : List (List Char)) : Bool :=
  match f.walk base steps with
  | .ok place => f.node? place = some .folder
  | .error _ => false

def makeFolder (f : Folder) (base : Place) (steps : List (List Char)) :
    Except FileError Folder :=
  match f.walk base steps with
  | .error cause => .error cause
  | .ok place =>
    match f.node? place with
    | none => .ok (f.put place .folder)
    | some _ => .error .alreadyThere

/-- Steps at which something failed, and the cause. -/
abbrev FailedAt := List (List Char) × FileError

/-- Makes one folder unless it is there. -/
def ensureFolder (f : Folder) (base : Place) (steps : List (List Char)) :
    Except FailedAt Folder :=
  match f.makeFolder base steps with
  | .ok f => .ok f
  | .error cause => if f.isFolderAt base steps then .ok f else .error (steps, cause)

/-- Makes a folder unless it is there, and where something is missing in front of it, first the
folder around it. The second list counts how many folders may be made in this way. -/
def ensureFolders (f : Folder) (base : Place) (steps : List (List Char)) :
    List (List Char) → Except FailedAt Folder
  | [] => f.ensureFolder base steps
  | _ :: outer =>
    match f.ensureFolder base steps with
    | .error (_, .missing) =>
      match f.ensureFolders base steps.dropLast outer with
      | .error failed => .error failed
      | .ok f => f.ensureFolder base steps
    | result => result

/-- The steps without those that a later step back undoes. -/
def collapsed (steps : List (List Char)) : List (List Char) :=
  steps.foldl (fun taken step => if step = ['.', '.'] then taken.dropLast else taken ++ [step]) []

/-- The path that leads from a base along steps, in the form in which it is shown. -/
def pathOf (path : List Char) (steps : List (List Char)) : List Char :=
  shownPath (pathRoot path ++ join '/' steps)

/-- Opens a log file, for which its folders are made: its place, and the folder with it. -/
def openLog (f : Folder) (path : String) : Except OsError (Place × Folder) :=
  let path := path.toList
  let base := start path
  let steps := pathSteps path
  match f.ensureFolders base steps.dropLast steps with
  | .error (failed, cause) => .error (cause.report (pathOf path failed))
  | .ok f =>
    match f.walk base (collapsed steps) with
    | .error cause => .error (cause.report (shownPath path))
    | .ok place =>
      match f.node? place with
      | some .folder => .error (FileError.isFolder.report (shownPath path))
      | some (.file _) => .ok (place, f)
      | none => .ok (place, f.put place (.file []))

def append (f : Folder) (place : Place) (text : String) : Folder :=
  match f.node? place with
  | some (.file content) => f.put place (.file (content ++ text.toUTF8.toList))
  | _ => f

/-- The text of a file in UTF-8; nothing if there is no such file. -/
def text? (f : Folder) (path : String) : Option String :=
  match f.find path.toList with
  | .ok (.file content) =>
    match decodeUtf8 content with
    | .ok text => some (String.ofList text)
    | .error _ => none
  | _ => none

end Folder

end ScionEcho.Scripted
