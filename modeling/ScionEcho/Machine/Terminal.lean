import ScionEcho.CommandLine.Fault

/-!
# Streams and files of the operating system

The console that a command uses when it runs for real.
-/

namespace ScionEcho.Machine

def readFile (path : String) : IO FileContent := do
  try
    return .bytes (← IO.FS.readBinFile path).toList
  catch
    | .noFileOrDirectory .. => return .missing
    | _ => return .unreadable

def folderOf (path : String) : String :=
  let cs := path.toList
  let kept := (cs.reverse.dropWhile (· ≠ '/')).reverse
  if kept.isEmpty then "." else String.ofList kept

/-- Opens a log file, for which its folders are made. -/
def openLog (file : IO.Ref (Option IO.FS.Handle)) (path : String) : ExceptT OsError IO Unit :=
  ExceptT.mk do
    try
      IO.FS.createDirAll (folderOf path)
      file.set (some (← IO.FS.Handle.mk path .append))
      return .ok ()
    catch e => return .error ⟨toString e⟩

def putNow (stream : IO.FS.Stream) (text : String) : IO Unit := do
  stream.putStr text
  stream.flush

def console : IO (Console IO) := do
  let file ← IO.mkRef (none : Option IO.FS.Handle)
  return {
    readConfig := readFile
    openLogFile := openLog file
    appendLogFile := fun text => do
      if let some handle ← file.get then
        handle.putStr text
        handle.flush
    stdout := fun text => do putNow (← IO.getStdout) text
    stderr := fun text => do putNow (← IO.getStderr) text }

end ScionEcho.Machine
