import ScionEcho.Machine.Worlds

/-!
# The program

Two commands: `client` measures between two endpoints, `responder` answers echo requests. What
follows the name of a command are its options.
-/

namespace ScionEcho

/-- The exit status for arguments that are not as the program takes them. -/
def misuseStatus : UInt32 := 2

/-- How the program is called. -/
def synopsis : String :=
  "client -s SOURCE -d DESTINATION [-c FILE] [-n SAMPLES] [-a ATTEMPTS] [-t SECONDS] [-v]\n" ++
  "responder -l ADDRESS [-c FILE] [-v]\n"

/-- Ends the program as a command ended. -/
def finish : Exit → IO UInt32
  | .status code => return UInt32.ofNat code
  | .fault cause => throw (IO.userError cause.message)

/-- Runs a command on what its arguments ask for. -/
def runRequest {α : Type} (run : α → IO Exit) : CommandLine.Request α → IO UInt32
  | .misuse => do
    IO.eprint synopsis
    return misuseStatus
  | .help => do
    IO.print synopsis
    return 0
  | .run options => do finish (← run options)

def runClient (options : ClientOptions) : IO Exit := do
  ClientCommand.run (← Machine.clientWorld) options

def runResponder (options : ResponderOptions) : IO Exit := do
  ResponderCommand.run (← Machine.responderWorld) options Machine.forever

end ScionEcho

open ScionEcho in
def main (args : List String) : IO UInt32 :=
  match args with
  | "client" :: args => runRequest runClient (ClientCommand.request args)
  | "responder" :: args => runRequest runResponder (ResponderCommand.request args)
  | _ => runRequest runClient .misuse
