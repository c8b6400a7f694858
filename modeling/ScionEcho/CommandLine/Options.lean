import ScionEcho.Numeral.Real
import ScionEcho.Text.Split

/-!
# Options of a command line

Reading the arguments of a command that takes options and nothing else. An option has a long name,
a short name, or both. The value of a long option follows after `=` or as the next argument, that
of a short one directly or as the next argument, and short options without value may be joined.
Where an option is given more than once, the last one counts.
-/

namespace ScionEcho.CommandLine

open Text

structure OptionSpec where
  /-- The name under which its value is looked up. -/
  key : String
  long? : Option String := none
  short? : Option Char := none
  takesValue : Bool := true
  deriving DecidableEq, Repr

/-- An option as it was given: its key and its value, which is empty for an option without. -/
abbrev Given := String × String

/-- The arguments of a command: the options in the order given, and the other arguments. -/
structure Arguments where
  options : List Given
  others : List String
  deriving DecidableEq, Repr

namespace Arguments

/-- The value of an option: the last one given. -/
def get? (a : Arguments) (key : String) : Option String := a.options.reverse.lookup key

def has (a : Arguments) (key : String) : Bool := (a.get? key).isSome

end Arguments

/-- Reads joined short options: the options, and whether the last one still needs a value. -/
def readShort? (specs : List OptionSpec) : List Char → Option (List Given × Option String)
  | [] => some ([], none)
  | c :: rest =>
    match specs.find? fun s => s.short? = some c with
    | none => none
    | some s =>
      if s.takesValue then
        if rest.isEmpty then some ([], some s.key)
        else some ([(s.key, String.ofList rest)], none)
      else (readShort? specs rest).map fun (given, wanting) => ((s.key, "") :: given, wanting)

/-- Reads an argument that starts with a hyphen: the options in it, and the key of an option that
takes the next argument as its value. -/
def readOption? (specs : List OptionSpec) (arg : List Char) :
    Option (List Given × Option String) :=
  let (name, value?) := cut '=' arg
  let long : Option OptionSpec := match name with
    | '-' :: '-' :: long => specs.find? fun s => s.long? = some (String.ofList long)
    | _ => none
  match long, value?, arg with
  | some s, some value, _ =>
    if s.takesValue then some ([(s.key, String.ofList value)], none) else none
  | some s, none, _ => if s.takesValue then some ([], some s.key) else some ([(s.key, "")], none)
  | none, _, '-' :: '-' :: _ => none
  | none, _, _ :: short => readShort? specs short
  | none, _, [] => none

/-- Reads arguments. After two hyphens no more options are read. -/
def read? (specs : List OptionSpec) : List String → Option Arguments
  | [] => some ⟨[], []⟩
  | arg :: args =>
    match arg.toList with
    | ['-', '-'] => some ⟨[], args⟩
    | '-' :: c :: cs =>
      match readOption? specs ('-' :: c :: cs), args with
      | none, _ => none
      | some (given, none), args =>
        (read? specs args).map fun a => { a with options := given ++ a.options }
      | some (_, some _), [] => none
      | some (given, some key), value :: args =>
        (read? specs args).map fun a => { a with options := given ++ (key, value) :: a.options }
    | _ => (read? specs args).map fun a => { a with others := arg :: a.others }

def wholeAtLeast? (least : Int) (value : String) : Option Int :=
  (Numeral.readInt? value.toList).filter fun n => least ≤ n

/-- A double that is not negative; it may be infinite or not a number. -/
def nonnegative? (value : String) : Option Float :=
  (Numeral.readFloat? value.toList).filter fun x => Binary64.sign? x ≠ some .lt

/-- The value of an option that may be left out: nothing if its value is refused. -/
def optional? {α : Type} (read? : String → Option α) : Option String → Option (Option α)
  | none => some none
  | some value => (read? value).map some

/-- What arguments ask for. -/
inductive Request (α : Type)
  /-- The arguments are not as the command takes them. -/
  | misuse
  | help
  | run (options : α)

def helpSpec : OptionSpec := { key := "help", long? := some "help", takesValue := false }

/-- Reads the arguments of a command with the given options. -/
def request {α : Type} (specs : List OptionSpec) (build : Arguments → Option α)
    (args : List String) : Request α :=
  match read? (helpSpec :: specs) args with
  | none => .misuse
  | some a =>
    if a.has helpSpec.key then .help
    else if !a.others.isEmpty then .misuse
    else
      match build a with
      | none => .misuse
      | some options => .run options

end ScionEcho.CommandLine
