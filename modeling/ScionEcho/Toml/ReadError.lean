import ScionEcho.Config.Value
import ScionEcho.Numeral.NumberError

/-!
# Why a document is not read

Most texts that are no documents are simply malformed. A few lead to an impasse: the reader needs
something of a value or of a text that is not there. An impasse is reported by its cause.
-/

namespace ScionEcho.Toml

/-- Something that a reader needs and cannot have. -/
inductive Impasse
  /-- A character of a text that is too short. -/
  | noCharacter
  /-- An item of a list that is too short. -/
  | noItem
  /-- The value of a key in a list. -/
  | keyOfList
  /-- The value of a key in a text. -/
  | keyOfText
  /-- A new key in a text. -/
  | newKeyOfText
  /-- An item of a value that has none. -/
  | itemOf (typeName : String)
  /-- Whether a key is in a value that holds nothing. -/
  | memberOf (typeName : String)
  /-- One more table in a value that is not a list. -/
  | moreOf (typeName : String)
  /-- The value of a key without a name, whose text goes on over several lines. -/
  | namelessValue
  /-- A character with a code point beyond 31 bits. -/
  | codePoint
  /-- A number that cannot be computed. -/
  | number (cause : NumberError)
  deriving DecidableEq, Repr

def Impasse.message : Impasse → String
  | .noCharacter => "string index out of range"
  | .noItem => "list index out of range"
  | .keyOfList => "list indices must be integers or slices, not str"
  | .keyOfText => "string indices must be integers, not 'str'"
  | .newKeyOfText => "'str' object does not support item assignment"
  | .itemOf typeName => s!"'{typeName}' object is not subscriptable"
  | .memberOf typeName => s!"argument of type '{typeName}' is not iterable"
  | .moreOf typeName => s!"'{typeName}' object has no attribute 'append'"
  | .namelessValue =>
    "cannot access local variable 'value' where it is not associated with a value"
  | .codePoint => "Python int too large to convert to C int"
  | .number cause => cause.message

inductive ReadError
  | malformed
  | impasse (cause : Impasse)
  deriving DecidableEq, Repr

/-- What a reader makes of a text, or why it makes nothing of it. -/
abbrev Reading (α : Type) := Except ReadError α

/-- A reader of documents. -/
abbrev Reader := List Char → Reading ConfigTable

def malformed {α : Type} : Reading α := .error .malformed

def stuck {α : Type} (cause : Impasse) : Reading α := .error (.impasse cause)

/-- The reading that an optional result stands for. -/
def orMalformed {α : Type} : Option α → Reading α
  | some a => .ok a
  | none => malformed

end ScionEcho.Toml
