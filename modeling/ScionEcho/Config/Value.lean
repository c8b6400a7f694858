import ScionEcho.Seconds

/-!
# Configuration values

What a configuration table may hold, and what is read under its keys. Tables keep their entries in
the order in which they were given.
-/

namespace ScionEcho

inductive MomentKind
  | dateTime
  | date
  | time
  deriving DecidableEq, Repr

/-- How a table is written. -/
inductive TableForm
  /-- Over several lines. -/
  | block
  /-- Between braces. -/
  | inline
  deriving DecidableEq, Repr

/-- A value of a configuration table. Of a moment in time only the kind matters. -/
inductive ConfigValue
  | null
  | boolean (b : Bool)
  | integer (n : Int)
  | real (x : Float)
  | text (s : String)
  | moment (kind : MomentKind)
  | list (items : List ConfigValue)
  | table (entries : List (String × ConfigValue)) (form : TableForm := .block)

abbrev ConfigTable := List (String × ConfigValue)

namespace ConfigValue

def typeName : ConfigValue → String
  | .null => "NoneType"
  | .boolean _ => "bool"
  | .integer _ => "int"
  | .real _ => "float"
  | .text _ => "str"
  | .moment .dateTime => "datetime"
  | .moment .date => "date"
  | .moment .time => "time"
  | .list _ => "list"
  | .table _ .block => "dict"
  | .table _ .inline => "DynamicInlineTableDict"

/-- The name of the type of a value together with the name of its family. -/
def fullTypeName : ConfigValue → String
  | .moment kind => "datetime." ++ (ConfigValue.moment kind).typeName
  | v => v.typeName

/-! ### Readers of values -/

def integer? : ConfigValue → Option Int
  | .integer n => some n
  | _ => none

def seconds? : ConfigValue → Option Seconds
  | .integer n => some (.whole n)
  | .real x => some (.real x)
  | _ => none

def text? : ConfigValue → Option String
  | .text s => some s
  | _ => none

def boolean? : ConfigValue → Option Bool
  | .boolean b => some b
  | _ => none

end ConfigValue

namespace ConfigTable

/-- Gives a key a value: in the place where the key stands, or at the end. -/
def put (key : String) (value : ConfigValue) : ConfigTable → ConfigTable
  | [] => [(key, value)]
  | (k, v) :: rest => if k = key then (k, value) :: rest else (k, v) :: put key value rest

def ofEntries (entries : List (String × ConfigValue)) : ConfigTable :=
  entries.foldl (fun table (k, v) => put k v table) []

/-- The value under a key, as a reader of values takes it; the default without such a value. -/
def value {α : Type} (table : ConfigTable) (read? : ConfigValue → Option α) (key : String)
    (default : α) : α :=
  ((table.lookup key).bind read?).getD default

end ConfigTable

end ScionEcho
