import ScionEcho.Text.Blank
import ScionEcho.Toml.Place
import ScionEcho.Toml.Quotation

/-!
# Headers

A header names the table that the lines after it belong to, or one more of several tables.
-/

namespace ScionEcho.Toml

open Text

/-! ### The names of a header -/

/-- Whether a part of a header is a name in quotes. -/
def isQuotedName (cs : List Char) : Bool :=
  cs.head?.any isQuote && cs.length ≠ 1 && cs.head? = cs.getLast?

/-- The characters of a name without quotes. -/
def isBareName (c : Char) : Bool := c.isAlphanum || c = '_' || c = '-'

/-- The names between the points of a header. A point in a quoted name belongs to it: `quoted` is
what was read of such a name, in which only the blanks before the first point are left out. Escapes
are left as they are. -/
def readNames? : (quoted : Option (List Char)) → List (List Char) → Option (List (List Char))
  | none, [] => some []
  | some _, [] => none
  | none, part :: rest =>
    let name := strip part
    if name.head?.any isQuote then
      if isQuotedName name then (readNames? none rest).map (middle name :: ·)
      else readNames? (some name) rest
    else if !name.isEmpty && name.all isBareName then (readNames? none rest).map (name :: ·)
    else none
  | some quoted, part :: rest =>
    let quoted := quoted ++ '.' :: part
    let name := strip quoted
    if isQuotedName name then (readNames? none rest).map (middle name :: ·)
    else readNames? (some quoted) rest

/-- A header: whether it names one more of several tables, and the names that lead to it. -/
structure Header where
  several : Bool
  names : List String
  deriving DecidableEq, Repr

/-- Reads a header after its first bracket. Nothing but blanks may follow its last bracket, which is
the one after the first unquoted piece that has any. -/
def readHeader? (cs : List Char) : Option Header := do
  let (several, body, closing) :=
    match cs with
    | '[' :: body => (true, body, [']', ']'])
    | body => (false, body, [']'])
  let pieces := splitOnText closing body
  let count := 1 + countBefore closing false (splitQuotes body)
  if cs.isEmpty || pieces.length ≠ count + 1 || !(strip (pieces.getLast?.getD [])).isEmpty then none
  else
    let names ← readNames? none (splitOn '.' (closing.intercalate pieces.dropLast))
    return ⟨several, names.map String.ofList⟩

/-! ### The table of a header -/

/-- Where a header leads to. -/
structure Arrival where
  value : ConfigValue
  place : List Step
  /-- The names of tables that no header has named yet. -/
  implied : List String

/-- An arrival seen from one step before. -/
def Arrival.after (a : Arrival) (step : Step) (whole : ConfigValue → ConfigValue) : Arrival :=
  { a with value := whole a.value, place := step :: a.place }

/-- Goes into the last item of a list. -/
def intoLast (items : List ConfigValue) (go : ConfigValue → Reading Arrival) : Reading Arrival :=
  match items.getLast? with
  | none => stuck .noItem
  | some item => do return (← go item).after .last fun v => .list (items.dropLast ++ [v])

/-- Goes into a value; on the way to one of several tables, into the last one of a list. -/
def enter (several : Bool) (v : ConfigValue) (go : ConfigValue → Reading Arrival) :
    Reading Arrival :=
  if !several then go v
  else
    match v with
    | .list items => intoLast items go
    | .table _ _ => go v
    | .text s => if s = "" then stuck .noCharacter else go v
    | v => stuck (.itemOf v.fullTypeName)

/-- What a header makes where nothing is. -/
def freshTable (several isLast : Bool) : ConfigValue :=
  if several && isLast then .list [.table []] else .table []

/-- The value that a header finds under its last name, with the names that stay implied. A table may
be named once after it was implied; one more table is added to a list. -/
def renamed (several : Bool) (name : String) (implied : List String) (v : ConfigValue) :
    Reading (ConfigValue × List String) :=
  if name ∈ implied then if several then malformed else .ok (v, implied.erase name)
  else if !several then malformed
  else
    match v with
    | .list items => .ok (.list (items ++ [.table []]), implied)
    | v => stuck (.moreOf v.fullTypeName)

/-- The value under a name of a table, made if it is missing. -/
def openName (h : Header) (isLast : Bool) (name : String) (implied : List String)
    (entries : ConfigTable) : Reading (ConfigValue × List String) :=
  match entries.lookup name with
  | some v => if isLast then renamed h.several name implied v else .ok (v, implied)
  | none =>
    .ok (freshTable h.several isLast, if isLast then implied else implied ++ [name])

/-- Goes along the names of a header. In a list a name leads into the last item. -/
def arrive (h : Header) : List String → (implied : List String) → ConfigValue → Reading Arrival
  | [], implied, v => .ok ⟨v, [], implied⟩
  | name :: rest, implied, v =>
    if name = "" then malformed
    else
      let under (entries : ConfigTable) (form : TableForm) (v : ConfigValue)
          (implied : List String) : Reading Arrival := do
        let a ← enter h.several v (arrive h rest implied)
        return a.after (.key name) fun v => .table (ConfigTable.put name v entries) form
      match v with
      | .table entries form => do
        let (v, implied) ← openName h rest.isEmpty name implied entries
        under entries form v implied
      | .list items =>
        intoLast items fun
          | .table entries form =>
            under entries form
              ((entries.lookup name).getD (freshTable h.several rest.isEmpty)) implied
          | .list _ => stuck .keyOfList
          | .text s => stuck (keyInText name s.toList)
          | v => stuck (.memberOf v.fullTypeName)
      | .text s =>
        match s.toList.getLast? with
        | none => stuck .noCharacter
        | some c => stuck (keyInText name [c])
      | v => stuck (.itemOf v.fullTypeName)

end ScionEcho.Toml
