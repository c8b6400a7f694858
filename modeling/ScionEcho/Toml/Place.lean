import ScionEcho.Text.Split
import ScionEcho.Toml.ReadError

/-!
# Places in a document

A document that is being read is a value, most often a table, that is changed in one place after the
other. Keys lead through tables; a list is entered at its last item.
-/

namespace ScionEcho.Toml

open Text

/-! ### Entries -/

/-- Whether a value is a table that does not have a key yet. -/
def lacks (name : String) : ConfigValue → Bool
  | .table entries _ => (entries.lookup name).isNone
  | _ => false

/-- Gives a key of a table a value, in place of the one that it may have. -/
def setEntry (name : String) (value : ConfigValue) : ConfigValue → ConfigValue
  | .table entries form => .table (ConfigTable.put name value entries) form
  | v => v

/-! ### Paths of keys -/

/-- What a key leads to in a text, which has no keys, only parts. -/
def keyInText (key : String) (text : List Char) : Impasse :=
  if 0 < countText key.toList text then .keyOfText else .newKeyOfText

/-- Changes the value that a path of keys leads to. Tables that are missing are made. -/
def within {α : Type} (f : ConfigValue → Reading (ConfigValue × α)) :
    (path : List String) → ConfigValue → Reading (ConfigValue × α)
  | [], v => f v
  | key :: path, .table entries form => do
    let (child, a) ← within f path ((entries.lookup key).getD (.table []))
    return (.table (ConfigTable.put key child entries) form, a)
  | _ :: _, .list _ => stuck .keyOfList
  | key :: _, .text s => stuck (keyInText key s.toList)
  | _ :: _, v => stuck (.memberOf v.fullTypeName)

/-! ### Places -/

/-- A step on the way to a value. -/
inductive Step
  | key (name : String)
  /-- The last item of a list. -/
  | last
  deriving DecidableEq, Repr

/-- Changes the value at a place. -/
def change {α : Type} (f : ConfigValue → Reading (ConfigValue × α)) :
    (place : List Step) → ConfigValue → Reading (ConfigValue × α)
  | [], v => f v
  | .key name :: place, .table entries form =>
    match entries.lookup name with
    | none => malformed
    | some child => do
      let (child, a) ← change f place child
      return (.table (ConfigTable.put name child entries) form, a)
  | .last :: place, .list items =>
    match items.getLast? with
    | none => malformed
    | some item => do
      let (item, a) ← change f place item
      return (.list (items.dropLast ++ [item]), a)
  | _ :: _, _ => malformed

end ScionEcho.Toml
