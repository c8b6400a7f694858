/-!
# Splitting texts

Cutting a text at a separator: at every occurrence, or at the first one only.
-/

namespace ScionEcho.Text

/-- The pieces between the occurrences of `sep`; a text without one is a single piece. -/
def splitOn (sep : Char) : List Char → List (List Char)
  | [] => [[]]
  | c :: cs =>
    if c = sep then [] :: splitOn sep cs
    else
      match splitOn sep cs with
      | [] => [[c]]
      | piece :: pieces => (c :: piece) :: pieces

/-- The text before the first `sep` and the text after it, if there is one. -/
def cut (sep : Char) (cs : List Char) : List Char × Option (List Char) :=
  (cs.takeWhile (· ≠ sep), (cs.dropWhile (· ≠ sep)).tail?)

/-- The text before the first two neighbouring `sep` and the text after them. -/
def cutDouble (sep : Char) : List Char → Option (List Char × List Char)
  | a :: b :: rest =>
    if a = sep && b = sep then some ([], rest)
    else (cutDouble sep (b :: rest)).map fun (before, after) => (a :: before, after)
  | _ => none

/-- The pieces between the occurrences of `sep`, the first `skip` characters passed over. -/
def splitPast (sep : List Char) : (skip : Nat) → List Char → List (List Char)
  | _, [] => [[]]
  | skip + 1, _ :: cs => splitPast sep skip cs
  | 0, c :: cs =>
    if sep.isPrefixOf (c :: cs) then [] :: splitPast sep (sep.length - 1) cs
    else
      match splitPast sep 0 cs with
      | [] => [[c]]
      | piece :: pieces => (c :: piece) :: pieces

/-- The pieces between the occurrences of a separator of one or more characters. Occurrences are
looked for from the front and do not overlap. -/
def splitOnText (sep cs : List Char) : List (List Char) := splitPast sep 0 cs

/-- How often a text of one or more characters occurs in another. -/
def countText (part cs : List Char) : Nat := (splitOnText part cs).length - 1

/-- The text between its first and its last character. -/
def middle (cs : List Char) : List Char := cs.tail.dropLast

/-- The pieces with `sep` between them. -/
def join (sep : Char) (pieces : List (List Char)) : List Char := [sep].intercalate pieces

@[simp] theorem splitOn_nil (sep : Char) : splitOn sep [] = [[]] := rfl

end ScionEcho.Text
