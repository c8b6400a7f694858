import ScionEcho.Toml.Header
import ScionEcho.Toml.Value

/-!
# TOML documents

A document is a sequence of lines: keys with values, and headers that name the table for the lines
that follow. A text of several lines goes on until a line ends with its closing marks.
-/

namespace ScionEcho.Toml

open Text

structure Draft where
  root : ConfigValue := .table []
  /-- Where the table is that lines belong to. -/
  place : List Step := []
  /-- The names of tables that no header has named yet. -/
  implied : List String := []
  /-- A text of several lines that is being read. -/
  opened : Option OpenText := none

/-- Changes the table that lines belong to. -/
def Draft.update {α : Type} (d : Draft) (f : ConfigValue → Reading (ConfigValue × α)) :
    Reading (Draft × α) := do
  let (root, a) ← change f d.place d.root
  return ({ d with root }, a)

/-- Whether a line closes a value that goes on over several lines. -/
def closes (text line : List Char) : Reading Bool :=
  match text with
  | '[' :: _ =>
    match line.getLast? with
    | none => stuck .noCharacter
    | some c => .ok (c = ']')
  | mark :: _ => .ok (3 ≤ line.length && (line.reverse.take 3).all (· = mark))
  | [] => .ok false

/-- Goes on with a text of several lines. Its value is put into the table that lines belong to, even
if its key leads to another one. Up to the first line end in the text, and after a backslash, the
blanks around a line are left out. -/
def Draft.continueText (d : Draft) (o : OpenText) (line : List Char) : Reading Draft := do
  let line := if o.joined || '\n' ∉ o.text then strip line else line
  if line.isEmpty && o.joined then return d
  else
    let text := o.text ++ line
    if ← closes text line then
      let value ← readValue true text
      let (d, _) ← d.update fun v => .ok (setEntry o.name value v, ())
      return { d with opened := none }
    else
      let joined := escapesNext text.reverse
      let text := if joined then text.dropLast else text ++ ['\n']
      return { d with opened := some { o with text, joined } }

/-- Reads a line that is not part of a text of several lines. A line that is neither a header nor a
table nor a pair says nothing. -/
def Draft.startLine (d : Draft) (line : List Char) : Reading Draft :=
  match line with
  | [] => .ok d
  | '[' :: rest => do
    let h ← orMalformed (readHeader? rest)
    let a ← arrive h h.names d.implied d.root
    return { d with root := a.value, place := a.place, implied := a.implied }
  | '{' :: _ =>
    if line.getLast? ≠ some '}' then malformed
    else do
      let (d, _) ← d.update fun v => do return (← readInline readValue line v, ())
      return d
  | _ =>
    if '=' ∈ line then do
      let (d, opened) ← d.update (readPair readValue line)
      return { d with opened }
    else .ok d

def Draft.readLine (d : Draft) (line : List Char) : Reading Draft :=
  match d.opened with
  | some o => d.continueText o line
  | none => d.startLine (strip line)

def Draft.readLines (d : Draft) : List (List Char) → Reading Draft
  | [] => .ok d
  | line :: rest =>
    match d.readLine line with
    | .ok d => readLines d rest
    | .error e => .error e

def Draft.table (d : Draft) : ConfigTable :=
  match d.root with
  | .table entries _ => entries
  | _ => []

def read (text : List Char) : Reading ConfigTable := do
  let lines ← linesOf (unifyNewlines text)
  return (← Draft.readLines {} lines).table

end ScionEcho.Toml
