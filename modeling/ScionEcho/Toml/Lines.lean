import ScionEcho.Text.Blank
import ScionEcho.Text.Letter
import ScionEcho.Text.Split
import ScionEcho.Toml.ReadError

/-!
# The lines of a document

Before a document is taken apart, a scan goes through its characters once. It blanks comments,
joins the lines of an array, lets a text of several lines begin after the line end that follows its
opening quotes, and refuses keys and quotes that are not as they should be.

The scan looks back at what it has passed. Where it would look back beyond the first character it
meets the end of the document instead, as if the document were written on a ring.
-/

namespace ScionEcho.Toml

open Text

/-- The two quotation marks. -/
def isQuote (c : Char) : Bool := c = '"' || c = '\''

/-- Whether a backslash at the end of a text, given backwards, escapes what follows. Every second
backslash of a run is escaped itself. -/
def escapesNext (backwards : List Char) : Bool :=
  (backwards.takeWhile (· = '\\')).length % 2 = 1

/-- Where in a key the scan is. -/
inductive KeyPart
  | name
  /-- After a name, where an equals sign or a point has to follow. -/
  | gap
  deriving DecidableEq, Repr

/-- The brackets of a header that is open. -/
inductive HeaderKind
  /-- One bracket: a table. -/
  | single
  /-- Two brackets: one of several tables. -/
  | double
  deriving DecidableEq, Repr

/-- The state of the scan. -/
structure Scan where
  /-- What has been passed, the last character first; behind it lies the whole document. -/
  passed : List Char
  lineStart : Bool := true
  comment : Bool := false
  key : Option KeyPart := none
  /-- Whether the key has a point. -/
  dotted : Bool := false
  /-- The mark of the quotation that is open. -/
  quote : Option Char := none
  /-- Whether the quotation may go on over several lines. -/
  multiline : Bool := false
  header : Option HeaderKind := none
  /-- The brackets of arrays that are open; negative if more were closed. -/
  arrays : Int := 0

namespace Scan

/-- The scan after a character. -/
def pass (s : Scan) (c : Char) : Scan := { s with passed := c :: s.passed }

/-- Whether brackets and number signs are neither quoted nor part of a header. -/
def outside (s : Scan) : Bool := s.quote.isNone && s.header.isNone

/-! ### Keys -/

/-- The end of a key, which only an equals sign makes. -/
def endKey (s : Scan) (c : Char) : Reading Scan :=
  if c = '=' then .ok { s with key := none, dotted := false } else malformed

/-- Goes on to the next name of a key with points, if it follows at once. -/
def nextName (s : Scan) : (next : Option Char) → Reading Scan
  | none => stuck .noItem
  | some c => .ok (if isBlank c || c = '.' then s else { s with key := some .name })

/-- A character of a key. A quoted name may stand at the front, and right after a point. -/
def inKey (s : Scan) (part : KeyPart) (c : Char) (next : Option Char) : Reading Scan :=
  let after := s.pass c
  if c = '\n' then malformed
  else
    match s.quote, part with
    | some mark, _ =>
      .ok (if c = mark && !escapesNext s.passed then { after with key := some .gap, quote := none }
        else after)
    | none, .name =>
      if isBlank c then .ok { after with key := some .gap }
      else if c = '.' then .ok { after with dotted := true }
      else if isAlphanumeric c || c = '_' || c = '-' then .ok after
      else if s.dotted && s.passed.head? = some '.' && isQuote c then
        .ok { after with quote := some c }
      else after.endKey c
    | none, .gap =>
      if isBlank c then if s.dotted then after.nextName next else .ok after
      else if c = '.' then nextName { after with dotted := true } next
      else after.endKey c

/-! ### The other characters -/

/-- A quotation mark that is not within a quotation of the other mark. Three marks in a row open
and close texts of several lines. A double mark may be escaped by a backslash. -/
def atQuote (s : Scan) (mark : Char) : Scan :=
  let run := (s.passed.takeWhile (· = mark)).length
  let escaped :=
    mark = '"' &&
      if 2 ≤ run then escapesNext (s.passed.drop 2) else run = 0 && escapesNext s.passed
  if escaped then s
  else if 2 ≤ run then
    { s with multiline := !s.multiline, quote := if s.multiline then none else some mark }
  else { s with quote := if s.quote.isSome then none else some mark }

/-- An opening bracket: of a header at the start of a line, of an array elsewhere. -/
def atOpening (s : Scan) (next : Option Char) : Scan :=
  if !s.outside then s
  else if s.lineStart then
    { s with header := some (if next = some '[' then .double else .single) }
  else { s with arrays := s.arrays + 1 }

/-- A closing bracket. -/
def atClosing (s : Scan) : Scan :=
  if s.quote.isSome then s
  else
    match s.header with
    | some .single => { s with header := none }
    | some .double => if s.passed.head? = some ']' then { s with header := none } else s
    | none => { s with arrays := s.arrays - 1 }

/-- The end of a line. Within a text of several lines two quotation marks before it swallow it;
where they are the opening marks the text so begins in the next line. -/
def atLineEnd (s : Scan) : Reading Scan :=
  if s.quote.isSome || s.multiline then
    if !s.multiline then malformed
    else
      match s.passed with
      | a :: b :: rest =>
        if isQuote a && b = a then
          let rest :=
            match rest with
            | c :: before => (if c = a then ' ' else c) :: before
            | [] => []
          .ok { s with passed := a :: a :: b :: rest }
        else .ok (s.pass '\n')
      | _ => .ok (s.pass '\n')
  else if s.arrays ≠ 0 then .ok (s.pass ' ')
  else .ok { s.pass '\n' with lineStart := true }

/-- Passes a character. If it is the first one of its line, a key begins with it, unless it belongs
to a header. -/
def begin (s : Scan) (c : Char) : Reading Scan :=
  let after := s.pass c
  if !s.lineStart || c = ' ' || c = '\t' then .ok after
  else if s.header.isSome then .ok { after with lineStart := false }
  else if c = '=' then malformed
  else .ok { after with lineStart := false, key := some .name }

/-- A character that is neither in a comment nor in a key. -/
def atPlain (s : Scan) (c : Char) (next : Option Char) : Reading Scan :=
  if c = '\n' then s.atLineEnd
  else if c = '#' && s.outside then .ok { s.pass ' ' with comment := true }
  else if c = '[' then (s.atOpening next).begin c
  else if c = ']' then s.atClosing.begin c
  else if isQuote c && (s.quote.isNone || s.quote = some c) then (s.atQuote c).begin c
  else s.begin c

def step (s : Scan) (c : Char) (next : Option Char) : Reading Scan :=
  if s.comment && c ≠ '\n' then .ok (s.pass ' ')
  else
    match s.key with
    | some part => s.inKey part c next
    | none => { s with comment := false }.atPlain c next

def run (s : Scan) : List Char → Reading Scan
  | [] => .ok s
  | c :: cs =>
    match s.step c cs.head? with
    | .ok s => run s cs
    | .error e => .error e

end Scan

/-- A line may end with a carriage return, with a line feed, or with both. -/
def unifyNewlines : List Char → List Char
  | '\r' :: '\n' :: cs => '\n' :: unifyNewlines cs
  | '\r' :: cs => '\n' :: unifyNewlines cs
  | c :: cs => c :: unifyNewlines cs
  | [] => []

def linesOf (text : List Char) : Reading (List (List Char)) := do
  let s ← Scan.run { passed := text.reverse } text
  if s.key.isSome || s.quote.isSome then malformed
  else return splitOn '\n' (s.passed.take text.length).reverse

end ScionEcho.Toml
