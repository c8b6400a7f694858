import ScionEcho.Toml.Moment
import ScionEcho.Toml.Number
import ScionEcho.Toml.Place
import ScionEcho.Toml.Quotation

/-!
# Values, arrays and pairs

A line of a document gives a key a value. An inline table is a list of such lines within braces, so
that values and pairs are read by each other: a reader of values is passed on as an argument, and
`readValue` closes the circle.
-/

namespace ScionEcho.Toml

open Text

/-! ### Arrays -/

/-- The sort of a value; all items of an array have the same sort. Dates are of one sort, whether
or not they come with a time. -/
def sortName : ConfigValue → String
  | .moment .dateTime => "date"
  | v => v.typeName

/-- Whether a text begins with a quotation mark. -/
def beginsQuoted (cs : List Char) : Bool := cs.head?.any isQuote

/-- Whether a mark at the front of a text is closed at its end. The mark counts as closed as well
if there is none but the text. -/
def isBounded (cs : List Char) : Bool :=
  cs.isEmpty || (cs.head? = cs.getLast? && !escapesNext (middle cs).reverse)

/-- Whether three marks at the front of a text are not closed at its end. -/
def opensTriple (cs : List Char) : Bool :=
  match cs, cs.reverse with
  | a :: b :: c :: _, _ :: y :: z :: _ => a = b && b = c && y ≠ a && z ≠ a
  | _, _ => false

/-- Whether a quoted item of an array is complete. -/
def isCompleteText (cs : List Char) : Bool := isBounded (strip cs) && !opensTriple (strip cs)

/-- Puts quoted items back together that were taken apart at a comma. The last item is taken as
it is, unless it was put together. -/
def joinTexts (item : List Char) : (joined : Bool) → List (List Char) → Reading (List (List Char))
  | joined, [] => if joined && !isCompleteText item then stuck .noItem else .ok [item]
  | _, next :: rest =>
    if isCompleteText item then (joinTexts next false rest).map (item :: ·)
    else joinTexts (item ++ ',' :: next) true rest

/-- Where a search for the inline tables of an array is. -/
inductive TableSearch
  /-- In a table, of which the given characters were passed, the last one first. -/
  | inside (passed : List Char)
  /-- Right after a table. -/
  | after
  /-- Before the next table. -/
  | before

/-- The inline tables of an array. Braces in quotations do not count, and neither does what stands
between two tables. -/
def tableTexts : TableSearch → (depth : Nat) → (quoted : Bool) → List Char → List (List Char)
  | _, _, _, [] => []
  | .after, depth, quoted, _ :: cs => tableTexts .before depth quoted cs
  | .before, depth, quoted, c :: cs =>
    if c = '{' then tableTexts (.inside [c]) depth quoted cs else tableTexts .before depth quoted cs
  | .inside passed, depth, quoted, c :: cs =>
    let quoted := if isQuote c then !quoted || escapesNext passed else quoted
    if !quoted && c = '}' && depth ≤ 1 then
      (c :: passed).reverse :: tableTexts .after depth quoted cs
    else
      let depth :=
        if quoted then depth
        else if c = '{' then depth + 1
        else if c = '}' then depth - 1
        else depth
      tableTexts (.inside (c :: passed)) depth quoted cs

/-- The pieces of a text between the commas that are in no brackets. -/
def splitOutside : (depth : Int) → List Char → List (List Char)
  | _, [] => [[]]
  | depth, c :: cs =>
    if c = ',' && depth = 0 then [] :: splitOutside depth cs
    else
      let depth := if c = '[' then depth + 1 else if c = ']' then depth - 1 else depth
      match splitOutside depth cs with
      | [] => [[c]]
      | piece :: pieces => (c :: piece) :: pieces

/-- The texts of the items of an array. Only an array whose first item is an array is searched for
brackets. -/
def itemTexts (body : List Char) : Reading (List (List Char)) :=
  let beforeBracket := body.takeWhile (· ≠ '[')
  if '[' ∈ body && (strip beforeBracket).isEmpty then .ok (splitOutside 0 body)
  else if beginsQuoted (strip body) then
    match splitOn ',' body with
    | [] => .ok []
    | item :: rest => joinTexts item false rest
  else if (strip body).head? = some '{' then
    match body with
    | [] => .ok []
    | c :: cs => .ok (tableTexts (.inside [c]) (if c = '{' then 1 else 0) false cs)
  else .ok (splitOn ',' body)

def readItems (readItem : List Char → Reading ConfigValue) :
    (sort : Option String) → List (List Char) → Reading (List ConfigValue)
  | _, [] => .ok []
  | sort, text :: rest =>
    if (strip text).isEmpty then readItems readItem sort rest
    else do
      let item ← readItem (strip text)
      if sort.any (· ≠ sortName item) then malformed
      else
        let items ← readItems readItem (some (sortName item)) rest
        return item :: items

def readArray (readItem : List Char → Reading ConfigValue) (cs : List Char) :
    Reading ConfigValue := do
  return .list (← readItems readItem none (← itemTexts (middle cs)))

/-! ### Keys -/

/-- A key: the tables that lead to it, and its name. -/
structure Key where
  tables : List String
  name : String
  deriving DecidableEq, Repr

/-- The names of a key with points. The pieces are unquoted and quoted in turn; points divide the
unquoted ones. -/
def namesOfPieces : (quoted : Bool) → List (List Char) → List (List Char)
  | _, [] => []
  | true, piece :: rest => piece :: namesOfPieces false rest
  | false, piece :: rest => (splitOn '.' piece).map strip ++ namesOfPieces true rest

/-- Reads a key. A quoted key without a point may have escapes. Of a key with points, names without
characters are passed over. -/
def readKey (cs : List Char) : Reading Key :=
  if '.' ∈ cs then
    let names := if cs.any isQuote then namesOfPieces false (splitQuotes cs) else splitOn '.' cs
    match names.reverse.dropWhile List.isEmpty with
    | [] => stuck .noItem
    | name :: tables =>
      .ok ⟨(tables.reverse.filter fun t => !t.isEmpty).map String.ofList,
        String.ofList (strip name)⟩
  else
    match cs with
    | [] => stuck .noCharacter
    | c :: _ =>
      if isQuote c && cs.getLast? = some c then
        (orMalformed (unescape? (middle cs))).map fun name => ⟨[], String.ofList name⟩
      else .ok ⟨[], String.ofList cs⟩

/-! ### The two sides of a pair -/

structure OpenText where
  name : String
  text : List Char
  /-- Whether a backslash at the end of the last line joins the next line to it. -/
  joined : Bool

/-- The last quoted item of an array that is not closed; `rest` are the items before, the last one
first. -/
def lastText (item : List Char) : (rest : List (List Char)) → Reading (List Char)
  | [] => .ok item
  | next :: rest =>
    match item with
    | [] => stuck .noCharacter
    | c :: _ => if isQuote c then .ok item else lastText (next ++ ',' :: item) rest

/-- Whether a text begins with three marks that are not closed. -/
def opensText : List Char → Reading Bool
  | [] => stuck .noCharacter
  | [c] => if isQuote c then stuck .noCharacter else .ok false
  | [a, b] => if isQuote a && b = a then stuck .noCharacter else .ok false
  | a :: b :: c :: rest =>
    .ok (isQuote a && b = a && c = a &&
      !(3 ≤ rest.length && (rest.reverse.take 3).all (· = a)))

/-- Whether the value of a line goes on in the next line: as a text of several lines, or as an array
whose last item is one. -/
def staysOpen (cs : List Char) : Reading Bool :=
  if cs.length < 3 then .ok false
  else if cs.head? = some '[' && cs.getLast? ≠ some ']' && beginsQuoted (strip (middle cs)) then
    match (splitOn ',' (strip cs.tail)).reverse with
    | [] => .ok false
    | item :: rest => do opensText (← lastText item rest)
  else opensText cs

/-- Whether a value can be taken as it stands behind its equals sign. Values without a blank before
them have to be numbers or moments, unless a mark or a bracket shows what they are. -/
def isSettled (cs : List Char) : Reading Bool :=
  match cs with
  | [] => .ok true
  | c :: _ =>
    if c = ' ' || c = '\t' || c = '[' || c = '{' || isQuote c then .ok true
    else if strip cs = "true".toList || strip cs = "false".toList then .ok true
    else if (Numeral.readFloat? cs).isSome then .ok true
    else do return (← readDate cs).isSome || (clock? cs).isSome

/-- The two sides of a line, and whether a number on the right side is written plainly. -/
structure Sides where
  left : List Char
  right : List Char
  plain : Bool

/-- Divides a line at an equals sign after which the value is settled, from the one behind the first
pieces on. -/
def settle (pieces : List (List Char)) : (budget : Nat) → (position : Nat) → (right : List Char) →
    (plain : Bool) → Reading Sides
  | 0, _, _, _ => malformed
  | budget + 1, position, right, plain => do
    if ← isSettled right then return ⟨join '=' (pieces.take position), right, plain⟩
    else
      let next := min (position + 1) (pieces.length - 1)
      let further := join '=' (pieces.drop next)
      if further = right then malformed
      else settle pieces budget next further (plain && isPlain further)

/-- Divides a line into key and value: at the first equals sign that is not quoted, or at a later
one if the value is not settled before. -/
def splitPair (line : List Char) : Reading Sides :=
  let pieces := splitOn '=' line
  let start := min (1 + countBefore ['='] false (splitQuotes line)) (pieces.length - 1)
  let right := join '=' (pieces.drop start)
  let bare := if right.head?.any Char.isDigit then right.filter (· ≠ '_') else right
  settle pieces (pieces.length + 2) start bare (isPlain right)

/-! ### Pairs and inline tables -/

/-- Reads the value of a pair: a value, or a text that goes on in the next line. -/
def readRight (readPlain : Bool → List Char → Reading ConfigValue) (name : String) (s : Sides) :
    Reading (ConfigValue ⊕ OpenText) := do
  let right := strip s.right
  if ← staysOpen right then
    let joined := escapesNext right.reverse
    return .inr ⟨name, if joined then right.dropLast else right ++ ['\n'], joined⟩
  else return .inl (← readPlain s.plain right)

/-- Reads a pair into a table. A text of several lines is not read to its end; it is given back. -/
def readPair (readPlain : Bool → List Char → Reading ConfigValue) (line : List Char)
    (table : ConfigValue) : Reading (ConfigValue × Option OpenText) := do
  let sides ← splitPair line
  let key ← readKey (strip sides.left)
  within
    (fun v => do
      let read ← readRight readPlain key.name sides
      if !lacks key.name v then malformed
      else
        match read with
        | .inl value => return (setEntry key.name value v, none)
        | .inr opened =>
          if key.name = "" then stuck .namelessValue else return (v, some opened))
    key.tables table

/-- Whether a pair of an inline table is complete, and not a part of a value with a comma. -/
def isCompletePair (cs : List Char) : Reading Bool :=
  match cut '=' cs with
  | (_, none) => malformed
  | (_, some right) =>
    let value := strip right
    match value, value.getLast? with
    | first :: _, some last =>
      .ok ((isQuote first && last = first) || first = '-' || first.isDigit ||
        value = "true".toList || value = "false".toList ||
        (first = '[' && last = ']') || (first = '{' && last = '}'))
    | _, _ => stuck .noCharacter

/-- The texts of the pairs of an inline table; pieces that are not complete are put together. -/
def pairTexts (pair : List Char) : List (List Char) → Reading (List (List Char))
  | [] => do if ← isCompletePair pair then return [pair] else malformed
  | next :: rest => do
    if ← isCompletePair pair then return pair :: (← pairTexts next rest)
    else pairTexts (pair ++ ',' :: next) rest

/-- Reads pairs one after the other, up to one whose text is not closed. -/
def readPairs (readPlain : Bool → List Char → Reading ConfigValue) :
    List (List Char) → ConfigValue → Reading ConfigValue
  | [], table => .ok table
  | pair :: rest, table => do
    match ← readPair readPlain pair table with
    | (table, none) => readPairs readPlain rest table
    | (table, some _) => return table

/-- Reads the pairs of an inline table into a table. -/
def readInline (readPlain : Bool → List Char → Reading ConfigValue) (cs : List Char)
    (table : ConfigValue) : Reading ConfigValue :=
  match splitOn ',' (middle cs) with
  | [] => .ok table
  | first :: rest =>
    if rest.isEmpty && (strip first).isEmpty then .ok table
    else do readPairs readPlain (← pairTexts first rest) table

/-! ### Values -/

/-- Reads a value; a number is refused unless it is written plainly. The budget bounds how deep
arrays and inline tables lie in each other. -/
def readValueWithin : (budget : Nat) → (plain : Bool) → List Char → Reading ConfigValue
  | 0, _, _ => malformed
  | _, _, [] => malformed
  | budget + 1, plain, first :: rest =>
    let cs := first :: rest
    if cs = "true".toList then .ok (.boolean true)
    else if cs = "false".toList then .ok (.boolean false)
    else if isQuote first then
      (readText first cs).map fun s => .text (String.ofList s)
    else if first = '[' then readArray (readValueWithin budget true) cs
    else if first = '{' then readInline (readValueWithin budget) cs (.table [] .inline)
    else
      match clock? cs with
      | some (hour, minute, second) =>
        if isClock hour minute second then .ok (.moment .time) else malformed
      | none => do
        match ← readDate cs with
        | some kind => return .moment kind
        | none => if plain then orMalformed (readNumber? cs) else malformed

/-- Reads a value. What lies in a value is shorter than the value. -/
def readValue (plain : Bool) (cs : List Char) : Reading ConfigValue :=
  readValueWithin (cs.length + 1) plain cs

end ScionEcho.Toml
