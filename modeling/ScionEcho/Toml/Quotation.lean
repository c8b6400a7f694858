import ScionEcho.Text.Hex
import ScionEcho.Toml.Lines

/-!
# Quotations

Which parts of a line are quoted, and the texts that quotations stand for.
-/

namespace ScionEcho.Toml

open Text

/-! ### Quoted and unquoted pieces -/

/-- Puts pieces between double marks back together as long as a single mark is open before them. -/
def closeSingle (pieces : List (List Char)) :
    List (List Char) → List (List Char) × List (List Char)
  | [] => (pieces, [])
  | piece :: rest =>
    if pieces.length % 2 = 0 then
      let last := pieces.getLast?.getD [] ++ '"' :: piece
      closeSingle (pieces.dropLast ++ splitOn '\'' last) rest
    else (pieces, piece :: rest)

/-- The pieces of a line between quotation marks. The first piece is unquoted, the second quoted,
and so on in turn. Single marks count only up to the first double mark. -/
def splitQuotes (line : List Char) : List (List Char) :=
  match splitOn '"' line with
  | first :: second :: rest =>
    if '\'' ∈ first then
      match closeSingle (splitOn '\'' first) (second :: rest) with
      | (pieces, []) => pieces
      | (pieces, piece :: rest) => pieces ++ splitOn '\'' piece ++ rest
    else splitOn '\'' first ++ second :: rest
  | [only] => splitOn '\'' only
  | [] => []

/-- How often a separator stands in the pieces before the first unquoted piece that has it. -/
def countBefore (sep : List Char) : (quoted : Bool) → List (List Char) → Nat
  | _, [] => 0
  | quoted, piece :: rest =>
    let count := countText sep piece
    if !quoted && 0 < count then 0 else count + countBefore sep (!quoted) rest

/-! ### Where a quotation ends -/

/-- Whether the pieces between the marks of a quotation go on after it was closed. A piece that ends
in a backslash does not count, because the mark after it is escaped. -/
def goesOn (triple : Bool) : (closed : Bool) → (marks : Nat) → List (List Char) → Bool
  | _, _, [] => false
  | closed, marks, [] :: rest =>
    if triple then goesOn triple closed (marks + 1) rest else goesOn triple true marks rest
  | closed, marks, piece :: rest =>
    if escapesNext piece.reverse then goesOn triple closed marks rest
    else
      closed ||
        if !triple || 1 < marks then goesOn triple true marks rest
        else goesOn triple closed 0 rest

/-- Whether something follows a quotation that begins with the given mark. -/
def hasTail (mark : Char) (body : List Char) : Bool :=
  match splitOn mark body with
  | [] :: [] :: rest => goesOn true false 0 rest
  | pieces => goesOn false false 0 pieces

/-! ### Escapes -/

/-- The character that a letter stands for after a backslash. -/
def escaped? : Char → Option Char
  | '0' => some '\x00'
  | 'b' => some '\x08'
  | 'f' => some '\x0c'
  | 'n' => some '\n'
  | 'r' => some '\r'
  | 't' => some '\t'
  | '"' => some '"'
  | _ => none

/-- Whether a letter says that a code point follows. -/
def announcesCodePoint (c : Char) : Bool := c = 'u' || c = 'U'

/-- Whether a backslash stands before a character that it cannot escape. The pieces are those
after each backslash. -/
def hasUnknownEscape : (escaped : Bool) → List (List Char) → Bool
  | _, [] => false
  | escaped, [] :: rest => hasUnknownEscape (!escaped) rest
  | escaped, (c :: _) :: rest =>
    (!escaped && (escaped? c).isNone && !announcesCodePoint c) || hasUnknownEscape false rest

/-- The character with the code point of the given hexadecimal digits. Surrogates are refused. -/
def readCodePoint (digits : List Char) : Reading Char :=
  if !digits.all isHex then malformed
  else
    match digits.map Char.toLower with
    | [] => stuck .noCharacter
    | ['d'] => stuck .noCharacter
    | first :: rest =>
      if first = 'd' && rest.head?.any fun c => !('0' ≤ c && c ≤ '7') then malformed
      else
        let n := hexNumber digits
        if 0x80000000 ≤ n then stuck .codePoint
        else if Nat.isValidChar n then .ok (Char.ofNat n)
        else malformed

/-- Puts pieces together, each of which begins with the digits of a code point. A piece after an
escaped backslash is left as it is. -/
def joinCodePoints (letter : Char) (width : Nat) :
    (escaped : Bool) → List (List Char) → Reading (List Char)
  | _, [] => .ok []
  | true, piece :: rest => do
    let tail ← joinCodePoints letter width (escapesNext piece.reverse) rest
    return '\\' :: letter :: piece ++ tail
  | false, piece :: rest => do
    let c ← readCodePoint (piece.take width)
    let tail ← joinCodePoints letter width false rest
    return c :: piece.drop width ++ tail

/-- A text with characters in place of their code points. -/
def decodeCodePoints (letter : Char) (width : Nat) (cs : List Char) : Reading (List Char) :=
  match splitOnText ['\\', letter] cs with
  | [] => .ok []
  | first :: rest =>
    (joinCodePoints letter width (escapesNext first.reverse) rest).map (first ++ ·)

/-- A text with characters in place of their escapes. Code points are left as they are, and so is
a backslash at the end. -/
def unescape? : List Char → Option (List Char)
  | [] => some []
  | ['\\'] => some ['\\']
  | '\\' :: c :: cs =>
    match escaped? c with
    | some e => (unescape? cs).map (e :: ·)
    | none =>
      if c = '\\' then (unescape? cs).map ('\\' :: ·)
      else if announcesCodePoint c then (unescape? cs).map fun rest => '\\' :: c :: rest
      else none
  | c :: cs => (unescape? cs).map (c :: ·)

/-- Replaces the escapes of a quotation between double marks: first those of code points, then the
others. -/
def decodeEscapes (cs : List Char) : Reading (List Char) := do
  if hasUnknownEscape false (splitOn '\\' cs).tail then malformed
  else orMalformed (unescape? (← decodeCodePoints 'U' 8 (← decodeCodePoints 'u' 4 cs)))

/-! ### Texts -/

/-- A quotation without its marks: three at each end if the second and the third character are
marks, or the second is one and the last, and otherwise one. -/
def withoutMarks (mark : Char) (cs : List Char) : List Char :=
  match cs with
  | _ :: b :: rest =>
    if b = mark && rest.head?.all (· = b) then middle (middle (middle cs)) else middle cs
  | _ => middle cs

/-- Reads a quotation that begins with the given mark. -/
def readText (mark : Char) (cs : List Char) : Reading (List Char) := do
  if hasTail mark cs.tail then malformed
  else
    let decoded ← if mark = '"' then decodeEscapes cs else .ok cs
    return withoutMarks mark decoded

end ScionEcho.Toml
