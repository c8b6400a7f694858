import ScionEcho.Bytes
import ScionEcho.Text.Hex

/-!
# UTF-8

Reading the bytes of a text. Overlong forms, surrogates and numbers beyond the last code point are
refused; the first fault is reported with the bytes that belong to it.
-/

namespace ScionEcho.Text

inductive Utf8Fault
  /-- A byte with which no character starts. -/
  | start
  /-- A byte that does not continue the character that was begun. -/
  | continuation
  /-- The bytes end inside a character. -/
  | ending
  deriving DecidableEq, Repr

/-- A fault, where it was found, and the bytes that belong to it. -/
structure Utf8Error where
  fault : Utf8Fault
  position : Nat
  bytes : Bytes
  deriving DecidableEq, Repr

def Utf8Error.message (e : Utf8Error) : String :=
  let place :=
    match e.bytes with
    | [b] => s!"byte 0x{String.ofList (hexPadded 2 b.toNat)} in position {e.position}"
    | bs => s!"bytes in position {e.position}-{e.position + bs.length - 1}"
  let reason :=
    match e.fault with
    | .start => "invalid start byte"
    | .continuation => "invalid continuation byte"
    | .ending => "unexpected end of data"
  s!"'utf-8' codec can't decode {place}: {reason}"

/-- The number of bytes that follow a first byte, its share of the code point, and the range of
the byte after it. -/
def lead? (b : UInt8) : Option (Nat × Nat × UInt8 × UInt8) :=
  if b < 0x80 then some (0, b.toNat, 0, 0)
  else if b < 0xc2 then none
  else if b < 0xe0 then some (1, b.toNat - 0xc0, 0x80, 0xbf)
  else if b < 0xf0 then
    some (2, b.toNat - 0xe0, if b = 0xe0 then 0xa0 else 0x80, if b = 0xed then 0x9f else 0xbf)
  else if b < 0xf5 then
    some (3, b.toNat - 0xf0, if b = 0xf0 then 0x90 else 0x80, if b = 0xf4 then 0x8f else 0xbf)
  else none

/-- How many of the bytes continue a character that lacks `missing` bytes, of which the first lies
in the given range. -/
def continued (missing : Nat) (low high : UInt8) : Bytes → Nat
  | [] => 0
  | b :: bs =>
    match missing with
    | 0 => 0
    | missing + 1 => if low ≤ b && b ≤ high then 1 + continued missing 0x80 0xbf bs else 0

/-- Reads one character from bytes whose first byte is `b`: the character, or a fault with the
number of its bytes. -/
def decodeChar (b : UInt8) (bs : Bytes) : Except (Utf8Fault × Nat) (Char × Nat) :=
  match lead? b with
  | none => .error (.start, 1)
  | some (missing, share, low, high) =>
    let found := continued missing low high bs
    if found = missing then
      let code := (bs.take missing).foldl (fun n c => 64 * n + (c.toNat - 0x80)) share
      .ok (Char.ofNat code, missing)
    else if found = bs.length then .error (.ending, 1 + found)
    else .error (.continuation, 1 + found)

/-- Reads bytes that start at `position` of a text. -/
def decodeUtf8From (position : Nat) : Bytes → Except Utf8Error (List Char)
  | [] => .ok []
  | b :: bs =>
    match decodeChar b bs with
    | .error (fault, length) => .error ⟨fault, position, (b :: bs).take length⟩
    | .ok (c, more) =>
      match decodeUtf8From (position + 1 + more) (bs.drop more) with
      | .error e => .error e
      | .ok cs => .ok (c :: cs)
termination_by bytes => bytes.length
decreasing_by simp only [List.length_drop, List.length_cons]; omega

def decodeUtf8 (bytes : Bytes) : Except Utf8Error (List Char) := decodeUtf8From 0 bytes

end ScionEcho.Text
