import ScionEcho.Bytes
import ScionEcho.Text.Hex
import ScionEcho.Text.Split

/-!
# Host addresses

IPv4 and IPv6 addresses, kept as their bytes in network order. An IPv6 address may carry a zone,
which belongs to its text and to its identity but never to its bytes.
-/

namespace ScionEcho

open Text

inductive Host
  | v4 (octets : Vector UInt8 4)
  | v6 (octets : Vector UInt8 16) (zone : Option (List Char))
  deriving DecidableEq, Repr

/-- A list of known length as a vector. -/
def vectorOfList? {α : Type} (n : Nat) (xs : List α) : Option (Vector α n) :=
  if h : xs.length = n then some ⟨xs.toArray, by simp [h]⟩ else none

namespace Host

def version : Host → Nat
  | .v4 _ => 4
  | .v6 .. => 6

def packed : Host → Bytes
  | .v4 octets => octets.toList
  | .v6 octets _ => octets.toList

/-- The address with the given bytes, which are 4 or 16. -/
def ofBytes? (bytes : Bytes) : Option Host :=
  match vectorOfList? 4 bytes with
  | some octets => some (.v4 octets)
  | none => (vectorOfList? 16 bytes).map (.v6 · none)

/-! ### Reading -/

/-- Reads an octet: one to three decimal digits without a leading zero, at most 255. -/
def readOctet? (cs : List Char) : Option UInt8 :=
  if cs.isEmpty || !cs.all Char.isDigit || 3 < cs.length then none
  else if cs ≠ ['0'] && cs.head? = some '0' then none
  else
    let n := Nat.ofDigitChars 10 cs 0
    if 255 < n then none else some (UInt8.ofNat n)

def readV4? (cs : List Char) : Option (Vector UInt8 4) :=
  ((splitOn '.' cs).mapM readOctet?).bind (vectorOfList? 4)

/-- Reads a group of one to four hexadecimal digits. -/
def readGroup? (cs : List Char) : Option Bytes :=
  if !cs.isEmpty && cs.length ≤ 4 && cs.all isHex then some (Bytes.ofNat 2 (hexNumber cs))
  else none

/-- Reads groups with colons between them; the empty text has no groups. -/
def readGroups? (cs : List Char) : Option Bytes :=
  if cs.isEmpty then some [] else ((splitOn ':' cs).mapM readGroup?).map List.flatten

/-- Reads groups with colons between them, of which the last may be an IPv4 address that stands
for two groups. -/
def readTail? (cs : List Char) : Option Bytes :=
  match (splitOn ':' cs).reverse with
  | last :: before =>
    match readV4? last with
    | some octets => (before.reverse.mapM readGroup?).map (·.flatten ++ octets.toList)
    | none => readGroups? cs
  | [] => none

/-- Reads the sixteen bytes of an IPv6 address: eight groups, or fewer with a double colon in
place of the groups left out, which are at least one. -/
def readV6? (cs : List Char) : Option (Vector UInt8 16) :=
  match cutDouble ':' cs with
  | none => (readTail? cs).bind (vectorOfList? 16)
  | some (before, after) => do
    let high ← readGroups? before
    let low ← readTail? after
    if 14 < high.length + low.length then none
    else vectorOfList? 16 (high ++ Bytes.zeros (16 - (high.length + low.length)) ++ low)

/-- Reads an address. After an IPv6 address a percent sign and a nonempty zone may follow, in
which no further percent sign and no slash stands. -/
def read? (cs : List Char) : Option Host :=
  match readV4? cs with
  | some octets => some (.v4 octets)
  | none =>
    if '/' ∈ cs then none
    else
      match cut '%' cs with
      | (address, none) => (readV6? address).map (.v6 · none)
      | (address, some zone) =>
        if zone.isEmpty || '%' ∈ zone then none
        else (readV6? address).map (.v6 · (some zone))

/-! ### Writing -/

def groups : Bytes → List Nat
  | a :: b :: rest => (256 * a.toNat + b.toNat) :: groups rest
  | _ => []

def leadingZeros (gs : List Nat) : Nat := (gs.takeWhile (· = 0)).length

/-- Where the first of the longest runs of zeros starts, and its length. -/
def longestZeros : List Nat → Nat × Nat
  | [] => (0, 0)
  | g :: gs =>
    let (start, length) := longestZeros gs
    let here := leadingZeros (g :: gs)
    if length ≤ here then (0, here) else (start + 1, length)

def groupsText (gs : List Nat) : List Char := join ':' (gs.map hexDigits)

/-- The groups of an IPv6 address with its first longest run of at least two zeros left out. -/
def compressed (gs : List Nat) : List Char :=
  let (start, length) := longestZeros gs
  if length < 2 then groupsText gs
  else groupsText (gs.take start) ++ ':' :: ':' :: groupsText (gs.drop (start + length))

def toChars : Host → List Char
  | .v4 octets => join '.' (octets.toList.map fun b => Nat.toDigits 10 b.toNat)
  | .v6 octets zone =>
    compressed (groups octets.toList) ++
      match zone with
      | none => []
      | some z => '%' :: z

instance : ToString Host := ⟨fun h => String.ofList h.toChars⟩

end Host

end ScionEcho
