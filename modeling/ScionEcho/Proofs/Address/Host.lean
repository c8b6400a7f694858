import ScionEcho.Address.Host
import ScionEcho.Proofs.Text.Digits
import ScionEcho.Proofs.Text.Splitting
import ScionEcho.Proofs.Wire.WellFormed

/-!
# Hosts as texts

The text of a host is read as the host. An IPv6 address is written with its first longest run of
zero groups left out; whichever run it is, the groups before and after it are found again, and as
many zeros as are missing are put between them.
-/

namespace ScionEcho.Host

open Text

/-- The zone of a host, if it has one, can stand behind a percent sign. -/
def HasReadableZone (host : Host) : Prop :=
  ∀ z, host.zone? = some z → z ≠ [] ∧ '%' ∉ z ∧ '/' ∉ z

/-! ### Lists of parts -/

lemma mapM_map_eq_some {α β γ : Type} {xs : List α} {f : α → β} {g : β → Option γ} {k : α → γ}
    (h : ∀ x ∈ xs, g (f x) = some (k x)) : (xs.map f).mapM g = some (xs.map k) := by
  induction xs with
  | nil => rfl
  | cons x xs ih =>
    rw [List.map_cons, List.mapM_cons, h x List.mem_cons_self,
      ih fun y hy => h y (List.mem_cons_of_mem _ hy)]
    rfl

lemma mapM_eq_none {α β : Type} {xs : List α} {g : α → Option β} {x : α} (hx : x ∈ xs)
    (h : g x = none) : xs.mapM g = none := by
  induction xs with
  | nil => simp at hx
  | cons y xs ih =>
    rw [List.mapM_cons]
    rcases List.mem_cons.mp hx with rfl | hx
    · rw [h]
      rfl
    · rw [ih hx]
      cases g y <;> rfl

/-! ### IPv4 -/

/-- No number but zero is written with a zero in front. -/
lemma head?_toDigits_ne {n : Nat} (h : 0 < n) : (Nat.toDigits 10 n).head? ≠ some '0' := by
  induction n using Nat.base_induction 10 (by decide) with
  | single d hd =>
    rw [Nat.toDigits_of_lt_base hd]
    simp
    omega
  | digit n d hd hn ih =>
    rw [← Nat.toDigits_append_toDigits (by decide) hn hd, List.head?_append_of_ne_nil _ (by simp)]
    exact ih hn

lemma readOctet?_toDigits (b : UInt8) : readOctet? (Nat.toDigits 10 b.toNat) = some b := by
  have hb : b.toNat < 256 := b.toNat_lt
  have hlength : (Nat.toDigits 10 b.toNat).length ≤ 3 :=
    (Nat.length_toDigits_le_iff (by decide) (by decide)).mpr (by omega)
  have hdigits : (Nat.toDigits 10 b.toNat).all Char.isDigit = true := by
    rw [List.all_eq_true]
    exact fun c => Nat.isDigit_of_mem_toDigits (by decide) (by decide)
  have hzero : ¬ (Nat.toDigits 10 b.toNat ≠ ['0'] ∧ (Nat.toDigits 10 b.toNat).head? = some '0') := by
    rintro ⟨hne, hhead⟩
    rcases Nat.eq_zero_or_pos b.toNat with hb0 | hpos
    · exact hne (by rw [hb0, Nat.toDigits_zero])
    · exact head?_toDigits_ne hpos hhead
  rw [readOctet?, if_neg (by simp [hdigits, hlength]), if_neg (by simpa using hzero)]
  dsimp only
  rw [Nat.ofDigitChars_ten_toDigits, if_neg (by omega), UInt8.ofNat_toNat]

lemma readV4?_join (octets : Vector UInt8 4) :
    readV4? (join '.' (octets.toList.map fun b => Nat.toDigits 10 b.toNat)) = some octets := by
  have hne : octets.toList.map (fun b => Nat.toDigits 10 b.toNat) ≠ [] := by
    rw [← List.length_pos_iff]
    simp
  rw [readV4?, splitOn_join hne, mapM_map_eq_some (k := id) fun b _ => readOctet?_toDigits b,
    List.map_id, Option.bind_some, Wire.vectorOfList?_eq_some_iff]
  intro piece hpiece
  obtain ⟨b, -, rfl⟩ := List.mem_map.mp hpiece
  exact Numeral.notMem_toDigits rfl b.toNat

/-- An IPv4 address has decimal digits and points only. -/
lemma readV4?_of_mem {cs : List Char} {c : Char} (hmem : c ∈ cs) (hpoint : c ≠ '.')
    (hdigit : c.isDigit = false) : readV4? cs = none := by
  obtain ⟨piece, hpiece, hc⟩ := exists_mem_splitOn hmem hpoint
  have hnone : readOctet? piece = none := by
    have hall : piece.all Char.isDigit = false := List.all_eq_false.mpr ⟨c, hc, by simp [hdigit]⟩
    rw [readOctet?, if_pos (by simp [hall])]
  rw [readV4?, mapM_eq_none hpiece hnone, Option.bind_none]

/-! ### Groups -/

/-- The bytes of some groups of 16 bits. -/
def groupBytes (gs : List Nat) : Bytes := (gs.map (Bytes.ofNat 2)).flatten

@[simp] lemma groupBytes_append (gs hs : List Nat) :
    groupBytes (gs ++ hs) = groupBytes gs ++ groupBytes hs := by
  simp [groupBytes]

lemma length_groupBytes (gs : List Nat) : (groupBytes gs).length = 2 * gs.length := by
  induction gs with
  | nil => rfl
  | cons g gs ih =>
    rw [← List.singleton_append, groupBytes_append, List.length_append, ih, List.length_append]
    simp [groupBytes]
    omega

lemma groupBytes_replicate_zero (count : Nat) :
    groupBytes (List.replicate count 0) = Bytes.zeros (2 * count) := by
  induction count with
  | zero => rfl
  | succ count ih =>
    rw [List.replicate_succ, ← List.singleton_append, groupBytes_append, ih, Bytes.zeros,
      Bytes.zeros, Nat.mul_add, Nat.add_comm, List.replicate_add]
    rfl

lemma groupBytes_groups {bytes : Bytes} {count : Nat} (h : bytes.length = 2 * count) :
    groupBytes (groups bytes) = bytes := by
  induction count generalizing bytes with
  | zero =>
    obtain rfl := List.length_eq_zero_iff.mp h
    rfl
  | succ count ih =>
    match bytes, h with
    | a :: b :: rest, h =>
      have hpair : Bytes.ofNat 2 (256 * a.toNat + b.toNat) = [a, b] := by
        simpa [Bytes.toNat] using Bytes.ofNat_toNat [a, b]
      have hrest : groupBytes (groups rest) = rest := ih (by simp at h; omega)
      rw [groups, ← List.singleton_append, groupBytes_append, hrest]
      simp [groupBytes, hpair]

lemma length_groups {bytes : Bytes} {count : Nat} (h : bytes.length = 2 * count) :
    (groups bytes).length = count := by
  have hlength := length_groupBytes (groups bytes)
  rw [groupBytes_groups h] at hlength
  omega

lemma lt_of_mem_groups (bytes : Bytes) : ∀ g ∈ groups bytes, g < 16 ^ 4 := by
  induction bytes using groups.induct with
  | case1 a b rest ih =>
    have ha : a.toNat < 256 := a.toNat_lt
    have hb : b.toNat < 256 := b.toNat_lt
    rw [groups, List.forall_mem_cons]
    exact ⟨by omega, ih⟩
  | case2 bytes hshort =>
    intro g hg
    rw [groups] at hg
    · cases hg
    · exact hshort

lemma readGroup?_hexDigits {g : Nat} (h : g < 16 ^ 4) :
    readGroup? (hexDigits g) = some (Bytes.ofNat 2 g) := by
  have hlength : (hexDigits g).length ≤ 4 := length_hexDigits_le (by decide) h
  have hall : (hexDigits g).all isHex = true :=
    List.all_eq_true.mpr fun c => isHex_of_mem_hexDigits
  rw [readGroup?, if_pos (by simp [hlength, hall]), hexNumber_hexDigits]

section

variable {gs : List Nat}

lemma splitOn_groupsText (hne : gs ≠ []) : splitOn ':' (groupsText gs) = gs.map hexDigits :=
  splitOn_join (by simpa using hne) fun piece hpiece => (hexPieces gs piece hpiece).2

lemma readGroups?_groupsText (h : ∀ g ∈ gs, g < 16 ^ 4) :
    readGroups? (groupsText gs) = some (groupBytes gs) := by
  rcases eq_or_ne gs [] with rfl | hne
  · rfl
  have htext : groupsText gs ≠ [] := by
    intro hnil
    have hsplit := splitOn_groupsText hne
    rw [hnil, splitOn_nil] at hsplit
    obtain ⟨g, rfl⟩ : ∃ g, gs = [g] := List.length_eq_one_iff.mp (by
      simpa using (congrArg List.length hsplit).symm)
    simp at hsplit
  rw [readGroups?, if_neg (by simpa using htext), splitOn_groupsText hne,
    mapM_map_eq_some fun g hg => readGroup?_hexDigits (h g hg)]
  rfl

lemma readV4?_hexDigits (g : Nat) : readV4? (hexDigits g) = none := by
  rw [readV4?, splitOn_of_notMem (notMem_hexDigits rfl g), List.mapM_cons, List.mapM_nil]
  cases readOctet? (hexDigits g) <;> rfl

/-- No group is mistaken for an IPv4 address at the end. -/
lemma readTail?_groupsText (h : ∀ g ∈ gs, g < 16 ^ 4) :
    readTail? (groupsText gs) = some (groupBytes gs) := by
  rcases List.eq_nil_or_concat gs with rfl | ⟨init, last, rfl⟩
  · rfl
  rw [List.concat_eq_append] at h ⊢
  rw [readTail?, splitOn_groupsText (by simp), List.map_append, List.reverse_append]
  simp only [List.map_cons, List.map_nil, List.reverse_cons, List.reverse_nil, List.nil_append,
    List.singleton_append, readV4?_hexDigits]
  exact readGroups?_groupsText h

end

/-! ### Zeros left out -/

lemma exists_leadingZeros (gs : List Nat) :
    ∃ after, gs = List.replicate (leadingZeros gs) 0 ++ after := by
  refine ⟨gs.dropWhile (· = 0), ?_⟩
  have hzeros : gs.takeWhile (· = 0) = List.replicate (leadingZeros gs) 0 := by
    rw [leadingZeros, List.eq_replicate_iff]
    exact ⟨rfl, fun g hg => by simpa using List.mem_takeWhile_imp hg⟩
  rw [← hzeros, List.takeWhile_append_dropWhile]

/-- Where the longest run of zeros is said to be, there is a run of that length. -/
lemma exists_longestZeros (gs : List Nat) :
    ∃ before after, gs = before ++ (List.replicate (longestZeros gs).2 0 ++ after) ∧
      before.length = (longestZeros gs).1 := by
  induction gs with
  | nil => exact ⟨[], [], rfl, rfl⟩
  | cons g gs ih =>
    obtain ⟨before, after, hgs, hlength⟩ := ih
    rw [longestZeros]
    dsimp only
    split_ifs with hhere
    · obtain ⟨rest, hrest⟩ := exists_leadingZeros (g :: gs)
      exact ⟨[], rest, hrest, rfl⟩
    · exact ⟨g :: before, after, by rw [List.cons_append, ← hgs], by simp [hlength]⟩

/-- What is written of an IPv6 address is all of its groups, or what is before and after a run of
zeros. -/
lemma compressed_cases (gs : List Nat) :
    compressed gs = groupsText gs ∨ ∃ before count after,
      gs = before ++ (List.replicate count 0 ++ after) ∧ 2 ≤ count ∧
        compressed gs = groupsText before ++ ':' :: ':' :: groupsText after := by
  obtain ⟨before, after, hgs, hstart⟩ := exists_longestZeros gs
  rw [compressed]
  generalize longestZeros gs = run at *
  obtain ⟨start, count⟩ := run
  dsimp only at *
  split_ifs with hshort
  · exact .inl rfl
  · refine .inr ⟨before, count, after, hgs, by omega, ?_⟩
    have htake : gs.take start = before := by rw [hgs, ← hstart, List.take_left]
    have hdrop : gs.drop (start + count) = after := by
      rw [← List.drop_drop, hgs, ← hstart, List.drop_left, List.drop_left' List.length_replicate]
    rw [htake, hdrop]

lemma readV6?_groupsText {gs : List Nat} (h : ∀ g ∈ gs, g < 16 ^ 4) :
    readV6? (groupsText gs) = vectorOfList? 16 (groupBytes gs) := by
  rw [readV6?, groupsText, cutDouble_join (hexPieces gs)]
  dsimp only
  rw [← groupsText, readTail?_groupsText h, Option.bind_some]

/-- As many zeros are put in as are missing. -/
lemma readV6?_zeros {before after : List Nat} {count : Nat} (hbefore : ∀ g ∈ before, g < 16 ^ 4)
    (hafter : ∀ g ∈ after, g < 16 ^ 4) (hcount : 1 ≤ count)
    (hlength : before.length + count + after.length = 8) :
    readV6? (groupsText before ++ ':' :: ':' :: groupsText after) =
      vectorOfList? 16 (groupBytes (before ++ (List.replicate count 0 ++ after))) := by
  rw [readV6?, groupsText, cutDouble_join_append_cons_cons (hexPieces before)]
  dsimp only
  rw [← groupsText, readGroups?_groupsText hbefore, readTail?_groupsText hafter]
  have hmissing : 16 - ((groupBytes before).length + (groupBytes after).length) = 2 * count := by
    rw [length_groupBytes, length_groupBytes]
    omega
  simp only [Option.bind_eq_bind, Option.bind_some]
  rw [if_neg (by rw [length_groupBytes, length_groupBytes]; omega), hmissing, groupBytes_append,
    groupBytes_append, groupBytes_replicate_zero, List.append_assoc]

/-- The text of an IPv6 address is read as the address. -/
lemma readV6?_compressed (octets : Vector UInt8 16) :
    readV6? (compressed (groups octets.toList)) = some octets := by
  have hcount : octets.toList.length = 2 * 8 := by simp
  have hlength := length_groups hcount
  have hbytes := groupBytes_groups hcount
  have hlt := lt_of_mem_groups octets.toList
  rcases compressed_cases (groups octets.toList) with
    htext | ⟨before, count, after, hgs, hmany, htext⟩
  · rw [htext, readV6?_groupsText hlt, hbytes, Wire.vectorOfList?_eq_some_iff]
  · rw [hgs] at hbytes hlength hlt
    have hbefore : ∀ g ∈ before, g < 16 ^ 4 := fun g hg => hlt g (by simp [hg])
    have hafter : ∀ g ∈ after, g < 16 ^ 4 := fun g hg => hlt g (by simp [hg])
    have hcounts : before.length + count + after.length = 8 := by
      simpa [Nat.add_assoc] using hlength
    rw [htext, readV6?_zeros hbefore hafter (by omega) hcounts, hbytes,
      Wire.vectorOfList?_eq_some_iff]

/-! ### Hosts -/

lemma notMem_groupsText {c : Char} (hhex : isHex c = false) (hcolon : c ≠ ':') (gs : List Nat) :
    c ∉ groupsText gs := by
  intro hmem
  obtain ⟨piece, hpiece, hc⟩ := exists_mem_of_mem_join hmem hcolon
  obtain ⟨g, -, rfl⟩ := List.mem_map.mp hpiece
  exact notMem_hexDigits hhex g hc

/-- What stands around an IPv6 address is told apart from its text. -/
lemma notMem_compressed {c : Char} (hhex : isHex c = false) (hcolon : c ≠ ':') (gs : List Nat) :
    c ∉ compressed gs := by
  rcases compressed_cases gs with htext | ⟨before, count, after, -, -, htext⟩
  · rw [htext]
    exact notMem_groupsText hhex hcolon gs
  · rw [htext]
    simp [hcolon, notMem_groupsText hhex hcolon]

lemma colon_mem_compressed {gs : List Nat} (h : gs.length = 8) : ':' ∈ compressed gs := by
  rcases compressed_cases gs with htext | ⟨before, count, after, -, -, htext⟩
  · match gs, h with
    | a :: b :: rest, _ =>
      rw [htext, groupsText, List.map_cons, List.map_cons, join_cons_cons]
      simp
  · rw [htext]
    simp

@[simp] lemma toChars_unzoned (octets : Vector UInt8 16) :
    (Host.v6 octets none).toChars = compressed (groups octets.toList) :=
  List.append_nil _

@[simp] lemma toChars_zoned (octets : Vector UInt8 16) (z : List Char) :
    (Host.v6 octets (some z)).toChars = compressed (groups octets.toList) ++ '%' :: z := rfl

/-- The text of a host is read as the host, whose zone stays as it is. -/
theorem read?_toChars {host : Host} (h : host.HasReadableZone) :
    read? host.toChars = some host := by
  cases host with
  | v4 octets => rw [read?, toChars, readV4?_join]
  | v6 octets zone =>
    have hcolon : ':' ∈ compressed (groups octets.toList) :=
      colon_mem_compressed (length_groups (by simp))
    have hpercent : '%' ∉ compressed (groups octets.toList) := notMem_compressed rfl (by decide) _
    have hslash : '/' ∉ compressed (groups octets.toList) := notMem_compressed rfl (by decide) _
    cases zone with
    | none =>
      rw [toChars_unzoned, read?, readV4?_of_mem hcolon (by decide) rfl]
      dsimp only
      rw [if_neg hslash, cut_of_notMem hpercent]
      dsimp only
      rw [readV6?_compressed, Option.map_some]
    | some z =>
      obtain ⟨hne, hpercents, hslashes⟩ := h z rfl
      rw [toChars_zoned, read?, readV4?_of_mem (List.mem_append_left _ hcolon) (by decide) rfl]
      dsimp only
      rw [if_neg (by simp [hslash, hslashes]), cut_append_cons hpercent]
      dsimp only
      rw [if_neg (by simp [hne, hpercents]), readV6?_compressed, Option.map_some]

/-- A host that was read has a zone that can be read again, all of which stands in the text. -/
theorem zone_of_read? {cs : List Char} {host : Host} (h : read? cs = some host) :
    host.HasReadableZone ∧ ∀ z, host.zone? = some z → ∀ c ∈ z, c ∈ cs := by
  rw [read?] at h
  split at h
  · obtain rfl := Option.some.inj h
    simp [HasReadableZone, zone?]
  split_ifs at h with hslash
  split at h
  · obtain ⟨octets, -, rfl⟩ := Option.map_eq_some_iff.mp h
    simp [HasReadableZone, zone?]
  · next address zone hcut =>
    split_ifs at h with hzone
    obtain ⟨octets, -, rfl⟩ := Option.map_eq_some_iff.mp h
    obtain ⟨rfl, -⟩ := eq_append_of_cut hcut
    simp at hzone hslash
    refine ⟨?_, ?_⟩
    · rintro z ⟨⟩
      exact ⟨hzone.1, hzone.2, hslash.2⟩
    · rintro z ⟨⟩ c hc
      simp [hc]

/-! ### Hosts in brackets -/

lemma toChars_ne_nil (host : Host) : host.toChars ≠ [] := by
  cases host with
  | v4 octets =>
    intro hnil
    have hread := readV4?_join octets
    rw [toChars] at hnil
    rw [hnil] at hread
    cases hread
  | v6 octets zone =>
    have hcolon : ':' ∈ compressed (groups octets.toList) :=
      colon_mem_compressed (length_groups (by simp))
    cases zone <;> simp [List.ne_nil_of_mem hcolon]

lemma bracket_notMem_toChars {host : Host} (h : ∀ z, host.zone? = some z → ']' ∉ z) :
    ']' ∉ host.toChars := by
  cases host with
  | v4 octets =>
    intro hmem
    obtain ⟨piece, hpiece, hc⟩ := exists_mem_of_mem_join hmem (by decide)
    obtain ⟨b, -, rfl⟩ := List.mem_map.mp hpiece
    exact Numeral.notMem_toDigits rfl b.toNat hc
  | v6 octets zone =>
    have hbracket : ']' ∉ compressed (groups octets.toList) :=
      notMem_compressed rfl (by decide) _
    cases zone with
    | none => rwa [toChars_unzoned]
    | some z => simp [hbracket, h z rfl]

end ScionEcho.Host
