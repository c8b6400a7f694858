import ScionEcho.Address.Endpoint
import ScionEcho.Proofs.Address.Host
import ScionEcho.Proofs.Address.IsdAs

/-!
# Endpoints as texts

The text of an endpoint is read as the endpoint, wherever a text can say what the endpoint is.
Every endpoint that was read is of that kind, so its text is a normal form of the texts that
denote it.
-/

namespace ScionEcho.Endpoint

open Text Address Numeral

/-- A text can say what the endpoint is: its parts are in range, its host can be told from what
follows, and it has no path. -/
structure Denotable (e : Endpoint) : Prop where
  ia : e.ia.InRange
  zone : e.host.HasReadableZone
  /-- The bracket after the host is the first one. -/
  bracket : ∀ z, e.host.zone? = some z → ']' ∉ z
  port_nonneg : 0 ≤ e.port
  port_le : e.port ≤ maxPort
  path : e.path = []

/-! ### Parts -/

/-- A port is split off if there is one. -/
lemma splitPort?_eq_some_iff {cs port : List Char} :
    splitPort? cs = some port ↔
      (cs = [] ∧ port = []) ∨ (cs = ':' :: port ∧ port ≠ [] ∧ ∀ c ∈ port, isDecimal c = true) := by
  rw [splitPort?.eq_def]
  split
  · rw [Option.some_inj, eq_comm]
    simp
  · next ds =>
    constructor
    · intro h
      split_ifs at h with hall
      obtain rfl := Option.some.inj h
      simpa using hall
    · rintro (⟨h, -⟩ | ⟨h, hne, hall⟩)
      · cases h
      · obtain rfl := (List.cons.inj h).2
        rw [if_pos (by simpa [hne] using hall)]
  · next hnil hcolon =>
    constructor
    · intro h
      cases h
    · rintro (⟨rfl, -⟩ | ⟨rfl, -, -⟩)
      · exact absurd rfl hnil
      · exact absurd rfl (hcolon port)

/-- The text of a pair goes on to the first comma, and that of a host to the first closing
bracket. -/
lemma splitParts?_eq_some_iff {cs : List Char} {parts : Parts} :
    splitParts? cs = some parts ↔
      ∃ tail, cs = parts.ia ++ ',' :: '[' :: (parts.host ++ ']' :: tail) ∧
        parts.ia ≠ [] ∧ (∀ c ∈ parts.ia, c ≠ ',' ∧ isBlank c = false) ∧
        parts.host ≠ [] ∧ ']' ∉ parts.host ∧ splitPort? tail = some parts.port := by
  rw [splitParts?]
  dsimp only
  constructor
  · intro h
    split at h
    · next rest hrest =>
      split at h
      · next tail htail =>
        split_ifs at h with hempty
        simp only [Bool.or_eq_true, List.isEmpty_iff, not_or] at hempty
        obtain ⟨port, hport, rfl⟩ := Option.map_eq_some_iff.mp h
        refine ⟨tail, ?_, hempty.1, fun c hc => ?_, hempty.2, fun hmem => ?_, hport⟩
        · rw [← htail, List.takeWhile_append_dropWhile, ← hrest, List.takeWhile_append_dropWhile]
        · simpa using List.mem_takeWhile_imp hc
        · simpa using List.mem_takeWhile_imp hmem
      · cases h
    · cases h
  · rintro ⟨tail, rfl, hia, hvisible, hhost, hbracket, hport⟩
    have hin : ∀ c ∈ parts.ia, (decide (c ≠ ',') && !isBlank c) = true := by
      intro c hc
      obtain ⟨hcomma, hblank⟩ := hvisible c hc
      simp [hcomma, hblank]
    have hcomma : (decide (',' ≠ ',') && !isBlank ',') = false := rfl
    have hfirst : (decide (']' ≠ ']')) = false := rfl
    simp only [takeWhile_append_cons hin hcomma, dropWhile_append_cons hin hcomma,
      takeWhile_append_cons (forall_ne_of_notMem hbracket) hfirst,
      dropWhile_append_cons (forall_ne_of_notMem hbracket) hfirst]
    rw [if_neg (by simp [hia, hhost]), hport]
    rfl

lemma of_splitParts? {cs : List Char} {parts : Parts} (h : splitParts? cs = some parts) :
    ']' ∉ parts.host ∧ ∀ c ∈ parts.port, isDecimal c = true := by
  obtain ⟨tail, -, -, -, -, hbracket, hport⟩ := splitParts?_eq_some_iff.mp h
  refine ⟨hbracket, ?_⟩
  rcases splitPort?_eq_some_iff.mp hport with ⟨-, hnil⟩ | ⟨-, -, hall⟩
  · simp [hnil]
  · exact hall

/-- The digits of a port are a numeral within the limit. -/
lemma readPort_eq_ok_iff (text : List Char) {ds : List Char} (hne : ds ≠ []) {n : Nat} :
    readPort text ds = .ok n ↔ readNat ds = .ok n ∧ n ≤ maxPort := by
  rw [readPort, if_neg (by simpa using hne)]
  constructor
  · intro h
    split at h
    · cases h
    · next m hm =>
      split_ifs at h
      obtain rfl := Except.ok.inj h
      exact ⟨hm, by omega⟩
  · rintro ⟨hn, hle⟩
    rw [hn]
    dsimp only
    rw [if_neg (by omega)]

lemma readPort_toDigits (text : List Char) {n : Nat} (h : n ≤ maxPort) :
    readPort text (Nat.toDigits 10 n) = .ok n := by
  have hmax : maxPort < 10 ^ maxDigits :=
    (show maxPort < 10 ^ 5 by decide).trans_le (Nat.pow_le_pow_right (by decide) (by decide))
  exact (readPort_eq_ok_iff text Nat.toDigits_ne_nil).mpr ⟨readNat_toDigits (h.trans_lt hmax), h⟩

lemma le_of_readPort {text ds : List Char} {n : Nat} (h : readPort text ds = .ok n) :
    n ≤ maxPort := by
  by_cases hne : ds = []
  · subst hne
    obtain rfl := Except.ok.inj h
    exact Nat.zero_le _
  · exact ((readPort_eq_ok_iff text hne).mp h).2

/-! ### Whole texts -/

lemma isBlank_of_isHex {c : Char} (h : isHex c = true) : isBlank c = false := by
  obtain ⟨hlow, hhigh⟩ := bounds_of_isHex h
  have hzero : '!' ≤ '0' := by decide
  have htilde : 'f' ≤ '~' := by decide
  exact isBlank_of_visible (Char.le_trans hzero hlow) (Char.le_trans hhigh htilde)

/-- Nothing of the text of a pair belongs to what is around it. -/
lemma visible_of_mem_toChars {ia : IsdAs} (h : ia.InRange) {c : Char} (hc : c ∈ ia.toChars) :
    c ≠ ',' ∧ isBlank c = false := by
  rcases IsdAs.isHex_of_mem_toChars h hc with hhex | rfl | rfl
  · refine ⟨?_, isBlank_of_isHex hhex⟩
    rintro rfl
    cases hhex
  · decide
  · decide

lemma toChars_eq {e : Endpoint} {n : Nat} (h : e.port = n) :
    e.toChars =
      e.ia.toChars ++ ',' :: '[' :: (e.host.toChars ++ ']' :: ':' :: Nat.toDigits 10 n) := by
  rw [toChars, h, IsdAs.toList_toString_natCast]
  simp

/-- The text of an endpoint starts with its pair and ends with its port. -/
lemma strip_toChars {e : Endpoint} (h : e.Denotable) : strip e.toChars = e.toChars := by
  obtain ⟨n, hn⟩ := Int.eq_ofNat_of_zero_le h.port_nonneg
  have hvisible : ∀ c ∈ e.ia.toChars ++ Nat.toDigits 10 n, isBlank c = false := by
    intro c hc
    rcases List.mem_append.mp hc with hc | hc
    · exact (visible_of_mem_toChars h.ia hc).2
    · exact isBlank_of_isHex
        (isHex_of_isDigit (Nat.isDigit_of_mem_toDigits (by decide) (by decide) hc))
  have hstrip := strip_eq_self IsdAs.toChars_ne_nil Nat.toDigits_ne_nil hvisible
    (',' :: '[' :: (e.host.toChars ++ [']', ':']))
  rw [toChars_eq hn]
  simpa using hstrip

/-- The text of an endpoint is read as the endpoint. -/
lemma read_toChars {e : Endpoint} (h : e.Denotable) : read e.toChars = .ok e := by
  obtain ⟨n, hn⟩ := Int.eq_ofNat_of_zero_le h.port_nonneg
  have hle : n ≤ maxPort := by
    have hport := h.port_le
    omega
  have hsplit : splitParts? e.toChars =
      some ⟨e.ia.toChars, e.host.toChars, Nat.toDigits 10 n⟩ := by
    rw [toChars_eq hn, splitParts?_eq_some_iff]
    refine ⟨':' :: Nat.toDigits 10 n, rfl, IsdAs.toChars_ne_nil,
      fun c => visible_of_mem_toChars h.ia, e.host.toChars_ne_nil,
      Host.bracket_notMem_toChars h.bracket, ?_⟩
    exact splitPort?_eq_some_iff.mpr
      (.inr ⟨rfl, Nat.toDigits_ne_nil, fun c => isDecimal_of_mem_toDigits⟩)
  rw [read, strip_toChars h, hsplit]
  dsimp only
  rw [IsdAs.read_toChars h.ia, ok_bind, Host.read?_toChars h.zone]
  dsimp only
  rw [readPort_toDigits _ hle, ok_bind, ← hn, ← h.path]
  rfl

/-- What was read is what a text can say. -/
lemma denotable_of_read {text : List Char} {e : Endpoint} (h : read text = .ok e) :
    e.Denotable := by
  rw [read] at h
  split at h
  · cases h
  · next parts hparts =>
    obtain ⟨hbracket, -⟩ := of_splitParts? hparts
    obtain ⟨ia, hia, h⟩ := bind_eq_ok_iff.mp h
    split at h
    · cases h
    · next host hhost =>
      obtain ⟨port, hport, h⟩ := bind_eq_ok_iff.mp h
      obtain rfl := Except.ok.inj h
      obtain ⟨hzone, hmem⟩ := Host.zone_of_read? hhost
      exact {
        ia := IsdAs.inRange_of_read hia
        zone := hzone
        bracket := fun z hz hin => hbracket (hmem z hz _ hin)
        port_nonneg := Int.natCast_nonneg port
        port_le := Int.ofNat_le.mpr (le_of_readPort hport)
        path := rfl }

lemma parse_toString_of_denotable {e : Endpoint} (h : e.Denotable) : parse (toString e) = .ok e := by
  have htext : (toString e).toList = e.toChars := String.toList_ofList
  rw [parse, htext, read_toChars h]

/-- Reading yields endpoints whose text is read as themselves, so that two texts denote the same
endpoint exactly when the endpoints read from them have one text. Each endpoint whose parts are
in range, whose host has no zone and whose path is empty is read from its text. -/
theorem parse_toString :
    (∀ text e, parse text = .ok e →
      (0 ≤ e.ia.isd ∧ e.ia.isd < 2 ^ 16) ∧ (0 ≤ e.ia.asn ∧ e.ia.asn < 2 ^ 48) ∧
        (0 ≤ e.port ∧ e.port ≤ 65535) ∧ e.path = [] ∧ parse (toString e) = .ok e) ∧
    (∀ text text' e e', parse text = .ok e → parse text' = .ok e' →
      (e = e' ↔ toString e = toString e')) ∧
    (∀ e : Endpoint, 0 ≤ e.ia.isd → e.ia.isd < 2 ^ 16 → 0 ≤ e.ia.asn → e.ia.asn < 2 ^ 48 →
      0 ≤ e.port → e.port ≤ 65535 → e.host.zone? = none → e.path = [] →
      parse (toString e) = .ok e) := by
  have hnormal : ∀ {text : String} {e : Endpoint}, parse text = .ok e →
      parse (toString e) = .ok e :=
    fun h => parse_toString_of_denotable (denotable_of_read h)
  refine ⟨?_, ?_, ?_⟩
  · intro text e h
    have he : e.Denotable := denotable_of_read h
    exact ⟨⟨he.ia.isd_nonneg, he.ia.isd_lt⟩, ⟨he.ia.asn_nonneg, he.ia.asn_lt⟩,
      ⟨he.port_nonneg, he.port_le⟩, he.path, hnormal h⟩
  · intro text text' e e' h h'
    constructor
    · rintro rfl
      rfl
    · intro htext
      have hparsed := hnormal h
      rw [htext, hnormal h'] at hparsed
      exact (Except.ok.inj hparsed).symm
  · intro e hisd hisdLt hasn hasnLt hport hportLe hzone hpath
    exact parse_toString_of_denotable {
      ia := ⟨hisd, hisdLt, hasn, hasnLt⟩
      zone := by simp [Host.HasReadableZone, hzone]
      bracket := by simp [hzone]
      port_nonneg := hport
      port_le := hportLe
      path := hpath }

/-- A scope is kept, and case, leading zeros and the way of leaving out zeros are not. -/
theorem parse_toString_zoned :
    let zoned : Endpoint :=
      ⟨⟨1, 0xff0000000110⟩, .v6 #v[0xfe, 0x80, 0, 0, 0, 0, 0, 0, 0, 0, 0, 0, 0, 0, 0, 1]
        (some "eth0".toList), 30041, []⟩
    let unzoned : Endpoint :=
      ⟨⟨65535, 0x100000000⟩, .v6 #v[0x20, 1, 0, 0, 0, 0, 0, 1, 0, 0, 0, 0, 0, 0, 0, 0] none, 0, []⟩
    parse " 01-FF00:0000:110,[FE80:0::0.0.0.1%eth0]:030041\n" = .ok zoned ∧
      parse "65535-1:0:0,[2001:0:0:1::0:0]" = .ok unzoned ∧
      (0 ≤ zoned.port ∧ zoned.port ≤ 65535) ∧ parse (toString zoned) = .ok zoned ∧
      (zoned = unzoned ↔ toString zoned = toString unzoned) ∧
      parse (toString unzoned) = .ok unzoned := by
  intro zoned unzoned
  have hzoned : parse " 01-FF00:0000:110,[FE80:0::0.0.0.1%eth0]:030041\n" = .ok zoned := by
    decide +kernel
  have hunzoned : parse "65535-1:0:0,[2001:0:0:1::0:0]" = .ok unzoned := by decide +kernel
  obtain ⟨-, -, hport, -, hagain⟩ := parse_toString.1 _ _ hzoned
  exact ⟨hzoned, hunzoned, hport, hagain, parse_toString.2.1 _ _ _ _ hzoned hunzoned,
    parse_toString.2.2 unzoned (by decide) (by decide) (by decide) (by decide) (by decide)
      (by decide) rfl rfl⟩

end ScionEcho.Endpoint
