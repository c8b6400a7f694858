import Mathlib.Data.Bool.AllAny
import ScionEcho.Proofs.Address.Refusal

/-!
# The grammar of addresses

Which texts denote a pair or an endpoint, told by the rules by which these texts are put together.
On texts of ASCII characters the readers follow the rules, with one difference: behind each group
of hexadecimal digits of a pair they pass over a line feed. The text of an endpoint has no place
for one, so there the rules hold as they are, and its parts can be told in one way only.
-/

namespace ScionEcho

open Text Address Numeral

/-- A text of ASCII characters in which no run of digits is too long to be a numeral. -/
structure Text.Plain (cs : List Char) : Prop where
  ascii : ∀ c ∈ cs, c.toNat < 128
  runs : ∀ run, run <:+: cs → (∀ c ∈ run, c.isDigit = true) → run.length ≤ 4300

/-- A nonempty run of decimal digits, of which the value is at most the limit. -/
structure Numeral.DecimalForm (limit : Nat) (cs : List Char) (n : Nat) : Prop where
  ne_nil : cs ≠ []
  digits : ∀ c ∈ cs, c.isDigit = true
  value : Nat.ofDigitChars 10 cs 0 = n
  le : n ≤ limit

namespace IsdAs

/-- How an AS is written: in decimal, or as three groups of 16 bits with colons between them. Each
group is followed by one of the given ends. -/
inductive AsForm (ends : List (List Char)) : List Char → Nat → Prop
  | decimal {cs : List Char} {n : Nat} (h : DecimalForm (2 ^ 32 - 1) cs n) : AsForm ends cs n
  | groups {a b c a' b' c' : List Char} (ha : HexGroup a) (hb : HexGroup b) (hc : HexGroup c)
      (ha' : a' ∈ ends) (hb' : b' ∈ ends) (hc' : c' ∈ ends) :
      AsForm ends ((a ++ a') ++ ':' :: ((b ++ b') ++ ':' :: (c ++ c')))
        (2 ^ 32 * hexNumber a + 2 ^ 16 * hexNumber b + hexNumber c)

/-- How a pair is written: an ISD in decimal, a hyphen, and an AS. -/
inductive PairForm (ends : List (List Char)) : List Char → IsdAs → Prop
  | mk {isdText asText : List Char} {isd asn : Nat} (hisd : DecimalForm 65535 isdText isd)
      (hasn : AsForm ends asText asn) : PairForm ends (isdText ++ '-' :: asText) ⟨isd, asn⟩

end IsdAs

namespace Endpoint

/-- How a port is written: not at all for port 0, or behind a colon in decimal. -/
inductive PortForm : List Char → Int → Prop
  | unstated : PortForm [] 0
  | stated {ds : List Char} {n : Nat} (h : DecimalForm 65535 ds n) : PortForm (':' :: ds) n

/-- How an endpoint is written: a pair without commas and blanks, a host in brackets, which is all
up to the first closing one, and a port. -/
structure Form (cs ia host port : List Char) (e : Endpoint) : Prop where
  text : cs = ia ++ ',' :: '[' :: (host ++ ']' :: port)
  visible : ∀ c ∈ ia, c ≠ ',' ∧ isBlank c = false
  pair : IsdAs.PairForm [[]] ia e.ia
  host_ne_nil : host ≠ []
  bracket : ']' ∉ host
  address : Host.read? host = some e.host
  port : PortForm port e.port
  path : e.path = []

end Endpoint

/-! ### ASCII texts -/

lemma Text.Plain.part {cs ds : List Char} (h : Plain cs) (hds : ds <:+: cs) : Plain ds where
  ascii c hc := h.ascii c (hds.subset hc)
  runs run hrun := h.runs run (hrun.trans hds)

lemma Text.plain_of_length_le {cs : List Char} (hascii : cs.all (·.toNat < 128))
    (hlength : cs.length ≤ 4300) : Plain cs :=
  ⟨List.all_iff_forall_prop.mp hascii, fun _ hrun _ => hrun.length_le.trans hlength⟩

lemma Text.strip_isInfix (cs : List Char) : strip cs <:+: cs := by
  have hfront : cs.dropWhile isBlank <:+ cs := List.dropWhile_suffix isBlank
  have hback : strip cs <+: cs.dropWhile isBlank := by
    rw [strip, ← List.reverse_suffix, List.reverse_reverse]
    exact List.dropWhile_suffix isBlank
  exact hback.isInfix.trans hfront.isInfix

/-- ASCII has ten digits, and all of them have a place value. -/
lemma Text.digits_of_ascii {c : Char} (h : c.toNat < 128) :
    isDecimal c = c.isDigit ∧ isDigit c = c.isDigit := by
  have hall : ∀ n < 128, isDecimal (Char.ofNat n) = (Char.ofNat n).isDigit ∧
      isDigit (Char.ofNat n) = (Char.ofNat n).isDigit := by
    decide +kernel
  have hc := hall c.toNat h
  rwa [Char.ofNat_toNat] at hc

lemma Text.Plain.not_unreadable {cs : List Char} (h : Plain cs) : ¬ Unreadable cs := by
  rintro ⟨hdigits, hbad⟩
  simp only [allDigits, Bool.and_eq_true, List.all_eq_true] at hdigits
  have hall : ∀ c ∈ cs, c.isDigit = true := fun c hc => by
    rw [← (digits_of_ascii (h.ascii c hc)).2]
    exact hdigits.2 c hc
  rcases hbad with ⟨c, hc, hdecimal⟩ | hlong
  · rw [(digits_of_ascii (h.ascii c hc)).1, hall c hc] at hdecimal
    cases hdecimal
  · exact absurd (h.runs cs (List.infix_refl cs) hall) (Nat.not_le_of_lt hlong)

lemma Numeral.readNat_eq_ok_iff_of_plain {cs : List Char} (h : Plain cs) {limit n : Nat} :
    readNat cs = .ok n ∧ n ≤ limit ↔ DecimalForm limit cs n := by
  have hdecimal : ∀ c ∈ cs, isDecimal c = c.isDigit := fun c hc =>
    (digits_of_ascii (h.ascii c hc)).1
  rw [readNat_eq_ok_iff]
  constructor
  · rintro ⟨⟨hne, hall, -, hvalue⟩, hle⟩
    have hdigits : ∀ c ∈ cs, c.isDigit = true := fun c hc => hdecimal c hc ▸ hall c hc
    exact ⟨hne, hdigits, value_eq_ofDigitChars hdigits ▸ hvalue, hle⟩
  · rintro ⟨hne, hdigits, hvalue, hle⟩
    refine ⟨⟨hne, fun c hc => (hdecimal c hc).trans (hdigits c hc), ?_, ?_⟩, hle⟩
    · exact h.runs cs (List.infix_refl cs) hdigits
    · rw [value_eq_ofDigitChars hdigits, hvalue]

/-! ### Pairs -/

namespace IsdAs

variable {ends : List (List Char)} {cs : List Char} {n : Nat} {ia : IsdAs}

lemma readAs_eq_ok_iff (h : Plain cs) {text : List Char} :
    readAs text cs = .ok n ↔ AsForm lineEnds cs n := by
  constructor
  · intro hread
    by_cases hcolon : ':' ∈ cs
    · obtain ⟨a, b, c, rfl, ⟨ha, hb, hc⟩, rfl⟩ := (readAs_eq_ok_iff_groups hcolon).mp hread
      obtain ⟨a, a', rfl, ha, ha'⟩ := isGroup_iff.mp ha
      obtain ⟨b, b', rfl, hb, hb'⟩ := isGroup_iff.mp hb
      obtain ⟨c, c', rfl, hc, hc'⟩ := isGroup_iff.mp hc
      rw [groupValue_append ha ha', groupValue_append hb hb', groupValue_append hc hc']
      exact .groups ha hb hc ha' hb' hc'
    · rw [readAs, if_pos hcolon, readDecimal_eq_ok_iff] at hread
      exact .decimal ((readNat_eq_ok_iff_of_plain h).mp hread)
  · intro hform
    cases hform with
    | decimal hdecimal =>
      have hcolon : ':' ∉ cs := fun hmem => by cases hdecimal.digits _ hmem
      rw [readAs, if_pos hcolon, readDecimal_eq_ok_iff]
      exact (readNat_eq_ok_iff_of_plain h).mpr hdecimal
    | @groups a b c a' b' c' ha hb hc ha' hb' hc' =>
      refine (readAs_eq_ok_iff_groups (by simp)).mpr ⟨_, _, _, rfl, ⟨?_, ?_, ?_⟩, ?_⟩
      · exact isGroup_iff.mpr ⟨a, a', rfl, ha, ha'⟩
      · exact isGroup_iff.mpr ⟨b, b', rfl, hb, hb'⟩
      · exact isGroup_iff.mpr ⟨c, c', rfl, hc, hc'⟩
      · rw [groupValue_append ha ha', groupValue_append hb hb', groupValue_append hc hc']

lemma AsForm.ne_nil (h : AsForm ends cs n) : cs ≠ [] := by
  cases h with
  | decimal h => exact h.ne_nil
  | groups => simp

lemma PairForm.ne_nil (h : PairForm ends cs ia) : cs ≠ [] := by
  cases h
  simp

/-- The reader follows the rules, passing over a line feed behind each group. -/
lemma read_eq_ok_iff {text : List Char} (h : Plain text) :
    read text = .ok ia ↔ PairForm lineEnds text ia := by
  constructor
  · intro hread
    rw [read] at hread
    split at hread
    · next isdText asText hcut =>
      obtain ⟨rfl, -⟩ := eq_append_of_cut hcut
      split_ifs at hread
      obtain ⟨isd, hisd, hread⟩ := bind_eq_ok_iff.mp hread
      obtain ⟨asn, hasn, hread⟩ := bind_eq_ok_iff.mp hread
      obtain rfl := Except.ok.inj hread
      have hfront : Plain isdText := h.part (List.prefix_append _ _).isInfix
      have hback : Plain asText := h.part ⟨isdText ++ ['-'], [], by simp⟩
      exact .mk ((readNat_eq_ok_iff_of_plain hfront).mp (readDecimal_eq_ok_iff.mp hisd))
        ((readAs_eq_ok_iff hback).mp hasn)
    · cases hread
  · rintro ⟨hisd, hasn⟩
    next isdText asText isd asn =>
    have hfront : Plain isdText := h.part (List.prefix_append _ _).isInfix
    have hback : Plain asText := h.part ⟨isdText ++ ['-'], [], by simp⟩
    have hhyphen : '-' ∉ isdText := fun hmem => by cases hisd.digits _ hmem
    have hreadIsd (refused : ParseError) : readDecimal refused maxIsd isdText = .ok isd :=
      readDecimal_eq_ok_iff.mpr ((readNat_eq_ok_iff_of_plain hfront).mpr hisd)
    rw [read, cut_append_cons hhyphen]
    dsimp only
    rw [if_neg (by simp [hisd.ne_nil, hasn.ne_nil]), hreadIsd, ok_bind,
      (readAs_eq_ok_iff hback).mpr hasn, ok_bind]
    rfl

/-- Only the ends that occur in a text matter to it. -/
lemma PairForm.of_ends {ends' : List (List Char)} (h : PairForm ends cs ia)
    (hends : ∀ rest ∈ ends, rest ⊆ cs → rest ∈ ends') : PairForm ends' cs ia := by
  obtain ⟨hisd, hasn⟩ := h
  refine .mk hisd ?_
  cases hasn with
  | decimal h => exact .decimal h
  | groups ha hb hc ha' hb' hc' =>
    refine .groups ha hb hc (hends _ ha' ?_) (hends _ hb' ?_) (hends _ hc' ?_) <;>
      exact fun c hmem => by simp [hmem]

lemma pairForm_iff_of_feedless (h : '\n' ∉ cs) : PairForm lineEnds cs ia ↔ PairForm [[]] cs ia := by
  constructor
  · intro hform
    refine hform.of_ends fun rest hrest hsub => ?_
    rcases mem_lineEnds.mp hrest with rfl | rfl
    · exact List.mem_singleton_self _
    · exact absurd (hsub (List.mem_singleton_self _)) h
  · intro hform
    exact hform.of_ends fun rest hrest _ => mem_lineEnds.mpr (.inl (List.mem_singleton.mp hrest))

/-- Digits, the hyphen and colons make up the text of a pair. -/
lemma PairForm.isHex_of_mem (h : PairForm [[]] cs ia) {c : Char} (hc : c ∈ cs) :
    isHex c = true ∨ c = '-' ∨ c = ':' := by
  obtain ⟨hisd, hasn⟩ := h
  rcases List.mem_append.mp hc with hc | hc
  · exact .inl (isHex_of_isDigit (hisd.digits c hc))
  rcases List.mem_cons.mp hc with rfl | hc
  · exact .inr (.inl rfl)
  cases hasn with
  | decimal h => exact .inl (isHex_of_isDigit (h.digits c hc))
  | groups hx hy hz hx' hy' hz' =>
    obtain rfl := List.mem_singleton.mp hx'
    obtain rfl := List.mem_singleton.mp hy'
    obtain rfl := List.mem_singleton.mp hz'
    simp only [List.append_nil, List.mem_append, List.mem_cons] at hc
    rcases hc with hc | rfl | hc | rfl | hc
    · exact .inl (hx.digits c hc)
    · exact .inr (.inr rfl)
    · exact .inl (hy.digits c hc)
    · exact .inr (.inr rfl)
    · exact .inl (hz.digits c hc)

/-- No number of an ASCII text is too long or has digits without a place value. -/
lemma not_hasUnreadable {text : List Char} (h : Plain text) : ¬ HasUnreadable text := by
  rintro ⟨isdText, asText, hcut, -, hunreadable⟩
  obtain ⟨rfl, -⟩ := eq_append_of_cut hcut
  rcases hunreadable with hisd | ⟨-, -, hasn⟩
  · exact (h.part (List.prefix_append _ _).isInfix).not_unreadable hisd
  · exact (h.part ⟨isdText ++ ['-'], [], by simp⟩).not_unreadable hasn

/-- The texts of pairs are told by rules: the ISD in decimal, a hyphen, and the AS in decimal or in
three groups. A line feed may follow each group; apart from that nothing else is read, and every
other text is refused with a reason. -/
theorem parse_pair_exact {text : String} (h : Plain text.toList) :
    ('\n' ∉ text.toList → ∀ ia, parse text = .ok ia ↔ PairForm [[]] text.toList ia) ∧
    (∀ ia, parse text = .ok ia ↔ PairForm [[], ['\n']] text.toList ia) ∧
    ∀ e, parse text = .error e → e.Announced := by
  refine ⟨fun hfeed ia => ?_, fun ia => read_eq_ok_iff h, fun e he => ?_⟩
  · rw [← pairForm_iff_of_feedless hfeed]
    exact read_eq_ok_iff h
  · exact (settles_read text.toList).announced (not_hasUnreadable h) he

/-- Case and leading zeros of the groups do not matter, and nothing may be missing. -/
theorem parse_pair_exact_grouped :
    let text := "065535-FFaa:0:1101"
    Plain text.toList ∧ '\n' ∉ text.toList ∧
      (parse text = .ok ⟨65535, 0xffaa00001101⟩ ∧
        PairForm [[]] text.toList ⟨65535, 0xffaa00001101⟩) ∧
      Plain "1-0:1".toList ∧ parse "1-0:1" = .error (.asn "0:1".toList "1-0:1".toList) ∧
        (ParseError.asn "0:1".toList "1-0:1".toList).Announced := by
  intro text
  have hplain : Plain text.toList := plain_of_length_le (by decide) (by decide)
  have hfeedless : '\n' ∉ text.toList := by decide
  have hparse : parse text = .ok ⟨65535, 0xffaa00001101⟩ := by decide +kernel
  have hshort : Plain "1-0:1".toList := plain_of_length_le (by decide) (by decide)
  have hrefused : parse "1-0:1" = .error (.asn "0:1".toList "1-0:1".toList) := by decide +kernel
  exact ⟨hplain, hfeedless, ⟨hparse, ((parse_pair_exact hplain).1 hfeedless _).mp hparse⟩,
    hshort, hrefused, (parse_pair_exact hshort).2.2 _ hrefused⟩

/-- The line feed at the end of a text is passed over, although no rule provides for it. -/
theorem parse_lineFeed :
    parse "1-0:0:1\n" = .ok ⟨1, 1⟩ ∧
    ¬ (∀ text : String, Plain text.toList → ∀ ia, parse text = .ok ia →
      PairForm [[]] text.toList ia) := by
  have hparse : parse "1-0:0:1\n" = .ok ⟨1, 1⟩ := by decide +kernel
  refine ⟨hparse, fun hall => ?_⟩
  have hplain : Plain "1-0:0:1\n".toList := plain_of_length_le (by decide) (by decide)
  have hvisible := (hall _ hplain _ hparse).isHex_of_mem (c := '\n') (by decide)
  revert hvisible
  decide

end IsdAs

/-! ### Endpoints -/

namespace Endpoint

variable {cs text tail ds ia host port ia' host' port' : List Char} {e e' : Endpoint}

lemma exists_readPort_iff (h : Plain tail) (hsplit : splitPort? tail = some ds) {p : Int} :
    (∃ n : Nat, readPort text ds = .ok n ∧ (n : Int) = p) ↔ PortForm tail p := by
  rcases splitPort?_eq_some_iff.mp hsplit with ⟨rfl, rfl⟩ | ⟨rfl, hne, -⟩
  · constructor
    · rintro ⟨n, hn, rfl⟩
      obtain rfl := Except.ok.inj hn
      exact .unstated
    · intro hport
      cases hport
      exact ⟨0, rfl, rfl⟩
  · have hdigits : Plain ds := h.part (List.suffix_cons ':' ds).isInfix
    simp only [readPort_eq_ok_iff text hne, readNat_eq_ok_iff_of_plain hdigits]
    constructor
    · rintro ⟨n, hn, rfl⟩
      exact .stated hn
    · intro hport
      cases hport with
      | stated hn => exact ⟨_, hn, rfl⟩

/-- A port that is written by the rules is split off. -/
lemma PortForm.exists_splitPort? {p : Int} (h : PortForm tail p) :
    ∃ ds, splitPort? tail = some ds := by
  cases h with
  | unstated => exact ⟨[], rfl⟩
  | stated hn =>
    exact ⟨_, splitPort?_eq_some_iff.mpr
      (.inr ⟨rfl, hn.ne_nil, fun c hc => isDecimal_of_isDigit (hn.digits c hc)⟩)⟩

lemma read_eq_ok_iff (h : Plain text) :
    read text = .ok e ↔ ∃ ia host port, Form (strip text) ia host port e := by
  have hstrip : Plain (strip text) := h.part (strip_isInfix text)
  constructor
  · intro hread
    rw [read] at hread
    split at hread
    · cases hread
    · next parts hparts =>
      obtain ⟨tail, htext, -, hvisible, hhost, hbracket, hport⟩ := splitParts?_eq_some_iff.mp hparts
      obtain ⟨pair, hpair, hread⟩ := bind_eq_ok_iff.mp hread
      split at hread
      · cases hread
      · next address haddress =>
        obtain ⟨n, hn, hread⟩ := bind_eq_ok_iff.mp hread
        obtain rfl := Except.ok.inj hread
        rw [htext] at hstrip
        have hia : Plain parts.ia := hstrip.part (List.prefix_append _ _).isInfix
        have htail : Plain tail := hstrip.part ⟨parts.ia ++ ',' :: '[' :: (parts.host ++ [']']), [],
          by simp⟩
        have hfeed : '\n' ∉ parts.ia := fun hmem => by cases (hvisible _ hmem).2
        exact ⟨parts.ia, parts.host, tail, {
          text := htext
          visible := hvisible
          pair := (IsdAs.pairForm_iff_of_feedless hfeed).mp ((IsdAs.read_eq_ok_iff hia).mp hpair)
          host_ne_nil := hhost
          bracket := hbracket
          address := haddress
          port := (exists_readPort_iff htail hport).mp ⟨n, hn, rfl⟩
          path := rfl }⟩
  · rintro ⟨ia, host, tail, hform⟩
    obtain ⟨htext, hvisible, hpair, hhost, hbracket, haddress, hport, hpath⟩ := hform
    obtain ⟨ds, hds⟩ := hport.exists_splitPort?
    rw [htext] at hstrip
    have hia : Plain ia := hstrip.part (List.prefix_append _ _).isInfix
    have htail : Plain tail := hstrip.part ⟨ia ++ ',' :: '[' :: (host ++ [']']), [], by simp⟩
    have hfeed : '\n' ∉ ia := fun hmem => by cases (hvisible _ hmem).2
    have hread : IsdAs.read ia = .ok e.ia :=
      (IsdAs.read_eq_ok_iff hia).mpr ((IsdAs.pairForm_iff_of_feedless hfeed).mpr hpair)
    obtain ⟨n, hn, hportValue⟩ : ∃ n : Nat, readPort text ds = .ok n ∧ (n : Int) = e.port :=
      (exists_readPort_iff htail hds).mpr hport
    have hsplit : splitParts? (strip text) = some ⟨ia, host, ds⟩ :=
      splitParts?_eq_some_iff.mpr ⟨tail, htext, hpair.ne_nil, hvisible, hhost, hbracket, hds⟩
    rw [read, hsplit]
    dsimp only
    rw [hread, ok_bind, haddress]
    dsimp only
    rw [hn, ok_bind, hportValue, ← hpath]
    rfl

/-- The pair goes on to the first comma and the host to the first closing bracket. -/
lemma Form.parts_eq (h : Form cs ia host port e) (h' : Form cs ia' host' port' e') :
    ia = ia' ∧ host = host' ∧ port = port' := by
  have hcomma : ',' ∉ ia := fun hmem => (h.visible _ hmem).1 rfl
  have hcomma' : ',' ∉ ia' := fun hmem => (h'.visible _ hmem).1 rfl
  have hcut : cut ',' cs = (ia, some ('[' :: (host ++ ']' :: port))) := by
    rw [h.text, cut_append_cons hcomma]
  rw [h'.text, cut_append_cons hcomma'] at hcut
  obtain ⟨rfl, hrest⟩ := Prod.mk.inj hcut
  obtain ⟨-, hrest⟩ := List.cons.inj (Option.some.inj hrest)
  have hcut' : cut ']' (host ++ ']' :: port) = (host, some port) := cut_append_cons h.bracket
  rw [← hrest, cut_append_cons h'.bracket] at hcut'
  obtain ⟨rfl, hport⟩ := Prod.mk.inj hcut'
  exact ⟨rfl, rfl, (Option.some.inj hport).symm⟩

/-- No number of an ASCII text is too long or has digits without a place value. -/
lemma not_hasUnreadable (h : Plain text) : ¬ HasUnreadable text := by
  rintro ⟨parts, hparts, hunreadable⟩
  obtain ⟨tail, htext, -, -, -, -, hport⟩ := splitParts?_eq_some_iff.mp hparts
  have hstrip : Plain (strip text) := h.part (strip_isInfix text)
  rw [htext] at hstrip
  rcases hunreadable with hia | ⟨-, -, hlong⟩
  · exact IsdAs.not_hasUnreadable (hstrip.part (List.prefix_append _ _).isInfix) hia
  rcases splitPort?_eq_some_iff.mp hport with ⟨-, hnil⟩ | ⟨htail, hne, hdecimal⟩
  · simp [hnil] at hlong
  · have hdigits : Plain parts.port := by
      rw [htail] at hstrip
      exact hstrip.part ⟨parts.ia ++ ',' :: '[' :: (parts.host ++ [']', ':']), [], by simp⟩
    exact hdigits.not_unreadable ⟨allDigits_of_isDecimal hne hdecimal, .inr hlong⟩

/-- The texts of endpoints are told by rules, once the blanks around them are gone: a pair, a host
in brackets, and a port or nothing. Such a text has its parts in one way only, and denotes the
endpoint of what they denote. Every other text is refused with a reason. -/
theorem parse_endpoint_exact {text : String} (h : Plain text.toList) :
    (∀ e, parse text = .ok e ↔
      ∃ ia host port, Form (strip text.toList) ia host port e) ∧
    (∀ ia host port e ia' host' port' e', Form (strip text.toList) ia host port e →
      Form (strip text.toList) ia' host' port' e' →
        ia = ia' ∧ host = host' ∧ port = port' ∧ e = e') ∧
    ∀ e, parse text = .error e → e.Announced := by
  refine ⟨fun e => read_eq_ok_iff h, ?_, fun e he => ?_⟩
  · intro ia host port e ia' host' port' e' hform hform'
    obtain ⟨hia, hhost, hport⟩ := hform.parts_eq hform'
    have hread := (read_eq_ok_iff h).mpr ⟨ia, host, port, hform⟩
    rw [(read_eq_ok_iff h).mpr ⟨ia', host', port', hform'⟩] at hread
    exact ⟨hia, hhost, hport, (Except.ok.inj hread).symm⟩
  · exact (settles_readEndpoint text.toList).announced (not_hasUnreadable h) he

/-- A zone may hold commas, blanks and opening brackets. Nothing may stand between the host and the
port. -/
theorem parse_endpoint_exact_zoned :
    let text := " 1-ff00:0:110,[fe80::1%a,[ b]:00443\n"
    let e : Endpoint :=
      ⟨⟨1, 0xff0000000110⟩, .v6 #v[0xfe, 0x80, 0, 0, 0, 0, 0, 0, 0, 0, 0, 0, 0, 0, 0, 1]
        (some "a,[ b".toList), 443, []⟩
    let spaced := "1-1,[127.0.0.1] :443"
    Plain text.toList ∧
      Form (strip text.toList) "1-ff00:0:110".toList "fe80::1%a,[ b".toList ":00443".toList e ∧
      parse text = .ok e ∧
      (∀ ia host port e', Form (strip text.toList) ia host port e' →
        "1-ff00:0:110".toList = ia ∧ "fe80::1%a,[ b".toList = host ∧ ":00443".toList = port ∧
          e = e') ∧
      Plain spaced.toList ∧ parse spaced = .error (.endpoint spaced.toList) ∧
        (ParseError.endpoint spaced.toList).Announced := by
  intro text e spaced
  have hplain : Plain text.toList := plain_of_length_le (by decide) (by decide)
  have hspaced : Plain spaced.toList := plain_of_length_le (by decide) (by decide)
  have hrefused : parse spaced = .error (.endpoint spaced.toList) := by decide +kernel
  have hpair : IsdAs.read "1-ff00:0:110".toList = .ok e.ia := by decide +kernel
  have hia : Plain "1-ff00:0:110".toList := plain_of_length_le (by decide) (by decide)
  have hform : Form (strip text.toList) "1-ff00:0:110".toList "fe80::1%a,[ b".toList
      ":00443".toList e := {
    text := by decide
    visible := List.all_iff_forall_prop.mp (by decide)
    pair := (IsdAs.pairForm_iff_of_feedless (by decide)).mp ((IsdAs.read_eq_ok_iff hia).mp hpair)
    host_ne_nil := by decide
    bracket := by decide
    address := by decide +kernel
    port := .stated ⟨by decide, List.all_eq_true.mp (by decide), by decide, by decide⟩
    path := rfl }
  obtain ⟨hiff, hunique, -⟩ := parse_endpoint_exact hplain
  exact ⟨hplain, hform, (hiff e).mpr ⟨_, _, _, hform⟩,
    fun ia host port e' => hunique _ _ _ _ ia host port e' hform, hspaced, hrefused,
    (parse_endpoint_exact hspaced).2.2 _ hrefused⟩

end Endpoint

end ScionEcho
