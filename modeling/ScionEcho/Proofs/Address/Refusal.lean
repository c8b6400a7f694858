import ScionEcho.Proofs.Address.Endpoint

/-!
# How reading an address fails

Addresses announce what is wrong with them, with one exception: a part that holds digits only and
still is no numeral. Not every digit has a place value, and a numeral has a greatest length; either
comes to light only where a number is made of the part.
-/

namespace ScionEcho

open Text Address Numeral

/-- The failures that say what is wrong with an address. -/
def Address.ParseError.Announced : ParseError → Prop
  | .numeral _ => False
  | _ => True

/-- A text of digits that is no numeral. -/
def Numeral.Unreadable (cs : List Char) : Prop :=
  allDigits cs = true ∧ ((∃ c ∈ cs, isDecimal c = false) ∨ maxDigits < cs.length)

/-- Reading comes upon a number that cannot be read: the ISD, or after an ISD in range an AS that
is not in groups. -/
def IsdAs.HasUnreadable (text : List Char) : Prop :=
  ∃ isdText asText, cut '-' text = (isdText, some asText) ∧ asText ≠ [] ∧
    (Unreadable isdText ∨
      (∃ isd ≤ maxIsd, readNat isdText = .ok isd) ∧ ':' ∉ asText ∧ Unreadable asText)

/-- Reading comes upon a number that cannot be read: one of the pair, or after a pair and a host
the port. -/
def Endpoint.HasUnreadable (text : List Char) : Prop :=
  ∃ parts, splitParts? (strip text) = some parts ∧
    (IsdAs.HasUnreadable parts.ia ∨
      (∃ ia, IsdAs.read parts.ia = .ok ia) ∧ (∃ host, Host.read? parts.host = some host) ∧
        maxDigits < parts.port.length)

/-- Reading fails without announcing it under the given condition only; otherwise it yields
something good or announces what is wrong. -/
def Settles {α : Type} (x : Except ParseError α) (unreadable : Prop) (Good : α → Prop) : Prop :=
  (unreadable ∧ ∃ cause, x = .error (.numeral cause)) ∨
  (¬ unreadable ∧ ((∃ a, x = .ok a ∧ Good a) ∨ ∃ e, x = .error e ∧ e.Announced))

/-! ### Parts of a reading -/

section

variable {α β : Type} {x : Except ParseError α} {f : α → Except ParseError β}
variable {u v : Prop} {Good : α → Prop} {Good' : β → Prop}

lemma Settles.of_ok {a : α} (hu : ¬ u) (ha : Good a) : Settles (.ok a) u Good :=
  .inr ⟨hu, .inl ⟨a, rfl, ha⟩⟩

lemma Settles.of_announced {e : ParseError} (hu : ¬ u) (he : e.Announced) :
    Settles (.error e) u Good :=
  .inr ⟨hu, .inr ⟨e, rfl, he⟩⟩

lemma Settles.congr (h : Settles x u Good) (huv : u ↔ v) : Settles x v Good := by
  rwa [← propext huv]

lemma Settles.of_forall_ok {Better : α → Prop} (h : Settles x u Good)
    (hbetter : ∀ a, x = .ok a → Better a) : Settles x u Better := by
  rcases h with h | ⟨hu, ⟨a, ha, -⟩ | h⟩
  · exact .inl h
  · exact .inr ⟨hu, .inl ⟨a, ha, hbetter a ha⟩⟩
  · exact .inr ⟨hu, .inr h⟩

lemma Settles.announced {e : ParseError} (h : Settles x u Good) (hu : ¬ u) (he : x = .error e) :
    e.Announced := by
  rcases h with ⟨hbad, -⟩ | ⟨-, ⟨a, ha, -⟩ | ⟨e', he', hannounced⟩⟩
  · exact absurd hbad hu
  · rw [he] at ha
    cases ha
  · obtain rfl := Except.error.inj (he.symm.trans he')
    exact hannounced

/-- The second reading takes place where the first one succeeds. -/
lemma Settles.bind (hx : Settles x u Good)
    (hf : ∀ a, x = .ok a → Good a → Settles (f a) v Good') :
    Settles (x >>= f) (u ∨ (∃ a, x = .ok a) ∧ v) Good' := by
  rcases hx with ⟨hu, cause, rfl⟩ | ⟨hu, ⟨a, rfl, ha⟩ | ⟨e, rfl, he⟩⟩
  · exact .inl ⟨.inl hu, cause, rfl⟩
  · exact (hf a rfl ha).congr (by simp [hu])
  · exact .of_announced (by simp [hu]) he

end

/-! ### Numbers -/

lemma exists_error_of_ne_ok {ε α : Type} {x : Except ε α} (h : ∀ a, x ≠ .ok a) :
    ∃ e, x = .error e := by
  cases x with
  | error e => exact ⟨e, rfl⟩
  | ok a => exact absurd rfl (h a)

/-- Digits are no numeral if one of them has no place value or if there are too many. -/
lemma unreadable_iff {cs : List Char} (h : allDigits cs = true) :
    Unreadable cs ↔ ∀ n, readNat cs ≠ .ok n := by
  have hne : cs ≠ [] := by
    rintro rfl
    cases h
  simp only [Unreadable, h, true_and, ne_eq, readNat_eq_ok_iff, hne, not_false_eq_true]
  constructor
  · rintro (⟨c, hc, hdecimal⟩ | hlong) n ⟨hall, hlength, -⟩
    · rw [hall c hc] at hdecimal
      cases hdecimal
    · omega
  · intro hnone
    by_contra hgood
    simp only [not_or, not_exists, not_and, Bool.not_eq_false, not_lt] at hgood
    exact hnone (value cs) ⟨hgood.1, hgood.2, rfl⟩

/-- Making a number of digits, and comparing it with a limit. -/
lemma settles_readNat {cs : List Char} (hdigits : allDigits cs = true) {refused : Nat → ParseError}
    (hrefused : ∀ n, (refused n).Announced) (limit : Nat) :
    Settles
      (match readNat cs with
        | .error cause => .error (.numeral cause)
        | .ok n => if limit < n then .error (refused n) else .ok n)
      (Unreadable cs) (· ≤ limit) := by
  by_cases hunreadable : Unreadable cs
  · obtain ⟨cause, hcause⟩ := exists_error_of_ne_ok ((unreadable_iff hdigits).mp hunreadable)
    rw [hcause]
    exact .inl ⟨hunreadable, cause, rfl⟩
  · obtain ⟨n, hn⟩ : ∃ n, readNat cs = .ok n := by
      simpa [unreadable_iff hdigits] using hunreadable
    rw [hn]
    dsimp only
    split_ifs with hlimit
    · exact .of_announced hunreadable (hrefused n)
    · exact .of_ok hunreadable (not_lt.mp hlimit)

lemma settles_readDecimal {refused : ParseError} (hrefused : refused.Announced) (limit : Nat)
    (cs : List Char) : Settles (IsdAs.readDecimal refused limit cs) (Unreadable cs) (· ≤ limit) := by
  rw [IsdAs.readDecimal]
  by_cases hdigits : allDigits cs = true
  · rw [hdigits, if_neg (by simp)]
    exact settles_readNat hdigits (fun _ => hrefused) limit
  · rw [if_pos (by simpa using hdigits)]
    exact .of_announced (fun h => hdigits h.1) hrefused

/-! ### Pairs -/

lemma settles_readAs (text cs : List Char) :
    Settles (IsdAs.readAs text cs) (':' ∉ cs ∧ Unreadable cs) (· < 2 ^ 48) := by
  have hannounced : (ParseError.asn cs text).Announced := trivial
  by_cases hcolon : ':' ∈ cs
  · have hnot : ¬ (':' ∉ cs ∧ Unreadable cs) := fun h => h.1 hcolon
    cases hread : IsdAs.readAs text cs with
    | ok n => exact .of_ok hnot (IsdAs.lt_of_readAs hread)
    | error e =>
      rw [IsdAs.readAs, if_neg (not_not.mpr hcolon)] at hread
      dsimp only at hread
      split_ifs at hread
      obtain rfl := Except.error.inj hread
      exact .of_announced hnot hannounced
  · have hdecimal := settles_readDecimal hannounced IsdAs.maxDecimalAs cs
    have hread : IsdAs.readAs text cs =
        IsdAs.readDecimal (.asn cs text) IsdAs.maxDecimalAs cs := by
      rw [IsdAs.readAs, if_pos hcolon]
    rw [← hread] at hdecimal
    exact (hdecimal.of_forall_ok fun n hn => IsdAs.lt_of_readAs hn).congr (by simp [hcolon])

lemma hasUnreadable_iff {text isdText asText : List Char}
    (hcut : cut '-' text = (isdText, some asText)) :
    IsdAs.HasUnreadable text ↔ asText ≠ [] ∧
      (Unreadable isdText ∨
        (∃ isd ≤ IsdAs.maxIsd, readNat isdText = .ok isd) ∧ ':' ∉ asText ∧ Unreadable asText) := by
  simp [IsdAs.HasUnreadable, hcut]

/-- Where a part is empty no number is read. -/
lemma not_hasUnreadable_of_empty {text isdText asText : List Char}
    (hcut : cut '-' text = (isdText, some asText))
    (hempty : (isdText.isEmpty || asText.isEmpty) = true) : ¬ IsdAs.HasUnreadable text := by
  rw [hasUnreadable_iff hcut]
  rintro ⟨has, h⟩
  obtain rfl : isdText = [] := by simpa [has] using hempty
  rcases h with ⟨hdigits, -⟩ | ⟨⟨isd, -, hread⟩, -⟩
  · cases hdigits
  · simp at hread

lemma settles_read (text : List Char) :
    Settles (IsdAs.read text) (IsdAs.HasUnreadable text) IsdAs.InRange := by
  suffices hread : Settles (IsdAs.read text) (IsdAs.HasUnreadable text) fun _ => True from
    hread.of_forall_ok fun ia => IsdAs.inRange_of_read
  have hannounced : (ParseError.isdAs text).Announced := trivial
  rw [IsdAs.read]
  rcases hcut : cut '-' text with ⟨isdText, _ | asText⟩
  · exact .of_announced (by simp [IsdAs.HasUnreadable, hcut]) hannounced
  dsimp only
  split_ifs with hempty
  · exact .of_announced (not_hasUnreadable_of_empty hcut hempty) hannounced
  have has : asText ≠ [] := by
    rintro rfl
    simp at hempty
  have hrefused : (ParseError.isd isdText text).Announced := trivial
  refine ((settles_readDecimal hrefused IsdAs.maxIsd isdText).bind fun isd _ _ =>
    (settles_readAs text asText).bind fun asn _ _ => .of_ok not_false trivial).congr ?_
  rw [hasUnreadable_iff hcut]
  simp only [IsdAs.readDecimal_eq_ok_iff, and_false, or_false, ne_eq, has, not_false_eq_true,
    true_and, and_comm (b := _ ≤ IsdAs.maxIsd)]

/-! ### Endpoints -/

lemma settles_readPort (text : List Char) {ds : List Char} (h : ∀ c ∈ ds, isDecimal c = true) :
    Settles (Endpoint.readPort text ds) (maxDigits < ds.length) (· ≤ Endpoint.maxPort) := by
  rw [Endpoint.readPort]
  by_cases hempty : ds = []
  · subst hempty
    exact .of_ok (Nat.not_lt_zero _) (Nat.zero_le _)
  · have hdigits : allDigits ds = true := allDigits_of_isDecimal hempty h
    have hunreadable : Unreadable ds ↔ maxDigits < ds.length := by
      simp only [Unreadable, hdigits, true_and, or_iff_right_iff_imp]
      rintro ⟨c, hc, hdecimal⟩
      rw [h c hc] at hdecimal
      cases hdecimal
    rw [if_neg (by simpa using hempty)]
    exact (settles_readNat hdigits (fun n => show (ParseError.port n text).Announced from trivial)
      Endpoint.maxPort).congr hunreadable

lemma settles_readEndpoint (text : List Char) :
    Settles (Endpoint.read text) (Endpoint.HasUnreadable text) Endpoint.Denotable := by
  suffices hread : Settles (Endpoint.read text) (Endpoint.HasUnreadable text) fun _ => True from
    hread.of_forall_ok fun e => Endpoint.denotable_of_read
  rw [Endpoint.read]
  rcases hparts : Endpoint.splitParts? (strip text) with _ | parts
  · exact .of_announced (by simp [Endpoint.HasUnreadable, hparts]) trivial
  dsimp only
  obtain ⟨-, hdecimal⟩ := Endpoint.of_splitParts? hparts
  rcases hhost : Host.read? parts.host with _ | host
  · refine ((settles_read parts.ia).bind fun ia _ _ =>
      .of_announced (e := .host parts.host text) not_false trivial).congr ?_
    simp [Endpoint.HasUnreadable, hparts, hhost]
  · refine ((settles_read parts.ia).bind fun ia _ _ => (settles_readPort text hdecimal).bind
      fun port _ _ => .of_ok not_false trivial).congr ?_
    simp [Endpoint.HasUnreadable, hparts, hhost]

/-- Whatever the text, reading a pair or an endpoint yields one in range or announces what is wrong
with it, unless it comes upon digits that are no numeral. -/
theorem parse_settles (text : String) :
    Settles (IsdAs.parse text) (IsdAs.HasUnreadable text.toList) (fun ia =>
      (0 ≤ ia.isd ∧ ia.isd ≤ 65535) ∧ (0 ≤ ia.asn ∧ ia.asn ≤ 2 ^ 48 - 1)) ∧
    Settles (Endpoint.parse text) (Endpoint.HasUnreadable text.toList) (fun e =>
      0 ≤ e.port ∧ e.port ≤ 65535) := by
  constructor
  · refine (settles_read text.toList).of_forall_ok fun ia hia => ?_
    obtain ⟨hisd, hisdLt, hasn, hasnLt⟩ := IsdAs.inRange_of_read hia
    omega
  · refine (settles_readEndpoint text.toList).of_forall_ok fun e he => ?_
    exact ⟨(Endpoint.denotable_of_read he).port_nonneg, (Endpoint.denotable_of_read he).port_le⟩

/-- A superscript is a digit without a place value, and a port may have too many digits: neither
failure announces what is wrong. -/
theorem parse_superscript :
    ¬ (∀ text, Settles (IsdAs.parse text) False fun _ => True) ∧
    IsdAs.parse "²-1" = .error (.numeral (.malformed ['²'])) ∧
    Endpoint.parse (String.ofList ("1-1,[127.0.0.1]:".toList ++ List.replicate 4301 '1')) =
      .error (.numeral (.tooManyDigits 4301)) := by
  have hsuperscript : IsdAs.parse "²-1" = .error (.numeral (.malformed ['²'])) := by
    decide +kernel
  refine ⟨fun hall => ?_, hsuperscript, ?_⟩
  · rcases hall "²-1" with ⟨hfalse, -⟩ | ⟨-, ⟨ia, hia, -⟩ | ⟨e, he, hannounced⟩⟩
    · exact hfalse
    · rw [hsuperscript] at hia
      cases hia
    · rw [hsuperscript] at he
      obtain rfl := Except.error.inj he
      exact hannounced
  · rw [Endpoint.parse, String.toList_ofList]
    decide +kernel

end ScionEcho
