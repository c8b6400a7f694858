import Mathlib.Algebra.Order.Field.Power
import Mathlib.Tactic.Linarith
import Mathlib.Tactic.NormNum
import Mathlib.Tactic.Positivity
import Mathlib.Tactic.Ring
import ScionEcho.Probe.Result
import ScionEcho.Proofs.Fallible

/-!
# Numbers in the range of doubles

A quotient of whole numbers is rounded to a double exactly if it stays below halfway from the
largest double to the next power of two. If the spread of some samples can be computed, then so can
their mean. Differences of clock readings of 64 bits are of moderate size, and so are the means of
such differences; what is computed of them has a result.
-/

namespace ScionEcho

namespace Binary64

/-- Halfway from the largest double to the next power of two. Numbers from here on are rounded out
of the range of doubles. -/
def overflow : Nat := (2 ^ 54 - 1) * 2 ^ 970

/-! ### Rounding a quotient -/

variable {num den : Nat} {e : Int}

/-- An even number is reached by rounding from half below it on. -/
lemma even_le_roundDiv_iff (hden : den ≠ 0) {n : Nat} (heven : n % 2 = 0) :
    n ≤ roundDiv num den ↔ 2 * n * den ≤ 2 * num + den := by
  have hdiv := Nat.div_add_mod num den
  have hmod := Nat.mod_lt num (Nat.pos_of_ne_zero hden)
  have hside : 2 * n * den ≤ 2 * num + den ↔
      n ≤ num / den ∨ (n = num / den + 1 ∧ den ≤ 2 * (num % den)) := by
    generalize num / den = q at *
    rcases Nat.lt_trichotomy n (q + 1) with h | rfl | h
    · have := Nat.mul_le_mul_left den (Nat.le_of_lt_succ h)
      constructor
      · omega
      · grind
    · grind
    · have := Nat.mul_le_mul_left den h
      grind
  rw [hside]
  unfold roundDiv
  simp only [Bool.or_eq_true, decide_eq_true_eq, Bool.and_eq_true]
  split <;> omega

lemma roundDiv_le (num den : Nat) : roundDiv num den ≤ num / den + 1 := by
  unfold roundDiv
  dsimp only
  split <;> omega

lemma div_le_roundDiv (num den : Nat) : num / den ≤ roundDiv num den := by
  unfold roundDiv
  dsimp only
  split <;> omega

/-- The scaled quotient compares with a whole number as the quotient itself does. -/
lemma scaleDown_lt_iff {n : Nat} :
    (scaleDown num den e).1 < (scaleDown num den e).2 * n ↔ (num : ℚ) < n * 2 ^ e * den := by
  have hpow : (2 : ℚ) ^ e * 2 ^ (-e).toNat = 2 ^ e.toNat := by
    rw [← zpow_natCast, ← zpow_natCast, ← zpow_add₀ two_ne_zero]
    congr 1
    omega
  have hpos : (0 : ℚ) < 2 ^ (-e).toNat := by positivity
  have hscaled : (n * 2 ^ e * den : ℚ) * 2 ^ (-e).toNat = den * 2 ^ e.toNat * n := by
    rw [← hpow]
    ring
  rw [← mul_lt_mul_iff_left₀ hpos, hscaled, scaleDown]
  simp only [Nat.pow_eq]
  exact_mod_cast Iff.rfl

lemma zpow_log2_le {n : Nat} (hn : n ≠ 0) : (2 : ℚ) ^ (n.log2 : Int) ≤ n := by
  rw [zpow_natCast]
  exact_mod_cast Nat.log2_self_le hn

lemma lt_zpow_log2 (n : Nat) : (n : ℚ) < 2 ^ ((n.log2 : Int) + 1) := by
  rw [← Nat.cast_succ, zpow_natCast]
  exact_mod_cast Nat.lt_log2_self

/-- The exponent puts a quotient between two neighbouring powers of two, unless it is too small. -/
lemma exists_exponentOf (hnum : num ≠ 0) (hden : den ≠ 0) :
    ∃ e, exponentOf num den = max minExponent e ∧
      (hiddenBit * 2 ^ e * den : ℚ) ≤ num ∧ (num : ℚ) < hiddenBit * 2 ^ (e + 1) * den := by
  have hhidden : (hiddenBit : ℚ) = 2 ^ (52 : Int) := by norm_num [hiddenBit]
  have hguess : exponentOf num den = max minExponent
      (if (num : ℚ) < hiddenBit * 2 ^ ((num.log2 : Int) - den.log2 - 52) * den then
        (num.log2 : Int) - den.log2 - 52 - 1 else (num.log2 : Int) - den.log2 - 52) := by
    unfold exponentOf
    simp only [scaleDown_lt_iff]
  rw [hguess]
  generalize hg : (num.log2 : Int) - den.log2 - 52 = guess
  split
  next hlt =>
    refine ⟨guess - 1, rfl, ?_, by rwa [sub_add_cancel]⟩
    calc (hiddenBit * 2 ^ (guess - 1) * den : ℚ)
        ≤ hiddenBit * 2 ^ (guess - 1) * 2 ^ ((den.log2 : Int) + 1) := by
          gcongr
          exact (lt_zpow_log2 den).le
      _ = 2 ^ (num.log2 : Int) := by
          rw [hhidden, ← zpow_add₀ two_ne_zero, ← zpow_add₀ two_ne_zero]
          congr 1
          omega
      _ ≤ num := zpow_log2_le hnum
  next hle =>
    refine ⟨guess, rfl, not_lt.mp hle, ?_⟩
    calc (num : ℚ) < 2 ^ ((num.log2 : Int) + 1) := lt_zpow_log2 num
      _ = hiddenBit * 2 ^ (guess + 1) * 2 ^ (den.log2 : Int) := by
          rw [hhidden, ← zpow_add₀ two_ne_zero, ← zpow_add₀ two_ne_zero]
          congr 1
          omega
      _ ≤ hiddenBit * 2 ^ (guess + 1) * den := by
          gcongr
          exact zpow_log2_le hden

/-- The largest double has the exponent 971. Beyond it every normal significand is out of range; at
it only one that was rounded up to the next power of two is. -/
lemma ratioBits?_eq_none_iff_of_exponent (hnum : num ≠ 0) (he : exponentOf num den = e)
    (hmin : minExponent ≤ e)
    (hsignificand : roundDiv (scaleDown num den e).1 (scaleDown num den e).2 ≤ 2 * hiddenBit) :
    ratioBits? num den = none ↔
      (971 < e ∧ hiddenBit ≤ roundDiv (scaleDown num den e).1 (scaleDown num den e).2) ∨
      (e = 971 ∧ 2 * hiddenBit ≤ roundDiv (scaleDown num den e).1 (scaleDown num den e).2) := by
  unfold ratioBits?
  rw [if_neg hnum, he]
  dsimp only
  generalize roundDiv _ _ = significand at *
  rw [specialField]
  rw [hiddenBit] at *
  rw [minExponent] at hmin
  split
  · split <;> simp only [reduceCtorEq, false_iff, true_iff] <;> omega
  · split <;> simp only [reduceCtorEq, false_iff, true_iff] <;> omega

lemma cast_overflow : (overflow : ℚ) = (2 ^ 54 - 1) * 2 ^ (970 : Int) := by
  rw [overflow, Nat.cast_mul, Nat.cast_pow, ← zpow_natCast]
  norm_num

lemma lt_overflow_of_exponent (he : e < 971) (h : (num : ℚ) < hiddenBit * 2 ^ (e + 1) * den) :
    num < overflow * den := by
  have hpow : (2 : ℚ) ^ (e + 1) ≤ 2 ^ (970 : Int) * 2 := by
    rw [← zpow_add_one₀ two_ne_zero]
    exact zpow_le_zpow_right₀ one_le_two (by omega)
  rw [← Nat.cast_lt (α := ℚ), Nat.cast_mul, cast_overflow]
  calc (num : ℚ) < hiddenBit * 2 ^ (e + 1) * den := h
    _ ≤ hiddenBit * (2 ^ (970 : Int) * 2) * den := by gcongr
    _ = (hiddenBit * 2) * 2 ^ (970 : Int) * den := by ring
    _ ≤ (2 ^ 54 - 1) * 2 ^ (970 : Int) * den := by
      gcongr
      norm_num [hiddenBit]

lemma overflow_le_of_exponent (he : 971 < e) (h : (hiddenBit * 2 ^ e * den : ℚ) ≤ num) :
    overflow * den ≤ num := by
  have hpow : (2 : ℚ) ^ (970 : Int) * 2 ^ (2 : Int) ≤ 2 ^ e := by
    rw [← zpow_add₀ two_ne_zero]
    exact zpow_le_zpow_right₀ one_le_two (by omega)
  rw [← Nat.cast_le (α := ℚ), Nat.cast_mul, cast_overflow]
  calc (2 ^ 54 - 1) * 2 ^ (970 : Int) * (den : ℚ)
      ≤ (hiddenBit * 2 ^ (2 : Int)) * 2 ^ (970 : Int) * den := by
        gcongr
        norm_num [hiddenBit]
    _ = hiddenBit * (2 ^ (970 : Int) * 2 ^ (2 : Int)) * den := by ring
    _ ≤ hiddenBit * 2 ^ e * den := by gcongr
    _ ≤ num := h

lemma scaleDown_succ (num den k : Nat) :
    scaleDown num den (k + 1 : Nat) = (num, 2 * (2 ^ k * den)) := by
  have hpow : den * 2 ^ (k + 1) = 2 * (2 ^ k * den) := by ring
  exact Prod.ext (Nat.mul_one num) hpow

/-- At the exponent of the largest double the significand is rounded up to the next power of two
from `overflow` on. The tie goes there because the largest significand is odd. -/
lemma two_hiddenBit_le_roundDiv_iff (hden : den ≠ 0) :
    2 * hiddenBit ≤ roundDiv (scaleDown num den 971).1 (scaleDown num den 971).2 ↔
      overflow * den ≤ num := by
  have hscaled : scaleDown num den 971 = (num, 2 * (2 ^ 970 * den)) := scaleDown_succ num den 970
  have hoverflow : overflow * den = (2 ^ 54 - 1) * (2 ^ 970 * den) := Nat.mul_assoc _ _ _
  have hne : 2 * (2 ^ 970 * den) ≠ 0 := by positivity
  rw [hscaled, hoverflow, even_le_roundDiv_iff hne (by rw [hiddenBit]), hiddenBit]
  generalize 2 ^ 970 * den = unit
  dsimp only
  omega

/-- A quotient has a double unless it reaches halfway from the largest one to the next power of
two. -/
theorem ratioBits?_eq_none_iff (hden : den ≠ 0) :
    ratioBits? num den = none ↔ overflow * den ≤ num := by
  by_cases hnum : num = 0
  · have : 0 < overflow * den := Nat.mul_pos (by decide +kernel) (Nat.pos_of_ne_zero hden)
    simp only [ratioBits?, if_pos hnum, reduceCtorEq, false_iff]
    omega
  obtain ⟨e, hexponent, hlow, hhigh⟩ := exists_exponentOf hnum hden
  have hscaled : (scaleDown num den (max minExponent e)).1 <
      (scaleDown num den (max minExponent e)).2 * (2 * hiddenBit) := by
    refine scaleDown_lt_iff.mpr (hhigh.trans_le ?_)
    calc (hiddenBit * 2 ^ (e + 1) * den : ℚ) = (2 * hiddenBit : Nat) * 2 ^ e * den := by
          rw [zpow_add_one₀ two_ne_zero]
          push_cast
          ring
      _ ≤ (2 * hiddenBit : Nat) * 2 ^ max minExponent e * den := by
          gcongr
          · exact one_le_two
          · exact le_max_right _ _
  have hsignificand := (roundDiv_le _ _).trans (Nat.div_lt_of_lt_mul hscaled)
  rw [ratioBits?_eq_none_iff_of_exponent hnum hexponent (le_max_left _ _) hsignificand]
  rcases lt_trichotomy e 971 with h | rfl | h
  · have hmax : max minExponent e < 971 := by rw [minExponent]; omega
    have hlt := lt_overflow_of_exponent h hhigh
    omega
  · have hmax : max minExponent 971 = 971 := by rw [minExponent]; rfl
    rw [hmax, two_hiddenBit_le_roundDiv_iff hden]
    simp
  · have hmax : max minExponent e = e := by rw [minExponent]; omega
    have hpos : 0 < (scaleDown num den e).2 := by
      simp only [scaleDown, Nat.pow_eq]
      positivity
    have hle : hiddenBit ≤ roundDiv (scaleDown num den e).1 (scaleDown num den e).2 := by
      refine le_trans ((Nat.le_div_iff_mul_le hpos).mpr ?_) (div_le_roundDiv _ _)
      rw [Nat.mul_comm]
      exact not_lt.mp (scaleDown_lt_iff.not.mpr (not_lt.mpr hlow))
    rw [hmax]
    exact iff_of_true (.inl ⟨h, hle⟩) (overflow_le_of_exponent h hlow)

/-- A quotient below `overflow` has a double. -/
lemma exists_ofRatio? (num : Int) (hden : den ≠ 0) (h : num.natAbs < overflow * den) :
    ∃ x, ofRatio? num den = some x := by
  obtain ⟨bits, hbits⟩ := Option.ne_none_iff_exists'.mp
    ((ratioBits?_eq_none_iff hden).not.mpr (Nat.not_le.mpr h))
  exact ⟨ofSignBits (num < 0) bits, by rw [ofRatio?, hbits]; rfl⟩

end Binary64

/-! ### Whole numbers that have a double -/

/-- A whole number that is rounded to a double. -/
def HasDouble (n : Int) : Prop := n.natAbs < Binary64.overflow

variable {cause : NumberError}

lemma toFloat_eq_error_iff {n : Int} :
    Statistics.toFloat n = .error cause ↔ ¬ HasDouble n ∧ cause = .tooLarge := by
  have hnone : Binary64.ofInt? n = none ↔ ¬ HasDouble n := by
    rw [Binary64.ofInt?, Binary64.ofRatio?, Option.map_eq_none_iff,
      Binary64.ratioBits?_eq_none_iff Nat.one_ne_zero, Nat.mul_one, HasDouble, Nat.not_lt]
  rw [← hnone, Statistics.toFloat]
  cases Binary64.ofInt? n with
  | none => simp [eq_comm]
  | some x => simp

lemma millis_eq_error_iff {n : Int} :
    millis n = .error cause ↔ ¬ HasDouble n ∧ cause = .tooLarge := by
  rw [← toFloat_eq_error_iff, millis]
  cases Statistics.toFloat n with
  | error cause' => exact Iff.rfl
  | ok x => exact iff_of_false nofun nofun

/-- Every one of some numbers has to have a double, and then there is a double for each. -/
lemma mapM_millis_eq_error_iff {xs : List Int} :
    xs.mapM millis = .error cause ↔ (∃ x ∈ xs, ¬ HasDouble x) ∧ cause = .tooLarge := by
  induction xs with
  | nil => exact iff_of_false nofun (by simp)
  | cons x xs ih =>
    rw [List.mapM_cons]
    cases hx : millis x with
    | error cause' =>
      obtain ⟨hlarge, rfl⟩ := millis_eq_error_iff.mp hx
      simp [hlarge, eq_comm]
    | ok y =>
      have hdouble : HasDouble x := by
        by_contra hlarge
        rw [millis_eq_error_iff.mpr ⟨hlarge, rfl⟩] at hx
        cases hx
      simp only [List.mem_cons, exists_eq_or_imp, hdouble, not_true_eq_false, false_or]
      rw [← ih]
      cases xs.mapM millis with
      | error cause' => exact Iff.rfl
      | ok ys => exact iff_of_false nofun nofun

lemma length_of_mapM_millis {xs : List Int} {ys : List Float} (h : xs.mapM millis = .ok ys) :
    ys.length = xs.length := by
  induction xs generalizing ys with
  | nil =>
    cases h
    rfl
  | cons x xs ih =>
    rw [List.mapM_cons, bind_eq_ok_iff] at h
    obtain ⟨y, -, h⟩ := h
    obtain ⟨zs, hzs, h⟩ := bind_eq_ok_iff.mp h
    cases h
    rw [List.length_cons, List.length_cons, ih hzs]

lemma natAbs_foldr_add_le {bound : Nat} {xs : List Int} (h : ∀ x ∈ xs, x.natAbs ≤ bound) :
    (xs.foldr (· + ·) 0).natAbs ≤ bound * xs.length := by
  induction xs with
  | nil => simp
  | cons x xs ih =>
    have hx : x.natAbs ≤ bound := h x (by simp)
    have hxs := ih fun y hy => h y (by simp [hy])
    rw [List.foldr_cons, List.length_cons, Nat.mul_succ]
    omega

namespace Measurement

variable {m : Measurement}

/-- Why the spread of some samples cannot be computed. There is none of no samples, and every
sample has to have a double. -/
def Unspread (m : Measurement) (cause : NumberError) : Prop :=
  (m.samples = [] ∧ cause = .noMinimum) ∨
    ((∃ x ∈ m.samples, ¬ HasDouble x) ∧ cause = .tooLarge)

theorem summary_eq_error_iff : m.summary = .error cause ↔ m.Unspread cause := by
  rw [summary, Unspread, ← mapM_millis_eq_error_iff]
  cases hmapped : m.samples.mapM millis with
  | error cause' =>
    have hne : m.samples ≠ [] := by
      intro hnil
      rw [hnil] at hmapped
      cases hmapped
    simp [hne]
  | ok ys =>
    have hlength := length_of_mapM_millis hmapped
    cases ys with
    | nil =>
      have hnil : m.samples = [] := List.eq_nil_of_length_eq_zero hlength.symm
      simp [hnil, throw, throwThe, MonadExceptOf.throw, eq_comm]
    | cons y ys =>
      have hne : m.samples ≠ [] := by
        intro hnil
        simp [hnil] at hlength
      simp [hne, pure, Except.pure]

lemma Unspread.unique {cause' : NumberError} (h : m.Unspread cause) (h' : m.Unspread cause') :
    cause = cause' := by
  rw [← summary_eq_error_iff] at h h'
  exact Except.error.inj (h.symm.trans h')

/-- Samples that have a spread have a mean: it is no larger than the largest of them. -/
lemma exists_averageRttNs_of_summary {spread : Summary} (h : m.summary = .ok spread) :
    ∃ ns, m.averageRttNs = .ok ns := by
  have hunspread (cause : NumberError) : ¬ m.Unspread cause := by
    rw [← summary_eq_error_iff, h]
    exact nofun
  have hcount : m.count ≠ 0 := by
    intro hzero
    exact hunspread .noMinimum (.inl ⟨List.eq_nil_of_length_eq_zero hzero, rfl⟩)
  have hbound : ∀ x ∈ m.samples, x.natAbs ≤ Binary64.overflow - 1 := by
    intro x hx
    refine Nat.le_sub_one_of_lt ?_
    by_contra hlarge
    exact hunspread .tooLarge (.inr ⟨⟨x, hx, hlarge⟩, rfl⟩)
  have hsum : m.totalNs.natAbs < Binary64.overflow * m.count := by
    calc m.totalNs.natAbs ≤ (Binary64.overflow - 1) * m.count := natAbs_foldr_add_le hbound
      _ < Binary64.overflow * m.count :=
        Nat.mul_lt_mul_of_pos_right (by decide +kernel) (Nat.pos_of_ne_zero hcount)
  obtain ⟨ns, hns⟩ := Binary64.exists_ofRatio? m.totalNs hcount hsum
  exact ⟨ns, by rw [averageRttNs, Statistics.quotient, if_neg hcount, hns]⟩

lemma averageRttMs_of_ns {ns : Float} (h : m.averageRttNs = .ok ns) :
    m.averageRttMs = .ok (ns / nsPerMs) := by
  rw [averageRttMs, h]
  rfl

lemma averageLatencyMs_of_ns {ns : Float} (h : m.averageRttNs = .ok ns) :
    m.averageLatencyMs = .ok (ns / 2 / nsPerMs) := by
  rw [averageLatencyMs, averageLatencyNs, h]
  rfl

end Measurement

/-! ### Differences of clock readings -/

/-- A clock reading of 64 bits, with a sign or without one. -/
def IsClockReading (n : Int) : Prop := -2 ^ 63 ≤ n ∧ n < 2 ^ 64

/-- A time that may lie between two clock readings. -/
def IsElapsed (n : Int) : Prop := n.natAbs < 2 ^ 65

lemma IsClockReading.sub {a b : Int} (ha : IsClockReading a) (hb : IsClockReading b) :
    IsElapsed (a - b) := by
  obtain ⟨_, _⟩ := ha
  obtain ⟨_, _⟩ := hb
  rw [IsElapsed]
  omega

/-- Differences of clock readings have a double. -/
lemma IsElapsed.hasDouble {n : Int} (h : IsElapsed n) : HasDouble n :=
  lt_of_lt_of_le h (by decide +kernel)

lemma exists_millis {n : Int} (h : IsElapsed n) : ∃ ms, millis n = .ok ms := by
  cases hms : millis n with
  | error cause => exact absurd h.hasDouble (millis_eq_error_iff.mp hms).1
  | ok ms => exact ⟨ms, rfl⟩

namespace Measurement

variable {m : Measurement}

/-- The spread of some times between clock readings can be computed. -/
lemma exists_summary (hne : m.samples ≠ []) (h : ∀ x ∈ m.samples, IsElapsed x) :
    ∃ spread, m.summary = .ok spread := by
  cases hspread : m.summary with
  | error cause =>
    rcases summary_eq_error_iff.mp hspread with ⟨hnil, -⟩ | ⟨⟨x, hx, hlarge⟩, -⟩
    · exact absurd hnil hne
    · exact absurd (h x hx).hasDouble hlarge
  | ok spread => exact ⟨spread, rfl⟩

/-- The mean of some times between clock readings can be computed. -/
lemma exists_averageRttNs (hne : m.samples ≠ []) (h : ∀ x ∈ m.samples, IsElapsed x) :
    ∃ ns, m.averageRttNs = .ok ns := by
  obtain ⟨spread, hspread⟩ := exists_summary hne h
  exact exists_averageRttNs_of_summary hspread

lemma exists_averageRttMs (hne : m.samples ≠ []) (h : ∀ x ∈ m.samples, IsElapsed x) :
    ∃ ms, m.averageRttMs = .ok ms := by
  obtain ⟨ns, hns⟩ := exists_averageRttNs hne h
  exact ⟨_, averageRttMs_of_ns hns⟩

lemma exists_averageLatencyMs (hne : m.samples ≠ []) (h : ∀ x ∈ m.samples, IsElapsed x) :
    ∃ ms, m.averageLatencyMs = .ok ms := by
  obtain ⟨ns, hns⟩ := exists_averageRttNs hne h
  exact ⟨_, averageLatencyMs_of_ns hns⟩

/-- The report of a measurement can be written. -/
lemma exists_report (hne : m.samples ≠ []) (h : ∀ x ∈ m.samples, IsElapsed x)
    (source destination : String) : ∃ text, m.report source destination = .ok text := by
  obtain ⟨rtt, hrtt⟩ := exists_averageRttMs hne h
  obtain ⟨latency, hlatency⟩ := exists_averageLatencyMs hne h
  rw [report, hrtt, hlatency]
  exact ⟨_, rfl⟩

end Measurement

end ScionEcho
