import Mathlib.Algebra.Order.Field.Power
import Mathlib.Algebra.Order.Floor.Ring
import Mathlib.Data.Int.Log
import Mathlib.Tactic.FieldSimp
import Mathlib.Tactic.Linarith

/-!
# Rounding to binary floats

The nearest number with a mantissa of `precision` bits and an exponent from `minExponent` on;
of two nearest ones the mantissa is even.  A quotient of integers that the format holds keeps
its ceiling.
-/

namespace JudgeVortex.Foundation

variable {K : Type*} [Field K] [LinearOrder K] [IsStrictOrderedRing K] [FloorRing K]

/-! ## The nearest integer -/

def roundHalfEven (x : K) : ℤ :=
  if Int.fract x < 1 / 2 ∨ Int.fract x = 1 / 2 ∧ Even ⌊x⌋ then ⌊x⌋ else ⌊x⌋ + 1

omit [IsStrictOrderedRing K] in
theorem floor_le_roundHalfEven (x : K) : ⌊x⌋ ≤ roundHalfEven x := by
  unfold roundHalfEven
  split <;> omega

theorem roundHalfEven_le {x : K} {n : ℤ} (h : x ≤ n) : roundHalfEven x ≤ n := by
  obtain rfl | hlt := h.eq_or_lt
  · rw [roundHalfEven, Int.fract_intCast, Int.floor_intCast, if_pos (.inl one_half_pos)]
  · have hfloor := Int.floor_lt.mpr hlt
    unfold roundHalfEven
    split <;> omega

theorem lt_roundHalfEven {x : K} {n : ℤ} (h : n + 1 / 2 < x) : n < roundHalfEven x := by
  have hle : n ≤ ⌊x⌋ := Int.le_floor.mpr (by linarith)
  obtain hlt | rfl := hle.lt_or_eq
  · exact hlt.trans_le (floor_le_roundHalfEven x)
  · have hfract : 1 / 2 < Int.fract x := by
      rw [Int.fract]
      linarith
    rw [roundHalfEven, if_neg]
    · omega
    · rintro (hlt | ⟨heq, -⟩)
      · exact absurd hlt (not_lt.mpr hfract.le)
      · exact absurd heq hfract.ne'

/-! ## The nearest float -/

section Float

variable (precision : ℕ) (minExponent : ℤ)

def unitExponent (x : K) : ℤ := max (Int.log 2 x + 1 - precision) minExponent

def nearestFloat (x : K) : K :=
  roundHalfEven (x / 2 ^ unitExponent precision minExponent x) *
    2 ^ unitExponent precision minExponent x

variable {precision minExponent} {x : K}

omit [FloorRing K] in
theorem exists_multiple {e : ℤ} (he : e ≤ 0) (n : ℤ) : ∃ m : ℤ, (n : K) = m * 2 ^ e := by
  obtain ⟨k, rfl⟩ := Int.exists_eq_neg_ofNat he
  refine ⟨n * 2 ^ k, ?_⟩
  rw [zpow_neg, zpow_natCast]
  push_cast
  field_simp

theorem nearestFloat_le (he : unitExponent precision minExponent x ≤ 0) {n : ℤ} (h : x ≤ n) :
    nearestFloat precision minExponent x ≤ n := by
  have hunit : (0 : K) < 2 ^ unitExponent precision minExponent x := by positivity
  obtain ⟨m, hm⟩ := exists_multiple (K := K) he n
  rw [hm] at h ⊢
  refine mul_le_mul_of_nonneg_right ?_ hunit.le
  exact_mod_cast roundHalfEven_le ((div_le_iff₀ hunit).mpr h)

theorem lt_nearestFloat (he : unitExponent precision minExponent x ≤ 0) {n : ℤ}
    (h : n + 2 ^ (unitExponent precision minExponent x - 1) < x) :
    n < nearestFloat precision minExponent x := by
  have hunit : (0 : K) < 2 ^ unitExponent precision minExponent x := by positivity
  obtain ⟨m, hm⟩ := exists_multiple (K := K) he n
  rw [zpow_sub_one₀ (by norm_num), hm] at h
  rw [hm]
  refine mul_lt_mul_of_pos_right ?_ hunit
  have hmiddle : (m : K) + 1 / 2 < x / 2 ^ unitExponent precision minExponent x := by
    rw [lt_div_iff₀ hunit]
    linarith
  exact_mod_cast lt_roundHalfEven hmiddle

/-- Less than half a unit above the integer before is too far from it. -/
theorem ceil_nearestFloat (he : unitExponent precision minExponent x ≤ 0)
    (h : (⌈x⌉ : K) - 1 + 2 ^ (unitExponent precision minExponent x - 1) < x) :
    ⌈nearestFloat precision minExponent x⌉ = ⌈x⌉ := by
  rw [Int.ceil_eq_iff]
  have hlower := lt_nearestFloat (n := ⌈x⌉ - 1) he (by push_cast; exact h)
  push_cast at hlower
  exact ⟨hlower, nearestFloat_le he (Int.le_ceil x)⟩

/-! ## Quotients -/

section Quotient

variable {a b : ℤ}

theorem two_zpow_log_mul_le (ha : 0 < a) (hb : 0 < b) :
    (2 : K) ^ Int.log 2 ((a : K) / b) * b ≤ a := by
  have hbK : (0 : K) < b := by exact_mod_cast hb
  have hpos : (0 : K) < (a : K) / b := div_pos (by exact_mod_cast ha) hbK
  have hlog := Int.zpow_log_le_self (b := 2) (by norm_num) hpos
  rwa [le_div_iff₀ hbK, Nat.cast_ofNat] at hlog

theorem unitExponent_quotient_nonpos (ha : 0 < a) (hb : 0 < b) (hprecise : a < 2 ^ precision)
    (hmin : minExponent ≤ 0) :
    unitExponent precision minExponent ((a : K) / b) ≤ 0 := by
  have hone : (1 : K) ≤ b := by exact_mod_cast hb
  have hpower : (2 : K) ^ Int.log 2 ((a : K) / b) < 2 ^ (precision : ℤ) := by
    calc (2 : K) ^ Int.log 2 ((a : K) / b)
        ≤ 2 ^ Int.log 2 ((a : K) / b) * b := le_mul_of_one_le_right (by positivity) hone
      _ ≤ a := two_zpow_log_mul_le ha hb
      _ < 2 ^ (precision : ℤ) := by rw [zpow_natCast]; exact_mod_cast hprecise
  have hlog := (zpow_lt_zpow_iff_right₀ (by norm_num : (1 : K) < 2)).mp hpower
  rw [unitExponent]
  omega

/-- Half a unit of a quotient is less than one part of its denominator. -/
theorem half_unit_lt (ha : 0 < a) (hb : 0 < b) (hprecise : a < 2 ^ precision)
    (hdenominator : (b : K) ≤ 2 ^ (-minExponent)) :
    (2 : K) ^ (unitExponent precision minExponent ((a : K) / b) - 1) * b < 1 := by
  have htwo : (2 : K) ≠ 0 := by norm_num
  have hbK : (0 : K) < b := by exact_mod_cast hb
  rw [unitExponent]
  obtain hmax | hmax := max_choice (Int.log 2 ((a : K) / b) + 1 - precision) minExponent
  · have hexponent : Int.log 2 ((a : K) / b) + 1 - precision - 1 =
        Int.log 2 ((a : K) / b) - precision := by
      omega
    rw [hmax, hexponent, zpow_sub₀ htwo, div_mul_eq_mul_div,
      div_lt_one (by positivity), zpow_natCast]
    exact (two_zpow_log_mul_le ha hb).trans_lt (by exact_mod_cast hprecise)
  · rw [hmax]
    have hunit : (2 : K) ^ minExponent * b ≤ 1 := by
      rw [zpow_neg] at hdenominator
      calc (2 : K) ^ minExponent * b ≤ 2 ^ minExponent * (2 ^ minExponent)⁻¹ :=
            mul_le_mul_of_nonneg_left hdenominator (by positivity)
        _ = 1 := mul_inv_cancel₀ (by positivity)
    rw [zpow_sub_one₀ htwo]
    linarith

/-- Rounding keeps the ceiling of a quotient whose numerator fits the mantissa. -/
theorem ceil_nearestFloat_quotient (ha : 0 < a) (hb : 0 < b) (hprecise : a < 2 ^ precision)
    (hmin : minExponent ≤ 0) (hdenominator : (b : K) ≤ 2 ^ (-minExponent)) :
    ⌈nearestFloat precision minExponent ((a : K) / b)⌉ = ⌈(a : K) / b⌉ := by
  refine ceil_nearestFloat (unitExponent_quotient_nonpos ha hb hprecise hmin) ?_
  have hbK : (0 : K) < b := by exact_mod_cast hb
  have hbelow : ((⌈(a : K) / b⌉ : K) - 1) * b + 1 ≤ a := by
    have hlt : ((⌈(a : K) / b⌉ : K) - 1) * b < a := by
      rw [← lt_div_iff₀ hbK]
      linarith [Int.ceil_lt_add_one ((a : K) / b)]
    exact_mod_cast (show (⌈(a : K) / b⌉ - 1) * b + 1 ≤ a from by exact_mod_cast hlt)
  have hhalf : (2 : K) ^ (unitExponent precision minExponent ((a : K) / b) - 1) * b < 1 :=
    half_unit_lt ha hb hprecise hdenominator
  rw [lt_div_iff₀ hbK, add_mul]
  linarith

end Quotient

end Float

end JudgeVortex.Foundation
