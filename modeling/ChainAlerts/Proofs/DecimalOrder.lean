import Mathlib.Algebra.Order.Field.Power
import Mathlib.Data.Int.Log
import Mathlib.Data.Rat.Floor
import Mathlib.Tactic.Linarith
import Mathlib.Tactic.NormNum
import Mathlib.Tactic.Positivity
import ChainAlerts.Number.DecimalArith

/-! Decimal numbers as rational numbers. The order of decimal numbers never computes a power of ten that the sizes of
the numbers already decide; it is nevertheless the order of the rational numbers they denote, with an infinity at
either end. So it is total, and numbers that are written differently but denote the same are neither above nor below
each other. -/

namespace ChainAlerts

namespace Text

theorem lt_pow_decimalLength (n : Nat) : n < 10 ^ decimalLength n :=
  (Nat.length_toDigits_le_iff (by decide) (Nat.length_toDigits_pos)).mp le_rfl

theorem decimalLength_pos (n : Nat) : 0 < decimalLength n := Nat.length_toDigits_pos

theorem decimalLength_le_iff {n k : Nat} (hk : 0 < k) : decimalLength n ≤ k ↔ n < 10 ^ k :=
  Nat.length_toDigits_le_iff (by decide) hk

theorem pow_decimalLength_le {n : Nat} (hn : 0 < n) : 10 ^ (decimalLength n - 1) ≤ n := by
  rcases Nat.eq_zero_or_pos (decimalLength n - 1) with hzero | hpos
  · rw [hzero, Nat.pow_zero]
    exact hn
  · by_contra hlt
    have hle := (decimalLength_le_iff hpos).mpr (Nat.not_le.mp hlt)
    omega

end Text

namespace Decimal

open Text

/-- A coefficient times a power of ten. -/
def scaled (c : Nat) (e : Int) : ℚ := c * 10 ^ e

/-- The rational number that a finite decimal number denotes. -/
def value : Decimal → ℚ
  | .finite negative c e => if negative then -scaled c e else scaled c e
  | _ => 0

/-- The place of a number among the rational numbers, with the infinities at their ends. -/
def rank : Decimal → WithBot (WithTop ℚ)
  | .infinite true => ⊥
  | .infinite false => ⊤
  | .finite negative c e => (((finite negative c e).value : WithTop ℚ) : WithBot (WithTop ℚ))
  | .nan .. => 0

@[simp] theorem value_finite (negative : Bool) (c : Nat) (e : Int) :
    (finite negative c e).value = if negative then -scaled c e else scaled c e := rfl

@[simp] theorem scaled_zero (e : Int) : scaled 0 e = 0 := by simp [scaled]

theorem scaled_nonneg (c : Nat) (e : Int) : 0 ≤ scaled c e := by
  unfold scaled
  positivity

theorem scaled_pos {c : Nat} (hc : 0 < c) (e : Int) : 0 < scaled c e := by
  unfold scaled
  positivity

theorem scaled_eq_zero_iff {c : Nat} {e : Int} : scaled c e = 0 ↔ c = 0 := by
  refine ⟨fun h => ?_, fun h => h ▸ scaled_zero e⟩
  by_contra hc
  exact (scaled_pos (Nat.pos_of_ne_zero hc) e).ne' h

/-- A power of ten moves from the coefficient to the exponent. -/
theorem scaled_mul_pow (c k : Nat) (e : Int) : scaled (c * 10 ^ k) e = scaled c (e + k) := by
  rw [scaled, scaled, zpow_add₀ (by norm_num), zpow_natCast]
  push_cast
  ring

theorem scaled_mul_scaled (c c' : Nat) (e e' : Int) : scaled c e * scaled c' e' = scaled (c * c') (e + e') := by
  rw [scaled, scaled, scaled, zpow_add₀ (by norm_num)]
  push_cast
  ring

theorem zpow_le_scaled {c : Nat} (hc : 0 < c) (e : Int) : (10 : ℚ) ^ adjusted c e ≤ scaled c e := by
  have hlength := decimalLength_pos c
  have hle : ((10 ^ (decimalLength c - 1) : Nat) : ℚ) ≤ c := by exact_mod_cast pow_decimalLength_le hc
  have hsplit : adjusted c e = ((decimalLength c - 1 : Nat) : Int) + e := by
    rw [adjusted]
    omega
  rw [hsplit, zpow_add₀ (by norm_num), zpow_natCast, scaled]
  push_cast at hle
  gcongr

theorem scaled_lt_zpow (c : Nat) (e : Int) : scaled c e < (10 : ℚ) ^ (adjusted c e + 1) := by
  have hlt : (c : ℚ) < ((10 ^ decimalLength c : Nat) : ℚ) := by exact_mod_cast lt_pow_decimalLength c
  have hsplit : adjusted c e + 1 = (decimalLength c : Int) + e := by
    rw [adjusted]
    omega
  rw [hsplit, zpow_add₀ (by norm_num), zpow_natCast, scaled]
  push_cast at hlt
  gcongr

/-- The adjusted exponent is the decimal logarithm, rounded down. -/
theorem log_scaled {c : Nat} (hc : 0 < c) (e : Int) : Int.log 10 (scaled c e) = adjusted c e := by
  have hpos := scaled_pos hc e
  refine le_antisymm (Int.lt_add_one_iff.mp ?_) ?_
  · exact (Int.lt_zpow_iff_log_lt (by decide) hpos).mp (by exact_mod_cast scaled_lt_zpow c e)
  · exact (Int.zpow_le_iff_le_log (by decide) hpos).mp (by exact_mod_cast zpow_le_scaled hc e)

theorem scaled_lt_of_adjusted_lt {c c' : Nat} {e e' : Int} (hc' : 0 < c') (h : adjusted c e < adjusted c' e') :
    scaled c e < scaled c' e' := by
  calc scaled c e < (10 : ℚ) ^ (adjusted c e + 1) := scaled_lt_zpow c e
    _ ≤ (10 : ℚ) ^ adjusted c' e' := zpow_le_zpow_right₀ (by norm_num) h
    _ ≤ scaled c' e' := zpow_le_scaled hc' e'

/-- Coefficients at the least of two exponents compare as the numbers do. -/
theorem scaled_shift (c : Nat) {e least : Int} (h : least ≤ e) :
    scaled c e = scaled (c * powTen (e - least).toNat) least := by
  have hsum : least + ((e - least).toNat : Int) = e := by omega
  rw [powTen, Nat.pow_eq, scaled_mul_pow, hsum]

theorem scaled_lt_scaled_iff {c c' : Nat} {e : Int} : scaled c e < scaled c' e ↔ c < c' := by
  rw [scaled, scaled, mul_lt_mul_iff_left₀ (by positivity), Nat.cast_lt]

theorem absLt_iff {c c' : Nat} {e e' : Int} : absLt c e c' e' ↔ scaled c e < scaled c' e' := by
  unfold absLt
  by_cases hc' : c' = 0
  · simpa [hc'] using scaled_nonneg c e
  by_cases hc : c = 0
  · simpa [hc, hc'] using scaled_pos (Nat.pos_of_ne_zero hc') e'
  rw [if_neg hc', if_neg hc]
  by_cases hsize : adjusted c e = adjusted c' e'
  · rw [if_neg (not_not.mpr hsize), decide_eq_true_iff, scaled_shift c (min_le_left e e'),
      scaled_shift c' (min_le_right e e'), scaled_lt_scaled_iff]
  · rw [if_pos hsize, decide_eq_true_iff]
    refine ⟨scaled_lt_of_adjusted_lt (Nat.pos_of_ne_zero hc'), fun hlt => ?_⟩
    by_contra hnot
    have hgt : adjusted c' e' < adjusted c e := lt_of_le_of_ne (not_lt.mp hnot) fun h => hsize h.symm
    exact lt_asymm hlt (scaled_lt_of_adjusted_lt (Nat.pos_of_ne_zero hc) hgt)

theorem value_lt_value_iff {s t : Bool} {c c' : Nat} {e e' : Int} :
    (finite s c e).ltNumber (finite t c' e') ↔ (finite s c e).value < (finite t c' e').value := by
  have hpos : c ≠ 0 → 0 < scaled c e := fun h => scaled_pos (Nat.pos_of_ne_zero h) e
  have hpos' : c' ≠ 0 → 0 < scaled c' e' := fun h => scaled_pos (Nat.pos_of_ne_zero h) e'
  simp only [ltNumber, value_finite]
  by_cases hc : c = 0
  · subst hc
    by_cases hc' : c' = 0
    · subst hc'
      cases s <;> cases t <;> simp
    · have := hpos' hc'
      cases s <;> cases t <;> simp [hc', this, this.le]
  · have hscaled := hpos hc
    by_cases hc' : c' = 0
    · subst hc'
      cases s <;> cases t <;> simp [hc, hscaled, hscaled.le]
    · have hscaled' := hpos' hc'
      rw [if_neg hc, if_neg hc']
      cases s <;> cases t
      · exact absLt_iff
      · simp only [Bool.false_eq_true, if_false, if_true, false_iff, not_lt]
        linarith
      · simp only [Bool.false_eq_true, if_false, if_true, true_iff]
        linarith
      · simp only [if_true, neg_lt_neg_iff]
        exact absLt_iff

theorem finite_rank_le_iff {s t : Bool} {c c' : Nat} {e e' : Int} :
    (finite s c e).rank ≤ (finite t c' e').rank ↔ (finite s c e).value ≤ (finite t c' e').value := by
  rw [rank, rank, WithBot.coe_le_coe, WithTop.coe_le_coe]

/-- Numbers are in the order of their places. -/
theorem ltNumber_iff {a b : Decimal} (ha : a.isNan = false) (hb : b.isNan = false) :
    a.ltNumber b ↔ a.rank < b.rank := by
  cases a with
  | nan => cases ha
  | infinite s =>
      cases b with
      | nan => cases hb
      | infinite t => cases s <;> cases t <;> simp [ltNumber, rank]
      | finite t c' e' => cases s <;> simp [ltNumber, rank, WithBot.bot_lt_coe]
  | finite s c e =>
      cases b with
      | nan => cases hb
      | infinite t => cases t <;> simp [ltNumber, rank, ← WithBot.coe_top]
      | finite t c' e' =>
          rw [value_lt_value_iff, rank, rank, WithBot.coe_lt_coe, WithTop.coe_lt_coe]

theorem lt_eq_ok {a b : Decimal} (ha : a.isNan = false) (hb : b.isNan = false) :
    a.lt b = .ok (decide (a.rank < b.rank)) := by
  have hiff := ltNumber_iff ha hb
  rw [lt, ha, hb, Bool.or_false, if_neg Bool.false_ne_true]
  by_cases h : a.rank < b.rank
  · rw [hiff.mpr h, decide_eq_true h]
  · rw [Bool.eq_false_iff.mpr fun hlt => h (hiff.mp hlt), decide_eq_false h]

theorem le_eq_ok {a b : Decimal} (ha : a.isNan = false) (hb : b.isNan = false) :
    a.le b = .ok (decide (a.rank ≤ b.rank)) := by
  have hiff := ltNumber_iff hb ha
  rw [le, ha, hb, Bool.or_false, if_neg Bool.false_ne_true]
  by_cases h : a.rank ≤ b.rank
  · rw [Bool.eq_false_iff.mpr fun hlt => not_lt.mpr h (hiff.mp hlt), decide_eq_true h]
    rfl
  · rw [hiff.mpr (not_le.mp h), decide_eq_false h]
    rfl

end Decimal

end ChainAlerts
