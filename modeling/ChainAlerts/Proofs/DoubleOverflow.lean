import Mathlib.Tactic.Ring
import ChainAlerts.Proofs.DoubleBounds

/-! Quotients that are too large for a floating-point number. A quotient is rounded to infinity exactly from half a
unit beyond the largest number on: there the tie goes up, since the largest mantissa is odd. -/

namespace ChainAlerts

/-- A quotient is rounded to less than an even number exactly below the middle between it and the number before. -/
theorem roundDiv_lt_iff {num den k : Nat} (hden : 0 < den) (heven : k % 2 = 0) (hk : 0 < k) :
    roundDiv num den < k ↔ 2 * num < (2 * k - 1) * den := by
  have hsplit : den * (num / den) + num % den = num := Nat.div_add_mod num den
  have hrest : num % den < den := Nat.mod_lt num hden
  unfold roundDiv
  simp only
  generalize num / den = q at hsplit ⊢
  generalize num % den = r at hsplit hrest ⊢
  subst hsplit
  -- the quotient is compared with the number before `k`, which is odd
  rcases Nat.lt_trichotomy (q + 1) k with hq | hq | hq
  · have hbelow : 2 * (den * q + r) < (2 * k - 1) * den := by
      calc 2 * (den * q + r) < 2 * (den * q + den) := by omega
        _ = 2 * (q + 1) * den := by ring
        _ ≤ (2 * k - 1) * den := Nat.mul_le_mul_right den (by omega)
    refine iff_of_true ?_ hbelow
    split
    · omega
    · split
      · omega
      · split <;> omega
  · obtain rfl := hq
    have hodd : q % 2 ≠ 0 := by omega
    have hhalf : (2 * (q + 1) - 1) * den = 2 * (den * q) + den := by
      rw [show 2 * (q + 1) - 1 = 2 * q + 1 by omega]
      ring
    rw [hhalf, if_neg hodd, Nat.mul_add]
    split
    · omega
    · split <;> omega
  · have habove : (2 * k - 1) * den ≤ 2 * (den * q + r) := by
      calc (2 * k - 1) * den ≤ 2 * q * den := Nat.mul_le_mul_right den (by omega)
        _ = 2 * (den * q) := by ring
        _ ≤ 2 * (den * q + r) := by omega
    refine iff_of_false ?_ (Nat.not_lt.mpr habove)
    split
    · omega
    · split
      · omega
      · split <;> omega

namespace Double

/-- The least quotient that is rounded to infinity. -/
def overflowBound : Nat := (2 ^ 54 - 1) * powTwo 970

/-- A quotient is not below the power of two of its binary exponent. -/
theorem binaryExponent_le {num : Nat} (den : Nat) (hnum : 0 < num) :
    den * 2 ^ (binaryExponent num den).toNat ≤ num * 2 ^ (-binaryExponent num den).toNat := by
  have hlog : 2 ^ Nat.log2 num ≤ num := Nat.log2_self_le (by omega)
  have hden : den < 2 ^ (Nat.log2 den + 1) := Nat.lt_log2_self
  simp only [binaryExponent, scaleTwo_eq, Int.neg_neg]
  split
  next hlarge => exact hlarge
  · have hbound : den * 2 ^ Nat.log2 num < num * 2 ^ (Nat.log2 den + 1) := by
      calc den * 2 ^ Nat.log2 num ≤ den * num := Nat.mul_le_mul_left den hlog
        _ < 2 ^ (Nat.log2 den + 1) * num := Nat.mul_lt_mul_of_pos_right hden hnum
        _ = num * 2 ^ (Nat.log2 den + 1) := Nat.mul_comm _ _
    exact Nat.le_of_lt (lt_scaled hbound (by omega))

theorem powTwo_add (m n : Nat) : powTwo (m + n) = powTwo m * powTwo n := Nat.pow_add 2 m n

theorem powTwo_succ (n : Nat) : powTwo (n + 1) = powTwo n * 2 := Nat.pow_succ 2 n

theorem powTwo_pos (n : Nat) : 0 < powTwo n := Nat.pow_pos (by decide)

theorem lt_of_binaryExponent_lt {num den k : Nat} (hden : 0 < den) (h : binaryExponent num den < k) :
    num < powTwo k * den := by
  have hscaled : num * 2 ^ 0 < den * 2 ^ k := lt_scaled (lt_binaryExponent num hden) (by omega)
  rw [Nat.pow_zero, Nat.mul_one, Nat.mul_comm] at hscaled
  exact hscaled

theorem le_of_le_binaryExponent {num den k : Nat} (hnum : 0 < num) (h : k ≤ binaryExponent num den) :
    powTwo k * den ≤ num := by
  have hzero : (-binaryExponent num den).toNat = 0 := by omega
  have hlower := binaryExponent_le den hnum
  rw [hzero, Nat.pow_zero, Nat.mul_one, Nat.mul_comm] at hlower
  exact Nat.le_trans (Nat.mul_le_mul_right den (Nat.pow_le_pow_right (by decide) (by omega))) hlower

/-- A quotient in units of twice `unit` has a mantissa of full length up to half a unit below the next one. -/
theorem mantissa_lt_iff {num den unit : Nat} (hden : 0 < den) (hunit : 0 < unit) :
    roundDiv num (den * (unit * 2)) < powTwo 53 ↔ num < (2 ^ 54 - 1) * unit * den := by
  have hmiddle : 2 * powTwo 53 - 1 = 2 ^ 54 - 1 := by decide
  have hdouble : (2 ^ 54 - 1) * (den * (unit * 2)) = 2 * ((2 ^ 54 - 1) * unit * den) := by ring
  rw [roundDiv_lt_iff (Nat.mul_pos hden (Nat.mul_pos hunit Nat.two_pos)) (by decide) (by decide), hmiddle, hdouble]
  exact Nat.mul_lt_mul_left Nat.two_pos

/-- A quotient is rounded to a finite number exactly below the bound. -/
theorem isFinite_ofRatio_iff (negative : Bool) {num den : Nat} (hnum : 0 < num) (hden : 0 < den) :
    (ofRatio negative num den).isFinite ↔ num < overflowBound * den := by
  have hupper : ∀ k : Nat, binaryExponent num den < k → num < powTwo k * den :=
    fun k => lt_of_binaryExponent_lt hden
  have hlower : ∀ k : Nat, k ≤ binaryExponent num den → powTwo k * den ≤ num :=
    fun k => le_of_le_binaryExponent hnum
  have hne : num ≠ 0 := by omega
  unfold ofRatio
  rw [if_neg hne]
  simp only
  generalize binaryExponent num den = e at hupper hlower ⊢
  rcases Int.lt_trichotomy e 1023 with he | he | he
  · have hbelow : num < overflowBound * den := by
      calc num < powTwo 1023 * den := hupper 1023 he
        _ = powTwo 53 * powTwo 970 * den := by rw [← powTwo_add]
        _ ≤ overflowBound * den := Nat.mul_le_mul_right den (Nat.mul_le_mul_right _ (by decide))
    refine iff_of_true ?_ hbelow
    split
    · rw [if_neg (by omega)]
      rfl
    · rw [if_neg (by omega)]
      rfl
  · have hexponent : max (e - 52) (-1074) = 971 := by omega
    have hscale : scaleTwo num den (-971) = (num, den * powTwo (970 + 1)) := rfl
    have hmantissa : roundDiv num (den * (powTwo 970 * 2)) < powTwo 53 ↔ num < overflowBound * den :=
      mantissa_lt_iff hden (powTwo_pos 970)
    have hle : roundDiv num (den * (powTwo 970 * 2)) ≤ powTwo 53 := by
      apply roundDiv_le
      calc num < powTwo 1024 * den := hupper 1024 (by omega)
        _ = powTwo 53 * powTwo (970 + 1) * den := by rw [← powTwo_add]
        _ = powTwo 53 * (den * (powTwo 970 * 2)) := by rw [powTwo_succ 970, Nat.mul_assoc, Nat.mul_comm den]
    rw [hexponent, hscale, powTwo_succ, ← hmantissa]
    simp only
    generalize roundDiv num (den * (powTwo 970 * 2)) = m at hle
    by_cases hm : m = powTwo 53
    · rw [if_pos hm]
      exact iff_of_false Bool.false_ne_true (by omega)
    · rw [if_neg hm]
      exact iff_of_true rfl (by omega)
  · have habove : overflowBound * den ≤ num := by
      calc overflowBound * den ≤ powTwo 54 * powTwo 970 * den :=
            Nat.mul_le_mul_right den (Nat.mul_le_mul_right _ (by decide))
        _ = powTwo 1024 * den := by rw [← powTwo_add]
        _ ≤ num := hlower 1024 (by omega)
    refine iff_of_false ?_ (Nat.not_lt.mpr habove)
    split
    · rw [if_pos (by omega)]
      exact Bool.false_ne_true
    · rw [if_pos (by omega)]
      exact Bool.false_ne_true

/-- The quotient of two integers is a floating-point number exactly if it is below the bound. -/
theorem isSome_ofQuotient?_iff (a : Int) {b : Int} (hb : b ≠ 0) :
    (ofQuotient? a b).isSome ↔ a.natAbs < overflowBound * b.natAbs := by
  have hdefined : (ofQuotient? a b).isSome = (ofRatio ((a < 0) != (b < 0) && a != 0) a.natAbs b.natAbs).isFinite := by
    simp only [ofQuotient?]
    split
    next hfinite => rw [hfinite]; rfl
    next hinfinite => rw [Bool.not_eq_true] at hinfinite; rw [hinfinite]; rfl
  have hden : 0 < b.natAbs := Int.natAbs_pos.mpr hb
  rw [hdefined]
  rcases Nat.eq_zero_or_pos a.natAbs with hzero | hpos
  · have hbound : 0 < overflowBound * b.natAbs := Nat.mul_pos (Nat.mul_pos (by decide) (powTwo_pos 970)) hden
    rw [hzero, ofRatio, if_pos rfl]
    exact iff_of_true rfl hbound
  · exact isFinite_ofRatio_iff _ hpos hden

end Double

end ChainAlerts
