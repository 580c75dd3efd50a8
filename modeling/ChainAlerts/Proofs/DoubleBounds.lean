import ChainAlerts.Number.Double
import ChainAlerts.Proofs.IntegerText

/-! Floating-point numbers within their format. Rounding a quotient or a decimal number gives a mantissa of at
most 53 bits and an exponent within the bounds, since the exponent is chosen by the size of what is rounded. The
whole part of such a number has far fewer digits than a text may hold. -/

namespace ChainAlerts.Double

/-- A number as the format holds it: a mantissa of 53 bits and an exponent within the bounds. -/
def isBinary64 : Double → Bool
  | .finite _ m e => m < powTwo 53 && -1074 ≤ e && e ≤ 971
  | _ => true

theorem natAbs_signed (negative : Bool) (n : Nat) : (signed negative n).natAbs = n := by
  cases negative <;> simp [signed]

theorem scaleTwo_quotient_le (m : Nat) (e : Int) :
    (scaleTwo m 1 e).1 / (scaleTwo m 1 e).2 ≤ m * powTwo e.toNat := by
  unfold scaleTwo
  split
  · exact Nat.div_le_self _ _
  next hneg =>
    calc m / (1 * powTwo (-e).toNat) ≤ m := Nat.div_le_self _ _
      _ ≤ m * powTwo e.toNat := Nat.le_mul_of_pos_right m (Nat.pow_pos (by decide))

/-- The whole part of a floating-point number has far fewer digits than a text may hold. -/
theorem isWritable_truncate {x : Double} {n : Int} (hx : x.isBinary64) (h : x.truncate? = some n) :
    Integer.isWritable n := by
  cases x with
  | finite s m e =>
      simp only [isBinary64, Bool.and_eq_true, decide_eq_true_eq] at hx
      obtain ⟨⟨hm, -⟩, he⟩ := hx
      obtain rfl := Option.some.inj h
      rw [Integer.isWritable_iff, natAbs_signed]
      calc (scaleTwo m 1 e).1 / (scaleTwo m 1 e).2 ≤ m * powTwo e.toNat := scaleTwo_quotient_le m e
        _ < powTwo 53 * powTwo e.toNat := Nat.mul_lt_mul_of_pos_right hm (Nat.pow_pos (by decide))
        _ = 2 ^ (53 + e.toNat) := (Nat.pow_add 2 53 e.toNat).symm
        _ ≤ 2 ^ Integer.maxDigits := Nat.pow_le_pow_right (by decide) (by
            have hmax : Integer.maxDigits = 4300 := rfl
            omega)
        _ ≤ 10 ^ Integer.maxDigits := Nat.pow_le_pow_left (by decide) _
  | infinite s => cases h
  | nan => cases h

/-- Scaling by a power of two, written with one power on each side of the fraction. -/
theorem scaleTwo_eq (num den : Nat) (shift : Int) :
    scaleTwo num den shift = (num * 2 ^ shift.toNat, den * 2 ^ (-shift).toNat) := by
  unfold scaleTwo
  split
  next hshift =>
    have hzero : (-shift).toNat = 0 := by omega
    rw [hzero, Nat.pow_zero, Nat.mul_one]
    rfl
  next hshift =>
    have hzero : shift.toNat = 0 := by omega
    rw [hzero, Nat.pow_zero, Nat.mul_one]
    rfl

/-- A quotient that is below the power `b - a` of two is below every power that is no smaller. -/
theorem lt_scaled {num den a b a' b' : Nat} (h : num * 2 ^ a < den * 2 ^ b) (hle : b + a' ≤ b' + a) :
    num * 2 ^ a' < den * 2 ^ b' := by
  refine Nat.lt_of_mul_lt_mul_right (a := 2 ^ a) ?_
  calc num * 2 ^ a' * 2 ^ a = num * 2 ^ a * 2 ^ a' := Nat.mul_right_comm _ _ _
    _ < den * 2 ^ b * 2 ^ a' := Nat.mul_lt_mul_of_pos_right h (Nat.pow_pos (by decide))
    _ = den * 2 ^ (b + a') := by rw [Nat.mul_assoc, Nat.pow_add]
    _ ≤ den * 2 ^ (b' + a) := Nat.mul_le_mul_left den (Nat.pow_le_pow_right (by decide) hle)
    _ = den * 2 ^ b' * 2 ^ a := by rw [Nat.pow_add, Nat.mul_assoc]

/-- A quotient is below the power of two that follows its binary exponent. -/
theorem lt_binaryExponent (num : Nat) {den : Nat} (hden : 0 < den) :
    num * 2 ^ (-(binaryExponent num den + 1)).toNat < den * 2 ^ (binaryExponent num den + 1).toNat := by
  have hnum : num < 2 ^ (Nat.log2 num + 1) := Nat.lt_log2_self
  have hlog : 2 ^ Nat.log2 den ≤ den := Nat.log2_self_le (by omega)
  simp only [binaryExponent, scaleTwo_eq, Int.neg_neg]
  split
  · have hbound : num * 2 ^ Nat.log2 den < den * 2 ^ (Nat.log2 num + 1) := by
      calc num * 2 ^ Nat.log2 den ≤ num * den := Nat.mul_le_mul_left num hlog
        _ < 2 ^ (Nat.log2 num + 1) * den := Nat.mul_lt_mul_of_pos_right hnum hden
        _ = den * 2 ^ (Nat.log2 num + 1) := Nat.mul_comm _ _
    exact lt_scaled hbound (by omega)
  next hsmall =>
    refine lt_scaled (Nat.not_le.mp hsmall) ?_
    omega

theorem roundDiv_le {num den bound : Nat} (h : num < bound * den) : roundDiv num den ≤ bound := by
  have hquotient : num / den < bound := Nat.div_lt_of_lt_mul (by rwa [Nat.mul_comm] at h)
  unfold roundDiv
  simp only
  split
  · omega
  · split
    · omega
    · split <;> omega

/-- The mantissa to which a quotient is rounded has 53 bits, or is the first number with one more. -/
theorem mantissa_le (num : Nat) {den : Nat} (hden : 0 < den) :
    let exponent := max (binaryExponent num den - 52) (-1074)
    roundDiv (scaleTwo num den (-exponent)).1 (scaleTwo num den (-exponent)).2 ≤ powTwo 53 := by
  intro exponent
  refine roundDiv_le ?_
  rw [scaleTwo_eq, Int.neg_neg]
  have hlt : num * 2 ^ (-exponent).toNat < den * 2 ^ (exponent.toNat + 53) :=
    lt_scaled (lt_binaryExponent num hden) (by omega)
  calc num * 2 ^ (-exponent).toNat < den * 2 ^ (exponent.toNat + 53) := hlt
    _ = powTwo 53 * (den * 2 ^ exponent.toNat) := by
      rw [Nat.pow_add, ← Nat.mul_assoc, Nat.mul_comm]
      rfl

theorem isBinary64_ofRatio (negative : Bool) (num : Nat) {den : Nat} (hden : 0 < den) :
    (ofRatio negative num den).isBinary64 := by
  have hmantissa := mantissa_le num hden
  unfold ofRatio
  split
  · rfl
  · simp only at hmantissa ⊢
    have hleast : -1074 ≤ max (binaryExponent num den - 52) (-1074) := Int.le_max_right _ _
    generalize roundDiv _ _ = m at hmantissa ⊢
    generalize max (binaryExponent num den - 52) (-1074) = exponent at hleast ⊢
    have hfits : ∀ (m : Nat) (e : Int), m < powTwo 53 → -1074 ≤ e →
        (if 971 < e then infinite negative else finite negative m e).isBinary64 := by
      intro m e hm he
      split
      · rfl
      next hbound => simp [isBinary64, hm, he, Int.not_lt.mp hbound]
    by_cases hcarry : m = powTwo 53
    · simp only [if_pos hcarry]
      exact hfits _ _ (by decide) (by omega)
    · simp only [if_neg hcarry]
      exact hfits _ _ (Nat.lt_of_le_of_ne hmantissa hcarry) hleast

theorem isBinary64_ofDecimal (negative : Bool) (coefficient : Nat) (exponent : Int) :
    (ofDecimal negative coefficient exponent).isBinary64 := by
  have hden : 0 < (scaleTen coefficient 1 exponent).2 := by
    unfold scaleTen
    split
    · exact Nat.one_pos
    · exact Nat.mul_pos Nat.one_pos (Nat.pow_pos (by decide))
  unfold ofDecimal
  simp only
  split
  · rfl
  · split
    · rfl
    · split
      · rfl
      · exact isBinary64_ofRatio negative _ hden

end ChainAlerts.Double
