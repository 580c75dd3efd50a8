import Mathlib.Algebra.Order.Field.Power
import Mathlib.Algebra.Order.Ring.WithTop
import Mathlib.Tactic.Linarith
import Mathlib.Tactic.NormNum
import Mathlib.Tactic.Positivity
import Mathlib.Tactic.Ring
import ChainAlerts.Proofs.DoubleOverflow

/-! Floating-point numbers as rational numbers, with an infinity at either end. The order of the numbers is that of the
rational numbers they denote. A quotient that a mantissa holds is not rounded: its place is its value, or infinite where
the value is beyond the largest number. So doubling a number moves its exponent and rounds nothing, as often as it is
done. -/

namespace ChainAlerts

/-- A quotient without a remainder is not rounded. -/
theorem roundDiv_mul (k : Nat) {den : Nat} (hden : 0 < den) : roundDiv (k * den) den = k := by
  rw [roundDiv, Nat.mul_div_cancel _ hden, Nat.mul_mod_left]
  exact if_pos (by omega)

/-- A power of two as a fraction. -/
theorem zpow_two_mul (e : Int) : (2 : ℚ) ^ e * 2 ^ (-e).toNat = 2 ^ e.toNat := by
  have hsum : e + ((-e).toNat : Int) = (e.toNat : Int) := by omega
  rw [← zpow_natCast, ← zpow_natCast, ← zpow_add₀ (by norm_num), hsum]

namespace Double

/-- The rational number that a finite one denotes. -/
def value : Double → ℚ
  | .finite negative m e => if negative then -(m * 2 ^ e) else m * 2 ^ e
  | _ => 0

/-- The place of a number among the rational numbers, with the infinities at their ends. -/
def rank : Double → WithBot (WithTop ℚ)
  | .infinite true => ⊥
  | .infinite false => ⊤
  | .finite negative m e => (((finite negative m e).value : WithTop ℚ) : WithBot (WithTop ℚ))
  | .nan => 0

/-- The power of two from which on a number is infinite. -/
def limit : ℚ := 2 ^ (1024 : Int)

/-- The place of a number that needs no rounding, which is infinite from the limit on. -/
def bounded (q : ℚ) : WithBot (WithTop ℚ) :=
  if limit ≤ q then ⊤ else if q ≤ -limit then ⊥ else ((q : WithTop ℚ) : WithBot (WithTop ℚ))

theorem limit_pos : 0 < limit := by
  unfold limit
  positivity

theorem limit_le_zpow {e : Int} (h : 1024 ≤ e) : limit ≤ 2 ^ e := zpow_le_zpow_right₀ one_le_two h

theorem zpow_le_limit {e : Int} (h : e ≤ 1024) : 2 ^ e ≤ limit := zpow_le_zpow_right₀ one_le_two h

theorem bounded_of_limit_le (negative : Bool) {q : ℚ} (h : limit ≤ q) :
    bounded (if negative then -q else q) = (infinite negative).rank := by
  have hpos := limit_pos
  cases negative with
  | false => exact if_pos h
  | true =>
      have hbelow : ¬limit ≤ -q := by linarith
      have hbeyond : -q ≤ -limit := by linarith
      exact (if_neg hbelow).trans (if_pos hbeyond)

theorem bounded_of_lt_limit (negative : Bool) {q : ℚ} (hq : 0 ≤ q) (h : q < limit) :
    bounded (if negative then -q else q) = (((if negative then -q else q : ℚ) : WithTop ℚ) : WithBot (WithTop ℚ)) := by
  have hpos := limit_pos
  have hinside : ¬limit ≤ (if negative then -q else q) ∧ ¬(if negative then -q else q) ≤ -limit := by
    cases negative <;> simp only [Bool.false_eq_true, if_false, if_true] <;> constructor <;> linarith
  rw [bounded, if_neg hinside.1, if_neg hinside.2]

/-- A quotient lies between the powers of two about its binary exponent. -/
theorem zpow_binaryExponent {num den : Nat} (hnum : 0 < num) (hden : 0 < den) :
    (2 : ℚ) ^ binaryExponent num den * den ≤ num ∧ (num : ℚ) < 2 ^ (binaryExponent num den + 1) * den := by
  have hfraction : ∀ e : Int, (2 : ℚ) ^ e * den * 2 ^ (-e).toNat = den * 2 ^ e.toNat := fun e => by
    rw [mul_right_comm, zpow_two_mul, mul_comm]
  constructor
  · have hle : (den : ℚ) * 2 ^ (binaryExponent num den).toNat ≤ num * 2 ^ (-binaryExponent num den).toNat := by
      exact_mod_cast binaryExponent_le den hnum
    rw [← hfraction] at hle
    exact le_of_mul_le_mul_right hle (by positivity)
  · have hlt : (num : ℚ) * 2 ^ (-(binaryExponent num den + 1)).toNat <
        den * 2 ^ (binaryExponent num den + 1).toNat := by
      exact_mod_cast lt_binaryExponent num hden
    rw [← hfraction] at hlt
    exact lt_of_mul_lt_mul_right hlt (by positivity)

/-- The same number with a smaller exponent. -/
theorem mul_zpow_eq (m : Nat) {e least : Int} (hleast : least ≤ e) :
    (m : ℚ) * 2 ^ e = (m * 2 ^ (e - least).toNat : Nat) * 2 ^ least := by
  have hgap : ((e - least).toNat : Int) = e - least := Int.toNat_of_nonneg (by omega)
  calc (m : ℚ) * 2 ^ e = m * 2 ^ (e - least + least) := by rw [Int.sub_add_cancel]
    _ = (m * 2 ^ (e - least).toNat : Nat) * 2 ^ least := by
      push_cast
      rw [zpow_add₀ (by norm_num), ← zpow_natCast (2 : ℚ) (e - least).toNat, hgap, mul_assoc]

theorem scaleTwo_den_pos (num : Nat) {den : Nat} (hden : 0 < den) (k : Int) : 0 < (scaleTwo num den k).2 := by
  rw [scaleTwo_eq]
  exact Nat.mul_pos hden (Nat.pow_pos (by decide))

section OnTheGrid

variable {num den m : Nat} {e : Int} (hden : 0 < den) (hm : m < powTwo 53) (he : -1074 ≤ e)
  (heq : (num : ℚ) = m * 2 ^ e * den)

include hden hm he heq

/-- The exponent that is chosen for a mantissa times a power of two is no larger than that of the power. -/
theorem exponent_le_of_eq (hnum : 0 < num) : max (binaryExponent num den - 52) (-1074) ≤ e := by
  have hpositive : (0 : ℚ) < den := by exact_mod_cast hden
  have hlower := (zpow_binaryExponent hnum hden).1
  rw [heq] at hlower
  have hbelow : (2 : ℚ) ^ binaryExponent num den < 2 ^ (53 + e) := by
    calc (2 : ℚ) ^ binaryExponent num den ≤ m * 2 ^ e := le_of_mul_le_mul_right hlower hpositive
      _ < 2 ^ (53 : Int) * 2 ^ e := by
        gcongr
        exact_mod_cast hm
      _ = 2 ^ (53 + e) := (zpow_add₀ (by norm_num) _ _).symm
  have hexponent := (zpow_lt_zpow_iff_right₀ (by norm_num : (1 : ℚ) < 2)).mp hbelow
  omega

omit hden hm he in
/-- Such a quotient is divided without a rest at every exponent that is not above its own. -/
theorem scaleTwo_of_eq {least : Int} (hleast : least ≤ e) : (scaleTwo num den (-least)).1 =
    m * 2 ^ (e - least).toNat * (scaleTwo num den (-least)).2 := by
  rw [scaleTwo_eq, Int.neg_neg]
  have hrational : (num : ℚ) * 2 ^ (-least).toNat = (m * 2 ^ (e - least).toNat : Nat) * (den * 2 ^ least.toNat) := by
    calc (num : ℚ) * 2 ^ (-least).toNat
        = (m * 2 ^ (e - least).toNat : Nat) * (den * (2 ^ least * 2 ^ (-least).toNat)) := by
          rw [heq, mul_zpow_eq m hleast]
          ring
      _ = (m * 2 ^ (e - least).toNat : Nat) * (den * 2 ^ least.toNat) := by rw [zpow_two_mul]
  exact_mod_cast hrational

omit hm he in
/-- The mantissa is not so large that it takes one more digit. -/
theorem ne_powTwo_of_eq {least : Int} (hleast : least ≤ e) (habove : binaryExponent num den - 52 ≤ least)
    (hnum : 0 < num) : m * 2 ^ (e - least).toNat ≠ powTwo 53 := by
  intro hcarry
  have hvalue : (m : ℚ) * 2 ^ e = 2 ^ (53 + least) := by
    calc (m : ℚ) * 2 ^ e = (powTwo 53 : Nat) * 2 ^ least := by rw [mul_zpow_eq m hleast, hcarry]
      _ = 2 ^ (53 : Int) * 2 ^ least := rfl
      _ = 2 ^ (53 + least) := (zpow_add₀ (by norm_num) _ _).symm
  have hupper := (zpow_binaryExponent hnum hden).2
  have hpositive : (0 : ℚ) < den := by exact_mod_cast hden
  rw [heq, hvalue, mul_lt_mul_iff_left₀ hpositive, zpow_lt_zpow_iff_right₀ (by norm_num)] at hupper
  omega

/-- A quotient that is a mantissa times a power of two within the format is not rounded. -/
theorem ofRatio_of_eq (negative : Bool) (hnum : 0 < num) :
    let least := max (binaryExponent num den - 52) (-1074)
    ofRatio negative num den =
      if 971 < least then .infinite negative else .finite negative (m * 2 ^ (e - least).toNat) least := by
  intro least
  have hleast : least ≤ e := exponent_le_of_eq hden hm he heq hnum
  rw [ofRatio, if_neg (by omega)]
  simp only
  rw [show max (binaryExponent num den - 52) (-1074) = least from rfl, scaleTwo_of_eq heq hleast,
    roundDiv_mul _ (scaleTwo_den_pos num hden _), if_neg (ne_powTwo_of_eq hden heq hleast (le_max_left _ _) hnum)]

/-- So its place is its value, unless that is beyond the largest number. -/
theorem rank_ofRatio_of_eq (negative : Bool) (hnum : 0 < num) :
    (ofRatio negative num den).rank = bounded (if negative then -(m * 2 ^ e) else m * 2 ^ e) := by
  have hpositive : (0 : ℚ) < den := by exact_mod_cast hden
  have hleast : max (binaryExponent num den - 52) (-1074) ≤ e := exponent_le_of_eq hden hm he heq hnum
  obtain ⟨hlower, hupper⟩ := zpow_binaryExponent hnum hden
  rw [heq] at hlower hupper
  have hlower := le_of_mul_le_mul_right hlower hpositive
  have hupper := lt_of_mul_lt_mul_right hupper hpositive.le
  rw [ofRatio_of_eq hden hm he heq negative hnum]
  generalize hchosen : max (binaryExponent num den - 52) (-1074) = least at hleast
  split
  next hlarge =>
    refine (bounded_of_limit_le negative ?_).symm
    calc limit ≤ 2 ^ binaryExponent num den := limit_le_zpow (by omega)
      _ ≤ m * 2 ^ e := hlower
  next hfits =>
    have hbelow : (m : ℚ) * 2 ^ e < limit := by
      calc (m : ℚ) * 2 ^ e < 2 ^ (binaryExponent num den + 1) := hupper
        _ ≤ limit := zpow_le_limit (by omega)
    have hnonneg : (0 : ℚ) ≤ m * 2 ^ e := mul_nonneg (Nat.cast_nonneg m) (zpow_nonneg zero_le_two e)
    rw [bounded_of_lt_limit negative hnonneg hbelow, rank, value, ← mul_zpow_eq m hleast]

end OnTheGrid

/-- Twice a finite number, as the quotient that is rounded. -/
theorem double_finite (negative : Bool) {m : Nat} (hm : 0 < m) (e : Int) :
    (finite negative m e).double = ofRatio negative (scaleTwo (2 * m) 1 e).1 (scaleTwo (2 * m) 1 e).2 := by
  have hsum : signed negative (m * powTwo (e - e).toNat) + signed negative (m * powTwo (e - e).toNat) =
      signed negative (2 * m) := by
    rw [Int.sub_self, Int.toNat_zero, powTwo, Nat.pow_eq, Nat.pow_zero, Nat.mul_one]
    cases negative <;> simp only [signed, Bool.false_eq_true, if_false, if_true] <;> omega
  have hne : signed negative (2 * m) ≠ 0 := by
    cases negative <;> simp only [signed, Bool.false_eq_true, if_false, if_true] <;> omega
  have hsign : decide (signed negative (2 * m) < 0) = negative := by
    cases negative <;> simp only [signed, Bool.false_eq_true, if_false, if_true, decide_eq_true_eq,
      decide_eq_false_iff_not] <;> omega
  simp only [double, add, Int.min_self, hsum, if_neg hne, hsign, natAbs_signed]

@[simp] theorem double_finite_zero (negative : Bool) (e : Int) : (finite negative 0 e).double = zero negative := by
  have hsum : signed negative 0 + signed negative 0 = 0 := by cases negative <;> rfl
  simp only [double, add, Nat.zero_mul, hsum, if_true, Bool.and_self]

@[simp] theorem value_finite_zero (negative : Bool) (e : Int) : (finite negative 0 e).value = 0 := by
  cases negative <;> simp [value]

@[simp] theorem bounded_zero : bounded 0 = 0 := by
  have hpos := limit_pos
  rw [bounded, if_neg (not_le.mpr hpos), if_neg (by linarith)]
  rfl

/-- A finite number is below the limit. -/
theorem bounded_value {negative : Bool} {m : Nat} {e : Int} (h : (finite negative m e).isBinary64) :
    bounded (finite negative m e).value = (finite negative m e).rank := by
  simp only [isBinary64, Bool.and_eq_true, decide_eq_true_eq] at h
  obtain ⟨⟨hm, -⟩, he⟩ := h
  have hbelow : (m : ℚ) * 2 ^ e < limit := by
    calc (m : ℚ) * 2 ^ e < 2 ^ (53 : Int) * 2 ^ e := by
          gcongr
          exact_mod_cast hm
      _ = 2 ^ (53 + e) := (zpow_add₀ (by norm_num) _ _).symm
      _ ≤ limit := zpow_le_limit (by omega)
  exact bounded_of_lt_limit negative (mul_nonneg (Nat.cast_nonneg m) (zpow_nonneg zero_le_two e)) hbelow

theorem rank_double_finite {negative : Bool} {m : Nat} {e : Int} (h : (finite negative m e).isBinary64) :
    (finite negative m e).double.rank = bounded ((finite negative m e).value * 2) := by
  simp only [isBinary64, Bool.and_eq_true, decide_eq_true_eq] at h
  obtain ⟨⟨hm, he⟩, -⟩ := h
  rcases Nat.eq_zero_or_pos m with rfl | hpos
  · rw [double_finite_zero, zero, rank, value_finite_zero, value_finite_zero, zero_mul, bounded_zero]
    rfl
  · have hden : 0 < (scaleTwo (2 * m) 1 e).2 := scaleTwo_den_pos (2 * m) Nat.one_pos e
    have hnum : 0 < (scaleTwo (2 * m) 1 e).1 := by
      rw [scaleTwo_eq]
      exact Nat.mul_pos (by omega) (Nat.pow_pos (by decide))
    have heq : ((scaleTwo (2 * m) 1 e).1 : ℚ) = m * 2 ^ (e + 1) * (scaleTwo (2 * m) 1 e).2 := by
      rw [scaleTwo_eq, zpow_add_one₀ (by norm_num)]
      push_cast
      rw [← zpow_two_mul]
      ring
    have hvalue : (finite negative m e).value * 2 = if negative then -(m * 2 ^ (e + 1) : ℚ) else m * 2 ^ (e + 1) := by
      rw [zpow_add_one₀ (by norm_num), value]
      cases negative <;> simp only [Bool.false_eq_true, if_false, if_true] <;> ring
    rw [double_finite negative hpos, rank_ofRatio_of_eq hden hm (by omega) heq negative hnum, hvalue]

theorem isBinary64_double (x : Double) : x.double.isBinary64 := by
  cases x with
  | nan => rfl
  | infinite negative => cases negative <;> rfl
  | finite negative m e =>
      rcases Nat.eq_zero_or_pos m with rfl | hpos
      · rw [double_finite_zero]
        rfl
      · rw [double_finite negative hpos, scaleTwo_eq]
        exact isBinary64_ofRatio negative _ (Nat.mul_pos Nat.one_pos (Nat.pow_pos (by decide)))

theorem isNan_ofRatio (negative : Bool) (num den : Nat) : (ofRatio negative num den).isNan = false := by
  unfold ofRatio
  simp only
  split
  · rfl
  · split <;> split <;> rfl

theorem isNan_double {x : Double} (h : x.isNan = false) : x.double.isNan = false := by
  cases x with
  | nan => cases h
  | infinite negative => cases negative <;> rfl
  | finite negative m e =>
      rcases Nat.eq_zero_or_pos m with rfl | hpos
      · rw [double_finite_zero]
        rfl
      · rw [double_finite negative hpos]
        exact isNan_ofRatio _ _ _

theorem eq_of_bounded_eq_coe {q r : ℚ} (h : bounded q = ((r : WithTop ℚ) : WithBot (WithTop ℚ))) : q = r := by
  unfold bounded at h
  split at h
  · cases h
  · split at h
    · cases h
    · exact WithTop.coe_injective (WithBot.coe_injective h)

theorem bounded_double_of_infinite {negative : Bool} {q : ℚ} (h : bounded q = (infinite negative).rank) :
    bounded (q * 2) = (infinite negative).rank := by
  have hpos := limit_pos
  unfold bounded at h ⊢
  cases negative with
  | false =>
      split at h
      next hlarge => exact if_pos (by linarith)
      · split at h <;> cases h
  | true =>
      split at h
      · cases h
      · split at h
        next hsmall =>
          have hbelow : ¬limit ≤ q * 2 := by linarith
          exact (if_neg hbelow).trans (if_pos (by linarith))
        · cases h

/-- Doubling keeps to the products that are infinite from the limit on. -/
theorem rank_double {x : Double} (hx : x.isBinary64) (hnan : x.isNan = false) {q : ℚ} (h : bounded q = x.rank) :
    x.double.rank = bounded (q * 2) := by
  cases x with
  | nan => cases hnan
  | infinite negative =>
      rw [bounded_double_of_infinite h]
      cases negative <;> rfl
  | finite negative m e => rw [rank_double_finite hx, eq_of_bounded_eq_coe h]

theorem isProper_iterate_double {x : Double} (hx : x.isBinary64) (hnan : x.isNan = false) (k : Nat) :
    (double^[k] x).isBinary64 ∧ (double^[k] x).isNan = false := by
  induction k with
  | zero => exact ⟨hx, hnan⟩
  | succ k ih =>
      rw [Function.iterate_succ_apply']
      exact ⟨isBinary64_double _, isNan_double ih.2⟩

/-- A finite number that is doubled again and again. -/
theorem rank_iterate_double {negative : Bool} {m : Nat} {e : Int} (h : (finite negative m e).isBinary64) (k : Nat) :
    (double^[k] (finite negative m e)).rank = bounded ((finite negative m e).value * 2 ^ k) := by
  induction k with
  | zero => rw [pow_zero, mul_one, bounded_value h, Function.iterate_zero_apply]
  | succ k ih =>
      obtain ⟨hfits, hnan⟩ := isProper_iterate_double h rfl k
      rw [Function.iterate_succ_apply', rank_double hfits hnan ih.symm, pow_succ, mul_assoc]

theorem cast_signed (negative : Bool) (n : Nat) : (signed negative n : ℚ) = if negative then -(n : ℚ) else n := by
  cases negative <;> simp [signed]

/-- The value of a finite number in units of a smaller power of two. -/
theorem value_eq_mul_zpow (negative : Bool) (m : Nat) {e least : Int} (h : least ≤ e) :
    (finite negative m e).value = signed negative (m * powTwo (e - least).toNat) * 2 ^ least := by
  rw [cast_signed, value, mul_zpow_eq m h, powTwo, Nat.pow_eq]
  cases negative <;> simp only [Bool.false_eq_true, if_false, if_true, neg_mul]

/-- The value of a finite number as a fraction. -/
theorem value_mul_den (negative : Bool) (m : Nat) (e : Int) :
    (finite negative m e).value * (scaleTwo m 1 e).2 = signed negative (scaleTwo m 1 e).1 := by
  rw [scaleTwo_eq, cast_signed, value]
  push_cast
  rw [← zpow_two_mul e]
  cases negative <;> simp only [Bool.false_eq_true, if_false, if_true] <;> ring

theorem rank_finite_lt_top (s : Bool) (m : Nat) (e : Int) : (finite s m e).rank < ⊤ :=
  WithBot.coe_lt_coe.mpr (WithTop.coe_lt_top _)

theorem bot_lt_rank_finite (s : Bool) (m : Nat) (e : Int) : ⊥ < (finite s m e).rank := WithBot.bot_lt_coe _

theorem rank_finite_lt_iff {s t : Bool} {m n : Nat} {e f : Int} :
    (finite s m e).rank < (finite t n f).rank ↔ (finite s m e).value < (finite t n f).value := by
  rw [rank, rank, WithBot.coe_lt_coe, WithTop.coe_lt_coe]

/-- The order of the numbers is that of their places. -/
theorem lt_iff_rank {x y : Double} (hx : x.isNan = false) (hy : y.isNan = false) : x.lt y ↔ x.rank < y.rank := by
  cases x with
  | nan => cases hx
  | infinite s =>
      cases y with
      | nan => cases hy
      | infinite t => cases s <;> cases t <;> simp [lt, rank]
      | finite t n f =>
          cases s with
          | false => exact iff_of_false Bool.false_ne_true not_top_lt
          | true => exact iff_of_true rfl (bot_lt_rank_finite t n f)
  | finite s m e =>
      cases y with
      | nan => cases hy
      | infinite t =>
          cases t with
          | false => exact iff_of_true rfl (rank_finite_lt_top s m e)
          | true => exact iff_of_false Bool.false_ne_true not_lt_bot
      | finite t n f =>
          rw [rank_finite_lt_iff, value_eq_mul_zpow s m (min_le_left e f), value_eq_mul_zpow t n (min_le_right e f),
            mul_lt_mul_iff_left₀ (by positivity), Int.cast_lt]
          simp only [lt, decide_eq_true_eq]

end Double

end ChainAlerts
