import ChainAlerts.Number.Num
import ChainAlerts.Proofs.DoubleValues

/-! Delays that are doubled. An integer is doubled at any size, and a floating-point number without rounding; numbers of
both kinds are ordered as the rational numbers they denote. So a delay that is doubled again and again but kept to a
maximum is the first delay times a power of two, or the maximum if that is less. -/

namespace ChainAlerts

namespace Num

/-- The place of a number among the rational numbers, with the infinities at their ends. -/
def rank : Num → WithBot (WithTop ℚ)
  | .int n => (((n : ℚ) : WithTop ℚ) : WithBot (WithTop ℚ))
  | .float x => x.rank

/-- An integer, or a floating-point number as the format holds it that is a number. -/
def isProper : Num → Bool
  | .int _ => true
  | .float x => x.isBinary64 && !x.isNan

/-- The place of a number times a power of two: the product of the values, but a floating-point number beyond the
largest one is infinite. -/
def scaled : Num → Nat → WithBot (WithTop ℚ)
  | .int n, k => ((((n : ℚ) * 2 ^ k : ℚ) : WithTop ℚ) : WithBot (WithTop ℚ))
  | .float (.finite negative m e), k => Double.bounded ((Double.finite negative m e).value * 2 ^ k)
  | .float x, _ => x.rank

variable {a b x maximum first : Num}

theorem isProper_float {x : Double} : (float x).isProper ↔ x.isBinary64 ∧ x.isNan = false := by
  simp [isProper]

theorem intLtDouble_iff {n : Int} {y : Double} (hy : y.isNan = false) :
    intLtDouble n y ↔ (int n).rank < (float y).rank := by
  cases y with
  | nan => cases hy
  | infinite s =>
      cases s with
      | false => exact iff_of_true rfl (WithBot.coe_lt_coe.mpr (WithTop.coe_lt_top _))
      | true => exact iff_of_false Bool.false_ne_true not_lt_bot
  | finite s m e =>
      have hden : (0 : ℚ) < (scaleTwo m 1 e).2 := by
        exact_mod_cast Double.scaleTwo_den_pos m Nat.one_pos e
      rw [rank, rank, Double.rank, WithBot.coe_lt_coe, WithTop.coe_lt_coe, ← mul_lt_mul_iff_left₀ hden,
        Double.value_mul_den]
      simp only [intLtDouble, decide_eq_true_eq]
      norm_cast

theorem doubleLtInt_iff {x : Double} {n : Int} (hx : x.isNan = false) :
    doubleLtInt x n ↔ (float x).rank < (int n).rank := by
  cases x with
  | nan => cases hx
  | infinite s =>
      cases s with
      | false => exact iff_of_false Bool.false_ne_true not_top_lt
      | true => exact iff_of_true rfl (WithBot.bot_lt_coe _)
  | finite s m e =>
      have hden : (0 : ℚ) < (scaleTwo m 1 e).2 := by
        exact_mod_cast Double.scaleTwo_den_pos m Nat.one_pos e
      rw [rank, rank, Double.rank, WithBot.coe_lt_coe, WithTop.coe_lt_coe, ← mul_lt_mul_iff_left₀ hden,
        Double.value_mul_den]
      simp only [doubleLtInt, decide_eq_true_eq]
      norm_cast

/-- The order of the numbers is that of their places. -/
theorem lt_iff_rank (ha : a.isProper) (hb : b.isProper) : a.lt b ↔ a.rank < b.rank := by
  cases a with
  | int m =>
      cases b with
      | int n =>
          rw [rank, rank, WithBot.coe_lt_coe, WithTop.coe_lt_coe, Int.cast_lt]
          simp only [lt, decide_eq_true_eq]
      | float y => exact intLtDouble_iff (isProper_float.mp hb).2
  | float x =>
      cases b with
      | int n => exact doubleLtInt_iff (isProper_float.mp ha).2
      | float y => exact Double.lt_iff_rank (isProper_float.mp ha).2 (isProper_float.mp hb).2

theorem iterate_twice_int (n : Int) (k : Nat) : twice^[k] (int n) = int (n * 2 ^ k) := by
  induction k with
  | zero => rw [Function.iterate_zero_apply, Int.pow_zero, Int.mul_one]
  | succ k ih => rw [Function.iterate_succ_apply', ih, twice, Int.mul_comm, Int.mul_assoc, Int.pow_succ]

theorem iterate_twice_float (x : Double) (k : Nat) : twice^[k] (float x) = float (Double.double^[k] x) := by
  induction k with
  | zero => rfl
  | succ k ih => rw [Function.iterate_succ_apply', ih, twice, Function.iterate_succ_apply']

theorem isProper_iterate_twice (h : x.isProper) (k : Nat) : (twice^[k] x).isProper := by
  cases x with
  | int n =>
      rw [iterate_twice_int]
      rfl
  | float x =>
      obtain ⟨hx, hnan⟩ := isProper_float.mp h
      rw [iterate_twice_float]
      exact isProper_float.mpr (Double.isProper_iterate_double hx hnan k)

/-- Doubling a number again and again multiplies it by a power of two. -/
theorem rank_iterate_twice (h : x.isProper) (k : Nat) : (twice^[k] x).rank = x.scaled k := by
  cases x with
  | int n =>
      rw [iterate_twice_int, rank, scaled]
      push_cast
      rfl
  | float x =>
      obtain ⟨hx, hnan⟩ := isProper_float.mp h
      rw [iterate_twice_float, rank]
      cases x with
      | nan => cases hnan
      | infinite negative =>
          have hfixed : Double.double (.infinite negative) = .infinite negative := by cases negative <;> rfl
          rw [Function.iterate_fixed hfixed]
          rfl
      | finite negative m e => exact Double.rank_iterate_double hx k

theorem isProper_twice (h : a.isProper) : a.twice.isProper := isProper_iterate_twice h 1

theorem rank_twice (h : x.isProper) : x.twice.rank = x.scaled 1 := rank_iterate_twice h 1

theorem rank_le_twice (h : x.isProper) (hrank : 0 ≤ x.rank) : x.rank ≤ x.twice.rank := by
  rw [rank_twice h]
  cases x with
  | int n =>
      have hn : (0 : ℚ) ≤ n := WithTop.coe_le_coe.mp (WithBot.coe_le_coe.mp hrank)
      exact WithBot.coe_le_coe.mpr (WithTop.coe_le_coe.mpr (by linarith))
  | float x =>
      cases x with
      | nan => exact absurd h Bool.false_ne_true
      | infinite negative => exact le_rfl
      | finite negative m e =>
          have hv : 0 ≤ (Double.finite negative m e).value := WithTop.coe_le_coe.mp (WithBot.coe_le_coe.mp hrank)
          have hbelow : ¬(Double.finite negative m e).value * 2 ^ 1 ≤ -Double.limit := by
            have hpos := Double.limit_pos
            linarith
          rw [scaled, Double.bounded, if_neg hbelow]
          split
          · exact le_top
          · exact WithBot.coe_le_coe.mpr (WithTop.coe_le_coe.mpr (by linarith))

theorem rank_le_scaled (h : x.isProper) (hrank : 0 ≤ x.rank) (k : Nat) : x.rank ≤ x.scaled k := by
  induction k with
  | zero => exact (rank_iterate_twice h 0).le
  | succ k ih =>
      have hproper := isProper_iterate_twice h k
      rw [← rank_iterate_twice h] at ih ⊢
      rw [Function.iterate_succ_apply']
      exact ih.trans (rank_le_twice hproper (hrank.trans ih))

/-- Below the limit the product is that of the values. -/
theorem min_scaled {top : WithBot (WithTop ℚ)} {q : ℚ} (htop : top ≤ ((Double.limit : WithTop ℚ) : WithBot (WithTop ℚ)))
    (hq : 0 ≤ q) (hrank : x.rank = ((q : WithTop ℚ) : WithBot (WithTop ℚ))) (hproper : x.isProper) (k : Nat) :
    min top (x.scaled k) = min top (((q * 2 ^ k : ℚ) : WithTop ℚ) : WithBot (WithTop ℚ)) := by
  cases x with
  | int n =>
      obtain rfl : (n : ℚ) = q := WithTop.coe_injective (WithBot.coe_injective hrank)
      rfl
  | float x =>
      cases x with
      | nan => exact absurd hproper Bool.false_ne_true
      | infinite negative => cases negative <;> cases hrank
      | finite negative m e =>
          obtain rfl : (Double.finite negative m e).value = q := WithTop.coe_injective (WithBot.coe_injective hrank)
          have hproduct := mul_nonneg hq (pow_nonneg zero_le_two k)
          have habove : ¬(Double.finite negative m e).value * 2 ^ k ≤ -Double.limit := by
            have hpos := Double.limit_pos
            linarith
          rw [scaled, Double.bounded, if_neg habove]
          split
          next hlarge =>
            have hle := htop.trans (WithBot.coe_le_coe.mpr (WithTop.coe_le_coe.mpr hlarge))
            rw [min_eq_left le_top, min_eq_left hle]
          · rfl

/-- What is negative is lower when doubled, unless it is at the bottom. -/
theorem rank_twice_of_neg (h : x.isProper) (hrank : x.rank < 0) : x.twice.rank < x.rank ∨ x.twice.rank = ⊥ := by
  rw [rank_twice h]
  cases x with
  | int n =>
      have hn : (n : ℚ) < 0 := WithTop.coe_lt_coe.mp (WithBot.coe_lt_coe.mp hrank)
      exact .inl (WithBot.coe_lt_coe.mpr (WithTop.coe_lt_coe.mpr (by linarith)))
  | float x =>
      cases x with
      | nan => exact absurd h Bool.false_ne_true
      | infinite negative =>
          cases negative with
          | false => exact absurd hrank not_top_lt
          | true => exact .inr rfl
      | finite negative m e =>
          have hv : (Double.finite negative m e).value < 0 := WithTop.coe_lt_coe.mp (WithBot.coe_lt_coe.mp hrank)
          have habove : ¬Double.limit ≤ (Double.finite negative m e).value * 2 ^ 1 := by
            have hpos := Double.limit_pos
            linarith
          rw [scaled, Double.bounded, if_neg habove]
          split
          · exact .inr rfl
          · exact .inl (WithBot.coe_lt_coe.mpr (WithTop.coe_lt_coe.mpr (by linarith)))

/-- A delay after a number of failures: it is doubled with each, up to a maximum. -/
def backoff (maximum first : Num) (failures : Nat) : Num := (fun delay => least maximum delay.twice)^[failures] first

theorem backoff_succ (maximum first : Num) (failures : Nat) :
    backoff maximum first (failures + 1) = least maximum (backoff maximum first failures).twice :=
  Function.iterate_succ_apply' _ failures first

section Maximum

variable (hmaximum : maximum.isProper) (hx : x.isProper)

include hmaximum hx

/-- A maximum that doubling reaches is not undershot by doubling it. -/
theorem maximum_le_twice (hbelow : x.rank ≤ maximum.rank) (hreached : maximum.rank ≤ x.twice.rank) :
    maximum.rank ≤ maximum.twice.rank := by
  rcases le_or_gt 0 maximum.rank with hpos | hneg
  · exact rank_le_twice hmaximum hpos
  · rcases rank_twice_of_neg hx (hbelow.trans_lt hneg) with hlt | hbot
    · exact absurd (hreached.trans_lt hlt) (not_lt.mpr hbelow)
    · exact (hreached.trans hbot.le).trans bot_le

/-- Nor is it by doubling what is no smaller. -/
theorem maximum_le_twice_of_le (hmax : maximum.rank ≤ maximum.twice.rank) (h : maximum.rank ≤ x.rank) :
    maximum.rank ≤ x.twice.rank := by
  rcases le_or_gt 0 x.rank with hpos | hneg
  · exact h.trans (rank_le_twice hx hpos)
  · rcases rank_twice_of_neg hmaximum (h.trans_lt hneg) with hlt | hbot
    · exact absurd hmax (not_le.mpr hlt)
    · exact (hmax.trans hbot.le).trans bot_le

end Maximum

/-- A delay that is doubled up to a maximum has been doubled each time, or is at the maximum and stays there. -/
theorem backoff_cases (hmaximum : maximum.isProper) (hfirst : first.isProper) (hle : first.rank ≤ maximum.rank)
    (failures : Nat) :
    backoff maximum first failures = twice^[failures] first ∧ (twice^[failures] first).rank ≤ maximum.rank ∨
      backoff maximum first failures = maximum ∧ maximum.rank ≤ (twice^[failures] first).rank ∧
        maximum.rank ≤ maximum.twice.rank := by
  induction failures with
  | zero => exact .inl ⟨rfl, hle⟩
  | succ failures ih =>
      have hdoubled := isProper_iterate_twice hfirst failures
      have hnext := isProper_twice hdoubled
      rw [backoff_succ, Function.iterate_succ_apply']
      rcases ih with ⟨heq, hbelow⟩ | ⟨heq, habove, hmax⟩
      · rw [heq, least]
        split
        next hlt => exact .inl ⟨rfl, ((lt_iff_rank hnext hmaximum).mp hlt).le⟩
        next hge =>
          have hreached := not_lt.mp fun hlt => hge ((lt_iff_rank hnext hmaximum).mpr hlt)
          exact .inr ⟨rfl, hreached, maximum_le_twice hmaximum hdoubled hbelow hreached⟩
      · have hkept : maximum.twice.lt maximum = false := by
          rw [← Bool.not_eq_true, lt_iff_rank (isProper_twice hmaximum) hmaximum]
          exact not_lt.mpr hmax
        rw [heq, least, hkept]
        exact .inr ⟨rfl, maximum_le_twice_of_le hmaximum hdoubled hmax habove, hmax⟩

/-- A delay that is doubled up to a maximum is the first one times a power of two, or the maximum if that is less. -/
theorem rank_backoff (hmaximum : maximum.isProper) (hfirst : first.isProper) (hle : first.rank ≤ maximum.rank)
    (failures : Nat) : (backoff maximum first failures).rank = min maximum.rank (first.scaled failures) := by
  rw [← rank_iterate_twice hfirst]
  rcases backoff_cases hmaximum hfirst hle failures with ⟨heq, hbelow⟩ | ⟨heq, habove, -⟩
  · rw [heq, min_eq_right hbelow]
  · rw [heq, min_eq_left habove]

end Num

end ChainAlerts
