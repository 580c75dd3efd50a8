import Mathlib.Algebra.Order.Floor.Semifield
import Mathlib.Data.Nat.Cast.Field
import Mathlib.Tactic.FieldSimp
import ChainAlerts.Proofs.DecimalOrder

/-! What decimal arithmetic keeps of an exact result. The nonnegative rational numbers have one rounding: to the
nearest multiple of a power of ten, a tie going to the even one, where the power leaves 28 digits but is never below
the least exponent. Each operation yields what is kept of the exact sum, product or quotient, whichever way it computes
it; so it is monotone, leaves alone what is short enough, and errs by at most half a unit of its last digit. -/

namespace ChainAlerts

/-- The natural number nearest to a nonnegative rational one, the even one if two are equally near. -/
def nearest (x : ℚ) : Nat :=
  let n := ⌊x⌋₊
  if 2 * (x - n) < 1 then n
  else if 1 < 2 * (x - n) then n + 1
  else if n % 2 = 0 then n else n + 1

section Nearest

variable {x y : ℚ}

theorem floor_le_nearest (x : ℚ) : ⌊x⌋₊ ≤ nearest x := by
  unfold nearest
  dsimp only
  split_ifs <;> omega

theorem nearest_le_floor_succ (x : ℚ) : nearest x ≤ ⌊x⌋₊ + 1 := by
  unfold nearest
  dsimp only
  split_ifs <;> omega

@[simp] theorem nearest_natCast (n : Nat) : nearest (n : ℚ) = n := by
  simp [nearest]

theorem nearest_mono (h : x ≤ y) : nearest x ≤ nearest y := by
  rcases (Nat.floor_le_floor h).lt_or_eq with hlt | heq
  · calc nearest x ≤ ⌊x⌋₊ + 1 := nearest_le_floor_succ x
      _ ≤ ⌊y⌋₊ := hlt
      _ ≤ nearest y := floor_le_nearest y
  · unfold nearest
    rw [heq]
    dsimp only
    split_ifs <;> first | omega | linarith

theorem nearest_eq_zero (h : x < 1 / 2) : nearest x = 0 := by
  have hfloor : ⌊x⌋₊ = 0 := Nat.floor_eq_zero.mpr (by linarith)
  unfold nearest
  rw [hfloor]
  exact if_pos (by push_cast; linarith)

theorem abs_nearest_sub_le (hx : 0 ≤ x) : |(nearest x : ℚ) - x| ≤ 1 / 2 := by
  have hle := Nat.floor_le hx
  have hlt := Nat.lt_floor_add_one x
  rw [abs_le]
  unfold nearest
  dsimp only
  split_ifs <;> push_cast <;> constructor <;> linarith

/-- Between a multiple of one half and the next, the nearest number is the same. -/
theorem nearest_eq_of_between {h : Nat} (hlt : (h : ℚ) < 2 * x) (hgt : 2 * x < h + 1) : nearest x = (h + 1) / 2 := by
  obtain ⟨n, rfl | rfl⟩ : ∃ n, h = 2 * n ∨ h = 2 * n + 1 := ⟨h / 2, by omega⟩
  · push_cast at hlt hgt
    have hfloor : ⌊x⌋₊ = n := (Nat.floor_eq_iff (by linarith [n.cast_nonneg (α := ℚ)])).mpr ⟨by linarith, by linarith⟩
    have hresult : nearest x = n := by
      unfold nearest
      rw [hfloor]
      exact if_pos (by linarith)
    omega
  · push_cast at hlt hgt
    have hfloor : ⌊x⌋₊ = n := (Nat.floor_eq_iff (by linarith [n.cast_nonneg (α := ℚ)])).mpr ⟨by linarith, by linarith⟩
    have hresult : nearest x = n + 1 := by
      unfold nearest
      rw [hfloor]
      exact (if_neg (by linarith)).trans (if_pos (by linarith))
    omega

/-- A fraction of integers is rounded to the integer nearest to it. -/
theorem roundDiv_eq_nearest (num : Nat) {den : Nat} (hden : 0 < den) : roundDiv num den = nearest (num / den) := by
  have hpos : (0 : ℚ) < den := by exact_mod_cast hden
  have hsplit : (num : ℚ) = den * (num / den : Nat) + (num % den : Nat) := by
    exact_mod_cast (Nat.div_add_mod num den).symm
  have hpart : 2 * ((num : ℚ) / den - (num / den : Nat)) = ((2 * (num % den) : Nat) : ℚ) / den := by
    rw [hsplit]
    push_cast
    field_simp
    ring
  unfold roundDiv nearest
  dsimp only
  simp only [Nat.floor_div_eq_div, hpart, div_lt_one hpos, one_lt_div hpos, Nat.cast_lt]

end Nearest

namespace Decimal

open Text

/-- The nearest multiple of a power of ten. -/
def roundAt (e : Int) (x : ℚ) : ℚ := scaled (nearest (x / 10 ^ e)) e

/-- The exponent of the last digit that is kept of a number. -/
def lastExponent (x : ℚ) : Int := max (Int.log 10 x - (precision - 1)) etiny

/-- What is kept of a number. -/
def kept (x : ℚ) : ℚ := roundAt (lastExponent x) x

variable {x y : ℚ} {c : Nat} {e least : Int}

theorem scaled_div_zpow (c : Nat) (e : Int) : scaled c e / 10 ^ e = c := by
  rw [scaled, mul_div_assoc, div_self (by positivity), mul_one]

theorem scaled_one (e : Int) : scaled 1 e = 10 ^ e := by rw [scaled, Nat.cast_one, one_mul]

theorem roundAt_nonneg (e : Int) (x : ℚ) : 0 ≤ roundAt e x := scaled_nonneg _ _

theorem roundAt_mono (e : Int) (h : x ≤ y) : roundAt e x ≤ roundAt e y := by
  have hnearest : nearest (x / 10 ^ e) ≤ nearest (y / 10 ^ e) := nearest_mono (by gcongr)
  unfold roundAt scaled
  gcongr

/-- Multiples of a power of ten stay as they are. -/
theorem roundAt_scaled (c : Nat) (h : least ≤ e) : roundAt least (scaled c e) = scaled c e := by
  rw [scaled_shift c h, roundAt, scaled_div_zpow, nearest_natCast]

theorem roundAt_zpow (h : least ≤ e) : roundAt least (10 ^ e) = 10 ^ e := by
  rw [← scaled_one, roundAt_scaled 1 h]

theorem abs_roundAt_sub_le (e : Int) (hx : 0 ≤ x) : |roundAt e x - x| ≤ 10 ^ e / 2 := by
  have hunits : roundAt e x - x = (nearest (x / 10 ^ e) - x / 10 ^ e) * 10 ^ e := by
    rw [roundAt, scaled, sub_mul, div_mul_cancel₀ _ (by positivity)]
  have hnearest := abs_nearest_sub_le (x := x / 10 ^ e) (by positivity)
  have hunit : (0 : ℚ) < 10 ^ e := by positivity
  rw [hunits, abs_mul, abs_of_pos hunit]
  linarith [mul_le_mul_of_nonneg_right hnearest hunit.le]

/-- The last digit is the 28th, or that of the least exponent if the 28th would be below it. -/
theorem lastExponent_cases (x : ℚ) :
    lastExponent x = Int.log 10 x - 27 ∧ etiny ≤ Int.log 10 x - 27 ∨
      lastExponent x = etiny ∧ Int.log 10 x - 27 < etiny := by
  have hprecision : (precision : Int) = 28 := rfl
  rw [lastExponent]
  omega

theorem kept_nonneg (x : ℚ) : 0 ≤ kept x := roundAt_nonneg _ _

@[simp] theorem kept_zero : kept 0 = 0 := by
  have hzero : (0 : ℚ) = scaled 0 (lastExponent 0) := (scaled_zero _).symm
  rw [kept, hzero, roundAt_scaled 0 (by rw [← hzero])]

theorem zpow_log_le (hx : 0 < x) : (10 : ℚ) ^ Int.log 10 x ≤ x := Int.zpow_log_le_self (by decide) hx

theorem lt_zpow_log (x : ℚ) : x < (10 : ℚ) ^ (Int.log 10 x + 1) := Int.lt_zpow_succ_log_self (by decide) x

theorem log_mul_cases (hx : 0 < x) (hy : 0 < y) :
    Int.log 10 (x * y) = Int.log 10 x + Int.log 10 y ∨ Int.log 10 (x * y) = Int.log 10 x + Int.log 10 y + 1 := by
  have hle : Int.log 10 x + Int.log 10 y ≤ Int.log 10 (x * y) := by
    refine (Int.zpow_le_iff_le_log (by decide) (mul_pos hx hy)).mp ?_
    rw [Nat.cast_ofNat, zpow_add₀ (by norm_num)]
    exact mul_le_mul (zpow_log_le hx) (zpow_log_le hy) (by positivity) hx.le
  have hlt : Int.log 10 (x * y) < Int.log 10 x + Int.log 10 y + 2 := by
    refine (Int.lt_zpow_iff_log_lt (by decide) (mul_pos hx hy)).mp ?_
    have hsum : Int.log 10 x + Int.log 10 y + 2 = Int.log 10 x + 1 + (Int.log 10 y + 1) := by ring
    rw [Nat.cast_ofNat, hsum, zpow_add₀ (by norm_num)]
    exact mul_lt_mul'' (lt_zpow_log x) (lt_zpow_log y) hx.le hy.le
  omega

/-- Rounding never loses the leading power of ten. -/
theorem zpow_log_le_kept (hx : 0 < x) (h : lastExponent x ≤ Int.log 10 x) : (10 : ℚ) ^ Int.log 10 x ≤ kept x := by
  rw [← roundAt_zpow h]
  exact roundAt_mono _ (zpow_log_le hx)

/-- Nor does it gain more than the next one. -/
theorem kept_le_zpow {e : Int} (hlog : Int.log 10 x < e) (hlast : lastExponent x ≤ e) : kept x ≤ (10 : ℚ) ^ e := by
  rw [← roundAt_zpow hlast]
  refine roundAt_mono _ ((lt_zpow_log x).le.trans ?_)
  exact zpow_le_zpow_right₀ (by norm_num) (Int.add_one_le_iff.mpr hlog)

theorem lastExponent_mono (hx : 0 < x) (h : x ≤ y) : lastExponent x ≤ lastExponent y :=
  max_le_max_right etiny (sub_le_sub_right (Int.log_mono_right hx h) _)

/-- What is kept of a greater number is no less, also where the greater one has a coarser last digit. -/
theorem kept_mono (hx : 0 ≤ x) (h : x ≤ y) : kept x ≤ kept y := by
  rcases hx.eq_or_lt with rfl | hx
  · rw [kept_zero]
    exact kept_nonneg y
  rcases (lastExponent_mono hx h).eq_or_lt with heq | hlt
  · rw [kept, kept, heq]
    exact roundAt_mono _ h
  · -- a power of ten lies between the two, and neither rounding crosses it
    have hcases := lastExponent_cases x
    have hcases' := lastExponent_cases y
    calc kept x ≤ (10 : ℚ) ^ Int.log 10 y := kept_le_zpow (by omega) (by omega)
      _ ≤ kept y := zpow_log_le_kept (hx.trans_le h) (by omega)

/-- A number of at most 28 digits, the last of them at the least exponent or above it, is kept as it is. -/
theorem kept_scaled (hlast : lastExponent (scaled c e) ≤ e) : kept (scaled c e) = scaled c e := roundAt_scaled c hlast

theorem kept_eq_self (hc : c < 10 ^ precision) (he : etiny ≤ e) : kept (scaled c e) = scaled c e := by
  rcases Nat.eq_zero_or_pos c with rfl | hpos
  · rw [scaled_zero, kept_zero]
  have hlog := log_scaled hpos e
  have hlength := (decimalLength_le_iff (by decide)).mpr hc
  have hprecision : precision = 28 := rfl
  have hcases := lastExponent_cases (scaled c e)
  rw [adjusted] at hlog
  exact kept_scaled (by omega)

theorem kept_zpow (h : etiny ≤ e) : kept (10 ^ e) = 10 ^ e := by
  rw [← scaled_one, kept_eq_self (by decide) h]

/-- Half a unit of the 28th digit is at most a fraction of the number. -/
theorem abs_kept_sub_le (hx : 0 < x) (hlast : etiny ≤ Int.log 10 x - 27) : |kept x - x| ≤ x * (5 / 10 ^ 28) := by
  have hcases := lastExponent_cases x
  have hlastExponent : lastExponent x = Int.log 10 x + (-27) := by omega
  calc |kept x - x| ≤ 10 ^ lastExponent x / 2 := abs_roundAt_sub_le _ hx.le
    _ = 10 ^ Int.log 10 x * (5 / 10 ^ 28) := by
      rw [hlastExponent, zpow_add₀ (by norm_num)]
      norm_num
      ring
    _ ≤ x * (5 / 10 ^ 28) := by
      have := zpow_log_le hx
      gcongr

/-- Far below the least exponent nothing is kept. -/
theorem kept_of_tiny (hx : 0 < x) (h : Int.log 10 x + 1 < etiny) : kept x = 0 := by
  have hcases := lastExponent_cases x
  have hlast : lastExponent x = etiny := by omega
  have hlt : x < 10 ^ (etiny + (-1)) := (lt_zpow_log x).trans_le (zpow_le_zpow_right₀ (by norm_num) (by omega))
  have hunits : x / 10 ^ etiny < 1 / 2 := by
    have hunit : (0 : ℚ) < 10 ^ etiny := by positivity
    rw [zpow_add₀ (by norm_num), zpow_neg_one] at hlt
    rw [div_lt_iff₀ hunit]
    linarith
  rw [kept, hlast, roundAt, nearest_eq_zero hunits, scaled_zero]

theorem log_kept_cases (hx : 0 < x) (hlast : lastExponent x ≤ Int.log 10 x) :
    0 < kept x ∧ (Int.log 10 (kept x) = Int.log 10 x ∨ Int.log 10 (kept x) = Int.log 10 x + 1) := by
  have hle := zpow_log_le_kept hx hlast
  have hpos : 0 < kept x := (zpow_pos (by norm_num) _).trans_le hle
  have hbelow : Int.log 10 x ≤ Int.log 10 (kept x) := (Int.zpow_le_iff_le_log (by decide) hpos).mp hle
  have habove : Int.log 10 (kept x) ≤ Int.log 10 x + 1 := by
    calc Int.log 10 (kept x) ≤ Int.log 10 ((10 : ℚ) ^ (Int.log 10 x + 1)) :=
          Int.log_mono_right hpos (kept_le_zpow (by omega) (by omega))
      _ = Int.log 10 x + 1 := Int.log_zpow (by decide) _
  exact ⟨hpos, by omega⟩

/-- A finite number of a sign and an absolute value. -/
def HasSize (d : Decimal) (negative : Bool) (size : ℚ) : Prop := ∃ c e, d = .finite negative c e ∧ scaled c e = size

/-- An operation yields what is kept of the exact absolute value, with a sign, unless that is too large. -/
def Yields (result : Except DecimalFault Decimal) (negative : Bool) (exact : ℚ) : Prop :=
  (∃ d, result = .ok d ∧ d.HasSize negative (kept exact)) ∨
    result = .error .overflow ∧ emax ≤ Int.log 10 exact

/-- A coefficient divided by a power of ten is rounded at the exponent that is reached. -/
theorem scaled_roundDiv (c k : Nat) (e : Int) :
    scaled (roundDiv c (powTen k)) (e + k) = roundAt (e + k) (scaled c e) := by
  have hpow : (0 : Nat) < powTen k := Nat.pow_pos (by decide)
  have hunits : (c : ℚ) / (powTen k : Nat) = scaled c e / 10 ^ (e + k) := by
    rw [scaled, powTen, Nat.pow_eq, zpow_add₀ (by norm_num), zpow_natCast]
    push_cast
    field_simp
  rw [roundDiv_eq_nearest c hpow, hunits, roundAt]

theorem scaled_roundDigits (c : Nat) (e : Int) :
    scaled (roundDigits c e).1 (roundDigits c e).2 =
      roundAt (e + (decimalLength c - precision : Nat)) (scaled c e) := by
  rw [roundDigits]
  split
  next hexcess => rw [hexcess, Nat.cast_zero, add_zero, roundAt_scaled c le_rfl]
  next =>
    rw [← scaled_roundDiv]
    dsimp only
    split
    next hcarry =>
      -- all nines were rounded up to a power of ten with a digit more
      rw [hcarry, powTen, powTen, Nat.pow_eq, Nat.pow_eq, ← one_mul (10 ^ _), ← one_mul (10 ^ precision),
        scaled_mul_pow, scaled_mul_pow]
      have hprecision : precision = 28 := rfl
      congr 1
      dsimp only
      omega
    next => rfl

/-- In the normal range the kept digits are the leading ones of the coefficient. -/
theorem roundAt_excess (hc : 0 < c) (hnormal : ¬(e < etiny ∧ adjusted c e < -emax)) :
    roundAt (e + (decimalLength c - precision : Nat)) (scaled c e) = kept (scaled c e) := by
  have hlog := log_scaled hc e
  have hcases := lastExponent_cases (scaled c e)
  have hprecision : precision = 28 := rfl
  have hemax : emax = 999999 := rfl
  have hetiny : etiny = -1000026 := rfl
  rw [adjusted] at hlog hnormal
  by_cases hexcess : decimalLength c - precision = 0
  · rw [hexcess, Nat.cast_zero, add_zero, roundAt_scaled c le_rfl, kept_scaled (by omega)]
  · have hlast : lastExponent (scaled c e) = e + (decimalLength c - precision : Nat) := by omega
    rw [kept, hlast]

theorem adjusted_of_kept {x : ℚ} {c : Nat} {e : Int} (hkept : 0 < kept x) (hround : scaled c e = kept x) :
    adjusted c e = Int.log 10 (kept x) := by
  have hc : 0 < c := Nat.pos_of_ne_zero fun hzero => by
    rw [← hround, hzero, scaled_zero] at hkept
    exact hkept.false
  rw [← hround, log_scaled hc]

theorem finish_yields (s : Bool) (c : Nat) (e : Int) : Yields (finish s c e) s (scaled c e) := by
  rcases Nat.eq_zero_or_pos c with rfl | hc
  · refine Or.inl ⟨_, rfl, _, _, rfl, ?_⟩
    rw [scaled_zero, scaled_zero, kept_zero]
  have hpos := scaled_pos hc e
  have hlog := log_scaled hc e
  have hcases := lastExponent_cases (scaled c e)
  have hemax : emax = 999999 := rfl
  have hetiny : etiny = -1000026 := rfl
  rw [finish, if_neg hc.ne']
  split
  next hlarge => exact Or.inr ⟨rfl, by omega⟩
  next hlarge =>
    split
    next hsmall =>
      split
      next htiny =>
        refine Or.inl ⟨_, rfl, _, _, rfl, ?_⟩
        rw [scaled_zero, kept_of_tiny hpos (by omega)]
      next htiny =>
        have hexponent : e + ((etiny - e).toNat : Int) = etiny := by omega
        have hlast : lastExponent (scaled c e) = etiny := by omega
        have hround := scaled_roundDiv c (etiny - e).toNat e
        rw [hexponent] at hround
        refine Or.inl ⟨_, rfl, _, _, rfl, ?_⟩
        rw [hround, kept, hlast]
    next hnormal =>
      have hround := (scaled_roundDigits c e).trans (roundAt_excess hc hnormal)
      cases hdigits : roundDigits c e with
      | mk c' e' =>
          rw [hdigits] at hround
          dsimp only at hround ⊢
          split
          next hoverflow =>
            have hlength := decimalLength_pos c
            have hkept := log_kept_cases hpos (by
              rw [adjusted] at hlog hnormal
              omega)
            have hlog' := adjusted_of_kept hkept.1 hround
            exact Or.inr ⟨rfl, by omega⟩
          next => exact Or.inl ⟨_, rfl, _, _, rfl, hround⟩

section Quotients

variable {j m : Nat} {z z' : ℚ} {unit : Int}

theorem nearest_of_between (hm : 0 < m) (hlt : 5 * (j : ℚ) < z) (hgt : z < 5 * ((j : ℚ) + 1)) :
    nearest (z / (10 * m)) = (j / m + 1) / 2 := by
  have hpos : (0 : ℚ) < m := by exact_mod_cast hm
  have hbelow : ((j / m : Nat) : ℚ) * m ≤ j := by exact_mod_cast Nat.div_mul_le_self j m
  have habove : (j : ℚ) + 1 ≤ ((j / m : Nat) + 1) * m := by
    rw [mul_comm]
    exact_mod_cast Nat.lt_mul_div_succ j hm
  have hdouble : 2 * (z / (10 * m)) = z / (5 * m) := by
    field_simp
    ring
  refine nearest_eq_of_between ?_ ?_
  · rw [hdouble, lt_div_iff₀ (by positivity)]
    linarith
  · rw [hdouble, div_lt_iff₀ (by positivity)]
    linarith

/-- Between two multiples of five there is no power of ten. -/
theorem log_le_of_between (hlarge : 10 ≤ z) (hgt : z < 5 * ((j : ℚ) + 1)) (hlt : 5 * (j : ℚ) < z') :
    Int.log 10 (z * 10 ^ unit) ≤ Int.log 10 (z' * 10 ^ unit) := by
  have hunit : (0 : ℚ) < 10 ^ unit := by positivity
  have hz : 0 < z * 10 ^ unit := by positivity
  have hz' : 0 < z' * 10 ^ unit := mul_pos (by linarith [j.cast_nonneg (α := ℚ)]) hunit
  have hfirst : unit + 1 ≤ Int.log 10 (z * 10 ^ unit) := by
    refine (Int.zpow_le_iff_le_log (by decide) hz).mp ?_
    rw [zpow_add₀ (by norm_num), zpow_one, mul_comm]
    exact mul_le_mul_of_nonneg_right (by exact_mod_cast hlarge) hunit.le
  obtain ⟨k, hk⟩ : ∃ k : Nat, Int.log 10 (z * 10 ^ unit) = (k + 1 : Nat) + unit :=
    ⟨(Int.log 10 (z * 10 ^ unit) - unit - 1).toNat, by omega⟩
  have hpow := zpow_log_le hz
  rw [hk, zpow_add₀ (by norm_num), zpow_natCast, mul_le_mul_iff_left₀ hunit] at hpow
  have hfives : (10 : ℚ) ^ (k + 1) = 5 * ((2 * 10 ^ k : Nat) : ℚ) := by
    push_cast
    ring
  have hmultiple : 2 * 10 ^ k ≤ j := by
    have hlt : ((2 * 10 ^ k : Nat) : ℚ) < (j : ℚ) + 1 := by linarith
    exact Nat.lt_succ_iff.mp (by exact_mod_cast hlt)
  have hmultiple' : ((2 * 10 ^ k : Nat) : ℚ) ≤ j := by exact_mod_cast hmultiple
  have hbelow : (10 : ℚ) ^ (k + 1) ≤ z' := by linarith
  refine (Int.zpow_le_iff_le_log (by decide) hz').mp ?_
  rw [hk, Nat.cast_ofNat, zpow_add₀ (by norm_num), zpow_natCast]
  exact mul_le_mul_of_nonneg_right hbelow hunit.le

/-- Two numbers with more digits than are kept, between the same multiples of five, are rounded alike. -/
theorem kept_eq_of_between (hlarge : 10 ^ 28 ≤ z) (hlarge' : 10 ^ 28 ≤ z') (hlt : 5 * (j : ℚ) < z)
    (hgt : z < 5 * ((j : ℚ) + 1)) (hlt' : 5 * (j : ℚ) < z') (hgt' : z' < 5 * ((j : ℚ) + 1)) :
    kept (z * 10 ^ unit) = kept (z' * 10 ^ unit) ∧ Int.log 10 (z * 10 ^ unit) = Int.log 10 (z' * 10 ^ unit) := by
  have hten : (10 : ℚ) ≤ 10 ^ 28 := by norm_num
  have hlog : Int.log 10 (z * 10 ^ unit) = Int.log 10 (z' * 10 ^ unit) :=
    (log_le_of_between (hten.trans hlarge) hgt hlt').antisymm (log_le_of_between (hten.trans hlarge') hgt' hlt)
  refine ⟨?_, hlog⟩
  have hlast : lastExponent (z * 10 ^ unit) = lastExponent (z' * 10 ^ unit) := by rw [lastExponent, hlog, lastExponent]
  have hz : 0 < z * 10 ^ unit := mul_pos (by linarith) (by positivity)
  have hdigits : unit + 28 ≤ Int.log 10 (z * 10 ^ unit) := by
    refine (Int.zpow_le_iff_le_log (by decide) hz).mp ?_
    rw [Nat.cast_ofNat, zpow_add₀ (by norm_num), mul_comm]
    exact mul_le_mul_of_nonneg_right hlarge (by positivity)
  have hcases := lastExponent_cases (z * 10 ^ unit)
  obtain ⟨k, hk⟩ : ∃ k : Nat, lastExponent (z * 10 ^ unit) = unit + (k + 1 : Nat) :=
    ⟨(lastExponent (z * 10 ^ unit) - unit - 1).toNat, by omega⟩
  have hunits : ∀ w : ℚ, w * 10 ^ unit / 10 ^ (unit + (k + 1 : Nat)) = w / (10 * ((10 ^ k : Nat) : ℚ)) := by
    intro w
    rw [zpow_add₀ (by norm_num), zpow_natCast, pow_succ]
    push_cast
    field_simp
  have hpow : 0 < 10 ^ k := Nat.pow_pos (by decide)
  rw [kept, kept, ← hlast, hk, roundAt, roundAt, hunits, hunits, nearest_of_between hpow hlt hgt,
    nearest_of_between hpow hlt' hgt']

theorem scaled_reduceTo (ideal : Int) (fuel c : Nat) (e : Int) :
    scaled (reduceTo ideal fuel c e).1 (reduceTo ideal fuel c e).2 = scaled c e := by
  induction fuel generalizing c e with
  | zero => rfl
  | succ fuel ih =>
      rw [reduceTo]
      split
      next hzero =>
        have hten : c / 10 * 10 ^ 1 = c := by omega
        rw [ih, ← Nat.cast_one (R := Int), ← scaled_mul_pow, hten]
      next => rfl

theorem scaleTen_div (num den : Nat) (shift : Int) :
    ((scaleTen num den shift).1 : ℚ) / (scaleTen num den shift).2 = num / den * 10 ^ shift := by
  rw [scaleTen]
  split
  next hshift =>
    obtain ⟨k, rfl⟩ := Int.eq_ofNat_of_zero_le hshift
    rw [Int.toNat_natCast, powTen, Nat.pow_eq, zpow_natCast]
    push_cast
    ring
  next hshift =>
    obtain ⟨k, hk⟩ : ∃ k : Nat, shift = -k := ⟨(-shift).toNat, by omega⟩
    subst hk
    rw [neg_neg, Int.toNat_natCast, powTen, Nat.pow_eq, zpow_neg, zpow_natCast]
    push_cast
    rw [div_mul_eq_div_div, div_eq_mul_inv (_ / _)]

theorem scaleTen_pos (num : Nat) {den : Nat} (hden : 0 < den) (shift : Int) : 0 < (scaleTen num den shift).2 := by
  rw [scaleTen]
  split
  · exact hden
  · exact Nat.mul_pos hden (Nat.pow_pos (by decide))

/-- The digits of a quotient are as many as are kept, or more. -/
theorem quotient_digits_le {c' : Nat} (hc : 0 < c) (hc' : 0 < c') :
    (10 : ℚ) ^ 28 ≤ c / c' * 10 ^ ((decimalLength c' : Int) - decimalLength c + precision + 1) := by
  have hprecision : (precision : Int) = 28 := rfl
  have hpos : (0 : ℚ) < c' := by exact_mod_cast hc'
  have hle := zpow_le_scaled hc 0
  have hlt := scaled_lt_zpow c' 0
  rw [scaled, zpow_zero, mul_one] at hle hlt
  have hsum : adjusted c' 0 + 1 + 28 = adjusted c 0 + ((decimalLength c' : Int) - decimalLength c + precision + 1) := by
    rw [adjusted, adjusted]
    omega
  rw [div_mul_eq_mul_div, le_div_iff₀ hpos]
  calc (10 : ℚ) ^ 28 * c' ≤ 10 ^ 28 * 10 ^ (adjusted c' 0 + 1) := by gcongr
    _ = 10 ^ (adjusted c' 0 + 1 + 28) := by rw [zpow_add₀ (by norm_num) _ 28, mul_comm]; rfl
    _ = 10 ^ adjusted c 0 * 10 ^ ((decimalLength c' : Int) - decimalLength c + precision + 1) := by
      rw [hsum, zpow_add₀ (by norm_num)]
    _ ≤ c * 10 ^ ((decimalLength c' : Int) - decimalLength c + precision + 1) := by gcongr

/-- A whole number, or the next one if it is a multiple of five, stands for every number between the two. -/
theorem standIn_rounds {q : Nat} (hlarge : 10 ^ 28 ≤ q) (hbelow : (q : ℚ) < z) (habove : z < (q : ℚ) + 1) :
    let standIn := if q % 5 = 0 then q + 1 else q
    kept (scaled standIn unit) = kept (z * 10 ^ unit) ∧
      Int.log 10 (scaled standIn unit) = Int.log 10 (z * 10 ^ unit) := by
  intro standIn
  -- neither the number nor the one that stands in for it is a multiple of five
  have hfives : 5 * (q / 5) ≤ q ∧ q + 1 ≤ 5 * (q / 5 + 1) := by omega
  have hstand : 5 * (q / 5) < standIn ∧ standIn < 5 * (q / 5 + 1) ∧ 10 ^ 28 ≤ standIn := by
    simp only [standIn]
    split <;> omega
  have hfirst : 5 * ((q / 5 : Nat) : ℚ) ≤ q ∧ (q : ℚ) + 1 ≤ 5 * ((q / 5 : Nat) + 1) := by exact_mod_cast hfives
  have hlarge' : (10 : ℚ) ^ 28 ≤ q := by exact_mod_cast hlarge
  exact kept_eq_of_between (j := q / 5) (by exact_mod_cast hstand.2.2) (by linarith) (by exact_mod_cast hstand.1)
    (by exact_mod_cast hstand.2.1) (by linarith) (by linarith)

/-- The digits that stand for a quotient are rounded as the quotient is. -/
theorem quotientDigits_rounds {c' : Nat} (hc : 0 < c) (hc' : 0 < c') (ideal : Int) :
    let digits := quotientDigits c c' ideal
    kept (scaled digits.1 digits.2) = kept (c / c' * 10 ^ ideal) ∧
      Int.log 10 (scaled digits.1 digits.2) = Int.log 10 ((c : ℚ) / c' * 10 ^ ideal) := by
  have hdigits := quotient_digits_le hc hc'
  dsimp only
  rw [quotientDigits]
  dsimp only
  generalize (decimalLength c' : Int) - decimalLength c + precision + 1 = shift at hdigits ⊢
  have hratio := scaleTen_div c c' shift
  have hden := scaleTen_pos c hc' shift
  generalize scaleTen c c' shift = fraction at hratio hden ⊢
  obtain ⟨n, d⟩ := fraction
  dsimp only at hratio hden ⊢
  have hexact : (c : ℚ) / c' * 10 ^ ideal = (n : ℚ) / d * 10 ^ (ideal - shift) := by
    rw [hratio, mul_assoc, ← zpow_add₀ (by norm_num), add_sub_cancel]
  rw [hexact]
  rw [← hratio] at hdigits
  have hd : (0 : ℚ) < d := by exact_mod_cast hden
  split
  next hzero =>
    have hquotient : (n : ℚ) / d = (n / d : Nat) := (Nat.cast_div (Nat.dvd_of_mod_eq_zero hzero) hd.ne').symm
    rw [scaled_reduceTo, scaled, hquotient]
    exact ⟨rfl, rfl⟩
  next hinexact =>
    have hsplit : (n : ℚ) = d * (n / d : Nat) + (n % d : Nat) := by exact_mod_cast (Nat.div_add_mod n d).symm
    have hrest : (0 : ℚ) < (n % d : Nat) := by exact_mod_cast Nat.pos_of_ne_zero hinexact
    have hbelow : ((n / d : Nat) : ℚ) < n / d := by
      rw [lt_div_iff₀ hd]
      linarith
    have habove : (n : ℚ) / d < (n / d : Nat) + 1 := by
      rw [div_lt_iff₀ hd, mul_comm]
      exact_mod_cast Nat.lt_mul_div_succ n hden
    have hlarge : 10 ^ 28 ≤ n / d := by
      rw [le_div_iff₀ hd] at hdigits
      exact (Nat.le_div_iff_mul_le hden).mpr (by exact_mod_cast hdigits)
    exact standIn_rounds hlarge hbelow habove

end Quotients

section Operations

variable {a b d : Decimal} {s t negative : Bool}

theorem HasSize.nonneg (h : a.HasSize s x) : 0 ≤ x := by
  obtain ⟨c, e, -, rfl⟩ := h
  exact scaled_nonneg c e

theorem HasSize.isNan (h : a.HasSize s x) : a.isNan = false := by
  obtain ⟨c, e, rfl, -⟩ := h
  rfl

theorem Yields.ok {result : Except DecimalFault Decimal} (h : Yields result s x) (hlog : Int.log 10 x < emax) :
    ∃ d, result = .ok d ∧ d.HasSize s (kept x) := by
  rcases h with hok | ⟨-, hlarge⟩
  · exact hok
  · omega

theorem Yields.of_ok {result : Except DecimalFault Decimal} (h : Yields result s x) (hok : result = .ok d) :
    d.HasSize s (kept x) := by
  rcases h with ⟨d', hd', hsize⟩ | ⟨herror, -⟩
  · obtain rfl := Except.ok.inj (hok.symm.trans hd')
    exact hsize
  · rw [hok] at herror
    cases herror

theorem scaled_powTen (k : Nat) (e : Int) : scaled (powTen k) e = 10 ^ (e + k) := by
  rw [powTen, Nat.pow_eq, ← one_mul (10 ^ k), scaled_mul_pow, scaled_one]

theorem tenPower_yields (n : Int) : Yields (tenPower n) false (10 ^ n) := by
  have hlog : Int.log 10 ((10 : ℚ) ^ n) = n := Int.log_zpow (by decide) n
  have hprecision : precision = 28 := rfl
  have hetiny : etiny = -1000026 := rfl
  rw [tenPower]
  split
  next => exact scaled_one n ▸ finish_yields false 1 n
  next hn =>
    have hkept : kept (10 ^ n) = 10 ^ n := kept_zpow (by omega)
    split
    next hlarge => exact Or.inr ⟨rfl, by omega⟩
    next =>
      split
      next =>
        have hsum : 0 + (n.toNat : Int) = n := by omega
        exact Or.inl ⟨_, rfl, _, _, rfl, by rw [scaled_powTen, hsum, hkept]⟩
      next =>
        have hsum : n - (precision - 1 : Int) + (precision - 1 : Nat) = n := by omega
        exact Or.inl ⟨_, rfl, _, _, rfl, by rw [scaled_powTen, hsum, hkept]⟩

/-- The product of absolute values is rounded once. -/
theorem mul_yields (ha : a.HasSize s x) (hb : b.HasSize t y) : Yields (a.mul b) (s != t) (x * y) := by
  obtain ⟨c, e, rfl, rfl⟩ := ha
  obtain ⟨c', e', rfl, rfl⟩ := hb
  rw [scaled_mul_scaled]
  exact finish_yields _ _ _

/-- And so is the quotient, although it is computed from digits that only stand for it. -/
theorem div_yields (ha : a.HasSize s x) (hb : b.HasSize t y) (hy : 0 < y) : Yields (a.div b) (s != t) (x / y) := by
  obtain ⟨c, e, rfl, rfl⟩ := ha
  obtain ⟨c', e', rfl, rfl⟩ := hb
  have hc' : 0 < c' := Nat.pos_of_ne_zero fun h => by simp [h] at hy
  rw [div, if_neg hc'.ne']
  split
  next hc =>
    subst hc
    rw [scaled_zero, zero_div, ← scaled_zero (e - e')]
    exact finish_yields _ _ _
  next hc =>
    have hquotient : scaled c e / scaled c' e' = (c : ℚ) / c' * 10 ^ (e - e') := by
      rw [scaled, scaled, zpow_sub₀ (by norm_num)]
      field_simp
    have hdigits := quotientDigits_rounds (Nat.pos_of_ne_zero hc) hc' (e - e')
    rw [hquotient, Yields, ← hdigits.1, ← hdigits.2]
    exact finish_yields _ _ _

theorem div_zero (ha : a.HasSize s x) (hb : b.HasSize t 0) : a.div b ≠ .ok d := by
  obtain ⟨c, e, rfl, rfl⟩ := ha
  obtain ⟨c', e', rfl, hzero⟩ := hb
  rw [div, if_pos (scaled_eq_zero_iff.mp hzero)]
  exact nofun

end Operations

end Decimal

end ChainAlerts
