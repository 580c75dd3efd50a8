import Mathlib.Data.Nat.Digits.Lemmas
import ChainAlerts.TradeNote
import ChainAlerts.Proofs.DecimalRounding
import ChainAlerts.Proofs.JsonReading

/-! The value of an amount in dollars. It is computed in two rounded steps, a quotient by a power of ten and a product
with the price. While no step leaves the range of decimal numbers the value is within two units of the 27th digit of
the exact one, and exact if amount and price have no more digits between them than are kept; so a threshold is then
compared with the exact value, and an amount worth exactly the threshold reaches it. -/

namespace ChainAlerts

namespace Decimal

open Text

/-- The digits of a number from its first to the last that is not zero; zero has none. -/
def significantDigits (n : Nat) : Nat := ((Nat.digits 10 n).dropWhile (· = 0)).length

theorem exists_significant (n : Nat) : ∃ m k, n = m * 10 ^ k ∧ m < 10 ^ significantDigits n := by
  have hzero : Nat.ofDigits 10 ((Nat.digits 10 n).takeWhile (· = 0)) = 0 := by
    have hreplicate := List.eq_replicate_of_mem fun digit hdigit =>
      of_decide_eq_true (List.mem_takeWhile_imp (p := (· = 0)) (l := Nat.digits 10 n) hdigit)
    rw [hreplicate, Nat.ofDigits_replicate_zero]
  refine ⟨Nat.ofDigits 10 ((Nat.digits 10 n).dropWhile (· = 0)), ((Nat.digits 10 n).takeWhile (· = 0)).length, ?_, ?_⟩
  · calc n = Nat.ofDigits 10 (Nat.digits 10 n) := (Nat.ofDigits_digits 10 n).symm
      _ = Nat.ofDigits 10 ((Nat.digits 10 n).takeWhile (· = 0) ++ (Nat.digits 10 n).dropWhile (· = 0)) := by
        rw [List.takeWhile_append_dropWhile]
      _ = _ := by rw [Nat.ofDigits_append, hzero, zero_add, mul_comm]
  · refine Nat.ofDigits_lt_base_pow_length (by decide) fun digit hdigit => ?_
    exact Nat.digits_lt_base (by decide) ((List.dropWhile_sublist _).mem hdigit)

/-- A number of at most a thousand digits, the first or the last of them within a thousand places of the point. -/
def Moderate : Decimal → Prop
  | .finite _ c e => decimalLength c ≤ 1000 ∧
    (-1000 ≤ e ∧ e ≤ 1000 ∨ -1000 ≤ adjusted c e ∧ adjusted c e ≤ 1000)
  | _ => False

end Decimal

open Decimal

theorem div_zpow_eq_scaled (n : Nat) (decimals : Int) : (n : ℚ) / 10 ^ decimals = scaled n (-decimals) := by
  rw [scaled, zpow_neg, div_eq_mul_inv]

/-- What an amount is worth at a price per whole token: what is kept of the whole tokens, times the price. -/
def dollars (amount : Int) (price : ℚ) (decimals : Int) : ℚ :=
  kept (kept (amount.natAbs / kept (10 ^ decimals)) * price)

variable {amount decimals : Int} {p v : Decimal} {price : ℚ}

theorem Decimal.ofNat_hasSize (n : Nat) : (Decimal.ofNat n).HasSize false n := ⟨n, 0, rfl, by simp [scaled]⟩

theorem usdValue_eq_ok :
    usdValue amount (some p) (some decimals) = .ok (some v) ↔
      ∃ unit tokens, tenPower decimals = .ok unit ∧ (Decimal.ofNat amount.natAbs).div unit = .ok tokens ∧
        tokens.mul p = .ok v := by
  rw [usdValue, except_mapError_eq_ok]
  constructor
  · intro h
    obtain ⟨unit, hunit, h⟩ := except_bind_eq_ok.mp h
    obtain ⟨tokens, htokens, h⟩ := except_bind_eq_ok.mp h
    obtain ⟨value, hvalue, h⟩ := except_bind_eq_ok.mp h
    obtain rfl := Option.some.inj (Except.ok.inj h)
    exact ⟨unit, tokens, hunit, htokens, hvalue⟩
  · rintro ⟨unit, tokens, hunit, htokens, hvalue⟩
    simp [hunit, htokens, hvalue]

/-- There is a value unless a step is too large. -/
theorem usdValue_ok (hprice : p.HasSize false price) (hunit : Int.log 10 ((10 : ℚ) ^ decimals) < emax)
    (hpos : 0 < kept (10 ^ decimals)) (htokens : Int.log 10 (amount.natAbs / kept (10 ^ decimals)) < emax)
    (hvalue : Int.log 10 (kept (amount.natAbs / kept (10 ^ decimals)) * price) < emax) :
    ∃ v, usdValue amount (some p) (some decimals) = .ok (some v) ∧ v.HasSize false (dollars amount price decimals) := by
  obtain ⟨unit, hunit, hunitSize⟩ := (tenPower_yields decimals).ok hunit
  obtain ⟨tokens, htokens, htokensSize⟩ := (div_yields (ofNat_hasSize _) hunitSize hpos).ok htokens
  obtain ⟨v, hv, hsize⟩ := (mul_yields htokensSize hprice).ok hvalue
  exact ⟨v, usdValue_eq_ok.mpr ⟨unit, tokens, hunit, htokens, hv⟩, hsize⟩

/-- A threshold in dollars is compared with the value. -/
theorem passes_usd {least : Decimal} {price : Option Decimal} {decimals : Option Int} (hleast : least.isNan = false)
    (hv : v.isNan = false) (h : usdValue amount price decimals = .ok (some v)) :
    (MinAmount.usd least).passes amount price decimals = .ok (decide (least.rank ≤ v.rank)) := by
  rw [MinAmount.passes, h, except_ok_bind]
  simp only [atMost, le_eq_ok hleast hv]
  rfl

/-- Two roundings in the normal range err by at most half a unit each. -/
theorem abs_kept_mul_sub_le {x y : ℚ} (hx : 0 < x) (hy : 0 < y) (hlast : etiny ≤ Int.log 10 x - 27)
    (hlast' : etiny ≤ Int.log 10 (kept x * y) - 27) : |kept (kept x * y) - x * y| ≤ x * y * (2 / 10 ^ 27) := by
  have hcases := lastExponent_cases x
  have hkept : 0 < kept x := (log_kept_cases hx (by omega)).1
  have hfirst := abs_kept_sub_le hx hlast
  have hsecond := abs_kept_sub_le (mul_pos hkept hy) hlast'
  have hscaled : |kept x * y - x * y| ≤ x * (5 / 10 ^ 28) * y := by
    rw [← sub_mul, abs_mul, abs_of_pos hy]
    gcongr
  have habove : kept x * y ≤ (x + x * (5 / 10 ^ 28)) * y := by
    gcongr
    linarith [(abs_le.mp hfirst).2]
  have hproduct : 0 < x * y := mul_pos hx hy
  calc |kept (kept x * y) - x * y| ≤ |kept (kept x * y) - kept x * y| + |kept x * y - x * y| := abs_sub_le _ _ _
    _ ≤ kept x * y * (5 / 10 ^ 28) + x * (5 / 10 ^ 28) * y := add_le_add hsecond hscaled
    _ ≤ x * y * (2 / 10 ^ 27) := by linarith

/-- Two roundings leave alone what has no more digits in all than are kept. -/
theorem kept_mul_scaled {m n i j : Nat} {e f : Int} (hm : m < 10 ^ i) (hn : n < 10 ^ j) (hdigits : i + j ≤ precision)
    (he : etiny ≤ e) (hf : etiny ≤ e + f) : kept (kept (scaled m e) * scaled n f) = scaled m e * scaled n f := by
  have hfirst : m < 10 ^ precision := hm.trans_le (Nat.pow_le_pow_right (by decide) (by omega))
  have hsecond : m * n < 10 ^ precision := by
    calc m * n < 10 ^ i * 10 ^ j := Nat.mul_lt_mul'' hm hn
      _ = 10 ^ (i + j) := (Nat.pow_add 10 i j).symm
      _ ≤ 10 ^ precision := Nat.pow_le_pow_right (by decide) hdigits
  rw [kept_eq_self hfirst he, scaled_mul_scaled, kept_eq_self hsecond hf]

/-- Amounts and prices with which no step leaves the normal range. -/
structure Moderate (amount decimals : Int) (c : Nat) (e : Int) : Prop where
  amount : amount.natAbs < 10 ^ 1000
  decimals : 0 ≤ decimals ∧ decimals ≤ 1000
  positive : 0 < c
  price : (Decimal.finite false c e).Moderate

namespace Moderate

variable {c : Nat} {e : Int}

theorem logs (h : Moderate amount decimals c e) (hpos : 0 < amount.natAbs) :
    let tokens := scaled amount.natAbs (-decimals)
    (-1000 ≤ Int.log 10 tokens ∧ Int.log 10 tokens < 1000) ∧ 0 < kept tokens ∧
      -4000 ≤ Int.log 10 (kept tokens * scaled c e) ∧ Int.log 10 (kept tokens * scaled c e) < 4000 := by
  intro tokens
  have htokens : 0 < tokens := scaled_pos hpos _
  have hlog : Int.log 10 tokens = adjusted amount.natAbs (-decimals) := log_scaled hpos _
  have hlogPrice : Int.log 10 (scaled c e) = adjusted c e := log_scaled h.positive e
  have hlength := Text.decimalLength_pos amount.natAbs
  have hlength' := Text.decimalLength_pos c
  have hdigits := (Text.decimalLength_le_iff (by decide)).mpr h.amount
  have hdecimals := h.decimals
  obtain ⟨hprice, hexponent⟩ := h.price
  have hetiny : etiny = -1000026 := rfl
  have hcases := lastExponent_cases tokens
  rw [adjusted] at hlog hlogPrice hexponent
  have hkept := log_kept_cases htokens (by omega)
  have hvalue := log_mul_cases hkept.1 (scaled_pos h.positive e)
  exact ⟨by omega, hkept.1, by omega, by omega⟩

variable (h : Moderate amount decimals c e)
include h

theorem kept_unit : kept (10 ^ decimals) = 10 ^ decimals := by
  have hdecimals := h.decimals
  have hetiny : etiny = -1000026 := rfl
  exact kept_zpow (by omega)

theorem dollars_eq (price : ℚ) :
    dollars amount price decimals = kept (kept (scaled amount.natAbs (-decimals)) * price) := by
  rw [dollars, h.kept_unit, div_zpow_eq_scaled]

theorem has_value : ∃ v, usdValue amount (some (.finite false c e)) (some decimals) = .ok (some v) ∧
    v.HasSize false (dollars amount (scaled c e) decimals) := by
  have hdecimals := h.decimals
  have hemax : emax = 999999 := rfl
  have hzero : Int.log 10 (0 : ℚ) < emax := by rw [Int.log_zero_right]; decide
  have hunit : Int.log 10 ((10 : ℚ) ^ decimals) = decimals := Int.log_zpow (by decide) _
  refine usdValue_ok ⟨c, e, rfl, rfl⟩ (by omega) ?_ ?_ ?_ <;> rw [h.kept_unit]
  · positivity
  · rw [div_zpow_eq_scaled]
    rcases Nat.eq_zero_or_pos amount.natAbs with hnone | hpos
    · rwa [hnone, scaled_zero]
    · have hlogs := h.logs hpos
      omega
  · rw [div_zpow_eq_scaled]
    rcases Nat.eq_zero_or_pos amount.natAbs with hnone | hpos
    · rwa [hnone, scaled_zero, kept_zero, zero_mul]
    · have hlogs := h.logs hpos
      omega

theorem abs_dollars_sub_le :
    |dollars amount (scaled c e) decimals - scaled amount.natAbs (-decimals) * scaled c e| ≤
      scaled amount.natAbs (-decimals) * scaled c e * (2 / 10 ^ 27) := by
  have hetiny : etiny = -1000026 := rfl
  rw [h.dollars_eq]
  rcases Nat.eq_zero_or_pos amount.natAbs with hnone | hpos
  · simp [hnone]
  · have hlogs := h.logs hpos
    exact abs_kept_mul_sub_le (scaled_pos hpos _) (scaled_pos h.positive e) (by omega) (by omega)

theorem dollars_exact (hdigits : significantDigits amount.natAbs + significantDigits c ≤ precision) :
    dollars amount (scaled c e) decimals = scaled amount.natAbs (-decimals) * scaled c e := by
  have hdecimals := h.decimals
  have hexponent := h.price.2
  have hdigits' := h.price.1
  have hlength := Text.decimalLength_pos c
  have hetiny : etiny = -1000026 := rfl
  rw [adjusted] at hexponent
  obtain ⟨m, k, hm, hmlt⟩ := exists_significant amount.natAbs
  obtain ⟨n, j, hn, hnlt⟩ := exists_significant c
  rw [h.dollars_eq, hm, hn, scaled_mul_pow, scaled_mul_pow]
  exact kept_mul_scaled hmlt hnlt hdigits (by omega) (by omega)

end Moderate

/-- The gate in dollars is accurate, and inclusive at the boundary. -/
theorem usd_gate {c : Nat} {e : Int} (h : Moderate amount decimals c e) :
    let p := Decimal.finite false c e
    let exact : ℚ := amount.natAbs * p.value / 10 ^ decimals
    ∃ c' e', let v := Decimal.finite false c' e'
      usdValue amount (some p) (some decimals) = .ok (some v) ∧
      (∀ t : Trade, t.amount = amount → t.price = some p → t.metadata.map (·.decimals) = some decimals →
        t.usd = .ok (some v)) ∧
      |v.value - exact| ≤ exact * (2 / 10 ^ 27) ∧
      (significantDigits amount.natAbs + significantDigits c ≤ 28 →
        v.value = exact ∧
        ∀ s u f, (MinAmount.usd (.finite s u f)).passes amount (some p) (some decimals) =
          .ok (decide ((Decimal.finite s u f).value * 10 ^ decimals ≤ amount.natAbs * p.value))) := by
  intro p exact
  have hexact : exact = scaled amount.natAbs (-decimals) * scaled c e := by
    have hprice : p.value = scaled c e := rfl
    rw [← div_zpow_eq_scaled, ← mul_div_right_comm, ← hprice]
  obtain ⟨v, hv, c', e', rfl, hsize⟩ := h.has_value
  have hvalue : (Decimal.finite false c' e').value = dollars amount (scaled c e) decimals := hsize
  refine ⟨c', e', hv, ?_, ?_, fun hdigits => ?_⟩
  · intro t hamount hprice hmetadata
    rw [Trade.usd, hamount, hprice, hmetadata, hv]
  · rw [hvalue, hexact]
    exact h.abs_dollars_sub_le
  · rw [hvalue, h.dollars_exact hdigits, ← hexact]
    refine ⟨rfl, fun s u f => ?_⟩
    have hreaches : (Decimal.finite s u f).rank ≤ (Decimal.finite false c' e').rank ↔
        (Decimal.finite s u f).value * 10 ^ decimals ≤ amount.natAbs * p.value := by
      rw [finite_rank_le_iff, hvalue, h.dollars_exact hdigits, ← hexact, le_div_iff₀ (by positivity)]
    exact (passes_usd rfl rfl hv).trans (congrArg Except.ok (decide_eq_decide.mpr hreaches))

/-- Five hundred units at two cents are ten dollars, and pass a gate of ten dollars. -/
theorem usd_gate_at_ten_dollars :
    Moderate (-500) 0 2 (-2) ∧ significantDigits 500 + significantDigits 2 ≤ 28 ∧
      (MinAmount.usd (.ofNat 10)).passes (-500) (some (.finite false 2 (-2))) (some 0) = .ok true := by
  have hmoderate : Moderate (-500) 0 2 (-2) :=
    ⟨by decide +kernel, by decide, by decide, by decide, Or.inl ⟨by decide, by decide⟩⟩
  have hdigits : significantDigits 500 + significantDigits 2 ≤ 28 := by simp [significantDigits]
  obtain ⟨c', e', -, -, -, hexact⟩ := usd_gate hmoderate
  refine ⟨hmoderate, hdigits, ((hexact hdigits).2 false 10 0).trans ?_⟩
  have hreached : (Decimal.finite false 10 0).value * 10 ^ (0 : Int) ≤
      (Int.natAbs (-500) : ℚ) * (Decimal.finite false 2 (-2)).value := by
    norm_num [scaled]
  rw [decide_eq_true hreached]

end ChainAlerts
