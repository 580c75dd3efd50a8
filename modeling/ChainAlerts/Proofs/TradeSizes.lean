import ChainAlerts.Proofs.AttachmentChoice
import ChainAlerts.Proofs.DollarValues
import ChainAlerts.Proofs.DoubleOverflow

/-! How a notification grows with its trade. A larger amount is worth no less, since each rounded step is monotone. So
it passes every gate that a smaller one passes, has at least as many signs in its row, goes with an attachment for no
smaller a threshold, and alerts of a whale if the smaller one does; but a value that is too large for a floating-point
number cannot be shown, and such an alert is an error. -/

namespace ChainAlerts

open Decimal

namespace Double

/-- A rounded number is finite or an infinity of its sign. -/
theorem ofRatio_cases (negative : Bool) (num den : Nat) :
    (ofRatio negative num den).isFinite ∨ ofRatio negative num den = .infinite negative := by
  unfold ofRatio
  dsimp only
  split_ifs
  · exact Or.inl rfl
  all_goals first | exact Or.inl rfl | exact Or.inr rfl

theorem ofDecimal_cases (negative : Bool) (c : Nat) (e : Int) :
    (ofDecimal negative c e).isFinite ∨ ofDecimal negative c e = .infinite negative := by
  rw [ofDecimal]
  split
  · exact Or.inl rfl
  · dsimp only
    split
    · exact Or.inr rfl
    · split
      · exact Or.inl rfl
      · exact ofRatio_cases _ _ _

theorem one_le_overflowBound : (1 : ℚ) ≤ overflowBound := by
  exact_mod_cast (by decide +kernel : 1 ≤ overflowBound)

theorem overflowBound_le : (overflowBound : ℚ) ≤ 10 ^ (400 : Int) := by
  exact_mod_cast (by decide +kernel : overflowBound ≤ 10 ^ 400)

/-- A decimal number is rounded to a finite one exactly below the bound. -/
theorem isFinite_ofDecimal_iff (negative : Bool) (c : Nat) (e : Int) :
    (ofDecimal negative c e).isFinite ↔ scaled c e < overflowBound := by
  rw [ofDecimal]
  split
  next hc =>
    rw [hc, scaled_zero]
    exact iff_of_true rfl (zero_lt_one.trans_le one_le_overflowBound)
  next hc =>
    have hpos := Nat.pos_of_ne_zero hc
    have hsize : adjusted c e = e + Text.decimalLength c - 1 := rfl
    dsimp only
    split
    next htop =>
      refine iff_of_false Bool.false_ne_true (not_lt.mpr ?_)
      calc (overflowBound : ℚ) ≤ 10 ^ (400 : Int) := overflowBound_le
        _ ≤ 10 ^ adjusted c e := zpow_le_zpow_right₀ (by norm_num) (by omega)
        _ ≤ scaled c e := zpow_le_scaled hpos e
    next htop =>
      split
      next hbottom =>
        refine iff_of_true rfl ?_
        calc scaled c e < 10 ^ (adjusted c e + 1) := scaled_lt_zpow c e
          _ ≤ (10 : ℚ) ^ (0 : Int) := zpow_le_zpow_right₀ (by norm_num) (by omega)
          _ ≤ overflowBound := one_le_overflowBound
      next =>
        have hden := scaleTen_pos c Nat.one_pos e
        have hratio := scaleTen_div c 1 e
        have hd : (0 : ℚ) < (scaleTen c 1 e).2 := by exact_mod_cast hden
        rw [Nat.cast_one, div_one, ← scaled] at hratio
        have hnum : 0 < (scaleTen c 1 e).1 := by
          refine Nat.pos_of_ne_zero fun hzero => ?_
          rw [hzero, Nat.cast_zero, zero_div] at hratio
          exact (scaled_pos hpos e).ne hratio
        rw [isFinite_ofRatio_iff negative hnum hden, ← hratio, div_lt_iff₀ hd]
        exact_mod_cast Iff.rfl

end Double

namespace Amount

theorem usdText_ok_of_isFinite {x : Double} (h : x.isFinite) : ∃ text, usdText x = .ok text := by
  cases x with
  | finite s m e =>
      unfold usdText
      split
      · exact ⟨_, rfl⟩
      · exact ⟨_, rfl⟩
  | infinite s => cases h
  | nan => cases h

/-- A value in dollars can be shown exactly if it is below the bound of floating-point numbers. -/
theorem usdOfDecimal_cases {d : Decimal} {x : ℚ} (h : d.HasSize false x) :
    (x < Double.overflowBound ∧ ∃ text, usdOfDecimal d = .ok text) ∨
      (Double.overflowBound : ℚ) ≤ x ∧ usdOfDecimal d = .error .infinityToInteger := by
  obtain ⟨c, e, rfl, rfl⟩ := h
  rw [← not_lt, ← Double.isFinite_ofDecimal_iff false]
  rcases Double.ofDecimal_cases false c e with hfinite | hinfinite
  · exact Or.inl ⟨hfinite, usdText_ok_of_isFinite hfinite⟩
  · rw [usdOfDecimal, toDouble?, hinfinite]
    exact Or.inr ⟨Bool.false_ne_true, rfl⟩

end Amount

section Sizes

variable {a b decimals : Int} {price : ℚ}

/-- A larger amount is worth no less, whichever digits its steps keep. -/
theorem dollars_mono (hsize : a.natAbs ≤ b.natAbs) (hprice : 0 ≤ price) :
    dollars a price decimals ≤ dollars b price decimals := by
  have hunit := kept_nonneg (10 ^ decimals)
  have hcast : (a.natAbs : ℚ) ≤ b.natAbs := by exact_mod_cast hsize
  refine kept_mono (mul_nonneg (kept_nonneg _) hprice) (mul_le_mul_of_nonneg_right ?_ hprice)
  exact kept_mono (by positivity) (by gcongr)

/-- With a power of ten that can be divided by, an amount has the value it is worth unless that is too large. -/
theorem usdValue_yields {c : Nat} {e : Int} {unit : Decimal} (hunit : tenPower decimals = .ok unit)
    (hsize : unit.HasSize false (kept (10 ^ decimals))) (hpos : 0 < kept (10 ^ decimals)) (amount : Int) :
    (∃ v, usdValue amount (some (.finite false c e)) (some decimals) = .ok (some v) ∧
        v.HasSize false (dollars amount (scaled c e) decimals)) ∨
      usdValue amount (some (.finite false c e)) (some decimals) = .error (.arithmetic .overflow) := by
  have hprice : (Decimal.finite false c e).HasSize false (scaled c e) := ⟨c, e, rfl, rfl⟩
  obtain ⟨tokens, htokens, htokensSize⟩ | ⟨htokens, -⟩ := div_yields (ofNat_hasSize amount.natAbs) hsize hpos
  · obtain ⟨v, hv, hvalue⟩ | ⟨hv, -⟩ := mul_yields htokensSize hprice
    · exact Or.inl ⟨v, usdValue_eq_ok.mpr ⟨unit, tokens, hunit, htokens, hv⟩, hvalue⟩
    · refine Or.inr ?_
      rw [usdValue, hunit, except_ok_bind, htokens, except_ok_bind, hv]
      rfl
  · refine Or.inr ?_
    rw [usdValue, hunit, except_ok_bind, htokens]
    rfl

/-- A price that is known is a positive number. -/
def PositiveIfKnown (price : Option Decimal) : Prop := ∀ p ∈ price, ∃ c e, p = .finite false c e ∧ 0 < c

/-- How the value of a larger amount compares: both are unknown, or it is no less. Nothing is said if the smaller amount
cannot be valued. -/
inductive Grows : Except Fault (Option Decimal) → Except Fault (Option Decimal) → Prop where
  | failed (cause : Fault) (value : Except Fault (Option Decimal)) : Grows (.error cause) value
  | unknown : Grows (.ok none) (.ok none)
  | known {v w : Decimal} {x y : ℚ} (small : v.HasSize false x) (large : w.HasSize false y) (le : x ≤ y) :
      Grows (.ok (some v)) (.ok (some w))

/-- The value grows with the amount. -/
theorem usdValue_grows {price : Option Decimal} {decimals : Option Int} (hprice : PositiveIfKnown price)
    (hsize : a.natAbs ≤ b.natAbs) (hlarge : usdValue b price decimals ≠ .error (.arithmetic .overflow)) :
    Grows (usdValue a price decimals) (usdValue b price decimals) := by
  cases price with
  | none => exact .unknown
  | some p =>
      cases decimals with
      | none => exact .unknown
      | some d =>
          obtain ⟨c, e, rfl, hc⟩ := hprice p rfl
          obtain ⟨unit, hunit, hunitSize⟩ | ⟨hunit, -⟩ := tenPower_yields d
          · rcases (kept_nonneg (10 ^ d)).eq_or_lt with hzero | hpos
            · rw [← hzero] at hunitSize
              cases htokens : (Decimal.ofNat a.natAbs).div unit with
              | ok tokens => exact absurd htokens (div_zero (ofNat_hasSize _) hunitSize)
              | error cause =>
                  rw [usdValue, hunit, except_ok_bind, htokens]
                  exact .failed _ _
            · obtain ⟨v, hv, hvalue⟩ | hv := usdValue_yields (c := c) (e := e) hunit hunitSize hpos a
              · obtain ⟨w, hw, hworth⟩ | hw := usdValue_yields (c := c) (e := e) hunit hunitSize hpos b
                · rw [hv, hw]
                  exact .known hvalue hworth (dollars_mono hsize (scaled_nonneg c e))
                · exact absurd hw hlarge
              · rw [hv]
                exact .failed _ _
          · rw [usdValue, hunit]
            exact .failed _ _

theorem Decimal.HasSize.value {v : Decimal} {x : ℚ} (h : v.HasSize false x) : v.value = x := by
  obtain ⟨c, e, rfl, rfl⟩ := h
  rfl

theorem Decimal.HasSize.rank_le {v w : Decimal} {x y : ℚ} (hv : v.HasSize false x) (hw : w.HasSize false y)
    (h : x ≤ y) : v.rank ≤ w.rank := by
  obtain ⟨c, e, rfl, rfl⟩ := hv
  obtain ⟨c', e', rfl, rfl⟩ := hw
  exact finite_rank_le_iff.mpr h

/-- A threshold other than NaN. -/
def MinAmount.IsNumber : MinAmount → Prop
  | .token _ => True
  | .usd least => least.isNan = false

/-- What a smaller amount passes, a larger one passes. -/
theorem MinAmount.passes_grows {least : MinAmount} {price : Option Decimal} {decimals : Option Int}
    (hleast : least.IsNumber) (hsize : a.natAbs ≤ b.natAbs)
    (h : Grows (usdValue a price decimals) (usdValue b price decimals))
    (hpasses : least.passes a price decimals = .ok true) : least.passes b price decimals = .ok true := by
  cases least with
  | token raw =>
      have hraw : raw ≤ a.natAbs := of_decide_eq_true (Except.ok.inj hpasses)
      exact congrArg Except.ok (decide_eq_true (hraw.trans (by exact_mod_cast hsize)))
  | usd least =>
      generalize hv : usdValue a price decimals = value at h
      generalize hw : usdValue b price decimals = value' at h
      cases h with
      | failed cause value =>
          rw [MinAmount.passes, hv] at hpasses
          cases hpasses
      | unknown =>
          rw [MinAmount.passes, hw]
          rfl
      | known small large le =>
          have hreached := (passes_usd hleast small.isNan hv).symm.trans hpasses
          have hrank := of_decide_eq_true (Except.ok.inj hreached)
          rw [passes_usd hleast large.isNan hw, decide_eq_true (hrank.trans (small.rank_le large le))]

theorem Currency.magnitude_grows {value value' : Except Fault (Option Decimal)} {m : Decimal} (currency : Currency)
    (hsize : a.natAbs ≤ b.natAbs) (h : Grows value value') (hm : currency.magnitude a value = .ok m) :
    ∃ m', currency.magnitude b value' = .ok m' ∧ m.isNan = false ∧ m'.isNan = false ∧ m.rank ≤ m'.rank := by
  have hcast : (a.natAbs : ℚ) ≤ b.natAbs := by exact_mod_cast hsize
  have hcounted : ∀ {v : Decimal} {x : ℚ}, v.HasSize false x →
      (if v.isZero then Decimal.ofNat 0 else v).HasSize false x := by
    rintro v x ⟨c, e, rfl, rfl⟩
    split
    next hzero =>
      have hc : c = 0 := by simpa [isZero] using hzero
      exact ⟨0, 0, rfl, by rw [hc, scaled_zero, scaled_zero]⟩
    next => exact ⟨c, e, rfl, rfl⟩
  cases currency with
  | token =>
      obtain rfl := Except.ok.inj hm
      exact ⟨_, rfl, rfl, rfl, (ofNat_hasSize _).rank_le (ofNat_hasSize _) hcast⟩
  | usd =>
      cases h with
      | failed cause value => cases hm
      | unknown =>
          obtain rfl := Except.ok.inj hm
          exact ⟨_, rfl, rfl, rfl, le_rfl⟩
      | known small large le =>
          obtain rfl := Except.ok.inj hm
          exact ⟨_, rfl, (hcounted small).isNan, (hcounted large).isNan, (hcounted small).rank_le (hcounted large) le⟩

/-- A greater magnitude goes with an attachment for no smaller a threshold. -/
theorem Attachment.Chooses.grows {m m' : Decimal} {given : List Attachment} {chosen : Attachment}
    {chosen' : Option Attachment} (h : Chooses m given (some chosen)) (h' : Chooses m' given chosen')
    (hle : m.rank ≤ m'.rank) : ∃ larger, chosen' = some larger ∧ chosen.threshold.rank ≤ larger.threshold.rank := by
  cases h with
  | last split reached greatest last =>
      have hmem : chosen ∈ given := by simp [split]
      have hreached := reached.trans hle
      cases chosen' with
      | none => exact absurd hreached (h'.eq_none_iff.mp rfl chosen hmem)
      | some larger => exact ⟨larger, rfl, h'.le hmem hreached⟩

namespace Component

/-- How many signs stand for a value: one for each unit of it, at least one, and at most so many. -/
def emojiCount (value : Except Fault (Option Decimal)) (unit : Decimal) (maxEmojis : Int) : Except Fault Nat := do
  match ← value with
  | none => return 1
  | some value =>
    if ← unit.isNonpositive.mapError .arithmetic then return 1
    return (max 1 (min maxEmojis (← quotient value unit))).toNat

theorem repeated_one {sign : String} (h : sign.length ≤ longest) : repeated sign 1 = .ok sign := by
  have hshort : ¬(repeatBound ≤ 1 ∨ longest < 1 * sign.length) := by
    rw [Nat.one_mul]
    exact fun hlong => hlong.elim (by decide) (Nat.not_lt.mpr h)
  rw [repeated, if_neg hshort]
  split
  next hempty => rw [hempty]
  next => simp

/-- The row is the sign as often as it is counted. -/
theorem emojiRow_eq (t : Trade) {sign : String} (h : sign.length ≤ longest) (unit : Decimal) (maxEmojis : Int) :
    emojiRow t sign unit maxEmojis = emojiCount t.usd unit maxEmojis >>= repeated sign := by
  have hone : ((return 1 : Except Fault Nat) >>= repeated sign) = .ok sign := repeated_one h
  rw [emojiRow, emojiCount]
  cases t.usd with
  | error cause => rfl
  | ok value =>
      cases value with
      | none => exact hone.symm
      | some value =>
          simp only [except_ok_bind]
          cases unit.isNonpositive.mapError Fault.arithmetic with
          | error cause => rfl
          | ok nonpositive =>
              cases nonpositive with
              | true => exact hone.symm
              | false =>
                  simp only [except_ok_bind]
                  cases quotient value unit <;> rfl

theorem truncate_of_hasSize {d : Decimal} {x : ℚ} (h : d.HasSize false x) :
    ∃ c e, d = .finite false c e ∧ d.truncate? = some (⌊x⌋₊ : Int) := by
  obtain ⟨c, e, rfl, rfl⟩ := h
  have hratio := scaleTen_div c 1 e
  rw [Nat.cast_one, div_one, ← scaled] at hratio
  refine ⟨c, e, rfl, ?_⟩
  rw [truncate?, ← hratio, Nat.floor_div_eq_div]
  rfl

/-- A unit that is not refused is infinite or positive. -/
theorem positive_of_isNonpositive {unit : Decimal} (hnan : unit.isNan = false) (h : unit.isNonpositive = .ok false) :
    unit = .infinite false ∨ ∃ u, 0 < u ∧ unit.HasSize false u := by
  have hrank : ¬unit.rank ≤ (Decimal.ofNat 0).rank :=
    of_decide_eq_false (Except.ok.inj ((le_eq_ok hnan rfl).symm.trans h))
  cases unit with
  | nan => cases hnan
  | infinite s =>
      cases s with
      | true => exact absurd bot_le hrank
      | false => exact Or.inl rfl
  | finite s c e =>
      have hvalue : ¬(Decimal.finite s c e).value ≤ (Decimal.ofNat 0).value :=
        fun hle => hrank (finite_rank_le_iff.mpr hle)
      have hzero : (Decimal.ofNat 0).value = 0 := scaled_zero 0
      rw [hzero, value_finite, not_le] at hvalue
      cases s with
      | true => exact absurd hvalue (not_lt.mpr (neg_nonpos.mpr (scaled_nonneg c e)))
      | false => exact Or.inr ⟨_, hvalue, c, e, rfl, rfl⟩

/-- A larger value goes at least as often into a unit. -/
theorem quotient_grows {v w unit : Decimal} {x y : ℚ} {n : Int} (small : v.HasSize false x) (large : w.HasSize false y)
    (hle : x ≤ y) (hunit : unit = .infinite false ∨ ∃ u, 0 < u ∧ unit.HasSize false u) (hn : quotient v unit = .ok n)
    (hlarge : w.div unit ≠ .error .overflow) : ∃ n', quotient w unit = .ok n' ∧ n ≤ n' := by
  rcases hunit with rfl | ⟨u, hu, hunit⟩
  · obtain ⟨c, e, rfl, -⟩ := small
    obtain ⟨c', e', rfl, -⟩ := large
    exact ⟨n, hn, le_rfl⟩
  · have htimes : ∀ {d result : Decimal} {z : ℚ}, d.div unit = .ok result → result.HasSize false z →
        quotient d unit = .ok (⌊z⌋₊ : Int) := by
      intro d result z hresult hsize
      obtain ⟨c, e, rfl, htruncate⟩ := truncate_of_hasSize hsize
      rw [quotient, hresult]
      exact congrArg (fun n : Option Int => Except.ok (n.getD 0)) htruncate
    obtain ⟨d', hd', hsize'⟩ | ⟨herror, -⟩ := div_yields large hunit hu
    · obtain ⟨d, hd, hsize⟩ | ⟨herror, -⟩ := div_yields small hunit hu
      · refine ⟨_, htimes hd' hsize', ?_⟩
        obtain rfl := Except.ok.inj ((htimes hd hsize).symm.trans hn)
        have hkept := kept_mono (div_nonneg small.nonneg hu.le) (div_le_div_of_nonneg_right hle hu.le)
        exact_mod_cast Nat.floor_le_floor hkept
      · rw [quotient, herror] at hn
        cases hn
    · exact absurd herror hlarge

theorem emojiCount_known (v : Decimal) {unit : Decimal} (maxEmojis : Int) (h : unit.isNonpositive = .ok false) :
    emojiCount (.ok (some v)) unit maxEmojis =
      quotient v unit >>= fun times => .ok (max 1 (min maxEmojis times)).toNat := by
  rw [emojiCount, except_ok_bind]
  dsimp only
  rw [h]
  rfl

/-- The count grows with the value. -/
theorem emojiCount_grows {value value' : Except Fault (Option Decimal)} {unit : Decimal} {maxEmojis : Int} {n : Nat}
    (h : Grows value value') (hunit : unit.isNan = false)
    (hlarge : ∀ w, value' = .ok (some w) → w.div unit ≠ .error .overflow)
    (hn : emojiCount value unit maxEmojis = .ok n) : ∃ n', emojiCount value' unit maxEmojis = .ok n' ∧ n ≤ n' := by
  cases h with
  | failed cause value => cases hn
  | unknown => exact ⟨n, hn, le_rfl⟩
  | known small large le =>
      have hdefined := le_eq_ok (b := .ofNat 0) hunit rfl
      rw [← isNonpositive] at hdefined
      by_cases hnonpositive : unit.rank ≤ (Decimal.ofNat 0).rank
      · rw [decide_eq_true hnonpositive] at hdefined
        rw [emojiCount, except_ok_bind] at hn ⊢
        dsimp only at hn ⊢
        rw [hdefined] at hn ⊢
        exact ⟨n, hn, le_rfl⟩
      · rw [decide_eq_false hnonpositive] at hdefined
        rw [emojiCount_known _ _ hdefined] at hn ⊢
        obtain ⟨times, htimes, hn⟩ := except_bind_eq_ok.mp hn
        obtain ⟨times', htimes', hle⟩ := quotient_grows small large le (positive_of_isNonpositive hunit hdefined) htimes
          (hlarge _ rfl)
        obtain rfl := Except.ok.inj hn
        rw [htimes']
        exact ⟨_, rfl, by omega⟩

/-- The text of an alert. -/
def whaleText (value : String) : String := Markdown.escape (whale ++ " Whale alert! " ++ value)

theorem whaleText_ne_empty (value : String) : whaleText value ≠ "" :=
  Markdown.escape_ne_empty fun hempty => by simp [String.append_eq_empty_iff] at hempty

/-- A trade is announced as that of a whale. -/
def AlertsWhale (t : Trade) (threshold : Decimal) : Prop :=
  ∃ value, plainText t (.whaleAlert threshold) = .ok (whaleText value)

variable {t : Trade} {threshold v : Decimal} {x : ℚ}

theorem whaleLine_known (hv : t.usd = .ok (some v)) (hsize : v.HasSize false x) (hthreshold : threshold.isNan = false) :
    whaleLine t threshold =
      if v.rank < threshold.rank then .ok "" else (Amount.usdOfDecimal v).map whaleText := by
  rw [whaleLine, hv, except_ok_bind]
  dsimp only
  rw [lt_eq_ok hsize.isNan hthreshold]
  split
  next hlt =>
    rw [decide_eq_true hlt]
    rfl
  next hlt =>
    rw [decide_eq_false hlt]
    rfl

theorem alertsWhale_iff (hv : t.usd = .ok (some v)) (hsize : v.HasSize false x) (hthreshold : threshold.isNan = false) :
    AlertsWhale t threshold ↔ ¬v.rank < threshold.rank ∧ x < Double.overflowBound := by
  rw [AlertsWhale, plainText, whaleLine_known hv hsize hthreshold]
  split
  next hlt => exact iff_of_false (fun ⟨value, h⟩ => whaleText_ne_empty value (Except.ok.inj h).symm) fun h => h.1 hlt
  next hlt =>
    obtain ⟨hbelow, text, htext⟩ | ⟨hlarge, herror⟩ := Amount.usdOfDecimal_cases hsize
    · rw [htext]
      exact iff_of_true ⟨text, rfl⟩ ⟨hlt, hbelow⟩
    · rw [herror]
      exact iff_of_false (fun ⟨_, h⟩ => nomatch h) fun h => not_lt.mpr hlarge h.2

theorem whaleLine_too_large (hv : t.usd = .ok (some v)) (hsize : v.HasSize false x)
    (hthreshold : threshold.isNan = false) (hreached : ¬v.rank < threshold.rank)
    (hlarge : (Double.overflowBound : ℚ) ≤ x) :
    plainText t (.whaleAlert threshold) = .error .infinityToInteger := by
  obtain ⟨hbelow, -⟩ | ⟨-, herror⟩ := Amount.usdOfDecimal_cases hsize
  · exact absurd hlarge (not_le.mpr hbelow)
  · rw [plainText, whaleLine_known hv hsize hthreshold, if_neg hreached, herror]
    rfl

/-- What a smaller trade alerts of, a larger one alerts of unless its value cannot be shown. -/
theorem alertsWhale_grows {t t' : Trade} (h : Grows t.usd t'.usd) (hthreshold : threshold.isNan = false)
    (halerts : AlertsWhale t threshold) :
    ∃ w, t'.usd = .ok (some w) ∧ (w.value < Double.overflowBound → AlertsWhale t' threshold) ∧
      ((Double.overflowBound : ℚ) ≤ w.value → plainText t' (.whaleAlert threshold) = .error .infinityToInteger) := by
  obtain ⟨text, htext⟩ := halerts
  generalize hv : t.usd = value at h
  generalize hw : t'.usd = value' at h
  cases h with
  | failed cause value =>
      rw [plainText, whaleLine, hv] at htext
      cases htext
  | unknown =>
      rw [plainText, whaleLine, hv] at htext
      exact absurd (Except.ok.inj htext).symm (whaleText_ne_empty text)
  | known small large le =>
      have hreached := ((alertsWhale_iff hv small hthreshold).mp ⟨text, htext⟩).1
      have hreached' := fun hlt => hreached ((small.rank_le large le).trans_lt hlt)
      refine ⟨_, rfl, fun hbelow => ?_, fun hlarge => ?_⟩
      · rw [large.value] at hbelow
        exact (alertsWhale_iff hw large hthreshold).mpr ⟨hreached', hbelow⟩
      · rw [large.value] at hlarge
        exact whaleLine_too_large hw large hthreshold hreached' hlarge

end Component

end Sizes

/-- Larger trades never lose, except that an alert of a whale is an error if its value is too large to be shown. For a
price that is positive if it is known, and with no NaN among the settings, the value grows with the amount; so whatever
a smaller amount passes or shows, a larger one passes and shows. -/
theorem larger_trade_keeps {t : Trade} {b : Int} (hprice : PositiveIfKnown t.price)
    (hsize : t.amount.natAbs ≤ b.natAbs)
    (hlarge : ({ t with amount := b } : Trade).usd ≠ .error (.arithmetic .overflow)) :
    let t' := { t with amount := b }
    let decimals := t.metadata.map (·.decimals)
    (∀ v w, t.usd = .ok (some v) → t'.usd = .ok (some w) → v.le w = .ok true) ∧
    (∀ least : MinAmount, least.IsNumber → least.passes t.amount t.price decimals = .ok true →
      least.passes b t.price decimals = .ok true) ∧
    (∀ threshold : Decimal, threshold.isNan = false → Component.AlertsWhale t threshold →
      ∃ w, t'.usd = .ok (some w) ∧ (w.value < (Double.overflowBound : ℚ) → Component.AlertsWhale t' threshold) ∧
        ((Double.overflowBound : ℚ) ≤ w.value →
          Component.plainText t' (.whaleAlert threshold) = .error .infinityToInteger)) ∧
    (∀ sign unit maxEmojis n, sign.length ≤ Component.longest → unit.isNan = false →
      (∀ w, t'.usd = .ok (some w) → w.div unit ≠ .error .overflow) →
      Component.emojiCount t.usd unit maxEmojis = .ok n →
      ∃ n', Component.emojiCount t'.usd unit maxEmojis = .ok n' ∧ n ≤ n' ∧
        Component.plainText t (.emoji sign unit maxEmojis) = Component.repeated sign n ∧
        Component.plainText t' (.emoji sign unit maxEmojis) = Component.repeated sign n') ∧
    ∀ attachments, Attachment.Arranged attachments → Attachment.Numbers attachments → ∀ (currency : Currency) m,
      currency.magnitude t.amount t.usd = .ok m →
      ∃ m' chosen chosen', currency.magnitude b t'.usd = .ok m' ∧
        Attachment.Chooses m attachments chosen ∧ Attachment.Chooses m' attachments chosen' ∧
        Attachment.select m none attachments = .ok (chosen.map (·.media)) ∧
        Attachment.select m' none attachments = .ok (chosen'.map (·.media)) ∧
        ∀ a ∈ chosen, ∃ a' ∈ chosen', a.threshold.rank ≤ a'.threshold.rank := by
  intro t' decimals
  have hgrows : Grows t.usd t'.usd := usdValue_grows hprice hsize hlarge
  refine ⟨?_, ?_, ?_, ?_, ?_⟩
  · intro v w hv hw
    rw [hv, hw] at hgrows
    cases hgrows with
    | known small large le => rw [le_eq_ok small.isNan large.isNan, decide_eq_true (small.rank_le large le)]
  · intro least hleast
    exact MinAmount.passes_grows hleast hsize hgrows
  · intro threshold hthreshold
    exact Component.alertsWhale_grows hgrows hthreshold
  · intro sign unit maxEmojis n hsign hunit hdiv hn
    obtain ⟨n', hn', hle⟩ := Component.emojiCount_grows hgrows hunit hdiv hn
    refine ⟨n', hn', hle, ?_, ?_⟩
    · rw [Component.plainText, Component.emojiRow_eq t hsign, hn, except_ok_bind]
    · rw [Component.plainText, Component.emojiRow_eq t' hsign, hn', except_ok_bind]
  · intro attachments harranged hnumbers currency m hm
    obtain ⟨m', hm', hnan, hnan', hle⟩ := currency.magnitude_grows hsize hgrows hm
    have hchosen := Attachment.choice?_chooses m attachments
    have hchosen' := Attachment.choice?_chooses m' attachments
    refine ⟨m', _, _, hm', hchosen, hchosen', ?_, ?_, ?_⟩
    · rw [Attachment.select_eq hnan hnumbers harranged.1, Option.or_none]
    · rw [Attachment.select_eq hnan' hnumbers harranged.1, Option.or_none]
    · intro a ha
      obtain ⟨a', ha', hrank⟩ := (ha ▸ hchosen).grows hchosen' hle
      exact ⟨a', ha', hrank⟩

/-- A purchase of tokens at a dollar each. -/
def dollarTrade (amount : Int) : Trade where
  token := .fungible "shit.near"
  valueToken := "shit.near"
  amount := amount
  polarity := .buy
  trader := "alice.near"
  transaction := "tx"
  metadata := some { decimals := 0, name := "Shitzu", symbol := "SHIT" }
  price := some (.ofNat 1)

theorem dollarTrade_usd (n : Nat) (hn : n < 10 ^ 1000) (hdigits : significantDigits n + significantDigits 1 ≤ 28) :
    ∃ v, (dollarTrade n).usd = .ok (some v) ∧ v.HasSize false n := by
  have h : Moderate n 0 1 0 := ⟨hn, by decide, by decide, by decide, Or.inl ⟨by decide, by decide⟩⟩
  obtain ⟨v, hv, hsize⟩ := h.has_value
  refine ⟨v, hv, ?_⟩
  rw [h.dollars_exact hdigits] at hsize
  simpa [scaled] using hsize

theorem larger_trade_keeps_thousand :
    PositiveIfKnown (dollarTrade 999).price ∧ (dollarTrade 999).amount.natAbs ≤ (1000 : Int).natAbs ∧
      (dollarTrade 1000).usd ≠ .error (.arithmetic .overflow) ∧
      (MinAmount.usd (.ofNat 500)).passes 1000 (some (.ofNat 1)) (some 0) = .ok true ∧
      Component.AlertsWhale (dollarTrade 1000) (.ofNat 500) := by
  obtain ⟨v, hv, hsize⟩ := dollarTrade_usd 999 (by decide +kernel) (by decide +kernel)
  obtain ⟨w, hw, hsize'⟩ := dollarTrade_usd 1000 (by decide +kernel) (by decide +kernel)
  have hprice : PositiveIfKnown (dollarTrade 999).price := fun p hp => ⟨1, 0, (Option.some.inj hp).symm, by decide⟩
  have hlarge : (dollarTrade 1000).usd ≠ .error (.arithmetic .overflow) :=
    fun herror => nomatch hw.symm.trans herror
  have hbound : ((1000 : Nat) : ℚ) < Double.overflowBound := by
    exact_mod_cast (by decide +kernel : 1000 < Double.overflowBound)
  have hbelow : w.value < (Double.overflowBound : ℚ) := by
    rw [hsize'.value]
    exact hbound
  have hrank : (Decimal.ofNat 500).rank ≤ v.rank := (ofNat_hasSize 500).rank_le hsize (by norm_num)
  have hpasses : (MinAmount.usd (.ofNat 500)).passes 999 (some (.ofNat 1)) (some 0) = .ok true :=
    (passes_usd rfl hsize.isNan hv).trans (congrArg Except.ok (decide_eq_true hrank))
  have halerts : Component.AlertsWhale (dollarTrade 999) (.ofNat 500) :=
    (Component.alertsWhale_iff hv hsize rfl).mpr
      ⟨not_lt.mpr hrank, (by exact_mod_cast (by decide : 999 < 1000) : ((999 : Nat) : ℚ) < (1000 : Nat)).trans hbound⟩
  obtain ⟨-, hgate, hwhale, -⟩ := larger_trade_keeps hprice (by decide : _ ≤ (1000 : Int).natAbs) hlarge
  obtain ⟨w', hw', hshown, -⟩ := hwhale (.ofNat 500) rfl halerts
  obtain rfl := Option.some.inj (Except.ok.inj (hw.symm.trans hw'))
  exact ⟨hprice, by decide, hlarge, hgate (.usd (.ofNat 500)) rfl hpasses, hshown hbelow⟩

/-- An alert of a thousand dollars, and none of 10 to the 309th although that value is known. -/
theorem whale_alert_lost :
    (dollarTrade 1000).amount.natAbs ≤ (dollarTrade (powTen 309)).amount.natAbs ∧
      (∃ v, (dollarTrade (powTen 309)).usd = .ok (some v)) ∧ Component.AlertsWhale (dollarTrade 1000) (.ofNat 1000) ∧
      Component.plainText (dollarTrade (powTen 309)) (.whaleAlert (.ofNat 1000)) = .error .infinityToInteger ∧
      ¬Component.AlertsWhale (dollarTrade (powTen 309)) (.ofNat 1000) := by
  obtain ⟨v, hv, hsize⟩ := dollarTrade_usd 1000 (by decide +kernel) (by decide +kernel)
  obtain ⟨w, hw, hsize'⟩ := dollarTrade_usd (powTen 309) (by decide +kernel) (by decide +kernel)
  have hbelow : ((1000 : Nat) : ℚ) < Double.overflowBound := by
    exact_mod_cast (by decide +kernel : 1000 < Double.overflowBound)
  have hlarge : (Double.overflowBound : ℚ) ≤ powTen 309 := by
    exact_mod_cast (by decide +kernel : Double.overflowBound ≤ powTen 309)
  have hreached : ¬v.rank < (Decimal.ofNat 1000).rank := not_lt.mpr ((ofNat_hasSize 1000).rank_le hsize le_rfl)
  have hreached' : ¬w.rank < (Decimal.ofNat 1000).rank :=
    not_lt.mpr ((ofNat_hasSize 1000).rank_le hsize' (hbelow.le.trans hlarge))
  refine ⟨by decide +kernel, ⟨w, hw⟩, (Component.alertsWhale_iff hv hsize rfl).mpr ⟨hreached, hbelow⟩,
    Component.whaleLine_too_large hw hsize' rfl hreached' hlarge, fun halerts => ?_⟩
  exact not_lt.mpr hlarge ((Component.alertsWhale_iff hw hsize' rfl).mp halerts).2

end ChainAlerts
