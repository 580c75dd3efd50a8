import ChainAlerts.Proofs.ListedPrices
import ChainAlerts.Proofs.NotificationParts
import ChainAlerts.Proofs.SwapLegs

/-! When the matching of an event fails. It does if a token that is looked up is listed with a price that is no number,
or if one of the candidates cannot be judged: its record is not read for a reason that is no error of the store, or it
is enabled, wants the change and has a minimum in dollars that cannot be compared. A minimum cannot be compared if it is
no number, or if computing the value leaves the range of decimal numbers. The first change that has such a price or
candidate is the last to be taken up. -/

namespace ChainAlerts

namespace Decimal

variable {a b : Decimal} {s t : Bool} {x y : ℚ}

/-- A size that no decimal number has: what is kept of it is beyond the largest. -/
def TooLarge (x : ℚ) : Prop := (10 : ℚ) ^ (emax + 1) ≤ kept x

theorem not_tooLarge_of_log_lt (h : Int.log 10 x < emax) : ¬TooLarge x := by
  have hemax : emax = 999999 := rfl
  have hetiny : etiny = -1000026 := rfl
  have hcases := lastExponent_cases x
  intro hlarge
  have hkept : kept x ≤ (10 : ℚ) ^ emax := kept_le_zpow h (by omega)
  have hpow : (10 : ℚ) ^ emax < 10 ^ (emax + 1) := zpow_lt_zpow_right₀ (by norm_num) (by omega)
  exact absurd (hlarge.trans hkept) (not_le.mpr hpow)

theorem tooLarge_of_lt_log (hx : 0 < x) (h : emax < Int.log 10 x) : TooLarge x := by
  have hemax : emax = 999999 := rfl
  have hetiny : etiny = -1000026 := rfl
  have hcases := lastExponent_cases x
  have hpow : (10 : ℚ) ^ (emax + 1) ≤ 10 ^ Int.log 10 x := zpow_le_zpow_right₀ (by norm_num) (by omega)
  exact hpow.trans (zpow_log_le_kept hx (by omega))

/-- Finishing an operation fails exactly if the size is too large. -/
theorem finish_fails_iff (s : Bool) (c : Nat) (e : Int) : (∃ f, finish s c e = .error f) ↔ TooLarge (scaled c e) := by
  have hemax : emax = 999999 := rfl
  have hetiny : etiny = -1000026 := rfl
  rcases Nat.eq_zero_or_pos c with rfl | hc
  · refine iff_of_false (by simp [finish]) (not_tooLarge_of_log_lt ?_)
    rw [scaled_zero, Int.log_zero_right]
    omega
  have hpos := scaled_pos hc e
  have hlog := log_scaled hc e
  have hcases := lastExponent_cases (scaled c e)
  rw [finish, if_neg hc.ne']
  split
  next hlarge => exact iff_of_true ⟨_, rfl⟩ (tooLarge_of_lt_log hpos (by omega))
  next hlarge =>
    split
    next hsmall =>
      refine iff_of_false ?_ (not_tooLarge_of_log_lt (by omega))
      split <;> simp
    next hnormal =>
      -- Rounding can carry into one more digit, so the limit is checked once more on what was kept.
      have hround := (scaled_roundDigits c e).trans (roundAt_excess hc hnormal)
      cases hdigits : roundDigits c e with
      | mk c' e' =>
          rw [hdigits] at hround
          have hlength := Text.decimalLength_pos c
          have hkept := log_kept_cases hpos (by
            rw [adjusted] at hlog hnormal
            omega)
          have hpower : TooLarge (scaled c e) ↔ emax + 1 ≤ Int.log 10 (kept (scaled c e)) :=
            Int.zpow_le_iff_le_log (by decide) hkept.1
          rw [hpower, ← adjusted_of_kept hkept.1 hround]
          dsimp only
          split
          next hoverflow => exact iff_of_true ⟨_, rfl⟩ (by omega)
          next hfits => exact iff_of_false (by simp) (by omega)

theorem mul_fails_iff (ha : a.HasSize s x) (hb : b.HasSize t y) : (∃ f, a.mul b = .error f) ↔ TooLarge (x * y) := by
  obtain ⟨c, e, rfl, rfl⟩ := ha
  obtain ⟨c', e', rfl, rfl⟩ := hb
  rw [scaled_mul_scaled]
  exact finish_fails_iff _ _ _

theorem div_fails_iff (ha : a.HasSize s x) (hb : b.HasSize t y) :
    (∃ f, a.div b = .error f) ↔ y = 0 ∨ TooLarge (x / y) := by
  obtain ⟨c, e, rfl, rfl⟩ := ha
  obtain ⟨c', e', rfl, rfl⟩ := hb
  rw [div]
  split
  next hc' => exact iff_of_true ⟨_, rfl⟩ (Or.inl (scaled_eq_zero_iff.mpr hc'))
  next hc' =>
    rw [or_iff_right fun hzero => hc' (scaled_eq_zero_iff.mp hzero)]
    split
    next hc =>
      subst hc
      rw [scaled_zero, zero_div, ← scaled_zero (e - e')]
      exact finish_fails_iff _ _ _
    next hc =>
      have hquotient : scaled c e / scaled c' e' = (c : ℚ) / c' * 10 ^ (e - e') := by
        rw [scaled, scaled, zpow_sub₀ (by norm_num)]
        field_simp
      have hdigits := quotientDigits_rounds (Nat.pos_of_ne_zero hc) (Nat.pos_of_ne_zero hc') (e - e')
      rw [hquotient, TooLarge, ← hdigits.1]
      exact finish_fails_iff _ _ _

theorem tenPower_fails_iff (n : Int) : (∃ f, tenPower n = .error f) ↔ emax < n := by
  have hemax : emax = 999999 := rfl
  rw [tenPower]
  split
  next hn =>
    rw [finish_fails_iff, scaled_one]
    have hlog : Int.log 10 ((10 : ℚ) ^ n) = n := Int.log_zpow (by decide) n
    exact iff_of_false (not_tooLarge_of_log_lt (by omega)) (by omega)
  next hn =>
    split
    next hlarge => exact iff_of_true ⟨_, rfl⟩ hlarge
    next hsmall => exact iff_of_false (by split <;> simp) hsmall

end Decimal

open Decimal

section Values

variable {amount decimals : Int} {p : Decimal}

/-- What is kept of the whole tokens that an amount comes to. -/
def wholeTokens (amount decimals : Int) : ℚ := kept (amount.natAbs / kept (10 ^ decimals))

/-- An amount whose value cannot be computed: the power of ten is beyond the largest number or vanishes, there are too
many whole tokens, or their product with the price is too large, or that of none with an infinity. -/
inductive OutOfRange (amount decimals : Int) : Decimal → Prop where
  | unit {p : Decimal} (h : emax < decimals ∨ kept (10 ^ decimals) = 0) : OutOfRange amount decimals p
  | tokens {p : Decimal} (h : TooLarge (amount.natAbs / kept (10 ^ decimals))) : OutOfRange amount decimals p
  | value {s : Bool} {c : Nat} {e : Int} (h : TooLarge (wholeTokens amount decimals * scaled c e)) :
      OutOfRange amount decimals (.finite s c e)
  | none {s : Bool} (h : wholeTokens amount decimals = 0) : OutOfRange amount decimals (.infinite s)

theorem usdValue_error_iff :
    (∃ f, usdValue amount (some p) (some decimals) = .error f) ↔
      (∃ f, tenPower decimals = .error f) ∨ ∃ unit, tenPower decimals = .ok unit ∧
        ((∃ f, (Decimal.ofNat amount.natAbs).div unit = .error f) ∨
          ∃ tokens, (Decimal.ofNat amount.natAbs).div unit = .ok tokens ∧ ∃ f, tokens.mul p = .error f) := by
  rw [usdValue]
  cases tenPower decimals with
  | error f => simp [bind, Except.bind, Except.mapError]
  | ok unit =>
      cases htokens : (Decimal.ofNat amount.natAbs).div unit with
      | error f => simp [htokens, bind, Except.bind, Except.mapError]
      | ok tokens =>
          cases hvalue : tokens.mul p <;>
            simp [htokens, hvalue, bind, Except.bind, Except.mapError, pure, Except.pure]

/-- A product with the price of what is kept of the whole tokens. -/
theorem mul_price_fails_iff {tokens : Decimal} (htokens : tokens.HasSize false (wholeTokens amount decimals))
    (hp : p.isNan = false) :
    (∃ f, tokens.mul p = .error f) ↔
      (∃ s c e, p = .finite s c e ∧ TooLarge (wholeTokens amount decimals * scaled c e)) ∨
        ∃ s, p = .infinite s ∧ wholeTokens amount decimals = 0 := by
  cases p with
  | nan => cases hp
  | finite s c e =>
      rw [mul_fails_iff htokens ⟨c, e, rfl, rfl⟩]
      simp
  | infinite s =>
      obtain ⟨c, e, rfl, hsize⟩ := htokens
      rw [← hsize, scaled_eq_zero_iff]
      by_cases hc : c = 0 <;> simp [mul, hc]

/-- An amount has no value at a price that is a number exactly if it is out of range. -/
theorem usdValue_fails_iff (hp : p.isNan = false) :
    (∃ f, usdValue amount (some p) (some decimals) = .error f) ↔ OutOfRange amount decimals p := by
  have hranges : OutOfRange amount decimals p ↔ emax < decimals ∨ kept (10 ^ decimals) = 0 ∨
      TooLarge (amount.natAbs / kept (10 ^ decimals)) ∨
        (∃ s c e, p = .finite s c e ∧ TooLarge (wholeTokens amount decimals * scaled c e)) ∨
          ∃ s, p = .infinite s ∧ wholeTokens amount decimals = 0 := by
    constructor
    · rintro ((hlarge | hzero) | hmany | hvalue | hnone)
      · exact Or.inl hlarge
      · exact Or.inr (Or.inl hzero)
      · exact Or.inr (Or.inr (Or.inl hmany))
      · exact Or.inr (Or.inr (Or.inr (Or.inl ⟨_, _, _, rfl, hvalue⟩)))
      · exact Or.inr (Or.inr (Or.inr (Or.inr ⟨_, rfl, hnone⟩)))
    · rintro (hlarge | hzero | hmany | ⟨s, c, e, rfl, hvalue⟩ | ⟨s, rfl, hnone⟩)
      · exact .unit (Or.inl hlarge)
      · exact .unit (Or.inr hzero)
      · exact .tokens hmany
      · exact .value hvalue
      · exact .none hnone
  rw [hranges, usdValue_error_iff, tenPower_fails_iff]
  refine or_congr_right' fun hfits => ?_
  obtain ⟨unit, hunit, hunitSize⟩ :
      ∃ unit, tenPower decimals = .ok unit ∧ unit.HasSize false (kept (10 ^ decimals)) := by
    obtain ⟨unit, hunit, hsize⟩ | ⟨hunit, -⟩ := tenPower_yields decimals
    · exact ⟨unit, hunit, hsize⟩
    · exact absurd ((tenPower_fails_iff decimals).mp ⟨_, hunit⟩) hfits
  simp only [hunit, Except.ok.injEq, exists_eq_left']
  rw [div_fails_iff (ofNat_hasSize _) hunitSize, or_assoc]
  refine or_congr_right' fun hzero => or_congr_right' fun hfew => ?_
  have hpos : 0 < kept ((10 : ℚ) ^ decimals) := (kept_nonneg _).lt_of_ne' hzero
  obtain ⟨tokens, htokens, htokensSize⟩ | ⟨htokens, -⟩ := div_yields (ofNat_hasSize amount.natAbs) hunitSize hpos
  · simp only [htokens, Except.ok.injEq, exists_eq_left']
    exact mul_price_fails_iff htokensSize hp
  · exact absurd ((div_fails_iff (ofNat_hasSize _) hunitSize).mp ⟨_, htokens⟩) (fun h => h.elim hzero hfew)

/-- Amounts and prices in the normal range are not out of range. -/
theorem not_outOfRange_of_moderate {coefficient : Nat} {exponent : Int}
    (h : Moderate amount decimals coefficient exponent) :
    ¬OutOfRange amount decimals (.finite false coefficient exponent) := by
  rw [← usdValue_fails_iff rfl]
  obtain ⟨v, hv, -⟩ := h.has_value
  simp [hv]

end Values

theorem exists_usdValue {amount decimals : Int} {p : Decimal} (hp : p.isNan = false)
    (h : ¬OutOfRange amount decimals p) :
    ∃ v, usdValue amount (some p) (some decimals) = .ok (some v) ∧ v.isNan = false := by
  cases hvalue : usdValue amount (some p) (some decimals) with
  | error f => exact absurd ((usdValue_fails_iff hp).mp ⟨f, hvalue⟩) h
  | ok value =>
      cases value with
      | some v => exact ⟨v, rfl, isNan_of_usdValue hp hvalue⟩
      | none =>
          rw [usdValue, except_mapError_eq_ok] at hvalue
          obtain ⟨unit, -, hvalue⟩ := except_bind_eq_ok.mp hvalue
          obtain ⟨tokens, -, hvalue⟩ := except_bind_eq_ok.mp hvalue
          obtain ⟨v, -, hvalue⟩ := except_bind_eq_ok.mp hvalue
          cases hvalue

/-- A minimum that cannot be compared with an amount: it is in dollars, the price and the number of decimals are known,
and it is no number or the amount is out of range. -/
def MinAmount.Incomparable (least : MinAmount) (amount : Int) (price : Option Decimal) (decimals : Option Int) : Prop :=
  ∃ dollars p d, least = .usd dollars ∧ price = some p ∧ decimals = some d ∧ (dollars.isNan ∨ OutOfRange amount d p)

theorem MinAmount.passes_fails_iff {least : MinAmount} {amount : Int} {price : Option Decimal} {decimals : Option Int}
    (hprice : ∀ p ∈ price, p.isNan = false) :
    (∃ f, least.passes amount price decimals = .error f) ↔ least.Incomparable amount price decimals := by
  cases least with
  | token raw => exact iff_of_false (by simp [passes]) (by simp [Incomparable])
  | usd dollars =>
      cases price with
      | none => exact iff_of_false (by simp [passes, usdValue, pure, Except.pure]) (by simp [Incomparable])
      | some p =>
          have hp : p.isNan = false := hprice p rfl
          cases decimals with
          | none => exact iff_of_false (by simp [passes, usdValue, pure, Except.pure]) (by simp [Incomparable])
          | some d =>
              have hincomparable : (MinAmount.usd dollars).Incomparable amount (some p) (some d) ↔
                  dollars.isNan ∨ OutOfRange amount d p := by simp [Incomparable]
              rw [hincomparable]
              by_cases hrange : OutOfRange amount d p
              · obtain ⟨f, hf⟩ := (usdValue_fails_iff hp).mpr hrange
                exact iff_of_true ⟨f, by rw [passes, hf]; rfl⟩ (Or.inr hrange)
              · obtain ⟨v, hvalue, hv⟩ := exists_usdValue hp hrange
                rw [or_iff_left hrange]
                cases hdollars : dollars.isNan with
                | false => exact iff_of_false (by simp [passes_usd hdollars hv hvalue]) Bool.false_ne_true
                | true =>
                    refine iff_of_true ⟨.arithmetic .invalid, ?_⟩ rfl
                    rw [passes, hvalue, except_ok_bind]
                    simp only [atMost, Decimal.le, hdollars, Bool.true_or, if_true]
                    rfl

theorem PriceList.price_fails_iff {prices : PriceList} {token : String} :
    (∃ f, prices.price token = .error f) ↔ ∃ info, Assoc.get? token prices = some info ∧ info.price.isNan := by
  cases hfound : Assoc.get? token prices with
  | none => exact iff_of_false (by simp [price, hfound]) (by simp)
  | some info =>
      cases hnan : info.price.isNan with
      | true => exact iff_of_true ⟨_, price_of_nan hfound hnan⟩ ⟨info, rfl, hnan⟩
      | false => exact iff_of_false (by simp [price_of_not_nan hfound hnan]) (by simp [hnan])

theorem PriceList.listed_of_price {prices : PriceList} {token : String} {d : Decimal}
    (h : prices.price token = .ok (some d)) : ∃ info, Assoc.get? token prices = some info ∧ info.price = d := by
  cases hfound : Assoc.get? token prices with
  | none => simp [price, hfound] at h
  | some info =>
      cases hnan : info.price.isNan with
      | true => simp [price_of_nan hfound hnan] at h
      | false =>
          rw [price_of_not_nan hfound hnan] at h
          by_cases hpositive : 0 < info.price.rank
          · rw [if_pos hpositive] at h
            exact ⟨info, rfl, Option.some.inj (Except.ok.inj h)⟩
          · rw [if_neg hpositive] at h
            cases Except.ok.inj h

namespace Matching

open Subscriptions

variable {m : Matcher} {answers : String → Except OracleFailure (Option Int)} {c : BalanceChange} {p : Polarity}
  {chat : Int} {settings : Subscription} {start : Net} {changes : List BalanceChange} {state : Matching}

/-- A chat that asks for a change, its minimum aside: its record is enabled, follows the token and wants the
direction. -/
structure AsksFor (m : Matcher) (c : BalanceChange) (p : Polarity) (chat : Int) (settings : Subscription) : Prop where
  record : ∃ s, record? m chat = .ok (some s) ∧ s.enabled ∧ Assoc.get? c.token s.tokens = some settings
  wanted : settings.wants p

theorem asksFor_iff : AsksFor m c p chat settings ↔
    ∃ found, record? m chat = .ok found ∧ screen c p found = .ok settings := by
  constructor
  · rintro ⟨⟨s, hrecord, henabled, hfollows⟩, hwanted⟩
    exact ⟨some s, hrecord, screen_eq_ok.mpr ⟨s, rfl, henabled, hfollows, hwanted⟩⟩
  · rintro ⟨found, hrecord, hscreen⟩
    obtain ⟨s, rfl, henabled, hfollows, hwanted⟩ := screen_eq_ok.mp hscreen
    exact ⟨⟨s, hrecord, henabled, hfollows⟩, hwanted⟩

/-- Why a candidate for a change cannot be judged: the token's listed price is no number, the chat's record is not read
for a reason that passes, or the chat asks for the change and its minimum in dollars cannot be compared, for want of an
answer about the decimals or because of the numbers. -/
inductive Obstacle (m : Matcher) (answers : String → Except OracleFailure (Option Int)) (c : BalanceChange)
    (p : Polarity) (chat : Int) : Prop where
  | price {info : TokenInfo} (listed : Assoc.get? c.valueToken m.prices = some info) (nan : info.price.isNan) :
      Obstacle m answers c p chat
  | record {f : Fault} (unread : record? m chat = .error (.fault f)) : Obstacle m answers c p chat
  | unanswered {settings : Subscription} {least : Decimal} {e : OracleFailure} (asks : AsksFor m c p chat settings)
    (minimum : settings.minAmount = .usd least) (failed : answers c.valueToken = .error e) : Obstacle m answers c p chat
  | minimum {settings : Subscription} {price : Option Decimal} {decimals : Option Int}
    (asks : AsksFor m c p chat settings) (known : m.prices.price c.valueToken = .ok price)
    (answered : answers c.valueToken = .ok decimals)
    (incomparable : settings.minAmount.Incomparable c.amount price decimals) : Obstacle m answers c p chat

theorem not_incomparable_token (raw amount : Int) (price : Option Decimal) (decimals : Option Int) :
    ¬(MinAmount.token raw).Incomparable amount price decimals := by
  rintro ⟨_, _, _, ⟨⟩, -⟩

/-- With a price that is known, or known to be unknown, the obstacles lie in the chat's record and its minimum. -/
theorem obstacle_iff_of_price {price : Option Decimal} (hprice : m.prices.price c.valueToken = .ok price) :
    Obstacle m answers c p chat ↔ (∃ f, record? m chat = .error (.fault f)) ∨
      ∃ found settings, record? m chat = .ok found ∧ screen c p found = .ok settings ∧
        ((∃ least e, settings.minAmount = .usd least ∧ answers c.valueToken = .error e) ∨
          ∃ decimals, answers c.valueToken = .ok decimals ∧
            settings.minAmount.Incomparable c.amount price decimals) := by
  constructor
  · rintro (⟨hlisted, hnan⟩ | hunread | ⟨hasks, hminimum, hfailed⟩ | ⟨hasks, hknown, hanswered, hincomparable⟩)
    · obtain ⟨f, hf⟩ := PriceList.price_fails_iff.mpr ⟨_, hlisted, hnan⟩
      rw [hprice] at hf
      cases hf
    · exact Or.inl ⟨_, hunread⟩
    · obtain ⟨found, hrecord, hscreen⟩ := asksFor_iff.mp hasks
      exact Or.inr ⟨found, _, hrecord, hscreen, Or.inl ⟨_, _, hminimum, hfailed⟩⟩
    · obtain ⟨found, hrecord, hscreen⟩ := asksFor_iff.mp hasks
      obtain rfl := Except.ok.inj (hprice.symm.trans hknown)
      exact Or.inr ⟨found, _, hrecord, hscreen, Or.inr ⟨_, hanswered, hincomparable⟩⟩
  · rintro (⟨f, hunread⟩ | ⟨found, settings, hrecord, hscreen, hminimum⟩)
    · exact .record hunread
    · have hasks : AsksFor m c p chat settings := asksFor_iff.mpr ⟨found, hrecord, hscreen⟩
      rcases hminimum with ⟨least, e, hminimum, hfailed⟩ | ⟨decimals, hanswered, hincomparable⟩
      · exact .unanswered hasks hminimum hfailed
      · exact .minimum hasks hprice hanswered hincomparable

/-- What a chat that asks for a change makes of it by its minimum: an alert, none, or a failure. -/
def weigh (m : Matcher) (answers : String → Except OracleFailure (Option Int)) (c : BalanceChange) (p : Polarity)
    (price : Option Decimal) (chat : Int) (settings : Subscription) : Except MatchFailure (Option TradeAlert) :=
  match decimalsOf answers c settings.minAmount with
  | .error e => .error (.oracle e)
  | .ok decimals =>
    match settings.minAmount.passes c.amount price decimals with
    | .error f => .error (.fault f)
    | .ok false => .ok none
    | .ok true => .ok ((shown? m.routes chat c p).map fun trade => { chat, settings, trade })

theorem weigh_fails_iff {price : Option Decimal} (hprice : ∀ d ∈ price, d.isNan = false) :
    (∃ e, weigh m answers c p price chat settings = .error e) ↔
      (∃ least e, settings.minAmount = .usd least ∧ answers c.valueToken = .error e) ∨
        ∃ decimals, answers c.valueToken = .ok decimals ∧ settings.minAmount.Incomparable c.amount price decimals := by
  rw [weigh]
  cases settings.minAmount with
  | token raw =>
      refine iff_of_false ?_ (by simp [not_incomparable_token])
      by_cases hlarge : raw ≤ c.amount.natAbs <;> simp only [decimalsOf, MinAmount.passes, hlarge] <;> simp
  | usd least =>
      simp only [decimalsOf]
      cases answers c.valueToken with
      | error e => simp
      | ok decimals =>
          have hgate : (∃ f, (MinAmount.usd least).passes c.amount price decimals = .error f) ↔
              (MinAmount.usd least).Incomparable c.amount price decimals := MinAmount.passes_fails_iff hprice
          simp only [reduceCtorEq, and_false, exists_const, Except.ok.injEq, exists_eq_left', ← hgate]
          cases (MinAmount.usd least).passes c.amount price decimals with
          | error f => simp
          | ok reached => cases reached <;> simp

/-- A trial fails exactly if there is an obstacle. -/
theorem trial_fails_iff : (∃ e, trial m answers c p chat = .error e) ↔ Obstacle m answers c p chat := by
  rw [trial]
  cases hprice : m.prices.price c.valueToken with
  | error f =>
      obtain ⟨info, hlisted, hnan⟩ := PriceList.price_fails_iff.mp ⟨f, hprice⟩
      exact iff_of_true ⟨_, rfl⟩ (.price hlisted hnan)
  | ok price =>
      have hnumber : ∀ d ∈ price, d.isNan = false := by
        rintro d rfl
        exact (PriceList.positive_of_price hprice).1
      rw [obstacle_iff_of_price hprice]
      cases hrecord : record? m chat with
      | error cause => cases cause <;> simp
      | ok found =>
          cases hscreen : screen c p found with
          | error skip => simp [hscreen]
          | ok settings =>
              simp only [hscreen]
              refine (weigh_fails_iff hnumber).trans ?_
              simp [hscreen]

/-- A change without obstacles: whichever chat is looked up for it can be judged. -/
def Clear (m : Matcher) (answers : String → Except OracleFailure (Option Int)) (c : BalanceChange) : Prop :=
  ∀ p, c.polarity? = some p → ∀ chat ∈ m.index.lookup c.token, ¬Obstacle m answers c p chat

/-- No trial for an event fails exactly if its changes are clear. -/
theorem noneFails_iff :
    noneFails (trialsAmong m answers m.index.lookup changes) ↔ ∀ c ∈ changes, Clear m answers c := by
  have hisOk : ∀ outcome : Except MatchFailure (Option TradeAlert), outcome.isOk ↔ ¬∃ e, outcome = .error e := by
    intro outcome
    cases outcome <;> simp [Except.isOk, Except.toBool]
  rw [noneFails, List.all_eq_true, trialsAmong, List.forall_mem_flatMap]
  refine forall₂_congr fun c _ => ?_
  rw [Clear]
  cases c.polarity? with
  | none => simp
  | some p =>
      simp only [Option.some.injEq, forall_eq', List.forall_mem_map, hisOk, trial_fails_iff]

/-- The matching of a change fails exactly if there is an obstacle. -/
theorem change_isOk_iff (hsteady : Steady m start changes answers) (hc : c ∈ changes)
    (hstate : Reached m start changes state.net) : (change m c state).1.isOk ↔ Clear m answers c := by
  rw [(goes_change hsteady hc hstate).result, noneFails_iff, List.forall_mem_singleton]

/-- The matching of an event fails exactly if one of its changes is not clear. -/
theorem changes_isOk_iff (hsteady : Steady m state.net changes answers) :
    (Matching.changes m changes state).1.isOk ↔ ∀ c ∈ changes, Clear m answers c := by
  rw [(goes_changes hsteady (fun _ hc => hc) ⟨[], by simp, rfl⟩).result, noneFails_iff]

/-- Changes that are taken up in turn are clear, unless the matching fails; then all but the last of them are. -/
theorem InTurn.clear (hsteady : Steady m start changes answers) {taken : List BalanceChange}
    {outcome : Except MatchFailure Nat × Matching} (h : InTurn m state taken outcome)
    (htaken : ∀ c ∈ taken, c ∈ changes) (hstate : Reached m start changes state.net) :
    (outcome.1.isOk ∧ ∀ c ∈ taken, Clear m answers c) ∨
      (outcome.1.isOk = false ∧
        ∃ before last, taken = before ++ [last] ∧ (∀ c ∈ before, Clear m answers c) ∧ ¬Clear m answers last) := by
  induction h with
  | done state => exact Or.inl ⟨rfl, by simp⟩
  | @failed state after c e hchange =>
      have hfails := change_isOk_iff hsteady (htaken c List.mem_cons_self) hstate
      rw [hchange] at hfails
      exact Or.inr ⟨rfl, [], c, rfl, by simp, fun hclear => by cases hfails.mpr hclear⟩
  | @next state after final c rest n more hchange _ ih =>
      obtain ⟨hc, hrest⟩ := List.forall_mem_cons.mp htaken
      have hgoes := goes_change hsteady hc hstate
      have hclear := change_isOk_iff hsteady hc hstate
      rw [hchange] at hgoes hclear
      have hmore : (more.map (n + ·)).isOk = more.isOk := by cases more <;> rfl
      rcases ih hrest (hgoes.net rfl) with ⟨hok, hall⟩ | ⟨hfails, before, last, rfl, hall, hlast⟩
      · exact Or.inl ⟨hmore ▸ hok, List.forall_mem_cons.mpr ⟨hclear.mp rfl, hall⟩⟩
      · exact Or.inr ⟨hmore ▸ hfails, c :: before, last, rfl, List.forall_mem_cons.mpr ⟨hclear.mp rfl, hall⟩, hlast⟩

section Listed

variable (hsound : Sound m.bot m.database)
  (hexact : Exact m.bot { database := m.database, index := m.index })
include hsound hexact

/-- With readable rows, an exact index and the answers of the price list, a change is clear exactly if nobody follows
its token, or the price is a number and no follower that asks for the change has a minimum that cannot be compared. -/
theorem clear_iff :
    Clear m (fun token => .ok (listedDecimals m.prices token)) c ↔
      ∀ p, c.polarity? = some p → ∀ chat ∈ followers m.bot m.database c.token,
        (∀ info, Assoc.get? c.valueToken m.prices = some info → info.price.isNan = false) ∧
        ∀ settings price, AsksFor m c p chat settings → m.prices.price c.valueToken = .ok price →
          ¬settings.minAmount.Incomparable c.amount price (listedDecimals m.prices c.valueToken) := by
  rw [Clear, hexact c.token]
  refine forall₂_congr fun p _ => forall₂_congr fun chat hchat => ?_
  obtain ⟨s, hrecord, -⟩ := (hsound.mem_followers c.token chat).mp hchat
  constructor
  · refine fun hnone => ⟨fun info hlisted => ?_, fun settings price hasks hprice hminimum => ?_⟩
    · exact Bool.eq_false_iff.mpr fun hnan => hnone (.price hlisted hnan)
    · exact hnone (.minimum hasks hprice rfl hminimum)
  · rintro ⟨hprice, hminimums⟩ (⟨hlisted, hnan⟩ | hunread | ⟨-, -, hfailed⟩ | ⟨hasks, hknown, hanswered, hminimum⟩)
    · rw [hprice _ hlisted] at hnan
      cases hnan
    · cases hrecord.symm.trans hunread
    · cases hfailed
    · obtain rfl := Except.ok.inj hanswered
      exact hminimums _ _ hasks hknown hminimum

/-- A change is clear if every follower's minimum in dollars is a number, and amount, price and number of decimals are
in the normal range. -/
theorem clear_of_moderate
    (hminimums : ∀ p chat settings least, AsksFor m c p chat settings → settings.minAmount = .usd least →
      least.isNan = false)
    (hmoderate : ∀ info, Assoc.get? c.valueToken m.prices = some info → ∃ decimals coefficient exponent,
      listedDecimals m.prices c.valueToken = some decimals ∧ info.price = .finite false coefficient exponent ∧
        Moderate c.amount decimals coefficient exponent) :
    Clear m (fun token => .ok (listedDecimals m.prices token)) c := by
  refine (clear_iff hsound hexact).mpr fun p _ chat _ => ⟨fun info hlisted => ?_, fun settings price hasks hprice => ?_⟩
  · obtain ⟨-, coefficient, exponent, -, hfinite, -⟩ := hmoderate info hlisted
    rw [hfinite]
    rfl
  · rintro ⟨least, d, decimals, hleast, rfl, hdecimals, hnan | hrange⟩
    · rw [hminimums p chat settings least hasks hleast] at hnan
      cases hnan
    · obtain ⟨info, hlisted, rfl⟩ := PriceList.listed_of_price hprice
      obtain ⟨decimals', coefficient, exponent, hdecimals', hfinite, hmoderate⟩ := hmoderate info hlisted
      obtain rfl := Option.some.inj (hdecimals'.symm.trans hdecimals)
      rw [hfinite] at hrange
      exact not_outOfRange_of_moderate hmoderate hrange

end Listed

section

variable {sources : TradeAlerts.Sources} {bot : Int} {b : TradeBot} {r : TradeAlerts.Round}

/-- A bot's matching of an event goes through exactly if the changes are clear. -/
theorem botErrors_matchFor_iff (hsteady : Steady (matcherFor sources bot b.index r.database) r.net changes answers) :
    (TradeAlerts.matchFor sources changes bot b r).alerts.botErrors = r.alerts.botErrors ↔
      ∀ c ∈ changes, Clear (matcherFor sources bot b.index r.database) answers c := by
  rw [(spawns_matchFor hsteady).2, ← noneFails_iff]
  change _ ↔ noneFails (trialsAmong _ answers b.index.lookup changes) = true
  cases noneFails (trialsAmong (matcherFor sources bot b.index r.database) answers b.index.lookup changes) <;> simp

/-- Over readable rows, with an exact index and no contracts to ask, whether a bot's matching of an event goes through
can be told from the rows, the prices and the event. -/
theorem matchFor_goes_through_iff (hclient : sources.oracle.client = none) (hsound : Sound bot r.database)
    (hexact : Exact bot { database := r.database, index := b.index }) :
    (TradeAlerts.matchFor sources changes bot b r).alerts.botErrors = r.alerts.botErrors ↔
      ∀ c ∈ changes, ∀ p, c.polarity? = some p → ∀ chat ∈ followers bot r.database c.token,
        (∀ info, Assoc.get? c.valueToken sources.prices = some info → info.price.isNan = false) ∧
        ∀ settings price, AsksFor (matcherFor sources bot b.index r.database) c p chat settings →
          sources.prices.price c.valueToken = .ok price →
            ¬settings.minAmount.Incomparable c.amount price (listedDecimals sources.prices c.valueToken) := by
  rw [botErrors_matchFor_iff (steady_of_no_client hclient bot b.index r.database r.net changes)]
  let m := matcherFor sources bot b.index r.database
  have hsound' : Sound m.bot m.database := hsound
  exact forall₂_congr fun c _ => clear_iff hsound' hexact

end

end Matching

end ChainAlerts
