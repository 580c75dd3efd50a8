import ChainAlerts.Proofs.AttachmentChoice
import ChainAlerts.Proofs.DollarValues
import ChainAlerts.Proofs.ListedPrices
import ChainAlerts.Proofs.TradeMarkup

/-! What a notification of a trade is made of, and what can keep it from being made. Each component stands for itself:
it is shown with its own text, marked as failed if it alone fails, and left out if it has nothing to show. The
attachment is chosen outside of the components. It needs the size of the trade, and a notification is not made where
that cannot be told or compared: the value in dollars is out of range, or the only threshold is no number. -/

namespace ChainAlerts

namespace Component

/-- Why a component has no text of its own: a fault in making it, or a supply that is not to be had. -/
inductive Failure where
  | fault (f : Fault)
  | supply (cause : OracleFailure)

/-- A component's own text. -/
def own (o : Oracle) (prices : PriceList) (t : Trade) (c : Component) : StateM Net (Except Failure String) := do
  match c with
  | .marketCap =>
    if needsSupply t then
      match ← o.totalSupply prices t.valueToken with
      | .ok supply => return (marketCapLine t supply).mapError .fault
      | .error cause => return .error (.supply cause)
    else return .ok ""
  | c => return (plainText t c).mapError .fault

/-- The lines that components make one after another, each with what it leaves outside. -/
inductive Composed (o : Oracle) (prices : PriceList) (t : Trade) : Net → List Component → List String → Net → Prop
  | none (net : Net) : Composed o prices t net [] [] net
  | shown {net net' net'' : Net} {c : Component} {rest : List Component} {text : String} {lines : List String}
      (h : (own o prices t c).run net = (.ok text, net')) (htext : text ≠ "")
      (hrest : Composed o prices t net' rest lines net'') : Composed o prices t net (c :: rest) (text :: lines) net''
  | leftOut {net net' net'' : Net} {c : Component} {rest : List Component} {lines : List String}
      (h : (own o prices t c).run net = (.ok "", net')) (hrest : Composed o prices t net' rest lines net'') :
      Composed o prices t net (c :: rest) lines net''
  | failed {net net' net'' : Net} {c : Component} {rest : List Component} {cause : Failure} {lines : List String}
      (h : (own o prices t c).run net = (.error cause, net')) (hrest : Composed o prices t net' rest lines net'') :
      Composed o prices t net (c :: rest) (errorMark :: lines) net''

variable (o : Oracle) (prices : PriceList) (t : Trade)

theorem toOption_mapError {ε δ α : Type} (f : ε → δ) (x : Except ε α) : (x.mapError f).toOption = x.toOption := by
  cases x <;> rfl

/-- A component is shown with its own text, or with a mark if it has none. -/
theorem render_eq {c : Component} {net net' : Net} {result : Except Failure String}
    (h : (own o prices t c).run net = (result, net')) :
    (render o prices t c).run net = (result.toOption.getD errorMark, net') := by
  cases c with
  | marketCap =>
      rw [own] at h
      rw [render]
      split at h
      next hneeds =>
        obtain ⟨answer, net₁, hasked⟩ : ∃ answer net₁, (o.totalSupply prices t.valueToken).run net = (answer, net₁) :=
          ⟨_, _, rfl⟩
        rw [run_bind_eq hasked] at h
        rw [if_pos hneeds, run_bind_eq hasked]
        cases answer with
        | ok supply =>
            obtain ⟨rfl, rfl⟩ := Prod.mk.inj h
            rw [toOption_mapError]
            rfl
        | error cause =>
            obtain ⟨rfl, rfl⟩ := Prod.mk.inj h
            rfl
      next hneeds =>
        rw [if_neg hneeds]
        obtain ⟨rfl, rfl⟩ := Prod.mk.inj h
        rfl
  | _ =>
      obtain ⟨rfl, rfl⟩ := Prod.mk.inj h
      rw [toOption_mapError]
      rfl

/-- Whatever components do, there are lines of them. -/
theorem renderAll_composed (components : List Component) (net : Net) :
    ∃ lines net', (renderAll o prices t components).run net = (lines, net') ∧
      Composed o prices t net components lines net' := by
  induction components generalizing net with
  | nil => exact ⟨[], net, rfl, .none net⟩
  | cons c rest ih =>
      obtain ⟨result, mid, hown⟩ : ∃ result mid, (own o prices t c).run net = (result, mid) := ⟨_, _, rfl⟩
      obtain ⟨lines, net', hlines, hcomposed⟩ := ih mid
      have hall := renderAll_cons o prices (render_eq o prices t hown) hlines
      cases result with
      | ok text =>
          by_cases htext : text = ""
          · subst htext
            exact ⟨lines, net', hall, .leftOut hown hcomposed⟩
          · refine ⟨text :: lines, net', hall.trans ?_, .shown hown htext hcomposed⟩
            simp [Except.toOption, htext]
      | error cause => exact ⟨errorMark :: lines, net', hall, .failed hown hcomposed⟩

end Component

/-! The size of a trade. -/

namespace Decimal

variable {a b d : Decimal}

/-- A product of a finite number and a number is a number. -/
theorem isNan_mul {negative : Bool} {size : ℚ} (ha : a.HasSize negative size) (hb : b.isNan = false)
    (h : a.mul b = .ok d) : d.isNan = false := by
  cases b with
  | nan => cases hb
  | finite s c e => exact ((mul_yields ha ⟨c, e, rfl, rfl⟩).of_ok h).isNan
  | infinite s =>
      obtain ⟨c, e, rfl, -⟩ := ha
      rw [mul] at h
      split at h
      · cases h
      · obtain rfl := Except.ok.inj h
        rfl

end Decimal

open Decimal

/-- The value of an amount at a price that is a number is a number. -/
theorem isNan_of_usdValue {amount decimals : Int} {p v : Decimal} (hp : p.isNan = false)
    (h : usdValue amount (some p) (some decimals) = .ok (some v)) : v.isNan = false := by
  obtain ⟨unit, tokens, hunit, htokens, hvalue⟩ := usdValue_eq_ok.mp h
  have hunitSize := (tenPower_yields decimals).of_ok hunit
  rcases (kept_nonneg (10 ^ decimals)).eq_or_lt with hzero | hpos
  · rw [← hzero] at hunitSize
    exact absurd htokens (div_zero (ofNat_hasSize _) hunitSize)
  · exact isNan_mul ((div_yields (ofNat_hasSize _) hunitSize hpos).of_ok htokens) hp hvalue

/-- Whether attachments can be compared with a trade's size is unknown: their currency is the dollar and the value is
out of range, or the only threshold is no number. -/
def Unsized (settings : Subscription) (t : Trade) : Prop :=
  (settings.currency = .usd ∧ ∃ f, t.usd = .error f) ∨ ∃ a, settings.attachments = [a] ∧ a.threshold.isNan

variable {settings : Subscription} {t : Trade} {m : Decimal}

/-- A size that can be told is a number. -/
theorem isNan_of_magnitude (hprice : ∀ p ∈ t.price, p.isNan = false)
    (h : settings.currency.magnitude t.amount t.usd = .ok m) : m.isNan = false := by
  cases hcurrency : settings.currency with
  | token =>
      rw [hcurrency] at h
      obtain rfl := Except.ok.inj h
      rfl
  | usd =>
      rw [hcurrency] at h
      obtain ⟨value, hvalue, h⟩ := except_bind_eq_ok.mp h
      cases value with
      | none =>
          obtain rfl := Except.ok.inj h
          rfl
      | some v =>
          obtain rfl := Except.ok.inj h
          split
          · rfl
          · rw [Trade.usd] at hvalue
            cases hp : t.price with
            | none => rw [hp] at hvalue; cases hvalue
            | some p =>
                cases hd : t.metadata.map (·.decimals) with
                | none => rw [hp, hd] at hvalue; cases hvalue
                | some decimals =>
                    rw [hp, hd] at hvalue
                    exact isNan_of_usdValue (hprice p hp) hvalue

theorem exists_magnitude (h : ¬(settings.currency = .usd ∧ ∃ f, t.usd = .error f)) :
    ∃ m, settings.currency.magnitude t.amount t.usd = .ok m := by
  cases hcurrency : settings.currency with
  | token => exact ⟨_, rfl⟩
  | usd =>
      cases hvalue : t.usd with
      | error f => exact absurd ⟨hcurrency, f, hvalue⟩ h
      | ok value => cases value <;> exact ⟨_, rfl⟩

namespace Attachment

variable {attachments : List Attachment}

/-- A single attachment is the only one that may have a threshold that is no number. -/
theorem Arranged.numbers (h : Arranged attachments) (hsingle : ¬∃ a, attachments = [a] ∧ a.threshold.isNan) :
    Numbers attachments := by
  rcases attachments with _ | ⟨a, _ | ⟨b, rest⟩⟩
  · exact nofun
  · exact List.forall_mem_singleton.mpr (Bool.eq_false_iff.mpr fun hnan => hsingle ⟨a, rfl, hnan⟩)
  · exact h.2 (by simp)

theorem select_single_nan {a : Attachment} (h : a.threshold.isNan) (m : Decimal) :
    select m none [a] = .error (.arithmetic .invalid) := by
  rw [select, atMost, Decimal.le, h, Bool.true_or, if_pos rfl]
  rfl

end Attachment

/-- A value is out of range only if both price and number of decimals are known, and are not moderate. -/
theorem usd_fails_only (h : ∃ f, t.usd = .error f) : ∃ metadata p, t.metadata = some metadata ∧ t.price = some p ∧
    ∀ c e, p = .finite false c e → ¬Moderate t.amount metadata.decimals c e := by
  obtain ⟨f, hf⟩ := h
  rw [Trade.usd] at hf
  cases hmetadata : t.metadata with
  | none => rw [hmetadata] at hf; cases hprice : t.price <;> simp [hprice, usdValue] at hf
  | some metadata =>
      cases hprice : t.price with
      | none => rw [hprice] at hf; cases hf
      | some p =>
          refine ⟨metadata, p, rfl, rfl, ?_⟩
          rintro c e rfl hmoderate
          obtain ⟨v, hv, -⟩ := hmoderate.has_value
          rw [hprice, hmetadata] at hf
          cases hv.symm.trans hf

/-- A notification is put together from its parts, whatever the settings that a chat can have, whatever price an oracle
gives, and whatever it answers when it is asked for a supply. No component keeps it from being made; only the choice of
an attachment does, where the trade has no size that can be compared. -/
theorem trade_notification_parts (o : Oracle) (prices : PriceList) (chat : Int) (symbol : String) (net : Net)
    (hsettings : settings.Proper) (hprice : ∃ (list : PriceList) (token : String), list.price token = .ok t.price) :
    ∃ lines net', Component.Composed o prices t net settings.components lines net' ∧
      (Unsized settings t → ∃ f, (tradeNotification o prices chat settings t symbol).run net = (.error f, net')) ∧
      (¬Unsized settings t → ∃ size chosen, settings.currency.magnitude t.amount t.usd = .ok size ∧
        Attachment.Chooses size settings.attachments chosen ∧
        (tradeNotification o prices chat settings t symbol).run net = (.ok {
          chat
          text := "\n".intercalate
            (("*" ++ Markdown.escape (t.headline symbol) ++ "*") :: "" :: lines ++ linkLines settings.links)
          buttons := settings.buttons
          media := chosen.map (·.media)
          context := [("token", t.token.key), ("tx", t.transaction)] }, net')) ∧
      ((∃ f, t.usd = .error f) → ∃ metadata p, t.metadata = some metadata ∧ t.price = some p ∧
        ∀ c e, p = .finite false c e → ¬Moderate t.amount metadata.decimals c e) := by
  obtain ⟨lines, net', hlines, hcomposed⟩ := Component.renderAll_composed o prices t settings.components net
  have hnumber : ∀ p ∈ t.price, p.isNan = false := by
    obtain ⟨list, token, hlisted⟩ := hprice
    intro p hp
    rw [hp] at hlisted
    exact (PriceList.positive_of_price hlisted).1
  refine ⟨lines, net', hcomposed, fun hunsized => ?_, fun hsized => ?_, usd_fails_only⟩
  · rw [tradeNotification, run_bind_eq hlines]
    rcases hunsized with ⟨hcurrency, f, hf⟩ | ⟨a, hattachments, hnan⟩
    · exact ⟨f, by rw [hcurrency, hf]; rfl⟩
    · cases hsize : settings.currency.magnitude t.amount t.usd with
      | error f => exact ⟨f, rfl⟩
      | ok size =>
          refine ⟨.arithmetic .invalid, ?_⟩
          simp only [except_ok_bind, hattachments, Attachment.select_single_nan hnan]
          rfl
  · obtain ⟨hvalue, hsingle⟩ := not_or.mp hsized
    obtain ⟨size, hsize⟩ := exists_magnitude hvalue
    have hnumbers := hsettings.arranged.numbers hsingle
    have hselect := Attachment.select_eq (isNan_of_magnitude hnumber hsize) hnumbers hsettings.arranged.1 none
    refine ⟨size, _, hsize, Attachment.choice?_chooses size settings.attachments, ?_⟩
    rw [tradeNotification, run_bind_eq hlines]
    simp only [hsize, except_ok_bind, hselect, Option.or_none]
    rfl

/-- Five hundred units of a token with some number of decimals, at two cents for a whole one. -/
def twoCentTrade (decimals : Int) : Trade where
  token := .fungible "shit.near"
  valueToken := "shit.near"
  amount := 500
  polarity := .buy
  trader := "alice.near"
  transaction := "9xTx"
  metadata := some ⟨"Shitzu", "SHIT", decimals⟩
  price := some (.finite false 2 (-2))

/-- The price list that knows of it. -/
def twoCentList (decimals : Int) : PriceList :=
  [("shit.near", ⟨"shit.near", .finite false 2 (-2), ⟨"Shitzu", "SHIT", decimals⟩, 0, 0⟩)]

theorem trade_notification_parts_two_cents :
    let settings : Subscription := {
      attachments := [⟨.ofNat 0, ⟨.photo, "small"⟩⟩, ⟨.ofNat 1000, ⟨.photo, "large"⟩⟩]
      components := [.trader, .marketCap] }
    settings.Proper ∧ (∃ list : PriceList, list.price "shit.near" = .ok (twoCentTrade 0).price) ∧
      ∃ lines net' size chosen,
        Component.Composed {} [] (twoCentTrade 0) {} settings.components lines net' ∧
        Attachment.Chooses size settings.attachments chosen ∧
        ((tradeNotification {} [] 7 settings (twoCentTrade 0) "SHIT").run {}).1 = .ok {
          chat := 7
          text := "\n".intercalate ("*SHIT Buy\\!*" :: "" :: lines ++ linkLines [])
          media := chosen.map (·.media)
          context := [("token", "shit.near"), ("tx", "9xTx")] } := by
  intro settings
  have hsettings : settings.Proper := ⟨by decide, by decide, by decide, by decide⟩
  have hprice : (twoCentList 0).price "shit.near" = .ok (twoCentTrade 0).price := rfl
  obtain ⟨lines, net', hcomposed, -, hmade, -⟩ :=
    trade_notification_parts {} [] 7 "SHIT" {} hsettings ⟨_, _, hprice⟩
  have hsized : ¬Unsized settings (twoCentTrade 0) := by
    rintro (⟨-, f, hf⟩ | ⟨a, hsingle, -⟩)
    · obtain ⟨v, hv⟩ : ∃ v, (twoCentTrade 0).usd = .ok v := ⟨_, rfl⟩
      cases hv.symm.trans hf
    · cases hsingle
  obtain ⟨size, chosen, -, hchooses, hrun⟩ := hmade hsized
  refine ⟨hsettings, ⟨_, hprice⟩, lines, net', size, chosen, hcomposed, hchooses, ?_⟩
  rw [hrun]
  rfl

/-- A value that is out of range fails the notification, though it fails no more than one of its components where the
attachments do not ask for it; and so does a single attachment with a threshold that is no number. -/
theorem trade_notification_not_made :
    let components : List Component := [.whaleAlert (.ofNat 1), .trader]
    let run (settings : Subscription) (decimals : Int) : Except Fault Notification :=
      ((tradeNotification {} [] 7 settings (twoCentTrade decimals) "SHIT").run {}).1
    let single : Subscription := { attachments := [⟨.nan false false 0, ⟨.photo, "small"⟩⟩], components }
    (∃ list : PriceList, list.price "shit.near" = .ok (twoCentTrade 1000000).price) ∧
      ({ components } : Subscription).Proper ∧ run { components } 1000000 = .error (.arithmetic .overflow) ∧
      (run { components, currency := .token } 1000000).toOption.map (·.text) =
        some "*SHIT Buy\\!*\n\nError\nTrader: [alice\\.near](https://pikespeak.ai/wallet-explorer/alice.near)" ∧
      single.Proper ∧ run single 0 = .error (.arithmetic .invalid) := by
  refine ⟨⟨twoCentList 1000000, rfl⟩, ⟨by decide, by decide, by decide, by decide⟩, rfl, ?_,
    ⟨by decide, by decide, by decide, by decide⟩, rfl⟩
  decide +kernel

end ChainAlerts
