import ChainAlerts.Fault
import ChainAlerts.Subscription

/-! What a raw amount is worth, and the decisions that hang on it: whether a change is large enough
for a chat, and which attachment goes with it. -/

namespace ChainAlerts

/-- The value in dollars of a raw amount at a price per whole token; each step is rounded. It is
unknown if the price or the number of decimals is. -/
def usdValue (amount : Int) (price : Option Decimal) (decimals : Option Int) : Except Fault (Option Decimal) :=
  match price, decimals with
  | some price, some decimals =>
    (do
      let unit ← Decimal.tenPower decimals
      return some (← (← (Decimal.ofNat amount.natAbs).div unit).mul price) :
        Except DecimalFault (Option Decimal)).mapError .arithmetic
  | _, _ => .ok none

/-- Whether one decimal is at most another. -/
def atMost (a b : Decimal) : Except Fault Bool := (a.le b).mapError .arithmetic

/-- Whether an amount is at or above a threshold. A threshold in dollars that cannot be compared for
want of a value lets every amount pass. -/
def MinAmount.passes (threshold : MinAmount) (amount : Int) (price : Option Decimal) (decimals : Option Int) :
    Except Fault Bool :=
  match threshold with
  | .token raw => .ok (raw ≤ amount.natAbs)
  | .usd least => do
    match ← usdValue amount price decimals with
    | none => return true
    | some value => atMost least value

namespace Attachment

/-- The media of the last attachment before the first threshold that exceeds the magnitude. -/
def select (magnitude : Decimal) : Option Media → List Attachment → Except Fault (Option Media)
  | chosen, [] => .ok chosen
  | chosen, a :: rest => do
    if ← atMost a.threshold magnitude then select magnitude (some a.media) rest else return chosen

end Attachment

/-- The size of a change in the currency of a chat's attachments. An unknown value counts as zero. -/
def Currency.magnitude (currency : Currency) (amount : Int) (value : Except Fault (Option Decimal)) :
    Except Fault Decimal :=
  match currency with
  | .token => .ok (.ofNat amount.natAbs)
  | .usd => do
    match ← value with
    | none => return .ofNat 0
    | some v => return if v.isZero then .ofNat 0 else v

end ChainAlerts
