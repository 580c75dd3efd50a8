import ChainAlerts.Fault

/-! How amounts read in a notification. The number of places adapts to the size of the amount, so
that both whales and dust stay readable. -/

namespace ChainAlerts.Amount

/-- An integer in decimal, which may have no more digits than a text may hold. -/
def integerText (n : Int) : Except Fault String :=
  if Integer.isWritable n then .ok (Text.intText n) else .error .tooLongToWrite

/-- The most places to which a raw amount is scaled down before it becomes a binary number. -/
def maxPlaces : Int := 12

/-- `n / 10 ^ k`, rounded down, without computing a power that exceeds `n`. -/
def shiftDown (n k : Nat) : Nat :=
  if Text.decimalLength n < k then 0 else n / powTen k

/-- The quotient of an integer and a power of ten as a binary number. For a negative exponent the
power is a binary number too, and may be zero. -/
def dividePower (n : Nat) (exponent : Int) : Except Fault Double :=
  if 0 ≤ exponent then
    match Double.ofQuotient? n (powTen exponent.toNat) with
    | some x => .ok x
    | none => .error .quotientTooLarge
  else if Double.ofInt? exponent = none then .error .integerTooLarge
  else
    match Double.ofInt? n with
    | none => .error .integerTooLarge
    | some x =>
      let power := Double.ofDecimal false 1 exponent
      if power.isZero then .error .zeroDivisor else .ok (x.div power)

/-- Drops the zeros at the end of a fraction, and the point if nothing else follows it. -/
def trimFraction (s : String) : String :=
  if s.toList.contains '.' then Text.dropTrailingChar '.' (Text.dropTrailingChar '0' s) else s

/-- The digits of a value that is not negative: none after the point for millions, more the smaller
the value is, and three significant ones below one. -/
def valueText (x : Double) : String :=
  if (Double.ofInt 1000000).le x then x.fixed 0
  else if (Double.ofInt 10).le x then x.fixed 2
  else if (Double.ofInt 1).le x then x.fixed 3
  else
    match x with
    | .finite _ m e =>
      if (Double.ofDecimal false 1 (-12)).le x then x.fixed (2 - Double.logFloor m e).toNat else "0"
    | _ => "0"

/-- A raw amount of a token in whole tokens, followed by its symbol. -/
def tokenText (amount decimals : Int) (symbol : String) : Except Fault String := do
  if decimals = 0 then return (← integerText amount) ++ " " ++ symbol
  if amount = 0 then return "0 " ++ symbol
  let places := min maxPlaces decimals
  let s := valueText (← dividePower (shiftDown amount.natAbs (decimals - places).toNat) places)
  let sign := if amount < 0 ∧ s ≠ "0" then "-" else ""
  return sign ++ trimFraction s ++ " " ++ symbol

/-- A value in dollars, with about three significant digits for small values. -/
def usdText (x : Double) : Except Fault String :=
  if x.le (Double.zero false) then .ok "$0"
  else
    match x with
    | .finite _ m e => .ok ("$" ++ x.fixed (2 - Double.logTruncate m e).toNat)
    | .infinite _ => .error .infinityToInteger
    | .nan => .error .nanToInteger

/-- A decimal value in dollars. -/
def usdOfDecimal (d : Decimal) : Except Fault String :=
  match d.toDouble? with
  | some x => usdText x
  | none => .error .signalingNan

end ChainAlerts.Amount
