import ChainAlerts.Number.Decimal

/-! Decimal arithmetic with 28 significant digits. Each operation takes the exact result and rounds
it once, a tie going to the even digit; an operation without a result is an error. -/

namespace ChainAlerts

/-- Why a decimal operation has no result. -/
inductive DecimalFault where
  | invalid
  | divisionByZero
  | overflow
  deriving DecidableEq

namespace Decimal

/-- How many significant digits a result keeps. -/
def precision : Nat := 28

/-- The greatest adjusted exponent of a result. -/
def emax : Int := 999999

/-- The least exponent of a result, that of the last digit of the smallest number. -/
def etiny : Int := -1000026

/-- Rounds a coefficient to at most `precision` digits. -/
def roundDigits (c : Nat) (e : Int) : Nat × Int :=
  let excess := Text.decimalLength c - precision
  if excess = 0 then (c, e)
  else
    let c' := roundDiv c (powTen excess)
    if c' = powTen precision then (powTen (precision - 1), e + excess + 1) else (c', e + excess)

/-- The result nearest to an exact number. A number below the normal range is rounded at the least
exponent instead of the last kept digit. -/
def finish (negative : Bool) (c : Nat) (e : Int) : Except DecimalFault Decimal :=
  if c = 0 then .ok (.finite negative 0 (max etiny (min e emax)))
  else if emax < adjusted c e then .error .overflow
  else if e < etiny ∧ adjusted c e < -emax then
    -- a number far below the least exponent vanishes without its power of ten being computed
    if adjusted c e + 1 < etiny then .ok (.finite negative 0 etiny)
    else .ok (.finite negative (roundDiv c (powTen (etiny - e).toNat)) etiny)
  else
    let (c', e') := roundDigits c e
    if emax < adjusted c' e' then .error .overflow else .ok (.finite negative c' e')

/-- Ten to an integral power. -/
def tenPower (n : Int) : Except DecimalFault Decimal :=
  if n < 0 then finish false 1 n
  else if emax < n then .error .overflow
  else if n < precision then .ok (.finite false (powTen n.toNat) 0)
  else .ok (.finite false (powTen (precision - 1)) (n - (precision - 1)))

/-- The NaN that an operation with a NaN among its operands yields: the first one, with as many digits of its
payload as are kept. -/
def nanOf (a b : Decimal) : Except DecimalFault Decimal :=
  match a, b with
  | .nan _ true _, _ | _, .nan _ true _ => .error .invalid
  | .nan s _ p, _ => .ok (.nan s false (p % powTen precision))
  | _, .nan s _ p => .ok (.nan s false (p % powTen precision))
  | _, _ => .error .invalid

/-- The rounded product. -/
def mul (a b : Decimal) : Except DecimalFault Decimal :=
  match a, b with
  | .nan .., _ | _, .nan .. => nanOf a b
  | .infinite s, .infinite t => .ok (.infinite (s != t))
  | .infinite s, .finite t c _ => if c = 0 then .error .invalid else .ok (.infinite (s != t))
  | .finite s c _, .infinite t => if c = 0 then .error .invalid else .ok (.infinite (s != t))
  | .finite s c e, .finite t c' e' => finish (s != t) (c * c') (e + e')

/-- Removes trailing zeros of a coefficient while its exponent is below `ideal`. -/
def reduceTo (ideal : Int) : (fuel c : Nat) → (e : Int) → Nat × Int
  | 0, c, e => (c, e)
  | fuel + 1, c, e => if e < ideal ∧ c % 10 = 0 then reduceTo ideal fuel (c / 10) (e + 1) else (c, e)

/-- The quotient of two positive coefficients with two digits more than are kept, and the exponent
of its unit. An inexact quotient never ends in 0 or 5, so that no later rounding sees a tie; an
exact one has as few zeros at its end as the exponent `ideal` allows. -/
def quotientDigits (c c' : Nat) (ideal : Int) : Nat × Int :=
  let shift : Int := (Text.decimalLength c' : Int) - Text.decimalLength c + precision + 1
  let (n, d) := scaleTen c c' shift
  let q := n / d
  if n % d = 0 then reduceTo ideal (Text.decimalLength q) q (ideal - shift)
  else (if q % 5 = 0 then q + 1 else q, ideal - shift)

/-- The rounded quotient. -/
def div (a b : Decimal) : Except DecimalFault Decimal :=
  match a, b with
  | .nan .., _ | _, .nan .. => nanOf a b
  | .infinite _, .infinite _ => .error .invalid
  | .infinite s, .finite t _ _ => .ok (.infinite (s != t))
  | .finite s _ _, .infinite t => .ok (.finite (s != t) 0 etiny)
  | .finite s c e, .finite t c' e' =>
    if c' = 0 then .error (if c = 0 then .invalid else .divisionByZero)
    else if c = 0 then finish (s != t) 0 (e - e')
    else
      let (q, unit) := quotientDigits c c' (e - e')
      finish (s != t) q unit

/-- Whether `a` is less than `b`; no order is defined on NaN. -/
def lt (a b : Decimal) : Except DecimalFault Bool :=
  if a.isNan || b.isNan then .error .invalid else .ok (a.ltNumber b)

/-- Whether `a` is at most `b`. -/
def le (a b : Decimal) : Except DecimalFault Bool :=
  if a.isNan || b.isNan then .error .invalid else .ok (!b.ltNumber a)

/-- Whether the number is zero or below. -/
def isNonpositive (a : Decimal) : Except DecimalFault Bool := a.le (.ofNat 0)

end Decimal

end ChainAlerts
