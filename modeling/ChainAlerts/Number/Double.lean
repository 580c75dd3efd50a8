import ChainAlerts.Number.Rounding

/-! Binary floating-point numbers with 53 significant bits, as exact values. A finite number is a
sign, a mantissa and a power of two; each operation computes the exact result and rounds it once. -/

namespace ChainAlerts

/-- A double-precision number. In a finite one the mantissa is below `2 ^ 53` and the exponent at
least -1074, with a mantissa of full length unless the exponent is the least one. -/
inductive Double where
  | finite (negative : Bool) (mantissa : Nat) (exponent : Int)
  | infinite (negative : Bool)
  | nan
  deriving DecidableEq, Repr, Inhabited

namespace Double

/-- The zero of the given sign. -/
def zero (negative : Bool) : Double := .finite negative 0 (-1074)

/-- The number nearest to `num / den` with the given sign; beyond the largest one, infinity. -/
def ofRatio (negative : Bool) (num den : Nat) : Double :=
  if num = 0 then zero negative
  else
    let exponent := max (binaryExponent num den - 52) (-1074)
    let (n, d) := scaleTwo num den (-exponent)
    let m := roundDiv n d
    let (m, exponent) := if m = powTwo 53 then (powTwo 52, exponent + 1) else (m, exponent)
    if 971 < exponent then .infinite negative else .finite negative m exponent

def ofInt (n : Int) : Double := ofRatio (n < 0) n.natAbs 1

/-- The number nearest to `coefficient · 10 ^ exponent`. Powers far outside the range are not
computed. -/
def ofDecimal (negative : Bool) (coefficient : Nat) (exponent : Int) : Double :=
  if coefficient = 0 then zero negative
  else
    let top := exponent + Text.decimalLength coefficient
    if 400 < top then .infinite negative
    else if top < -400 then zero negative
    else
      let (n, d) := scaleTen coefficient 1 exponent
      ofRatio negative n d

def isFinite : Double → Bool
  | .finite .. => true
  | _ => false

def isNan : Double → Bool
  | .nan => true
  | _ => false

def isNegative : Double → Bool
  | .finite s _ _ => s
  | .infinite s => s
  | .nan => false

/-- The number with its sign turned round. -/
def neg : Double → Double
  | .finite s m e => .finite (!s) m e
  | .infinite s => .infinite (!s)
  | .nan => .nan

/-- The signed numerator of a fraction. -/
def signed (negative : Bool) (n : Nat) : Int := if negative then -(n : Int) else n

/-- The rounded sum; a sum of zero from operands of different sign is positive. -/
def add (a b : Double) : Double :=
  match a, b with
  | .nan, _ | _, .nan => .nan
  | .infinite s, .infinite t => if s = t then .infinite s else .nan
  | .infinite s, _ => .infinite s
  | _, .infinite t => .infinite t
  | .finite s m e, .finite t n f =>
    let least := min e f
    let x := signed s (m * powTwo (e - least).toNat) + signed t (n * powTwo (f - least).toNat)
    if x = 0 then zero (s && t)
    else
      let (num, den) := scaleTwo x.natAbs 1 least
      ofRatio (x < 0) num den

def sub (a b : Double) : Double := a.add b.neg

/-- The rounded quotient of finite numbers, the divisor not being zero. -/
def div (a b : Double) : Double :=
  match a, b with
  | .nan, _ | _, .nan => .nan
  | .infinite _, .infinite _ => .nan
  | .infinite s, .finite t _ _ => .infinite (s != t)
  | .finite s _ _, .infinite t => zero (s != t)
  | .finite s m e, .finite t n f =>
    let (num, den) := scaleTwo m n (e - f)
    ofRatio (s != t) num den

def double (a : Double) : Double := a.add a

/-- Order of the numbers, the zeros being equal and no comparison with a NaN holding. -/
def lt (a b : Double) : Bool :=
  match a, b with
  | .nan, _ | _, .nan => false
  | .infinite s, .infinite t => s && !t
  | .infinite s, _ => s
  | _, .infinite t => !t
  | .finite s m e, .finite t n f =>
    let least := min e f
    decide (signed s (m * powTwo (e - least).toNat) < signed t (n * powTwo (f - least).toNat))

/-- Equality of the numbers: the zeros are equal and a NaN equals nothing. -/
def eqv (a b : Double) : Bool := !a.isNan && !b.isNan && !a.lt b && !b.lt a

def le (a b : Double) : Bool := a.lt b || a.eqv b

/-- Either of the two zeros. -/
def isZero : Double → Bool
  | .finite _ m _ => m == 0
  | _ => false

/-- The integer towards zero from a finite number. -/
def truncate? : Double → Option Int
  | .finite s m e => let (n, d) := scaleTwo m 1 e; some (signed s (n / d))
  | _ => none

/-- The correctly rounded quotient of two integers, the divisor not being zero; nothing if it is
beyond the largest number. -/
def ofQuotient? (a b : Int) : Option Double :=
  let x := ofRatio ((a < 0) != (b < 0) && a != 0) a.natAbs b.natAbs
  if x.isFinite then some x else none

/-- The number nearest to an integer, or nothing if the integer is beyond the largest number. -/
def ofInt? (n : Int) : Option Double :=
  let x := ofInt n
  if x.isFinite then some x else none

end Double

end ChainAlerts
