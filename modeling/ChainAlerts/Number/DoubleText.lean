import ChainAlerts.Number.Double

/-! Decimal forms of a floating-point number: the shortest one that reads back as the same number,
and the one with a given count of places. -/

namespace ChainAlerts.Double

/-- Of the two decimals with `count` digits on either side of `num / den`, one that reads back as
`x`; if both do, the nearer. The result is the digits as a number and the exponent of its unit. -/
def decimalWithin (x : Double) (num den : Nat) (exponent : Int) (count : Nat) : Option (Nat × Int) :=
  let unit := exponent - count + 1
  let (n, d) := scaleTen num den (-unit)
  let near := roundDiv n d
  let far := if near = n / d then near + 1 else near - 1
  if ofDecimal false near unit = x then some (near, unit)
  else if ofDecimal false far unit = x then some (far, unit)
  else none

/-- Tries ever more digits, `fuel` times, and gives up with the digits of the last grid. -/
def searchDigits (x : Double) (num den : Nat) (exponent : Int) : (fuel count : Nat) → Nat × Int
  | 0, count =>
    let unit := exponent - count + 1
    let (n, d) := scaleTen num den (-unit)
    (roundDiv n d, unit)
  | fuel + 1, count =>
    match decimalWithin x num den exponent count with
    | some found => found
    | none => searchDigits x num den exponent fuel (count + 1)

/-- The fewest decimal digits, as a number and the exponent of its unit, that read back as the
positive number with this mantissa and exponent. Seventeen digits always do. -/
def shortestDigits (mantissa : Nat) (exponent : Int) : Nat × Int :=
  let (num, den) := scaleTwo mantissa 1 exponent
  searchDigits (.finite false mantissa exponent) num den (decimalExponent num den) 16 1

/-- Removes the trailing zeros of `n`, raising the exponent of its unit for each. -/
def trimZeros : (fuel n : Nat) → (unit : Int) → Nat × Int
  | 0, n, unit => (n, unit)
  | fuel + 1, n, unit => if n ≠ 0 ∧ n % 10 = 0 then trimZeros fuel (n / 10) (unit + 1) else (n, unit)

/-- The text of a positive number from its digits: positional for exponents from -4 to 15, else one
digit, the others after a point, and an exponent of two or more digits with its sign. -/
def digitsText (n : Nat) (unit : Int) : String :=
  let digits := Nat.toDigits 10 n
  let exponent := unit + digits.length - 1
  if -4 ≤ exponent ∧ exponent < 16 then
    if 0 ≤ unit then Text.decimalText (n * powTen unit.toNat) ++ ".0" else placePoint n (-unit).toNat
  else
    let fraction := digits.drop 1
    let mantissa := digits.take 1 ++ (if fraction.isEmpty then [] else '.' :: fraction)
    let size := Nat.toDigits 10 exponent.natAbs
    let size := if size.length < 2 then '0' :: size else size
    String.ofList (mantissa ++ 'e' :: (if exponent < 0 then '-' else '+') :: size)

/-- The shortest text that reads back as the same number. -/
def text : Double → String
  | .nan => "nan"
  | .infinite s => if s then "-inf" else "inf"
  | .finite s m e =>
    let sign := if s then "-" else ""
    if m = 0 then sign ++ "0.0"
    else
      let (n, unit) := shortestDigits m e
      let (n, unit) := trimZeros 20 n unit
      sign ++ digitsText n unit

/-- The text with exactly `places` digits after the point, the exact value being rounded half to
even. -/
def fixed (places : Nat) : Double → String
  | .nan => "nan"
  | .infinite s => if s then "-inf" else "inf"
  | .finite s m e =>
    let (num, den) := scaleTwo m 1 e
    (if s then "-" else "") ++ placePoint (roundDiv (num * powTen places) den) places

/-- The natural logarithm of ten to thirty places, as a fraction. -/
def lnTen : Nat × Nat := (2302585092994045684017991454684, powTen 30)

/-- Whether the base-ten logarithm of `num / den`, which lies below the integer `k`, rounds up to `k`
in double precision. The distance of the logarithm from `k` is compared with half the spacing of the
numbers just below `k`. -/
def logRoundsUp (num den : Nat) (k : Int) : Bool :=
  if k = 0 then false
  else
    -- the spacing below `k` is `2 ^ (e - 52)`, `e` being the binary exponent of the numbers there
    let e : Int :=
      if 0 < k ∧ powTwo (Nat.log2 k.natAbs) = k.natAbs then Nat.log2 k.natAbs - 1 else Nat.log2 k.natAbs
    -- the relative gap `1 - num / (den · 10 ^ k)` is at most half the spacing times `ln 10`
    let (n, d) := scaleTen num den (-k)
    let (ln, unit) := lnTen
    decide ((d - n) * powTwo (53 - e).toNat * unit ≤ ln * d)

/-- The base-ten logarithm of a positive finite number, rounded to double precision and then down to
an integer. -/
def logFloor (mantissa : Nat) (exponent : Int) : Int :=
  let (num, den) := scaleTwo mantissa 1 exponent
  let k := decimalExponent num den
  if logRoundsUp num den (k + 1) then k + 1 else k

/-- Whether a positive finite number is exactly a power of ten, or so close above one that its
base-ten logarithm rounds to the integer `k`. -/
def logIsInteger (mantissa : Nat) (exponent : Int) (k : Int) : Bool :=
  let (num, den) := scaleTwo mantissa 1 exponent
  let (n, d) := scaleTen num den (-k)
  if n < d then logRoundsUp num den k
  else if k = 0 then n == d
  else
    let size := k.natAbs
    let e : Int := if k < 0 ∧ powTwo (Nat.log2 size) = size then Nat.log2 size - 1 else Nat.log2 size
    let (ln, unit) := lnTen
    decide ((n - d) * powTwo (53 - e).toNat * unit ≤ ln * d)

/-- The base-ten logarithm of a positive finite number, rounded to double precision and then towards
zero. -/
def logTruncate (mantissa : Nat) (exponent : Int) : Int :=
  let k := logFloor mantissa exponent
  if k < 0 ∧ !logIsInteger mantissa exponent k then k + 1 else k

end ChainAlerts.Double
