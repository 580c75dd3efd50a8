import ChainAlerts.Number.Double
import ChainAlerts.Text.Blank

/-! Decimal numbers in the form they were written: a sign, a coefficient and a power of ten, so that
`1.50` and `1.5` are equal numbers with different texts. Reading a text and writing it again are
exact. -/

namespace ChainAlerts

/-- A decimal number. A NaN may carry a payload; a payload of zero is the absence of one. -/
inductive Decimal where
  | finite (negative : Bool) (coefficient : Nat) (exponent : Int)
  | infinite (negative : Bool)
  | nan (negative signaling : Bool) (payload : Nat)
  deriving DecidableEq, Repr, Inhabited

/-- Why a text is no decimal number: it does not have the form of one, or its exponent lies beyond
what the format can hold. -/
inductive DecimalSyntaxError where
  | malformed
  | outOfRange
  deriving DecidableEq

namespace Decimal

/-- The greatest adjusted exponent of any decimal number, and in absolute value the least. -/
def exponentBound : Int := 999999999999999999

/-- The least exponent that a coefficient of one digit may have. -/
def tiniestExponent : Int := -1999999999999999997

def ofNat (n : Nat) : Decimal := .finite false n 0

/-- The power of ten of the leading digit. -/
def adjusted (coefficient : Nat) (exponent : Int) : Int :=
  exponent + Text.decimalLength coefficient - 1

/-- A number whose exponent lies within the bounds of the format. -/
def inRange : Decimal → Bool
  | .finite _ 0 e => tiniestExponent ≤ e && e ≤ exponentBound
  | .finite _ c e => tiniestExponent ≤ e && adjusted c e ≤ exponentBound
  | _ => true

/-- Lower case for the letters of the English alphabet. -/
def lowerLetters (cs : List Char) : List Char := cs.map Char.toLower

/-- The values of a run of decimal digits, or nothing if another character occurs in it. -/
def digitValues? (cs : List Char) : Option (List Nat) := cs.mapM Text.digit?

/-- Splits an optional sign off. -/
def splitSign : List Char → Bool × List Char
  | '-' :: rest => (true, rest)
  | '+' :: rest => (false, rest)
  | rest => (false, rest)

/-- The exponent part of a number: nothing at all, or `e` with a signed run of digits. -/
def readExponent? : List Char → Option Int
  | [] => some 0
  | c :: rest => do
    guard (c.toLower = 'e')
    let (negative, digits) := splitSign rest
    guard (!digits.isEmpty)
    let n := Text.ofDigitValues (← digitValues? digits)
    return if negative then -n else n

def isDigit (c : Char) : Bool := (Text.digit? c).isSome

/-- Splits a fraction off: the digits behind a point. -/
def splitFraction : List Char → List Char × List Char
  | '.' :: rest => rest.span isDigit
  | rest => ([], rest)

/-- An unsigned finite number: digits with at most one point among them, and an exponent. -/
def readFinite? (negative : Bool) (cs : List Char) : Option Decimal := do
  let (whole, rest) := cs.span isDigit
  let (fraction, rest) := splitFraction rest
  let digits ← digitValues? (whole ++ fraction)
  guard (!digits.isEmpty)
  let exponent ← readExponent? rest
  return .finite negative (Text.ofDigitValues digits) (exponent - fraction.length)

/-- A number without its sign. -/
def readUnsigned? (negative : Bool) (cs : List Char) : Option Decimal :=
  let lower := lowerLetters cs
  if lower = "inf".toList ∨ lower = "infinity".toList then some (.infinite negative)
  else if lower.take 3 = "nan".toList then
    (digitValues? (cs.drop 3)).map fun ds => .nan negative false (Text.ofDigitValues ds)
  else if lower.take 4 = "snan".toList then
    (digitValues? (cs.drop 4)).map fun ds => .nan negative true (Text.ofDigitValues ds)
  else readFinite? negative cs

/-- The number that a text denotes. White space around it is ignored, and so are underscores
anywhere. -/
def parse (s : String) : Except DecimalSyntaxError Decimal :=
  let (negative, body) := splitSign ((Text.stripChars s.toList).filter (· ≠ '_'))
  match readUnsigned? negative body with
  | none => .error .malformed
  | some d => if d.inRange then .ok d else .error .outOfRange

/-- The text of a decimal number: positional unless the exponent is positive or the number so small
that more than five zeros would follow the point. -/
def text : Decimal → String
  | .infinite s => (if s then "-" else "") ++ "Infinity"
  | .nan s signaling payload =>
    (if s then "-" else "") ++ (if signaling then "sNaN" else "NaN") ++
      (if payload = 0 then "" else Text.decimalText payload)
  | .finite s c e =>
    let sign := if s then "-" else ""
    if e ≤ 0 ∧ -6 ≤ adjusted c e then sign ++ placePoint c (-e).toNat
    else
      let digits := Nat.toDigits 10 c
      let fraction := digits.drop 1
      let mantissa := digits.take 1 ++ (if fraction.isEmpty then [] else '.' :: fraction)
      let size := adjusted c e
      sign ++ String.ofList mantissa ++ "E" ++ (if size < 0 then "" else "+") ++ Text.intText size

def isNan : Decimal → Bool
  | .nan .. => true
  | _ => false

def isZero : Decimal → Bool
  | .finite _ c _ => c == 0
  | _ => false

/-- The nearest double-precision number; nothing for a signaling NaN. -/
def toDouble? : Decimal → Option Double
  | .finite s c e => some (Double.ofDecimal s c e)
  | .infinite s => some (.infinite s)
  | .nan _ signaling _ => if signaling then none else some .nan

/-- The integer towards zero from a finite number. -/
def truncate? : Decimal → Option Int
  | .finite s c e => let (n, d) := scaleTen c 1 e; some (Double.signed s (n / d))
  | _ => none

/-- Order of the absolute values of two finite numbers. Only numbers with the same leading power of
ten are brought to a common exponent. -/
def absLt (c : Nat) (e : Int) (c' : Nat) (e' : Int) : Bool :=
  if c' = 0 then false
  else if c = 0 then true
  else if adjusted c e ≠ adjusted c' e' then adjusted c e < adjusted c' e'
  else
    let least := min e e'
    c * powTen (e - least).toNat < c' * powTen (e' - least).toNat

/-- Order of the numbers other than NaN, infinities included. -/
def ltNumber : Decimal → Decimal → Bool
  | .infinite s, .infinite t => s && !t
  | .infinite s, _ => s
  | _, .infinite t => !t
  | .finite s c e, .finite t c' e' =>
    if c = 0 then !t && c' ≠ 0
    else if c' = 0 then s
    else
      match s, t with
      | true, false => true
      | false, true => false
      | false, false => absLt c e c' e'
      | true, true => absLt c' e' c e
  | _, _ => false

end Decimal

end ChainAlerts
