import ChainAlerts.Text.Digit

/-! Rounding of exact quotients. Every inexact result in this library is the nearest value of some
grid, a tie going to the even neighbour; this module holds that one rule and the decimal size of a
quotient, which fixes the grid. -/

namespace ChainAlerts

/-- The integer nearest to `num / den`, a tie going to the even one. -/
def roundDiv (num den : Nat) : Nat :=
  let q := num / den
  let r := num % den
  if 2 * r < den then q
  else if den < 2 * r then q + 1
  else if q % 2 = 0 then q else q + 1

def powTen (n : Nat) : Nat := Nat.pow 10 n

def powTwo (n : Nat) : Nat := Nat.pow 2 n

/-- `num / den · 10 ^ shift` as a fraction. -/
def scaleTen (num den : Nat) (shift : Int) : Nat × Nat :=
  if 0 ≤ shift then (num * powTen shift.toNat, den) else (num, den * powTen (-shift).toNat)

/-- `num / den · 2 ^ shift` as a fraction. -/
def scaleTwo (num den : Nat) (shift : Int) : Nat × Nat :=
  if 0 ≤ shift then (num * powTwo shift.toNat, den) else (num, den * powTwo (-shift).toNat)

/-- The exponent `e` with `10 ^ e ≤ num / den < 10 ^ (e + 1)`, for a positive quotient. -/
def decimalExponent (num den : Nat) : Int :=
  let e : Int := (Text.decimalLength num : Int) - Text.decimalLength den
  let (n, d) := scaleTen num den (-e)
  if d ≤ n then e else e - 1

/-- The exponent `e` with `2 ^ e ≤ num / den < 2 ^ (e + 1)`, for a positive quotient. -/
def binaryExponent (num den : Nat) : Int :=
  let e : Int := (Nat.log2 num : Int) - Nat.log2 den
  let (n, d) := scaleTwo num den (-e)
  if d ≤ n then e else e - 1

/-- The digits of `n` with a point before the last `places` of them. -/
def placePoint (n places : Nat) : String :=
  if places = 0 then Text.decimalText n
  else
    let digits := Nat.toDigits 10 n
    let padded := List.replicate (places + 1 - digits.length) '0' ++ digits
    let whole := padded.length - places
    String.ofList (padded.take whole ++ '.' :: padded.drop whole)

end ChainAlerts
