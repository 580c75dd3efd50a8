import ChainAlerts.Number.DoubleText

/-! Moments given in nanoseconds since the start of 1970, and their calendar form. A moment passes
through a double-precision count of seconds and is then rounded to the microsecond, half to even. -/

namespace ChainAlerts.Instant

/-- Years, months and days from a count of days since the first of March of year zero. -/
def civil (days : Int) : Int × Int × Int :=
  let era := days / 146097
  let dayOfEra := days % 146097
  let yearOfEra := (dayOfEra - dayOfEra / 1460 + dayOfEra / 36524 - dayOfEra / 146096) / 365
  let dayOfYear := dayOfEra - (365 * yearOfEra + yearOfEra / 4 - yearOfEra / 100)
  let shifted := (5 * dayOfYear + 2) / 153
  let month := if shifted < 10 then shifted + 3 else shifted - 9
  let year := yearOfEra + era * 400 + (if month ≤ 2 then 1 else 0)
  (year, month, dayOfYear - (153 * shifted + 2) / 5 + 1)

/-- A number with leading zeros. -/
def padded (width : Nat) (n : Int) : String :=
  let digits := Nat.toDigits 10 n.natAbs
  String.ofList (List.replicate (width - digits.length) '0' ++ digits)

/-- The first and the last second that have a calendar form, in the years 1 and 9999. -/
def firstSecond : Int := -62135596800
def lastSecond : Int := 253402300799

/-- Whole seconds and microseconds of a count of seconds. The fraction is multiplied in double
precision before it is rounded. -/
def split? (x : Double) : Option (Int × Int) :=
  match x with
  | .finite s m e =>
    let (num, den) := scaleTwo m 1 e
    let whole := Double.signed s (num / den)
    let micros := match Double.ofRatio false (num % den * 1000000) den with
      | .finite _ m e => let (n, d) := scaleTwo m 1 e; Double.signed s (roundDiv n d)
      | _ => 0
    if micros < 0 then some (whole - 1, micros + 1000000)
    else if 1000000 ≤ micros then some (whole + 1, micros - 1000000)
    else some (whole, micros)
  | _ => none

/-- The calendar form of a moment, or nothing outside the years it can show. -/
def calendar? (nanoseconds : Int) : Option String := do
  let (seconds, micros) ← split? (← Double.ofQuotient? nanoseconds 1000000000)
  guard (firstSecond ≤ seconds ∧ seconds ≤ lastSecond)
  let (year, month, day) := civil (seconds / 86400 + 719468)
  let time := seconds % 86400
  let fraction := if micros = 0 then "" else "." ++ padded 6 micros
  return padded 4 year ++ "-" ++ padded 2 month ++ "-" ++ padded 2 day ++ "T" ++ padded 2 (time / 3600) ++
    ":" ++ padded 2 (time / 60 % 60) ++ ":" ++ padded 2 (time % 60) ++ fraction ++ "+00:00"

end ChainAlerts.Instant
