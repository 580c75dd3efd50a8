import ChainAlerts.Text.Blank
import ChainAlerts.Text.Digit
import ChainAlerts.Text.Quoted

/-! Integers written as text: digits of any script, a sign in front, single underscores between the
digits and white space around the whole. -/

namespace ChainAlerts.Integer

/-- Why a text is no integer. -/
inductive SyntaxError where
  | malformed (text : String)
  | tooLong (digits : Nat)
  deriving DecidableEq

/-- The most digits that are converted. -/
def maxDigits : Nat := 4300

/-- Whether an integer has no more digits than a text may hold. -/
def isWritable (n : Int) : Bool := Text.decimalLength n.natAbs ≤ maxDigits

/-- White space that may surround an integer: the information separators are not among it. -/
def isPadding (c : Char) : Bool := Text.isBlank c && !(0x1c ≤ c.toNat && c.toNat ≤ 0x1f)

/-- Reads digits with single underscores between them. `afterDigit` tells whether an underscore may
come next. The result is the digit values and what follows them; an underscore that no digit follows
makes the text malformed. -/
def readDigits : (afterDigit : Bool) → List Char → Option (List Nat × List Char)
  | afterDigit, [] => if afterDigit then some ([], []) else none
  | afterDigit, c :: rest =>
    match Text.digit? c with
    | some d => (readDigits true rest).map fun (ds, tail) => (d :: ds, tail)
    | none =>
      if !afterDigit then none
      else if c = '_' then readDigits false rest
      else some ([], c :: rest)

/-- The wording of a text that is no integer; a long text is cut. -/
def SyntaxError.message : SyntaxError → String
  | .malformed text =>
    "invalid literal for int() with base 10: " ++ String.ofList ((Text.quoted text).toList.take 200)
  | .tooLong digits =>
    s!"Exceeds the limit ({maxDigits} digits) for integer string conversion: value has {digits} digits; " ++
      "use sys.set_int_max_str_digits() to increase the limit"

/-- The integer that a text denotes. A run of digits that is too long is refused as such, whatever
follows it. -/
def parse (s : String) : Except SyntaxError Int :=
  let (negative, body) := match s.toList.dropWhile isPadding with
    | '-' :: rest => (true, rest)
    | '+' :: rest => (false, rest)
    | rest => (false, rest)
  match readDigits false body with
  | none => .error (.malformed s)
  | some (digits, rest) =>
    if maxDigits < digits.length then .error (.tooLong digits.length)
    else if rest.all isPadding then
      let n := Text.ofDigitValues digits
      .ok (if negative then -n else n)
    else .error (.malformed s)

end ChainAlerts.Integer
