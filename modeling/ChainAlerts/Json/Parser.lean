import ChainAlerts.Json
import ChainAlerts.Number.Integer

/-! Reading JSON text. A failure names what was expected and where, by line, column and character.
The words for NaN and the infinities are accepted as numbers, and an integer may have no more digits
than integers may have elsewhere. -/

namespace ChainAlerts.Json

/-- What the reader found missing or wrong. -/
inductive Complaint where
  | value
  | propertyName
  | colon
  | comma
  | unterminatedString
  | controlCharacter
  | escape
  | unicodeEscape
  | extraData
  | byteOrderMark
  deriving DecidableEq, Repr

def Complaint.wording : Complaint → String
  | .value => "Expecting value"
  | .propertyName => "Expecting property name enclosed in double quotes"
  | .colon => "Expecting ':' delimiter"
  | .comma => "Expecting ',' delimiter"
  | .unterminatedString => "Unterminated string starting at"
  | .controlCharacter => "Invalid control character at"
  | .escape => "Invalid \\escape"
  | .unicodeEscape => "Invalid \\uXXXX escape"
  | .extraData => "Extra data"
  | .byteOrderMark => "Unexpected UTF-8 BOM (decode using utf-8-sig)"

/-- Why a text is no JSON: a complaint about a character position, or an integer with too many
digits. -/
inductive ParseError where
  | at (complaint : Complaint) (position : Nat)
  | tooManyDigits (count : Nat)
  deriving DecidableEq, Repr

/-- The rest of a text and the position at which it starts. -/
structure Cursor where
  rest : List Char
  position : Nat

namespace Cursor

/-- Moves past the first `n` characters. -/
def advance (c : Cursor) (n : Nat) : Cursor := ⟨c.rest.drop n, c.position + n⟩

def isSpace (c : Char) : Bool := c == ' ' || c == '\t' || c == '\n' || c == '\r'

def skipSpace (c : Cursor) : Cursor :=
  c.advance (c.rest.takeWhile isSpace).length

end Cursor

/-- The value of a base-sixteen digit. -/
def hexValue? (c : Char) : Option Nat :=
  if '0' ≤ c ∧ c ≤ '9' then some (c.toNat - 48)
  else if 'a' ≤ c ∧ c ≤ 'f' then some (c.toNat - 87)
  else if 'A' ≤ c ∧ c ≤ 'F' then some (c.toNat - 55)
  else none

/-- The value of exactly four base-sixteen digits that another character follows. -/
def fourHex? : List Char → Option Nat
  | a :: b :: c :: d :: _ :: _ => do
    return ((← hexValue? a) * 16 + (← hexValue? b)) * 256 + (← hexValue? c) * 16 + (← hexValue? d)
  | _ => none

/-- The character that a one-letter escape stands for. -/
def plainEscape? : Char → Option Char
  | '"' => some '"'
  | '\\' => some '\\'
  | '/' => some '/'
  | 'b' => some '\x08'
  | 'f' => some '\x0c'
  | 'n' => some '\n'
  | 'r' => some '\r'
  | 't' => some '\t'
  | _ => none

/-- What stands for half of a surrogate pair without its other half. -/
def replacement : Char := Char.ofNat 0xfffd

/-- Reads the escape whose backslash stands at the cursor; the result is its character and the
number of characters it takes. A pair of surrogates is one character. -/
def readEscape (cur : Cursor) (opening : Nat) : Except ParseError (Char × Nat) :=
  match cur.rest with
  | _ :: 'u' :: digits =>
    match fourHex? digits with
    | none => .error (.at .unicodeEscape (cur.position + 1))
    | some high =>
      if 0xd800 ≤ high ∧ high ≤ 0xdbff then
        match digits.drop 4 with
        | '\\' :: 'u' :: more =>
          match fourHex? more with
          | some low =>
            if 0xdc00 ≤ low ∧ low ≤ 0xdfff then
              .ok (Char.ofNat (0x10000 + (high - 0xd800) * 0x400 + (low - 0xdc00)), 12)
            else .ok (replacement, 6)
          | none => .ok (replacement, 6)
        | _ => .ok (replacement, 6)
      else if 0xdc00 ≤ high ∧ high ≤ 0xdfff then .ok (replacement, 6)
      else .ok (Char.ofNat high, 6)
  | _ :: c :: _ =>
    match plainEscape? c with
    | some c => .ok (c, 2)
    | none => .error (.at .escape cur.position)
  | _ => .error (.at .unterminatedString opening)

/-- Reads the rest of a string whose opening quote stands at `opening`. -/
def readString (opening : Nat) : (fuel : Nat) → Cursor → (taken : List Char) →
    Except ParseError (String × Cursor)
  | 0, _, _ => .error (.at .unterminatedString opening)
  | fuel + 1, cur, taken =>
    match cur.rest with
    | [] => .error (.at .unterminatedString opening)
    | '"' :: _ => .ok (String.ofList taken.reverse, cur.advance 1)
    | '\\' :: _ => do
      let (c, n) ← readEscape cur opening
      readString opening fuel (cur.advance n) (c :: taken)
    | c :: _ =>
      if c.toNat < 0x20 then .error (.at .controlCharacter cur.position)
      else readString opening fuel (cur.advance 1) (c :: taken)

def isAsciiDigit (c : Char) : Bool := '0' ≤ c && c ≤ '9'

def digitRun (cs : List Char) : List Char := cs.takeWhile isAsciiDigit

def digitsValue (ds : List Char) : Nat := Text.ofDigitValues (ds.map fun c => c.toNat - 48)

/-- The digits of the fraction that starts at a point, if at least one follows it. -/
def fractionDigits : List Char → List Char
  | '.' :: rest => digitRun rest
  | _ => []

/-- The value and the length of an exponent part, if one starts here. -/
def exponentPart : List Char → Option (Int × Nat)
  | e :: rest =>
    if e = 'e' ∨ e = 'E' then
      let (negative, digits, size) := match rest with
        | '-' :: tail => (true, digitRun tail, 2)
        | '+' :: tail => (false, digitRun tail, 2)
        | tail => (false, digitRun tail, 1)
      if digits.isEmpty then none
      else some (Double.signed negative (digitsValue digits), size + digits.length)
    else none
  | [] => none

/-- Whether a text starts with a minus sign, what follows the sign, and how many characters it takes. -/
def splitMinus : List Char → Bool × List Char × Nat
  | '-' :: rest => (true, rest, 1)
  | rest => (false, rest, 0)

/-- The digits in front of a point. A zero stands alone. -/
def wholeDigits : List Char → List Char
  | '0' :: _ => ['0']
  | cs => digitRun cs

/-- The number that its parts denote: an integer unless it has a fraction or an exponent. -/
def numberOf (negative : Bool) (whole fraction : List Char) (exponent : Option Int) : Except ParseError Json :=
  if fraction.isEmpty && exponent.isNone then
    if Integer.maxDigits < whole.length then .error (.tooManyDigits whole.length)
    else .ok (.int (Double.signed negative (digitsValue whole)))
  else
    .ok (.float (Double.ofDecimal negative (digitsValue (whole ++ fraction)) (exponent.getD 0 - fraction.length)))

/-- Reads a number; its first character is a digit or a minus sign. -/
def readNumber (cur : Cursor) : Except ParseError (Json × Cursor) :=
  let (negative, body, signSize) := splitMinus cur.rest
  let whole := wholeDigits body
  if whole.isEmpty then .error (.at .value cur.position)
  else
    let afterWhole := body.drop whole.length
    let fraction := fractionDigits afterWhole
    let fractionSize := if fraction.isEmpty then 0 else fraction.length + 1
    let exponent := exponentPart (afterWhole.drop fractionSize)
    let size := signSize + whole.length + fractionSize + (exponent.map (·.2)).getD 0
    do return (← numberOf negative whole fraction (exponent.map (·.1)), cur.advance size)

/-- The words that are values, with the value each stands for. -/
def literals : List (String × Json) :=
  [("null", .null), ("true", .bool true), ("false", .bool false), ("NaN", .float .nan),
    ("Infinity", .float (.infinite false)), ("-Infinity", .float (.infinite true))]

/-- Reads a word or a number. -/
def readScalar (cur : Cursor) : Except ParseError (Json × Cursor) :=
  match literals.find? fun (word, _) => word.toList.isPrefixOf cur.rest with
  | some (word, v) => .ok (v, cur.advance word.length)
  | none => readNumber cur

mutual

def readValue : (fuel : Nat) → Cursor → Except ParseError (Json × Cursor)
  | 0, cur => .error (.at .value cur.position)
  | fuel + 1, cur =>
    match cur.rest with
    | '"' :: _ => do
      let (s, cur) ← readString cur.position (cur.rest.length + 1) (cur.advance 1) []
      return (.str s, cur)
    | '[' :: _ =>
      let inner := (cur.advance 1).skipSpace
      match inner.rest with
      | ']' :: _ => .ok (.arr [], inner.advance 1)
      | _ => do
        let (items, cur) ← readItems fuel inner
        return (.arr items, cur)
    | '\x7b' :: _ =>
      let inner := (cur.advance 1).skipSpace
      match inner.rest with
      | '\x7d' :: _ => .ok (.obj [], inner.advance 1)
      | _ => do
        let (pairs, cur) ← readPairs fuel inner
        return (.obj (Assoc.ofPairs pairs), cur)
    | _ => readScalar cur

/-- Reads the items of a list up to and with its closing bracket. -/
def readItems : (fuel : Nat) → Cursor → Except ParseError (List Json × Cursor)
  | 0, cur => .error (.at .value cur.position)
  | fuel + 1, cur => do
    let (item, cur) ← readValue fuel cur
    let cur := cur.skipSpace
    match cur.rest with
    | ']' :: _ => return ([item], cur.advance 1)
    | ',' :: _ =>
      let (items, cur) ← readItems fuel (cur.advance 1).skipSpace
      return (item :: items, cur)
    | _ => throw (.at .comma cur.position)

/-- Reads the fields of an object up to and with its closing brace. -/
def readPairs : (fuel : Nat) → Cursor → Except ParseError (List (String × Json) × Cursor)
  | 0, cur => .error (.at .value cur.position)
  | fuel + 1, cur =>
    match cur.rest with
    | '"' :: _ => do
      let (key, cur) ← readString cur.position (cur.rest.length + 1) (cur.advance 1) []
      let cur := cur.skipSpace
      match cur.rest with
      | ':' :: _ =>
        let (v, cur) ← readValue fuel (cur.advance 1).skipSpace
        let cur := cur.skipSpace
        match cur.rest with
        | '\x7d' :: _ => return ([(key, v)], cur.advance 1)
        | ',' :: _ =>
          let (pairs, cur) ← readPairs fuel (cur.advance 1).skipSpace
          return ((key, v) :: pairs, cur)
        | _ => throw (.at .comma cur.position)
      | _ => throw (.at .colon cur.position)
    | _ => .error (.at .propertyName cur.position)

end

/-- Reads a text that holds one value and nothing else. -/
def parse (s : String) : Except ParseError Json :=
  let cs := s.toList
  if cs.head? = some (Char.ofNat 0xfeff) then .error (.at .byteOrderMark 0)
  else do
    let (v, cur) ← readValue (cs.length + 1) (Cursor.skipSpace ⟨cs, 0⟩)
    let cur := cur.skipSpace
    if cur.rest.isEmpty then return v else throw (.at .extraData cur.position)

/-- The wording of a failure to read `s`: lines and columns count from one. -/
def ParseError.message (s : String) : ParseError → String
  | .at complaint position =>
    let before := s.toList.take position
    let line := before.count '\n' + 1
    let column := (before.reverse.takeWhile (· ≠ '\n')).length + 1
    s!"{complaint.wording}: line {line} column {column} (char {position})"
  | .tooManyDigits count => (Integer.SyntaxError.tooLong count).message

end ChainAlerts.Json
