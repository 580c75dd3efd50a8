import ChainAlerts.Fault
import ChainAlerts.Json.Parser
import ChainAlerts.Text.Part
import ChainAlerts.Text.Utf8

/-! Reading a value as something else: an integer, a decimal number, the elements of a list, a field
of an object. A value of the wrong kind is converted as far as its text allows. -/

namespace ChainAlerts.Json

/-- A field that has to be there. -/
def field (key : String) : Json → Except Fault Json
  | .obj fields =>
    match Assoc.get? key fields with
    | some v => .ok v
    | none => .error (.missing key)
  | v => .error (.notIndexable v.kind)

/-- A field that may be absent. -/
def field? (key : String) : Json → Except Fault (Option Json)
  | .obj fields => .ok (Assoc.get? key fields)
  | v => .error (.lacks v.kind "get")

/-- A field that may be absent, null standing for its absence. -/
def fieldOrNull (key : String) (v : Json) : Except Fault Json := do
  return (← v.field? key).getD .null

def entries : Json → Except Fault (List (String × Json))
  | .obj fields => .ok fields
  | v => .error (.lacks v.kind "items")

/-- The elements of a list, the keys of an object or the characters of a text. -/
def elements : Json → Except Fault (List Json)
  | .arr items => .ok items
  | .obj fields => .ok (fields.map fun (k, _) => .str k)
  | .str s => .ok (s.toList.map fun c => .str (String.singleton c))
  | v => .error (.notIterable v.kind)

/-- The integer that a text denotes. -/
def readInteger (s : String) : Except Fault Int := (Integer.parse s).mapError .badInteger

/-- The integer towards zero from a floating-point number. -/
def truncateDouble (x : Double) : Except Fault Int :=
  match x with
  | .finite .. => .ok (x.truncate?.getD 0)
  | .infinite _ => .error .infinityToInteger
  | .nan => .error .nanToInteger

/-- A value as an integer: numbers are cut to their whole part, texts are read. -/
def integer : Json → Except Fault Int
  | .bool b => .ok (if b then 1 else 0)
  | .int n => .ok n
  | .float x => truncateDouble x
  | .str s => readInteger s
  | v => .error (.notNumeric v.kind)

/-- The integer that the text form of a value denotes. -/
def integerOfText (v : Json) : Except Fault Int := readInteger v.text

/-- The decimal number that the text form of a value denotes. -/
def decimal (v : Json) : Except Fault Decimal := (Decimal.parse v.text).mapError .badDecimal

/-- Whether a value is the given text. -/
def isText (s : String) : Json → Bool
  | .str t => t == s
  | _ => false

/-- Whether a key is a field of an object, an element of a list or a part of a text. -/
def holds (key : String) : Json → Except Fault Bool
  | .obj fields => .ok (Assoc.contains key fields)
  | .arr items => .ok (items.any (isText key))
  | .str s => .ok (Text.occursIn key.toList s.toList)
  | v => .error (.notContainer v.kind)

/-- The value that a JSON text denotes. -/
def decode (s : String) : Except Fault Json :=
  match parse s with
  | .ok v => .ok v
  | .error (.tooManyDigits n) => .error (.badInteger (.tooLong n))
  | .error e => .error (.badJson (e.message s))

/-- The byte that an element of a list of bytes stands for. -/
def byte : Json → Except Fault Nat
  | .int n => if 0 ≤ n ∧ n < 256 then .ok n.toNat else .error .byteOutOfRange
  | .bool b => .ok (if b then 1 else 0)
  | v => .error (.elementNotByte v.kind)

/-- The value whose JSON text is given as a list of bytes. -/
def decodeBytes (items : List Json) : Except Fault Json := do
  let bytes ← items.mapM byte
  match Text.ofBytes bytes with
  | .ok s => decode s
  | .error e => throw (.badText e.message)

end ChainAlerts.Json
