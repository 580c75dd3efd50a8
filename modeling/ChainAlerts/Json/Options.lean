import ChainAlerts.Json.Reading
import ChainAlerts.Number.Num

/-! Reading options leniently. An option that is not given is null, and a value of another kind than the
one asked for counts as that kind's empty value. -/

namespace ChainAlerts.Json

/-- The option under a key, null if it is not given. -/
def option (key : String) : Json → Json
  | .obj fields => (Assoc.get? key fields).getD .null
  | _ => .null

/-- Whether an option is given. -/
def gives (key : String) : Json → Bool
  | .obj fields => Assoc.contains key fields
  | _ => false

/-- An option that is given and not null. -/
def option? (key : String) (v : Json) : Option Json :=
  let given := v.option key
  if given.isNull then none else some given

def number (v : Json) : Int := (v.integer.toOption).getD 0

/-- A value as a count of seconds. -/
def seconds : Json → Num
  | .float x => .float x
  | v => .int v.number

def items : Json → List Json
  | .arr xs => xs
  | _ => []

def optionText (key : String) (v : Json) : String := (v.option key).text
def optionNumber (key : String) (v : Json) : Int := (v.option key).number
def optionItems (key : String) (v : Json) : List Json := (v.option key).items
def optionFlag (key : String) (v : Json) : Bool := (v.option key).truth

/-- Numbers too large for many readers are written as texts. -/
def ofBig (n : Int) : Json := .str (Text.intText n)

/-- A value that may be absent, null standing for its absence. -/
def ofOption {α : Type} (encode : α → Json) : Option α → Json
  | none => .null
  | some a => encode a

end ChainAlerts.Json
