import ChainAlerts.Number.Integer
import ChainAlerts.Assoc

/-! Settings read from environment variables. Names are looked up whatever their case, and every variable
of a group is looked at before a group is refused, so that all that is wrong with it is reported
together. -/

namespace ChainAlerts

/-- Variables and their values, later ones overriding earlier ones. -/
abbrev Environment : Type := List (String × String)

/-- What is wrong with a variable. -/
inductive VariableProblem where
  | missing
  | notInteger
  | tooSmall
  | tooLarge
  | notFlag
  | notChoice
  | refused (reason : String)
  deriving DecidableEq, Repr

namespace Environment

def get? (name : String) (env : Environment) : Option String :=
  (env.reverse.find? fun entry => entry.1.toLower = name.toLower).map (·.2)

/-- The reading of a group of variables, which gathers problems. -/
abbrev Reading (α : Type) : Type := StateM (List (String × VariableProblem)) α

/-- Records a problem and goes on with a value in place of the variable's. -/
def complain {α : Type} (name : String) (problem : VariableProblem) (instead : α) : Reading α := fun problems =>
  (instead, problems ++ [(name, problem)])

/-- Reads a variable that has a default. -/
def read {α : Type} (env : Environment) (name : String) (parse : String → Except VariableProblem α)
    (default : α) : Reading α :=
  match env.get? name with
  | none => pure default
  | some value =>
    match parse value with
    | .ok a => pure a
    | .error problem => complain name problem default

/-- Reads a variable that has to be there. -/
def require (env : Environment) (name : String) (parse : String → Except VariableProblem String) :
    Reading String :=
  match env.get? name with
  | none => complain name .missing ""
  | some _ => env.read name parse ""

/-- The integer that a text denotes: digits with single underscores between them, a sign in front, and
zeros behind a point. -/
def integer (s : String) : Except VariableProblem Int :=
  let cs := Text.dropTrailing Integer.isPadding (s.toList.dropWhile Integer.isPadding)
  let (negative, body) := match cs with
    | '-' :: rest => (true, rest)
    | '+' :: rest => (false, rest)
    | rest => (false, rest)
  if cs.any fun c => 128 ≤ c.toNat then .error .notInteger
  else
    match Integer.readDigits false body with
    | none => .error .notInteger
    | some (digits, rest) =>
      let n : Int := Text.ofDigitValues digits
      let value := if negative then -n else n
      match rest with
      | [] => .ok value
      | '.' :: zeros =>
        if !zeros.isEmpty && zeros.all (· == '0') then .ok value else .error .notInteger
      | _ => .error .notInteger

/-- An integer within bounds. -/
def integerWithin (least : Int) (greatest : Option Int) (s : String) : Except VariableProblem Int := do
  let n ← integer s
  if n < least then throw .tooSmall
  match greatest with
  | none => return n
  | some bound => if bound < n then throw .tooLarge else return n

/-- A flag, in any of its spellings. -/
def flag (s : String) : Except VariableProblem Bool :=
  if s.toLower ∈ ["1", "true", "yes", "on", "t", "y"] then .ok true
  else if s.toLower ∈ ["0", "false", "no", "off", "f", "n"] then .ok false
  else .error .notFlag

/-- Whether a text starts with one of some texts. -/
def startsWithAny (starts : List String) (s : String) : Bool :=
  starts.any fun start => start.toList.isPrefixOf s.toList

/-- An address that has to start with one of some schemes. -/
def address (schemes : List String) (reason : String) (s : String) : Except VariableProblem String :=
  if startsWithAny schemes s then .ok s else .error (.refused reason)

end Environment

end ChainAlerts
