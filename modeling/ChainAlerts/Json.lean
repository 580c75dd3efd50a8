import ChainAlerts.Assoc
import ChainAlerts.Number.DoubleText
import ChainAlerts.Text.Quoted

/-! JSON values as other services send them: integers and floating-point numbers are different
values, and the fields of an object keep their order. A repeated key is kept once, at its first
place and with its last value. -/

namespace ChainAlerts

inductive Json where
  | null
  | bool (b : Bool)
  | int (n : Int)
  | float (x : Double)
  | str (s : String)
  | arr (items : List Json)
  | obj (fields : List (String × Json))
  deriving Inhabited

namespace Json

/-- What a value is, without its contents. -/
inductive Kind where
  | null | bool | int | float | str | arr | obj
  deriving DecidableEq, Repr

def kind : Json → Kind
  | .null => .null
  | .bool _ => .bool
  | .int _ => .int
  | .float _ => .float
  | .str _ => .str
  | .arr _ => .arr
  | .obj _ => .obj

/-- The word messages use for a kind of value. -/
def Kind.name : Kind → String
  | .null => "NoneType"
  | .bool => "bool"
  | .int => "int"
  | .float => "float"
  | .str => "str"
  | .arr => "list"
  | .obj => "dict"

def isNull : Json → Bool
  | .null => true
  | _ => false

/-- An optional text, null standing for its absence. -/
def ofText? : Option String → Json
  | none => .null
  | some s => .str s

mutual

/-- How a value is written inside the text of a container, and in messages that name it. -/
def shown : Json → String
  | .null => "None"
  | .bool b => if b then "True" else "False"
  | .int n => Text.intText n
  | .float x => x.text
  | .str s => Text.quoted s
  | .arr items => "[" ++ shownItems items ++ "]"
  | .obj fields => "\x7b" ++ shownFields fields ++ "\x7d"

def shownItems : List Json → String
  | [] => ""
  | [x] => x.shown
  | x :: y :: rest => x.shown ++ ", " ++ shownItems (y :: rest)

def shownFields : List (String × Json) → String
  | [] => ""
  | [(k, v)] => Text.quoted k ++ ": " ++ v.shown
  | (k, v) :: f :: rest => Text.quoted k ++ ": " ++ v.shown ++ ", " ++ shownFields (f :: rest)

end

/-- The text form of a value: a string is its own text, any other value is written out. -/
def text : Json → String
  | .str s => s
  | v => v.shown

/-- Whether a value counts as set: everything does but null, false, zero and what is empty. -/
def truth : Json → Bool
  | .null => false
  | .bool b => b
  | .int n => n ≠ 0
  | .float x => !x.isZero
  | .str s => s ≠ ""
  | .arr items => !items.isEmpty
  | .obj fields => !fields.isEmpty

end Json

end ChainAlerts
