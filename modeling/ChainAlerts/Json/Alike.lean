import ChainAlerts.Json
import ChainAlerts.Number.Num

/-! When two values say the same: numbers that are equal whatever their kind, lists with the same elements
in the same order, objects with the same fields in any order. A value that is not a number is the same
as no value. -/

namespace ChainAlerts.Json

/-- The number that a value is; yes and no count as one and zero. -/
def numeric? : Json → Option Num
  | .bool b => some (.int (if b then 1 else 0))
  | .int n => some (.int n)
  | .float x => some (.float x)
  | _ => none

/-- Whether two values without elements say the same. -/
def alikePlain (a b : Json) : Bool :=
  match a, b with
  | .null, .null => true
  | .str s, .str t => s == t
  | a, b =>
    match a.numeric?, b.numeric? with
    | some x, some y => x.same y
    | _, _ => false

mutual

/-- Whether two values say the same. -/
def alike : Json → Json → Bool
  | .arr xs, .arr ys => alikeItems xs ys
  | .obj fs, .obj gs => fs.length == gs.length && alikeFields fs gs
  | a, b => alikePlain a b

def alikeItems : List Json → List Json → Bool
  | [], [] => true
  | x :: xs, y :: ys => alike x y && alikeItems xs ys
  | _, _ => false

def alikeFields : List (String × Json) → List (String × Json) → Bool
  | [], _ => true
  | (k, v) :: rest, gs =>
    (match Assoc.get? k gs with
     | some w => alike v w
     | none => false) && alikeFields rest gs

end

end ChainAlerts.Json
