import ChainAlerts.Number.Double

/-! Numbers that are integers or floating-point numbers, as counts of seconds are. Integers stay exact
of any size. -/

namespace ChainAlerts

inductive Num where
  | int (n : Int)
  | float (x : Double)
  deriving DecidableEq, Repr, Inhabited

namespace Num

def toDouble : Num → Double
  | .int n => .ofInt n
  | .float x => x

def twice : Num → Num
  | .int n => .int (2 * n)
  | .float x => .float x.double

/-- Exact order of a floating-point number and an integer. -/
def doubleLtInt (x : Double) (n : Int) : Bool :=
  match x with
  | .nan => false
  | .infinite s => s
  | .finite s m e => let (num, den) := scaleTwo m 1 e; Double.signed s num < n * den

def intLtDouble (n : Int) (x : Double) : Bool :=
  match x with
  | .nan => false
  | .infinite s => !s
  | .finite s m e => let (num, den) := scaleTwo m 1 e; n * den < Double.signed s num

def lt : Num → Num → Bool
  | .int m, .int n => m < n
  | .int m, .float y => intLtDouble m y
  | .float x, .int n => doubleLtInt x n
  | .float x, .float y => x.lt y

def isNan : Num → Bool
  | .float .nan => true
  | _ => false

/-- Whether two numbers are equal; what is not a number equals nothing. -/
def same (a b : Num) : Bool := !a.isNan && !b.isNan && !a.lt b && !b.lt a

/-- The smaller of two numbers, the first one if they are equal. -/
def least (a b : Num) : Num := if b.lt a then b else a

end Num

end ChainAlerts
