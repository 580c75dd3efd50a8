import ChainAlerts.Text.Blank
import ChainAlerts.Text.Digit

/-! Version numbers with an epoch, a release, and pre-, post-, development and local parts, and their
order. Releases that differ in trailing zeros only are the same version. -/

namespace ChainAlerts

/-- The stages before a release, in their order. -/
inductive Stage where
  | alpha | beta | candidate
  deriving DecidableEq, Repr

/-- A part of a local version label. -/
inductive LabelPart where
  | word (s : String)
  | number (n : Nat)
  deriving DecidableEq, Repr

/-- A version. -/
structure Version where
  epoch : Nat := 0
  release : List Nat
  pre : Option (Stage × Nat) := none
  post : Option Nat := none
  dev : Option Nat := none
  labels : List LabelPart := []
  deriving DecidableEq, Repr

def Stage.rank : Stage → Nat
  | .alpha => 1
  | .beta => 2
  | .candidate => 3

/-- Order of label parts: words come before numbers. -/
def LabelPart.order : LabelPart → LabelPart → Ordering
  | .word s, .word t => compare s t
  | .word _, .number _ => .lt
  | .number _, .word _ => .gt
  | .number m, .number n => compare m n

namespace Version

/-- The release without trailing zeros. -/
def trimmed (v : Version) : List Nat := Text.dropTrailing (· == 0) v.release

/-- Where a version stands among those of its release: a development release of the release itself
comes first, then its pre-releases, then all else. -/
def preKey (v : Version) : Nat × Nat :=
  match v.pre with
  | some (stage, n) => (stage.rank, n)
  | none => if v.post.isNone ∧ v.dev.isSome then (0, 0) else (4, 0)

def postKey (v : Version) : Nat :=
  match v.post with
  | some n => n + 1
  | none => 0

def devKey (v : Version) : Nat × Nat :=
  match v.dev with
  | some n => (0, n)
  | none => (1, 0)

/-- Lexicographic order of lists, a list that ends first being the smaller. -/
def listOrder {α : Type} (order : α → α → Ordering) : List α → List α → Ordering
  | [], [] => .eq
  | [], _ => .lt
  | _, [] => .gt
  | a :: as, b :: bs => (order a b).then (listOrder order as bs)

def pairOrder (a b : Nat × Nat) : Ordering := (compare a.1 b.1).then (compare a.2 b.2)

/-- The order of versions without their labels. -/
def publicOrder (a b : Version) : Ordering :=
  (compare a.epoch b.epoch).then <| (listOrder compare a.trimmed b.trimmed).then <|
    (pairOrder a.preKey b.preKey).then <| (compare a.postKey b.postKey).then <|
      pairOrder a.devKey b.devKey

/-- The order of versions. A labelled version comes after the same one without a label. -/
def order (a b : Version) : Ordering :=
  (publicOrder a b).then (listOrder LabelPart.order a.labels b.labels)

def lt (a b : Version) : Bool := order a b == .lt

def le (a b : Version) : Bool := order a b != .gt

/-- Equality up to labels. -/
def samePublic (a b : Version) : Bool := publicOrder a b == .eq

def isPrerelease (v : Version) : Bool := v.pre.isSome || v.dev.isSome

/-- The text of a version in its normal form. -/
def text (v : Version) : String :=
  let number (start : String) : Option Nat → String
    | some n => start ++ Text.decimalText n
    | none => ""
  let pre := match v.pre with
    | some (.alpha, n) => "a" ++ Text.decimalText n
    | some (.beta, n) => "b" ++ Text.decimalText n
    | some (.candidate, n) => "rc" ++ Text.decimalText n
    | none => ""
  let part : LabelPart → String
    | .word s => s
    | .number n => Text.decimalText n
  let labels := if v.labels.isEmpty then "" else "+" ++ ".".intercalate (v.labels.map part)
  (if v.epoch = 0 then "" else Text.decimalText v.epoch ++ "!") ++
    ".".intercalate (v.release.map Text.decimalText) ++ pre ++ number ".post" v.post ++
    number ".dev" v.dev ++ labels

end Version

end ChainAlerts
