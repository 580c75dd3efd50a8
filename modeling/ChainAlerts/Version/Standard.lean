import ChainAlerts.Version.Parser
import ChainAlerts.Version.Scheme

/-! The scheme that the program runs with. Specifiers are clauses between commas, each of them an operator and a
version, and they contain the versions that satisfy every clause; pre-releases count like any other version. -/

namespace ChainAlerts

/-- One clause of specifiers. -/
inductive Clause where
  | compatible (v : Version)
  | equal (v : Version)
  | notEqual (v : Version)
  | within (v : Version)
  | notWithin (v : Version)
  | atMost (v : Version)
  | atLeast (v : Version)
  | below (v : Version)
  | above (v : Version)
  | verbatim (s : String)
  deriving DecidableEq, Repr

namespace Version

/-- The first version, in order, of a release: its development release zero. -/
def firstOf (epoch : Nat) (release : List Nat) : Version := { epoch, release, dev := some 0 }

/-- A list of numbers with the last one raised by one. -/
def raiseLast : List Nat → List Nat
  | [] => []
  | [n] => [n + 1]
  | n :: rest => n :: raiseLast rest

/-- Whether a version begins with the release of `base`. -/
def isWithin (base v : Version) : Bool :=
  (firstOf base.epoch base.release).le v && v.lt (firstOf base.epoch (raiseLast base.release))

/-- Whether a version is at least `base` and differs from it in no part of the release but the
last. -/
def isCompatible (base v : Version) : Bool :=
  base.le v && v.lt (firstOf base.epoch (raiseLast base.release.dropLast))

/-- Whether a version equals `base`. A label counts only if `base` has one. -/
def isEqual (base v : Version) : Bool :=
  if base.labels.isEmpty then base.samePublic v else order base v == .eq

/-- Whether a version comes before `base`. Pre-releases of a version that is none do not. -/
def isBelow (base v : Version) : Bool :=
  v.lt (if base.isPrerelease then base else { base with dev := some 0 })

/-- Whether a version comes after `base` and is more than a post-release or a labelled form of it. -/
def isAbove (base v : Version) : Bool :=
  match base.dev, base.post with
  | some n, _ => { base with dev := some (n + 1) }.le v
  | none, some n => { base with post := some (n + 1), dev := some 0 }.le v
  | none, none =>
    base.lt v && !(v.epoch == base.epoch && v.trimmed == base.trimmed && v.pre == base.pre &&
      (v.dev.isNone || v.post.isSome))

end Version

namespace Clause

/-- Whether a version satisfies a clause. -/
def accepts (v : Version) : Clause → Bool
  | .compatible base => base.isCompatible v
  | .equal base => base.isEqual v
  | .notEqual base => !base.isEqual v
  | .within base => base.isWithin v
  | .notWithin base => !base.isWithin v
  | .atMost base => Version.publicOrder v base != .gt
  | .atLeast base => base.le v
  | .below base => base.isBelow v
  | .above base => base.isAbove v
  | .verbatim s => v.text == s

/-- The operators with the way in which each reads what follows it. -/
inductive Operator where
  | verbatim | compatible | equal | notEqual | atMost | atLeast | below | above
  deriving DecidableEq, Repr

def operators : List (String × Operator) :=
  [("===", .verbatim), ("~=", .compatible), ("==", .equal), ("!=", .notEqual), ("<=", .atMost),
    (">=", .atLeast), ("<", .below), (">", .above)]

/-- Reads the version of a clause. Only equality admits a label, or a star behind the release. -/
def readOperand (operator : Operator) (cs : List Char) : Option Clause := do
  let (base, rest) ← Version.readBase cs
  let equality := operator = .equal ∨ operator = .notEqual
  if rest = ['.', '*'] ∧ equality then
    return if operator = .equal then .within base else .notWithin base
  let (v, rest) := Version.readStages base rest
  let (labels, rest) ← if equality then Version.readLabels rest else pure ([], rest)
  guard rest.isEmpty
  let v := { v with labels }
  match operator with
  | .compatible => if 2 ≤ v.release.length then some (.compatible v) else none
  | .equal => some (.equal v)
  | .notEqual => some (.notEqual v)
  | .atMost => some (.atMost v)
  | .atLeast => some (.atLeast v)
  | .below => some (.below v)
  | .above => some (.above v)
  | .verbatim => none

/-- The clause that a text without surrounding white space denotes. -/
def parse? (s : String) : Option Clause := do
  let (operator, rest) ← Version.firstBeginning operators s.toList
  let operand := (rest.dropWhile Text.isBlank).map Char.toLower
  if operator = .verbatim then
    guard (operand.all fun c => !Text.isBlank c && c ≠ ';' && c ≠ ')')
    return .verbatim (String.ofList operand)
  else readOperand operator operand

/-- Reads one clause. Its numbers are bounded like those of a version. -/
def read (s : String) : Except Fault Clause :=
  match parse? s with
  | none => .error (.badSpecifier s)
  | some clause =>
    match (Version.digitRuns s.toList).find? (Integer.maxDigits < ·) with
    | some n => .error (.badInteger (.tooLong n))
    | none => .ok clause

/-- Reads specifiers. The first clause that cannot be read is the one reported. -/
def readAll (specifiers : String) : Except Fault (List Clause) := (Text.commaList specifiers).mapM read

theorem isBadValue_of_read {s : String} {f : Fault} (h : read s = .error f) : f.isBadValue := by
  rw [read] at h
  split at h
  · rw [← Except.error.inj h]
    rfl
  · split at h
    · rw [← Except.error.inj h]
      rfl
    · cases h

theorem isBadValue_of_readAll {specifiers : String} {f : Fault} (h : readAll specifiers = .error f) :
    f.isBadValue := by
  rw [readAll] at h
  generalize Text.commaList specifiers = parts at h
  induction parts with
  | nil => cases h
  | cons part rest ih =>
      rw [List.mapM_cons] at h
      cases hpart : read part with
      | error cause =>
          rw [hpart] at h
          obtain rfl : cause = f := Except.error.inj h
          exact isBadValue_of_read hpart
      | ok clause =>
          rw [hpart] at h
          cases hrest : rest.mapM read with
          | ok clauses =>
              rw [hrest] at h
              cases h
          | error cause =>
              rw [hrest] at h
              obtain rfl : cause = f := Except.error.inj h
              exact ih hrest

end Clause

namespace Version

/-- Reads a version for the scheme. -/
def read (s : String) : Except VersionError Version :=
  (parse s).mapError fun
    | .malformed => .malformed
    | .tooLong n => .fault (.badInteger (.tooLong n))

end Version

def VersionScheme.standard : VersionScheme where
  version text := do discard (Version.read text)
  specifiers text := do discard (Clause.readAll text)
  contains specifiers text := do
    let v ← Version.read text
    let clauses ← (Clause.readAll specifiers).mapError .fault
    return clauses.all (·.accepts v)
  isBadValue_of_specifiers := by
    intro text f h
    cases hread : Clause.readAll text with
    | ok clauses =>
        rw [hread] at h
        cases h
    | error cause =>
        rw [hread] at h
        obtain rfl : cause = f := Except.error.inj h
        exact Clause.isBadValue_of_readAll hread

end ChainAlerts
