import ChainAlerts.Number.Integer
import ChainAlerts.Version

/-! Reading version numbers. Letters may be of either case, several spellings name the same stage, and
a separator may stand before and after each stage's name. -/

namespace ChainAlerts.Version

/-- Why a text is no version: it does not have the form of one, or a number in it has too many
digits. -/
inductive SyntaxError where
  | malformed
  | tooLong (digits : Nat)
  deriving DecidableEq

def isDigit (c : Char) : Bool := '0' ≤ c && c ≤ '9'

def isLabelChar (c : Char) : Bool := isDigit c || ('a' ≤ c && c ≤ 'z')

def isSeparator (c : Char) : Bool := c == '-' || c == '_' || c == '.'

/-- The number that a run of digits spells; an empty run spells zero. -/
def numberOf (digits : List Char) : Nat := Text.ofDigitValues (digits.map fun c => c.toNat - 48)

/-- Drops one separator. -/
def skipSeparator : List Char → List Char
  | c :: rest => if isSeparator c then rest else c :: rest
  | [] => []

/-- The rest behind the first of the given beginnings that the characters have, with its meaning. -/
def firstBeginning {α : Type} (names : List (String × α)) (cs : List Char) : Option (α × List Char) :=
  match names.find? fun (name, _) => name.toList.isPrefixOf cs with
  | some (name, meaning) => some (meaning, cs.drop name.length)
  | none => none

/-- A stage's name with an optional separator before it, and after it an optional separator and
number. -/
def readStage {α : Type} (names : List (String × α)) (cs : List Char) : Option (α × Nat × List Char) := do
  let (meaning, rest) ← firstBeginning names (skipSeparator cs)
  let (digits, rest) := (skipSeparator rest).span isDigit
  return (meaning, numberOf digits, rest)

def stageNames : List (String × Stage) :=
  [("alpha", .alpha), ("a", .alpha), ("beta", .beta), ("b", .beta), ("preview", .candidate),
    ("pre", .candidate), ("c", .candidate), ("rc", .candidate)]

def readPre (cs : List Char) : Option (Stage × Nat) × List Char :=
  match readStage stageNames cs with
  | some (stage, n, rest) => (some (stage, n), rest)
  | none => (none, cs)

/-- A post-release: a hyphen and a number, or its name. -/
def readPost (cs : List Char) : Option Nat × List Char :=
  let named := match readStage [("post", ()), ("rev", ()), ("r", ())] cs with
    | some (_, n, rest) => (some n, rest)
    | none => (none, cs)
  match cs with
  | '-' :: rest =>
    let (digits, tail) := rest.span isDigit
    if digits.isEmpty then named else (some (numberOf digits), tail)
  | _ => named

def readDev (cs : List Char) : Option Nat × List Char :=
  match readStage [("dev", ())] cs with
  | some (_, n, rest) => (some n, rest)
  | none => (none, cs)

/-- A part of a label, which is a number if it holds digits only. -/
def labelPart (cs : List Char) : LabelPart :=
  if cs.all isDigit then .number (numberOf cs) else .word (String.ofList cs)

/-- Splits characters at separators. -/
def splitParts (cs : List Char) : List (List Char) := cs.splitOnP isSeparator

/-- A label: a plus sign and non-empty parts between separators, up to the end. -/
def readLabels : List Char → Option (List LabelPart × List Char)
  | '+' :: rest =>
    let run := rest.takeWhile fun c => isLabelChar c || isSeparator c
    let parts := splitParts run
    if parts.any List.isEmpty then none else some (parts.map labelPart, rest.drop run.length)
  | cs => some ([], cs)

/-- Numbers between points, at least one. A point that no digit follows is left. -/
def readRelease : (fuel : Nat) → List Char → Option (List Nat × List Char)
  | 0, _ => none
  | fuel + 1, cs =>
    let (digits, rest) := cs.span isDigit
    if digits.isEmpty then none
    else
      match rest with
      | '.' :: tail =>
        match readRelease fuel tail with
        | some (ns, after) => some (numberOf digits :: ns, after)
        | none => some ([numberOf digits], rest)
      | _ => some ([numberOf digits], rest)

/-- An epoch before an exclamation mark, or none. -/
def readEpoch (cs : List Char) : Nat × List Char :=
  match cs.span isDigit with
  | (digit :: digits, '!' :: rest) => (numberOf (digit :: digits), rest)
  | _ => (0, cs)

/-- The epoch and the release, with an optional `v` before them. -/
def readBase (cs : List Char) : Option (Version × List Char) := do
  let cs := match cs with
    | 'v' :: rest => rest
    | cs => cs
  let (epoch, cs) := readEpoch cs
  let (release, rest) ← readRelease (cs.length + 1) cs
  return ({ epoch, release }, rest)

/-- The stages behind a release. -/
def readStages (v : Version) (cs : List Char) : Version × List Char :=
  let (pre, cs) := readPre cs
  let (post, cs) := readPost cs
  let (dev, cs) := readDev cs
  ({ v with pre, post, dev }, cs)

/-- The lengths of the runs of digits in a text. -/
def digitRuns (cs : List Char) : List Nat :=
  (cs.splitOnP (!isDigit ·)).map List.length

/-- The version that a text denotes, white space around it being ignored. -/
def parse (s : String) : Except SyntaxError Version :=
  let cs := (Text.stripChars s.toList).map Char.toLower
  let read : Option Version := do
    let (v, cs) ← readBase cs
    let (v, cs) := readStages v cs
    let (labels, cs) ← readLabels cs
    guard cs.isEmpty
    return { v with labels }
  match read with
  | none => .error .malformed
  | some v =>
    match (digitRuns cs).find? (Integer.maxDigits < ·) with
    | some n => .error (.tooLong n)
    | none => .ok v

end ChainAlerts.Version
