import ChainAlerts.Version.Standard

/-! Requirements on versions. A requirement stands for the specifiers of some scheme, and a bare version for exactly
that version. -/

namespace ChainAlerts

/-- The specifiers that a requirement stands for, and the text it was read from. -/
structure Requirement where
  text : String
  specifiers : String
  deriving DecidableEq, Repr

namespace Requirement

/-- Characters that operators begin with. -/
def operatorChars : List Char := ['<', '>', '=', '!', '~']

/-- The requirement that a text denotes. -/
def parse (s : String) (versions : VersionScheme := .standard) : Except Fault Requirement := do
  let text := Text.strip s
  match text.toList with
  | [] => throw .emptyRequirement
  | c :: _ =>
    let specifiers := if operatorChars.contains c then text else "==" ++ text
    versions.specifiers specifiers
    return { text := s, specifiers }

/-- Whether the version that a text denotes meets the requirement; a text that denotes none does not. -/
def acceptsText (r : Requirement) (s : String) (versions : VersionScheme := .standard) : Except Fault Bool :=
  let found : Except VersionError Bool := do
    versions.version s
    versions.contains r.specifiers s
  match found with
  | .ok b => .ok b
  | .error .malformed => .ok false
  | .error (.fault f) => .error f

end Requirement

end ChainAlerts
