import ChainAlerts.Fault

/-! Version numbers, as far as filters have to do with them. Which texts denote versions, which denote specifiers of
versions and which versions specifiers contain is not settled here but by a scheme, and nothing else is asked of it. -/

namespace ChainAlerts

/-- Why nothing can be said of a version. -/
inductive VersionError where
  /-- the text denotes no version -/
  | malformed
  | fault (cause : Fault)

/-- A scheme of version numbers, in terms of the texts from which versions and specifiers are read. -/
structure VersionScheme where
  /-- Reads a version. -/
  version : String → Except VersionError Unit
  /-- Reads specifiers. -/
  specifiers : String → Except Fault Unit
  /-- Whether specifiers contain a version, both given as texts that can be read. -/
  contains : (specifiers version : String) → Except VersionError Bool
  /-- Specifiers that cannot be read are a bad value. -/
  isBadValue_of_specifiers : ∀ {text : String} {f : Fault}, specifiers text = .error f → f.isBadValue

end ChainAlerts
