/-! Finding a text within another one. -/

namespace ChainAlerts.Text

/-- Whether a list occurs within another one, element after element. -/
def occursIn (part : List Char) : List Char → Bool
  | [] => part.isEmpty
  | c :: rest => part.isPrefixOf (c :: rest) || occursIn part rest

/-- What precedes the first occurrence of `part` and what follows it. -/
def splitFirst? (part : List Char) : List Char → Option (List Char × List Char)
  | [] => if part.isEmpty then some ([], []) else none
  | c :: rest =>
    if part.isPrefixOf (c :: rest) then some ([], (c :: rest).drop part.length)
    else (splitFirst? part rest).map fun (before, after) => (c :: before, after)

end ChainAlerts.Text
