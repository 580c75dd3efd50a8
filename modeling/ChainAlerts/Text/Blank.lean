/-! White space. Text that a person or another service typed is stripped of these characters before
it is read as a number, a version or a list entry. -/

namespace ChainAlerts.Text

/-- A character of Unicode white space, the four information separators included. -/
def isBlank (c : Char) : Bool :=
  let n := c.toNat
  (0x9 ≤ n && n ≤ 0xd) || (0x1c ≤ n && n ≤ 0x20) || n == 0x85 || n == 0xa0 || n == 0x1680 ||
    (0x2000 ≤ n && n ≤ 0x200a) || n == 0x2028 || n == 0x2029 || n == 0x202f || n == 0x205f || n == 0x3000

/-- Drops the trailing elements that satisfy `p`. -/
def dropTrailing {α : Type} (p : α → Bool) (xs : List α) : List α :=
  (xs.reverse.dropWhile p).reverse

/-- A list of characters without the white space at its two ends. -/
def stripChars (cs : List Char) : List Char :=
  dropTrailing isBlank (cs.dropWhile isBlank)

/-- A text without the white space at its two ends. -/
def strip (s : String) : String := String.ofList (stripChars s.toList)

/-- The non-blank entries of a comma-separated list, each stripped. -/
def commaList (s : String) : List String :=
  ((s.toList.splitOn ',').map fun part => String.ofList (stripChars part)).filter (· ≠ "")

/-- A text without the trailing occurrences of one character. -/
def dropTrailingChar (c : Char) (s : String) : String :=
  String.ofList (dropTrailing (· == c) s.toList)

end ChainAlerts.Text
