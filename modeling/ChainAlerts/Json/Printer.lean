import ChainAlerts.Json

/-! Writing JSON text. One record fixes what is free in the format: the separators, whether
characters beyond ASCII are escaped, and the width of the indent, if the text is to have lines. -/

namespace ChainAlerts.Json

/-- The free choices of a JSON text. -/
structure Style where
  itemSeparator : String
  keySeparator : String
  ascii : Bool
  indent : Option Nat

/-- A text on one line, as one would type it, escaped to ASCII. -/
def Style.line : Style := ⟨", ", ": ", true, none⟩

/-- The shortest text, escaped to ASCII. -/
def Style.dense : Style := ⟨",", ":", true, none⟩

/-- A text on one line with its characters as they are. -/
def Style.plain : Style := ⟨", ", ": ", false, none⟩

/-- A text with one item a line and its characters as they are. -/
def Style.lines : Style := ⟨",", ": ", false, some 2⟩

/-- A character of sixteen bits as an escape. -/
def unicodeEscape (n : Nat) : List Char := '\\' :: 'u' :: Text.hex 4 n

/-- How one character is written inside a string. -/
def stringChar (ascii : Bool) (c : Char) : List Char :=
  if c = '"' then ['\\', '"']
  else if c = '\\' then ['\\', '\\']
  else if c = '\n' then ['\\', 'n']
  else if c = '\r' then ['\\', 'r']
  else if c = '\t' then ['\\', 't']
  else if c = '\x0c' then ['\\', 'f']
  else if c = '\x08' then ['\\', 'b']
  else if c.toNat < 0x20 then unicodeEscape c.toNat
  else if ascii && 0x7e < c.toNat then
    if c.toNat < 0x10000 then unicodeEscape c.toNat
    else
      let n := c.toNat - 0x10000
      unicodeEscape (0xd800 + n / 0x400) ++ unicodeEscape (0xdc00 + n % 0x400)
  else [c]

def stringText (ascii : Bool) (s : String) : String :=
  String.ofList ('"' :: s.toList.flatMap (stringChar ascii) ++ ['"'])

/-- A floating-point number; the values that are no number have names. -/
def doubleText : Double → String
  | .nan => "NaN"
  | .infinite s => if s then "-Infinity" else "Infinity"
  | x => x.text

/-- What separates the parts of a container at a depth: a new line, if the style has lines. -/
def Style.lineBreak (style : Style) (depth : Nat) : String :=
  match style.indent with
  | none => ""
  | some width => "\n" ++ String.ofList (List.replicate (width * depth) ' ')

mutual

/-- The text of a value that stands at a depth. -/
def render (style : Style) (depth : Nat) : Json → String
  | .null => "null"
  | .bool b => if b then "true" else "false"
  | .int n => Text.intText n
  | .float x => doubleText x
  | .str s => stringText style.ascii s
  | .arr [] => "[]"
  | .arr (x :: rest) =>
    "[" ++ style.lineBreak (depth + 1) ++ render style (depth + 1) x ++ renderItems style (depth + 1) rest ++
      style.lineBreak depth ++ "]"
  | .obj [] => "\x7b\x7d"
  | .obj ((k, v) :: rest) =>
    "\x7b" ++ style.lineBreak (depth + 1) ++ stringText style.ascii k ++ style.keySeparator ++
      render style (depth + 1) v ++ renderFields style (depth + 1) rest ++ style.lineBreak depth ++ "\x7d"

/-- The further items of a list, each behind a separator. -/
def renderItems (style : Style) (depth : Nat) : List Json → String
  | [] => ""
  | x :: rest =>
    style.itemSeparator ++ style.lineBreak depth ++ render style depth x ++ renderItems style depth rest

/-- The further fields of an object, each behind a separator. -/
def renderFields (style : Style) (depth : Nat) : List (String × Json) → String
  | [] => ""
  | (k, v) :: rest =>
    style.itemSeparator ++ style.lineBreak depth ++ stringText style.ascii k ++ style.keySeparator ++
      render style depth v ++ renderFields style depth rest

end

/-- The text of a value. -/
def print (style : Style) (v : Json) : String := render style 0 v

/-- Puts a field before the first one whose key is not smaller. -/
def insertSorted (key : String) (v : Json) : List (String × Json) → List (String × Json)
  | [] => [(key, v)]
  | (k, w) :: rest => if k < key then (k, w) :: insertSorted key v rest else (key, v) :: (k, w) :: rest

mutual

/-- The same value with the fields of every object in ascending order of their keys. -/
def sortKeys : Json → Json
  | .arr items => .arr (sortItems items)
  | .obj fields => .obj (sortFields fields)
  | v => v

def sortItems : List Json → List Json
  | [] => []
  | x :: rest => x.sortKeys :: sortItems rest

def sortFields : List (String × Json) → List (String × Json)
  | [] => []
  | (k, v) :: rest => insertSorted k v.sortKeys (sortFields rest)

end

end ChainAlerts.Json
