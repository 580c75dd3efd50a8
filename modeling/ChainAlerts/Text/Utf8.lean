import ChainAlerts.Text.Quoted

/-! Text as a sequence of byte values. Decoding reports the first byte at which a sequence goes
wrong, and how. -/

namespace ChainAlerts.Text

/-- The byte values of a text. -/
def toBytes (s : String) : List Nat := s.toUTF8.data.toList.map (·.toNat)

/-- Why a sequence of bytes is no text. -/
inductive Utf8Error where
  | badStart (byte position : Nat)
  | badContinuation (byte position count : Nat)
  | cutOff (byte position count : Nat)
  deriving DecidableEq

/-- The wording of a decoding failure; a run of several bytes is named by its positions. -/
def Utf8Error.message : Utf8Error → String
  | .badStart b p => one b p ++ "invalid start byte"
  | .badContinuation b p n => run b p n ++ "invalid continuation byte"
  | .cutOff b p n => run b p n ++ "unexpected end of data"
where
  one (b p : Nat) : String :=
    s!"'utf-8' codec can't decode byte 0x{String.ofList (hex 2 b)} in position {p}: "
  run (b p n : Nat) : String :=
    if n = 1 then one b p else s!"'utf-8' codec can't decode bytes in position {p}-{p + n - 1}: "

/-- The number of continuation bytes a lead byte asks for and the range allowed for the first one. -/
def leadByte? (b : Nat) : Option (Nat × Nat × Nat) :=
  if 0xc2 ≤ b ∧ b ≤ 0xdf then some (1, 0x80, 0xbf)
  else if b = 0xe0 then some (2, 0xa0, 0xbf)
  else if b = 0xed then some (2, 0x80, 0x9f)
  else if 0xe1 ≤ b ∧ b ≤ 0xef then some (2, 0x80, 0xbf)
  else if b = 0xf0 then some (3, 0x90, 0xbf)
  else if 0xf1 ≤ b ∧ b ≤ 0xf3 then some (3, 0x80, 0xbf)
  else if b = 0xf4 then some (3, 0x80, 0x8f)
  else none

/-- Reads the continuation bytes of one character: `code` is what the bytes so far spell, `seen` how
many they are, and `lo` and `hi` bound the next one. -/
def readContinuation (lead position code seen lo hi : Nat) :
    Nat → List Nat → Except Utf8Error (Nat × List Nat)
  | 0, rest => .ok (code, rest)
  | _ + 1, [] => .error (.cutOff lead position seen)
  | n + 1, b :: rest =>
    if lo ≤ b ∧ b ≤ hi then
      readContinuation lead position (code * 64 + b % 64) (seen + 1) 0x80 0xbf n rest
    else .error (.badContinuation lead position seen)

/-- Decodes at most `fuel` characters from `bytes`, the first of which stands at `position`. -/
def decodeFrom : (fuel position : Nat) → (bytes : List Nat) → Except Utf8Error (List Char)
  | 0, _, _ => .ok []
  | _ + 1, _, [] => .ok []
  | fuel + 1, position, b :: rest =>
    if b < 0x80 then return Char.ofNat b :: (← decodeFrom fuel (position + 1) rest)
    else
      match leadByte? b with
      | none => .error (.badStart b position)
      | some (n, lo, hi) => do
        let lead := if n = 1 then b % 32 else if n = 2 then b % 16 else b % 8
        let (code, tail) ← readContinuation b position lead 1 lo hi n rest
        return Char.ofNat code :: (← decodeFrom fuel (position + 1 + n) tail)

/-- The text that a sequence of byte values spells. -/
def ofBytes (bytes : List Nat) : Except Utf8Error String :=
  String.ofList <$> decodeFrom bytes.length 0 bytes

end ChainAlerts.Text
