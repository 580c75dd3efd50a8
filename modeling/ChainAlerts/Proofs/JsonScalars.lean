import ChainAlerts.Json.Parser
import ChainAlerts.Json.Printer
import ChainAlerts.Proofs.IntegerText
import ChainAlerts.Proofs.JsonReading

/-! Strings and integers in JSON text. Whatever characters a string has, each is written as itself or as an escape, and
the reader takes exactly these characters back; one beyond the sixteen bits of an escape is written as two. An
integer is read back if the text does not go on as a number. -/

namespace ChainAlerts

namespace Text

theorem length_hex (width n : Nat) : (hex width n).length = width := by
  induction width generalizing n with
  | zero => rfl
  | succ width ih => rw [hex, List.length_append, ih, List.length_singleton]

theorem hex_four (n : Nat) :
    hex 4 n =
      [hexDigit (n / 16 / 16 / 16 % 16), hexDigit (n / 16 / 16 % 16), hexDigit (n / 16 % 16), hexDigit (n % 16)] :=
  rfl

end Text

namespace Json

/-- At a text that goes on with `rest`, a reader takes `taken` for `a` and stops before the rest. -/
def Takes {α : Type} (reader : Cursor → Except ParseError (α × Cursor)) (taken : List Char) (a : α)
    (rest : List Char) : Prop :=
  ∀ p, ∃ q, reader ⟨taken ++ rest, p⟩ = .ok (a, ⟨rest, q⟩)

theorem advance_append (taken rest : List Char) (p : Nat) :
    Cursor.advance ⟨taken ++ rest, p⟩ taken.length = ⟨rest, p + taken.length⟩ := by
  rw [Cursor.advance, List.drop_left]

theorem hexValue?_hexDigit : ∀ d < 16, hexValue? (Text.hexDigit d) = some d := by decide

/-- Four digits that are written are read back, if anything follows them. -/
theorem fourHex?_hex {n : Nat} (h : n < 0x10000) (next : Char) (rest : List Char) :
    fourHex? (Text.hex 4 n ++ next :: rest) = some n := by
  have hdigit : ∀ m, hexValue? (Text.hexDigit (m % 16)) = some (m % 16) := fun m =>
    hexValue?_hexDigit _ (Nat.mod_lt _ (by decide))
  rw [Text.hex_four]
  simp only [List.cons_append, List.nil_append, fourHex?, hdigit, Option.pure_def, Option.bind_eq_bind,
    Option.bind_some]
  refine congrArg some ?_
  omega

section

variable {c : Char} {next : Char} {rest : List Char} {opening p : Nat}

/-- A surrogate is no character. -/
theorem not_surrogate (c : Char) : c.toNat < 0xd800 ∨ 0xdfff < c.toNat ∧ c.toNat < 0x110000 := c.valid

theorem readEscape_unicode {n : Nat} (h : n < 0x10000) (hlow : n < 0xd800 ∨ 0xdfff < n) :
    readEscape ⟨unicodeEscape n ++ next :: rest, p⟩ opening = .ok (Char.ofNat n, 6) := by
  simp only [readEscape, unicodeEscape, List.cons_append, fourHex?_hex h]
  rw [if_neg (by omega), if_neg (by omega)]

theorem readEscape_pair {n : Nat} (h : n < 0x100000) (next : Char) (rest : List Char) (opening p : Nat) :
    readEscape ⟨unicodeEscape (0xd800 + n / 0x400) ++ (unicodeEscape (0xdc00 + n % 0x400) ++ next :: rest), p⟩ opening =
      .ok (Char.ofNat (0x10000 + n), 12) := by
  have hfirst : fourHex? (Text.hex 4 (0xd800 + n / 0x400) ++
      ('\\' :: 'u' :: (Text.hex 4 (0xdc00 + n % 0x400) ++ next :: rest))) = some (0xd800 + n / 0x400) :=
    fourHex?_hex (by omega) _ _
  have hdrop : (Text.hex 4 (0xd800 + n / 0x400) ++
      ('\\' :: 'u' :: (Text.hex 4 (0xdc00 + n % 0x400) ++ next :: rest))).drop 4 =
      '\\' :: 'u' :: (Text.hex 4 (0xdc00 + n % 0x400) ++ next :: rest) := by
    rw [Text.hex_four]
    rfl
  have hsecond := fourHex?_hex (n := 0xdc00 + n % 0x400) (by omega) next rest
  simp only [readEscape, unicodeEscape, List.cons_append, hfirst, hdrop, hsecond]
  rw [if_pos (by omega), if_pos (by omega)]
  have hvalue : 0x10000 + (0xd800 + n / 0x400 - 0xd800) * 0x400 + (0xdc00 + n % 0x400 - 0xdc00) = 0x10000 + n := by
    omega
  rw [hvalue]

/-- A character that is written as an escape is read back by it. -/
theorem readString_escape {escape : List Char} {fuel : Nat} {taken : List Char}
    (hescape : readEscape ⟨'\\' :: escape ++ next :: rest, p⟩ opening = .ok (c, escape.length + 1)) :
    ∃ q, readString opening (fuel + 1) ⟨'\\' :: escape ++ next :: rest, p⟩ taken =
      readString opening fuel ⟨next :: rest, q⟩ (c :: taken) := by
  refine ⟨p + (escape.length + 1), ?_⟩
  rw [readString.eq_def]
  simp only [List.cons_append] at hescape ⊢
  rw [hescape, except_ok_bind]
  exact congrArg (readString opening fuel · (c :: taken)) (advance_append ('\\' :: escape) (next :: rest) p)

theorem readString_unicode {fuel : Nat} {taken : List Char} (h : c.toNat < 0x10000) :
    ∃ q, readString opening (fuel + 1) ⟨unicodeEscape c.toNat ++ next :: rest, p⟩ taken =
      readString opening fuel ⟨next :: rest, q⟩ (c :: taken) := by
  have hescape : readEscape ⟨unicodeEscape c.toNat ++ next :: rest, p⟩ opening = .ok (c, 6) := by
    rw [readEscape_unicode h ((not_surrogate c).imp_right And.left), Char.ofNat_toNat]
  have hlength : 6 = ('u' :: Text.hex 4 c.toNat).length + 1 := by rw [List.length_cons, Text.length_hex]
  rw [hlength] at hescape
  exact readString_escape hescape

/-- Every character is read back from what it is written as. -/
theorem readString_char (ascii : Bool) (c : Char) (fuel : Nat) (taken : List Char) (next : Char) (rest : List Char)
    (opening p : Nat) :
    ∃ q, readString opening (fuel + 1) ⟨stringChar ascii c ++ next :: rest, p⟩ taken =
      readString opening fuel ⟨next :: rest, q⟩ (c :: taken) := by
  unfold stringChar
  by_cases hquote : c = '"'
  · subst hquote
    exact readString_escape rfl
  by_cases hslash : c = '\\'
  · subst hslash
    exact readString_escape rfl
  rw [if_neg hquote, if_neg hslash]
  by_cases hline : c = '\n'
  · subst hline
    exact readString_escape rfl
  by_cases hreturn : c = '\r'
  · subst hreturn
    exact readString_escape rfl
  by_cases htab : c = '\t'
  · subst htab
    exact readString_escape rfl
  rw [if_neg hline, if_neg hreturn, if_neg htab]
  by_cases hfeed : c = '\x0c'
  · subst hfeed
    exact readString_escape rfl
  by_cases hback : c = '\x08'
  · subst hback
    exact readString_escape rfl
  rw [if_neg hfeed, if_neg hback]
  by_cases hcontrol : c.toNat < 0x20
  · rw [if_pos hcontrol]
    exact readString_unicode (by omega)
  rw [if_neg hcontrol]
  by_cases hascii : ascii && 0x7e < c.toNat
  · rw [if_pos hascii]
    by_cases hshort : c.toNat < 0x10000
    · rw [if_pos hshort]
      exact readString_unicode hshort
    · rw [if_neg hshort]
      have hvalid := not_surrogate c
      let n := c.toNat - 0x10000
      have hn : n < 0x100000 := by omega
      have hvalue : Char.ofNat (0x10000 + n) = c := by
        rw [show 0x10000 + n = c.toNat by omega, Char.ofNat_toNat]
      have hescape := readEscape_pair hn next rest opening p
      rw [hvalue, ← List.append_assoc] at hescape
      have hlength :
          12 = ('u' :: Text.hex 4 (0xd800 + n / 0x400) ++ unicodeEscape (0xdc00 + n % 0x400)).length + 1 := by
        simp [unicodeEscape, Text.length_hex]
      rw [hlength] at hescape
      exact readString_escape hescape
  · rw [if_neg hascii]
    exact ⟨p + 1, by simp [readString, hcontrol, Cursor.advance]⟩

/-- The characters of a string are read back up to its closing quote. -/
theorem readString_chars (ascii : Bool) (cs : List Char) {fuel : Nat} (hfuel : cs.length < fuel)
    (taken rest : List Char) (opening p : Nat) :
    ∃ q, readString opening fuel ⟨cs.flatMap (stringChar ascii) ++ '"' :: rest, p⟩ taken =
      .ok (String.ofList (taken.reverse ++ cs), ⟨rest, q⟩) := by
  induction cs generalizing fuel taken p with
  | nil =>
      obtain ⟨fuel, rfl⟩ : ∃ k, fuel = k + 1 := ⟨fuel - 1, by simp at hfuel; omega⟩
      exact ⟨p + 1, by rw [List.append_nil]; rfl⟩
  | cons c cs ih =>
      obtain ⟨fuel, rfl⟩ : ∃ k, fuel = k + 1 := ⟨fuel - 1, by simp at hfuel; omega⟩
      -- what follows the character is never empty, for the closing quote is still to come
      obtain ⟨next, more, hmore⟩ :=
        List.exists_cons_of_ne_nil (l := cs.flatMap (stringChar ascii) ++ '"' :: rest) (by simp)
      obtain ⟨q, hfirst⟩ := readString_char ascii c fuel taken next more opening p
      obtain ⟨q', hrest⟩ := ih (Nat.lt_of_succ_lt_succ hfuel) (c :: taken) q
      refine ⟨q', ?_⟩
      rw [List.flatMap_cons, List.append_assoc, hmore, hfirst, ← hmore, hrest, List.reverse_cons, List.append_assoc]
      rfl

end

theorem stringChar_ne_nil (ascii : Bool) (c : Char) : stringChar ascii c ≠ [] := by
  unfold stringChar unicodeEscape
  grind

theorem length_le_flatMap_stringChar (ascii : Bool) (cs : List Char) :
    cs.length ≤ (cs.flatMap (stringChar ascii)).length := by
  induction cs with
  | nil => exact Nat.le_refl 0
  | cons c cs ih =>
      have hpos := List.length_pos_of_ne_nil (stringChar_ne_nil ascii c)
      rw [List.flatMap_cons, List.length_append, List.length_cons]
      omega

/-! Integers. -/

/-- A text that does not go on as a number. -/
def StopsNumber (rest : List Char) : Prop := ∀ c ∈ rest.head?, isAsciiDigit c = false ∧ c ≠ '.' ∧ c ≠ 'e' ∧ c ≠ 'E'

variable {rest : List Char}

theorem isAsciiDigit_of_isDigit {c : Char} (h : c.isDigit) : isAsciiDigit c := by
  simpa [isAsciiDigit, Char.isDigit, Char.le_def] using h

theorem digitRun_append {digits : List Char} (hdigits : ∀ c ∈ digits, c.isDigit) (hstops : StopsNumber rest) :
    digitRun (digits ++ rest) = digits := by
  rw [digitRun, List.takeWhile_append_of_pos fun c hc => isAsciiDigit_of_isDigit (hdigits c hc)]
  cases rest with
  | nil => exact List.append_nil _
  | cons c rest => rw [List.takeWhile_cons_of_neg (by simp [(hstops c rfl).1]), List.append_nil]

/-- Only zero is written with a zero in front. -/
theorem toDigits_eq_zero_cons {n : Nat} {digits : List Char} (h : Nat.toDigits 10 n = '0' :: digits) : digits = [] := by
  by_contra hne
  have hvalue : n = Text.ofDigitValues (digits.map fun c => c.toNat - 48) := by
    rw [Text.ofDigitValues_map, ← Nat.ofDigitChars_ten_toDigits (n := n), h]
    rfl
  have hsmall : n < 10 ^ (digits.map fun c => c.toNat - 48).length := by
    rw [hvalue]
    refine Integer.ofDigitValues_lt fun d hd => ?_
    obtain ⟨c, hc, rfl⟩ := List.mem_map.mp hd
    have hdigit := Text.toNat_of_isDigit (Text.isDigit_of_mem_toDigits (n := n) (h ▸ List.mem_cons_of_mem _ hc))
    omega
  rw [List.length_map] at hsmall
  have hlength := (Nat.length_toDigits_le_iff (by decide) (List.length_pos_of_ne_nil hne)).mpr hsmall
  rw [h, List.length_cons] at hlength
  omega

theorem wholeDigits_toDigits (n : Nat) (hstops : StopsNumber rest) :
    wholeDigits (Nat.toDigits 10 n ++ rest) = Nat.toDigits 10 n := by
  obtain ⟨c, digits, hdigits⟩ := List.exists_cons_of_ne_nil (Nat.toDigits_ne_nil (n := n) (b := 10))
  by_cases hzero : c = '0'
  · subst hzero
    rw [hdigits, toDigits_eq_zero_cons hdigits]
    rfl
  · have hrun : wholeDigits (Nat.toDigits 10 n ++ rest) = digitRun (Nat.toDigits 10 n ++ rest) := by
      rw [hdigits, List.cons_append, wholeDigits.eq_2 _ fun tail heq => hzero (List.cons.inj heq).1]
    rw [hrun, digitRun_append (fun c hc => Text.isDigit_of_mem_toDigits hc) hstops]

theorem fractionDigits_of_stops (hstops : StopsNumber rest) : fractionDigits rest = [] := by
  cases rest with
  | nil => rfl
  | cons c rest => exact fractionDigits.eq_2 _ fun tail heq => (hstops c rfl).2.1 (List.cons.inj heq).1

theorem exponentPart_of_stops (hstops : StopsNumber rest) : exponentPart rest = none := by
  cases rest with
  | nil => rfl
  | cons c rest => simp [exponentPart.eq_def, (hstops c rfl).2.2]

theorem splitMinus_toDigits (n : Nat) (rest : List Char) :
    splitMinus (Nat.toDigits 10 n ++ rest) = (false, Nat.toDigits 10 n ++ rest, 0) := by
  obtain ⟨c, digits, hdigits⟩ := List.exists_cons_of_ne_nil (Nat.toDigits_ne_nil (n := n) (b := 10))
  have hdigit : c.isDigit := Text.isDigit_of_mem_toDigits (n := n) (hdigits ▸ List.mem_cons_self)
  refine splitMinus.eq_2 _ fun tail heq => ?_
  rw [hdigits, List.cons_append] at heq
  exact Text.ne_of_isDigit hdigit (by decide) (List.cons.inj heq).1

/-- Digits that are short enough are read as an integer with the sign in front of them. -/
theorem readNumber_of_split {cur : Cursor} {negative : Bool} {size n : Nat}
    (hsplit : splitMinus cur.rest = (negative, Nat.toDigits 10 n ++ rest, size))
    (hlength : ¬Integer.maxDigits < (Nat.toDigits 10 n).length) (hstops : StopsNumber rest) :
    readNumber cur = .ok (.int (Double.signed negative n), cur.advance (size + (Nat.toDigits 10 n).length)) := by
  have hne : (Nat.toDigits 10 n).isEmpty = false := List.isEmpty_eq_false_iff.mpr Nat.toDigits_ne_nil
  have hvalue : digitsValue (Nat.toDigits 10 n) = n := by
    rw [digitsValue, Text.ofDigitValues_map, Nat.ofDigitChars_ten_toDigits]
  have hnumber : numberOf negative (Nat.toDigits 10 n) [] none = .ok (.int (Double.signed negative n)) := by
    simp [numberOf, hlength, hvalue]
  rw [readNumber, hsplit]
  simp only [wholeDigits_toDigits n hstops, hne, Bool.false_eq_true, if_false, List.drop_left,
    fractionDigits_of_stops hstops, List.isEmpty_nil, if_true, List.drop_zero, exponentPart_of_stops hstops,
    Option.map_none, Option.getD_none, hnumber, Nat.add_zero]
  rfl

/-- An integer that can be written is read back, if the text does not go on as a number. -/
theorem takes_readNumber {n : Int} (hn : Integer.isWritable n) (hstops : StopsNumber rest) :
    Takes readNumber (Text.intText n).toList (.int n) rest := by
  intro p
  have hlength := Integer.length_toDigits_of_isWritable hn
  refine ⟨p + (Text.intText n).toList.length, ?_⟩
  rw [Text.toList_intText]
  by_cases hneg : n < 0
  · have hsigned : Double.signed true n.natAbs = n := by
      simp only [Double.signed, if_true]
      omega
    rw [if_pos hneg, readNumber_of_split (rfl : splitMinus _ = (true, _, 1)) hlength hstops, hsigned, Nat.add_comm 1]
    exact congrArg (fun cur => Except.ok (Json.int n, cur)) (advance_append ('-' :: Nat.toDigits 10 n.natAbs) rest p)
  · have hsigned : Double.signed false n.natAbs = n := by
      simp only [Double.signed, Bool.false_eq_true, if_false]
      omega
    rw [if_neg hneg, List.nil_append,
      readNumber_of_split (splitMinus_toDigits _ _) hlength hstops, hsigned, Nat.zero_add]
    exact congrArg (fun cur => Except.ok (Json.int n, cur)) (advance_append (Nat.toDigits 10 n.natAbs) rest p)

end Json

end ChainAlerts
