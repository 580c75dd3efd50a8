import ChainAlerts.Proofs.JsonDocument
import ChainAlerts.Proofs.JsonScalars
import ChainAlerts.Proofs.Tables

/-! A value and its text. A value without floating-point numbers is read back from the text it is written as, whatever
it contains and however the text is laid out: on one line or on many, with characters as they are or escaped to ASCII.
The reader spends one unit of fuel on each container and each of its parts, so the length of the text is enough. -/

namespace ChainAlerts.Json

mutual

/-- A value without floating-point numbers whose objects file nothing twice. -/
def isExact : Json → Bool
  | .float _ => false
  | .arr items => areExact items
  | .obj fields => decide (Assoc.keys fields).Nodup && haveExact fields
  | _ => true

def areExact : List Json → Bool
  | [] => true
  | x :: rest => x.isExact && areExact rest

def haveExact : List (String × Json) → Bool
  | [] => true
  | (_, v) :: rest => v.isExact && haveExact rest

end

/-- A value that is what its text says: it is exact, and its integers can be written. -/
def isPlain (v : Json) : Bool := v.isDocument && v.isExact

def arePlain (items : List Json) : Bool := areDocuments items && areExact items

def havePlain (fields : List (String × Json)) : Bool := haveDocuments fields && haveExact fields

/-- What is read from a text can be written, so only floating-point numbers keep it from being plain. -/
theorem isPlain_of_isDocument {v : Json} (hdocument : v.isDocument) (hexact : v.isExact) : v.isPlain :=
  Bool.and_eq_true_iff.mpr ⟨hdocument, hexact⟩

theorem not_isPlain_float (x : Double) : ¬(Json.float x).isPlain := by
  simp [isPlain, isExact]

theorem isPlain_int {n : Int} : (Json.int n).isPlain ↔ Integer.isWritable n := by
  simp [isPlain, isExact, isDocument]

theorem isPlain_arr {items : List Json} : (Json.arr items).isPlain ↔ arePlain items := by
  rw [isPlain, isExact, isDocument, arePlain]

theorem isPlain_obj {fields : List (String × Json)} :
    (Json.obj fields).isPlain ↔ (Assoc.keys fields).Nodup ∧ havePlain fields := by
  simp only [isPlain, isExact, isDocument, havePlain, Bool.and_eq_true, decide_eq_true_eq]
  exact and_left_comm

theorem arePlain_cons {x : Json} {xs : List Json} : arePlain (x :: xs) ↔ x.isPlain ∧ arePlain xs := by
  simp only [arePlain, areDocuments, areExact, isPlain, Bool.and_eq_true]
  exact and_and_and_comm

theorem havePlain_cons {key : String} {v : Json} {fields : List (String × Json)} :
    havePlain ((key, v) :: fields) ↔ v.isPlain ∧ havePlain fields := by
  simp only [havePlain, haveDocuments, haveExact, isPlain, Bool.and_eq_true]
  exact and_and_and_comm

/-- A style whose separators are a comma and a colon, with blanks behind them or without. -/
structure Style.Readable (style : Style) : Prop where
  items : ∃ blanks, style.itemSeparator.toList = ',' :: blanks ∧ ∀ c ∈ blanks, Cursor.isSpace c
  keys : ∃ blanks, style.keySeparator.toList = ':' :: blanks ∧ ∀ c ∈ blanks, Cursor.isSpace c

theorem Style.readable_line : Style.line.Readable :=
  ⟨⟨[' '], rfl, List.forall_mem_singleton.mpr rfl⟩, ⟨[' '], rfl, List.forall_mem_singleton.mpr rfl⟩⟩

theorem Style.isSpace_of_mem_lineBreak (style : Style) (depth : Nat) :
    ∀ c ∈ (style.lineBreak depth).toList, Cursor.isSpace c := by
  intro c hc
  rw [lineBreak] at hc
  split at hc
  · simp at hc
  · simp only [String.toList_append, String.toList_ofList, List.mem_append, List.mem_replicate] at hc
    rcases hc with hc | ⟨-, rfl⟩
    · obtain rfl : c = '\n' := by simpa using hc
      rfl
    · rfl

section

variable {blanks rest : List Char} {c : Char}

theorem skipSpace_blanks (hblanks : ∀ c ∈ blanks, Cursor.isSpace c) (hc : Cursor.isSpace c = false) (rest : List Char)
    (p : Nat) :
    ∃ q, Cursor.skipSpace ⟨blanks ++ c :: rest, p⟩ = ⟨c :: rest, q⟩ := by
  have htake : (blanks ++ c :: rest).takeWhile Cursor.isSpace = blanks := by
    rw [List.takeWhile_append_of_pos hblanks, List.takeWhile_cons_of_neg (by simp [hc]), List.append_nil]
  exact ⟨p + blanks.length, by rw [Cursor.skipSpace, htake, advance_append]⟩

theorem skipSpace_of_not_space (hc : Cursor.isSpace c = false) (p : Nat) :
    Cursor.skipSpace ⟨c :: rest, p⟩ = ⟨c :: rest, p⟩ := by
  rw [Cursor.skipSpace, List.takeWhile_cons_of_neg (by simp [hc])]
  rfl

/-- What closes or separates the parts of a container does not go on as a number. -/
theorem stopsNumber_cons (hc : c ∈ [',', ']', '\x7d']) (rest : List Char) : StopsNumber (c :: rest) := by
  intro d hd
  obtain rfl : c = d := Option.some.inj hd
  have hcloses : c = ',' ∨ c = ']' ∨ c = '\x7d' := by simpa using hc
  rcases hcloses with rfl | rfl | rfl <;> decide

/-- Blanks in front of it do not either. -/
theorem stopsNumber_blanks (hblanks : ∀ c ∈ blanks, Cursor.isSpace c) (hc : c ∈ [',', ']', '\x7d'])
    (rest : List Char) : StopsNumber (blanks ++ c :: rest) := by
  have hspace : ∀ c, Cursor.isSpace c → isAsciiDigit c = false ∧ c ≠ '.' ∧ c ≠ 'e' ∧ c ≠ 'E' := by
    intro c hc
    have hcases : c = ' ' ∨ c = '\t' ∨ c = '\n' ∨ c = '\r' := by
      simpa [Cursor.isSpace, or_assoc] using hc
    rcases hcases with rfl | rfl | rfl | rfl <;> decide
  cases blanks with
  | nil => exact stopsNumber_cons hc rest
  | cons blank blanks =>
      intro d hd
      obtain rfl : blank = d := Option.some.inj hd
      exact hspace blank (hblanks blank List.mem_cons_self)

end

/-! The texts of values, as lists of characters. -/

section

variable (style : Style) (depth : Nat)

/-- The parts of a list behind its opening bracket, with the closing one. -/
def itemsText (x : Json) (xs : List Json) : List Char :=
  (render style (depth + 1) x).toList ++
    ((renderItems style (depth + 1) xs).toList ++ ((style.lineBreak depth).toList ++ [']']))

/-- The fields of an object behind its opening brace, with the closing one. -/
def fieldsText (key : String) (v : Json) (fields : List (String × Json)) : List Char :=
  (stringText style.ascii key).toList ++ (style.keySeparator.toList ++ ((render style (depth + 1) v).toList ++
    ((renderFields style (depth + 1) fields).toList ++ ((style.lineBreak depth).toList ++ ['\x7d']))))

theorem toList_stringText (ascii : Bool) (s : String) :
    (stringText ascii s).toList = '"' :: (s.toList.flatMap (stringChar ascii) ++ ['"']) := by
  rw [stringText, String.toList_ofList, List.cons_append]

theorem toList_render_arr (x : Json) (xs : List Json) : (render style depth (.arr (x :: xs))).toList =
    '[' :: ((style.lineBreak (depth + 1)).toList ++ itemsText style depth x xs) := by
  simp [render, itemsText]

theorem toList_render_obj (key : String) (v : Json) (fields : List (String × Json)) :
    (render style depth (.obj ((key, v) :: fields))).toList =
      '\x7b' :: ((style.lineBreak (depth + 1)).toList ++ fieldsText style depth key v fields) := by
  simp [render, fieldsText]

theorem toList_renderItems_cons (x : Json) (xs : List Json) : (renderItems style depth (x :: xs)).toList =
    style.itemSeparator.toList ++ ((style.lineBreak depth).toList ++
      ((render style depth x).toList ++ (renderItems style depth xs).toList)) := by
  simp [renderItems]

theorem toList_renderFields_cons (key : String) (v : Json) (fields : List (String × Json)) :
    (renderFields style depth ((key, v) :: fields)).toList =
      style.itemSeparator.toList ++ ((style.lineBreak depth).toList ++ ((stringText style.ascii key).toList ++
        (style.keySeparator.toList ++
          ((render style depth v).toList ++ (renderFields style depth fields).toList)))) := by
  simp [renderFields]

end

/-- Characters with which no text of a value begins: blanks, closing brackets and the mark of the byte order. -/
def opens (c : Char) : Bool := !Cursor.isSpace c && c ≠ ']' && c ≠ '\x7d' && c ≠ Char.ofNat 0xfeff

theorem opens_of_isDigit {c : Char} (h : c.isDigit) : opens c := by
  have hcodes : ∀ n < 128, 48 ≤ n → n ≤ 57 → opens (Char.ofNat n) := by decide
  obtain ⟨hlo, hhi⟩ := Text.toNat_of_isDigit h
  have hopens := hcodes c.toNat (by omega) hlo hhi
  rwa [Char.ofNat_toNat] at hopens

/-- The text of an integer begins with a minus sign or a digit. -/
theorem exists_cons_intText (n : Int) : ∃ c cs, (Text.intText n).toList = c :: cs ∧ (c = '-' ∨ c.isDigit) := by
  have hne : (Text.intText n).toList ≠ [] := by
    rw [Text.toList_intText]
    simp [Nat.toDigits_ne_nil]
  obtain ⟨c, cs, htext⟩ := List.exists_cons_of_ne_nil hne
  exact ⟨c, cs, htext, Text.mem_intText (htext ▸ List.mem_cons_self)⟩

theorem exists_cons_render (style : Style) (depth : Nat) {v : Json} (hv : v.isPlain) :
    ∃ c cs, (render style depth v).toList = c :: cs ∧ opens c := by
  match v with
  | .null => exact ⟨'n', ['u', 'l', 'l'], by rw [render]; rfl, by decide⟩
  | .bool true => exact ⟨'t', ['r', 'u', 'e'], by rw [render]; rfl, by decide⟩
  | .bool false => exact ⟨'f', ['a', 'l', 's', 'e'], by rw [render]; rfl, by decide⟩
  | .int n =>
      obtain ⟨c, cs, htext, hc⟩ := exists_cons_intText n
      refine ⟨c, cs, htext, ?_⟩
      rcases hc with rfl | hdigit
      · decide
      · exact opens_of_isDigit hdigit
  | .float x => exact absurd hv (not_isPlain_float x)
  | .str s => exact ⟨'"', _, toList_stringText style.ascii s, by decide⟩
  | .arr [] => exact ⟨'[', [']'], by rw [render]; rfl, by decide⟩
  | .arr (x :: xs) => exact ⟨'[', _, toList_render_arr style depth x xs, by decide⟩
  | .obj [] => exact ⟨'\x7b', ['\x7d'], by rw [render]; rfl, by decide⟩
  | .obj ((key, w) :: fields) => exact ⟨'\x7b', _, toList_render_obj style depth key w fields, by decide⟩

theorem exists_cons_itemsText (style : Style) (depth : Nat) {x : Json} (hx : x.isPlain) (xs : List Json) :
    ∃ c cs, itemsText style depth x xs = c :: cs ∧ opens c := by
  obtain ⟨c, cs, htext, hc⟩ := exists_cons_render style (depth + 1) hx
  exact ⟨c, _, by rw [itemsText, htext]; rfl, hc⟩

theorem exists_cons_fieldsText (style : Style) (depth : Nat) (key : String) (v : Json) (fields : List (String × Json)) :
    ∃ c cs, fieldsText style depth key v fields = c :: cs ∧ opens c :=
  ⟨'"', _, by rw [fieldsText, toList_stringText]; rfl, by decide⟩

theorem opens_iff {c : Char} :
    opens c ↔ Cursor.isSpace c = false ∧ c ≠ ']' ∧ c ≠ '\x7d' ∧ c ≠ Char.ofNat 0xfeff := by
  simp [opens, and_assoc]

/-! Reading one value. -/

section

variable {fuel : Nat} {rest : List Char} {style : Style}

/-- A string is read back from its quoted text. -/
theorem readString_stringText (ascii : Bool) (s : String) (rest : List Char) (p : Nat) :
    let cur : Cursor := ⟨(stringText ascii s).toList ++ rest, p⟩
    ∃ q, readString cur.position (cur.rest.length + 1) (cur.advance 1) [] = .ok (s, ⟨rest, q⟩) := by
  intro cur
  have hcur : cur.rest = '"' :: (s.toList.flatMap (stringChar ascii) ++ '"' :: rest) := by
    simp [cur, toList_stringText]
  have hadvance : cur.advance 1 = ⟨s.toList.flatMap (stringChar ascii) ++ '"' :: rest, p + 1⟩ := by
    rw [Cursor.advance, hcur]
    rfl
  have hfuel : s.toList.length < cur.rest.length + 1 := by
    have hle := length_le_flatMap_stringChar ascii s.toList
    rw [hcur, List.length_cons, List.length_append]
    omega
  obtain ⟨q, hread⟩ := readString_chars ascii s.toList hfuel [] rest p (p + 1)
  exact ⟨q, by rw [hadvance, hread]; simp⟩

theorem takes_str (ascii : Bool) (s : String) :
    Takes (readValue (fuel + 1)) (stringText ascii s).toList (.str s) rest := by
  intro p
  obtain ⟨q, hread⟩ := readString_stringText ascii s rest p
  refine ⟨q, ?_⟩
  rw [toList_stringText] at hread ⊢
  rw [readValue.eq_def]
  simp only [List.cons_append] at hread ⊢
  rw [hread]
  rfl

/-- No word begins with a digit or with a sign and a digit, so such a text is read as a number. -/
theorem readScalar_of_digit {cur : Cursor} (h : ∃ d ∈ cur.rest.take 2, d.isDigit) :
    readScalar cur = readNumber cur := by
  have hwords : ∀ entry ∈ literals, 2 ≤ entry.1.toList.length ∧ (entry.1.toList.take 2).all (!·.isDigit) := by
    decide
  rw [readScalar]
  split
  next word v hfound =>
    have hbegins := List.find?_some hfound
    obtain ⟨hlength, hfree⟩ := hwords (word, v) (List.mem_of_find?_eq_some hfound)
    obtain ⟨tail, htail⟩ := List.isPrefixOf_iff_prefix.mp hbegins
    obtain ⟨d, hd, hdigit⟩ := h
    rw [← htail, List.take_append_of_le_length hlength] at hd
    have hnot := List.all_eq_true.mp hfree d hd
    simp [hdigit] at hnot
  · rfl

theorem takes_int {n : Int} (hn : Integer.isWritable n) (hstops : StopsNumber rest) :
    Takes (readValue (fuel + 1)) (Text.intText n).toList (.int n) rest := by
  intro p
  obtain ⟨q, hread⟩ := takes_readNumber hn hstops p
  refine ⟨q, ?_⟩
  obtain ⟨d, digits, hdigits⟩ := List.exists_cons_of_ne_nil (Nat.toDigits_ne_nil (n := n.natAbs) (b := 10))
  have hdigit : d.isDigit := Text.isDigit_of_mem_toDigits (n := n.natAbs) (hdigits ▸ List.mem_cons_self)
  have hscalar : readValue (fuel + 1) ⟨(Text.intText n).toList ++ rest, p⟩ =
      readScalar ⟨(Text.intText n).toList ++ rest, p⟩ := by
    rw [Text.toList_intText, hdigits]
    by_cases hneg : n < 0
    · rw [if_pos hneg]
      rfl
    · have hne : d ≠ '"' ∧ d ≠ '[' ∧ d ≠ '\x7b' :=
        ⟨Text.ne_of_isDigit hdigit (by decide), Text.ne_of_isDigit hdigit (by decide),
          Text.ne_of_isDigit hdigit (by decide)⟩
      rw [if_neg hneg]
      simp [readValue, hne]
  rw [hscalar, readScalar_of_digit, hread]
  refine ⟨d, ?_, hdigit⟩
  rw [Text.toList_intText, hdigits]
  split <;> simp

theorem takes_null : Takes (readValue (fuel + 1)) "null".toList .null rest := fun p => ⟨p + 4, rfl⟩

theorem takes_bool (b : Bool) : Takes (readValue (fuel + 1)) (if b then "true" else "false").toList (.bool b) rest := by
  cases b with
  | true => exact fun p => ⟨p + 4, rfl⟩
  | false => exact fun p => ⟨p + 5, rfl⟩

/-! Reading the parts of a container. -/

variable {p q : Nat} {cur after final : Cursor}

theorem readItems_last {item : Json} (hitem : readValue fuel cur = .ok (item, after))
    (hskip : after.skipSpace = ⟨']' :: rest, q⟩) : readItems (fuel + 1) cur = .ok ([item], ⟨rest, q + 1⟩) := by
  rw [readItems, hitem, except_ok_bind]
  simp only [hskip]
  rfl

theorem readItems_more {item : Json} {items : List Json} (hitem : readValue fuel cur = .ok (item, after))
    (hskip : after.skipSpace = ⟨',' :: rest, q⟩)
    (hmore : readItems fuel (Cursor.skipSpace ⟨rest, q + 1⟩) = .ok (items, final)) :
    readItems (fuel + 1) cur = .ok (item :: items, final) := by
  have hadvance : Cursor.advance ⟨',' :: rest, q⟩ 1 = ⟨rest, q + 1⟩ := rfl
  rw [readItems, hitem, except_ok_bind]
  simp only [hskip, hadvance, hmore]
  rfl

theorem readValue_arr {cs : List Char} {c : Char} {items : List Json}
    (hskip : Cursor.skipSpace ⟨cs, p + 1⟩ = ⟨c :: rest, q⟩) (hc : c ≠ ']')
    (hitems : readItems fuel ⟨c :: rest, q⟩ = .ok (items, final)) :
    readValue (fuel + 1) ⟨'[' :: cs, p⟩ = .ok (.arr items, final) := by
  have hadvance : Cursor.advance ⟨'[' :: cs, p⟩ 1 = ⟨cs, p + 1⟩ := rfl
  simp [readValue, hadvance, hskip, hc, hitems]

theorem readValue_obj {cs : List Char} {c : Char} {fields : List (String × Json)}
    (hskip : Cursor.skipSpace ⟨cs, p + 1⟩ = ⟨c :: rest, q⟩) (hc : c ≠ '\x7d')
    (hfields : readPairs fuel ⟨c :: rest, q⟩ = .ok (fields, final)) :
    readValue (fuel + 1) ⟨'\x7b' :: cs, p⟩ = .ok (.obj (Assoc.ofPairs fields), final) := by
  have hadvance : Cursor.advance ⟨'\x7b' :: cs, p⟩ 1 = ⟨cs, p + 1⟩ := rfl
  simp [readValue, hadvance, hskip, hc, hfields]

/-- A reader of fields comes past a key, a colon and a value. -/
structure PastField (fuel : Nat) (cur : Cursor) (key : String) (v : Json) (after : Cursor) : Prop where
  quoted : ∃ cs, cur.rest = '"' :: cs
  read : ∃ afterKey rest r, readString cur.position (cur.rest.length + 1) (cur.advance 1) [] = .ok (key, afterKey) ∧
    afterKey.skipSpace = ⟨':' :: rest, r⟩ ∧ readValue fuel (Cursor.skipSpace ⟨rest, r + 1⟩) = .ok (v, after)

theorem PastField.last {key : String} {v : Json} (h : PastField fuel cur key v after)
    (hskip : after.skipSpace = ⟨'\x7d' :: rest, q⟩) : readPairs (fuel + 1) cur = .ok ([(key, v)], ⟨rest, q + 1⟩) := by
  obtain ⟨cs, hquoted⟩ := h.quoted
  obtain ⟨afterKey, more, r, hkey, hcolon, hvalue⟩ := h.read
  have hadvance : Cursor.advance ⟨':' :: more, r⟩ 1 = ⟨more, r + 1⟩ := rfl
  rw [hquoted] at hkey
  rw [readPairs, hquoted]
  simp only [hkey, except_ok_bind, hcolon, hadvance, hvalue, hskip]
  rfl

theorem PastField.more {key : String} {v : Json} {fields : List (String × Json)}
    (h : PastField fuel cur key v after) (hskip : after.skipSpace = ⟨',' :: rest, q⟩)
    (hmore : readPairs fuel (Cursor.skipSpace ⟨rest, q + 1⟩) = .ok (fields, final)) :
    readPairs (fuel + 1) cur = .ok ((key, v) :: fields, final) := by
  obtain ⟨cs, hquoted⟩ := h.quoted
  obtain ⟨afterKey, more, r, hkey, hcolon, hvalue⟩ := h.read
  have hadvance : Cursor.advance ⟨':' :: more, r⟩ 1 = ⟨more, r + 1⟩ := rfl
  have hadvance' : Cursor.advance ⟨',' :: rest, q⟩ 1 = ⟨rest, q + 1⟩ := rfl
  rw [hquoted] at hkey
  rw [readPairs, hquoted]
  simp only [hkey, except_ok_bind, hcolon, hadvance, hvalue, hskip, hadvance', hmore]
  rfl

/-- The reader comes past the text of a field, if it can read the value. -/
theorem pastField (hstyle : style.Readable) (ascii : Bool) (key : String) {value : List Char} {v : Json}
    (hopens : ∃ c cs, value = c :: cs ∧ opens c) (hvalue : Takes (readValue fuel) value v rest) (p : Nat) :
    ∃ q, PastField fuel ⟨(stringText ascii key).toList ++ (style.keySeparator.toList ++ (value ++ rest)), p⟩ key v
      ⟨rest, q⟩ := by
  obtain ⟨blanks, hcolon, hblanks⟩ := hstyle.keys
  obtain ⟨c, cs, rfl, hc⟩ := hopens
  obtain ⟨r, hkey⟩ := readString_stringText ascii key (style.keySeparator.toList ++ (c :: cs ++ rest)) p
  have hspace : Cursor.isSpace c = false := by
    simp only [opens, Bool.and_eq_true, Bool.not_eq_true'] at hc
    exact hc.1.1.1
  obtain ⟨r', hskip⟩ := skipSpace_blanks hblanks hspace (cs ++ rest) (r + 1)
  obtain ⟨q, hread⟩ := hvalue r'
  have hquoted :
      ∃ cs', (stringText ascii key).toList ++ (style.keySeparator.toList ++ (c :: cs ++ rest)) = '"' :: cs' :=
    ⟨_, by rw [toList_stringText, List.cons_append]⟩
  refine ⟨q, ⟨hquoted, _, blanks ++ (c :: cs ++ rest), r, hkey, ?_, ?_⟩⟩
  · rw [hcolon]
    exact skipSpace_of_not_space rfl r
  · rw [List.cons_append, hskip]
    exact hread

end

/-- Everything that the three readers of parts of values are given the text of, they read back. -/
structure ReadsBack (style : Style) (fuel : Nat) : Prop where
  value (depth : Nat) {v : Json} (rest : List Char) : v.isPlain → (render style depth v).toList.length ≤ fuel →
    StopsNumber rest → Takes (readValue fuel) (render style depth v).toList v rest
  items (depth : Nat) {x : Json} {xs : List Json} (rest : List Char) : arePlain (x :: xs) →
    (itemsText style depth x xs).length ≤ fuel → Takes (readItems fuel) (itemsText style depth x xs) (x :: xs) rest
  fields (depth : Nat) {key : String} {v : Json} {others : List (String × Json)} (rest : List Char) :
    havePlain ((key, v) :: others) → (fieldsText style depth key v others).length ≤ fuel →
    Takes (readPairs fuel) (fieldsText style depth key v others) ((key, v) :: others) rest

variable {style : Style} {fuel depth : Nat} {rest : List Char}

theorem ReadsBack.value_succ (ih : ReadsBack style fuel) {v : Json} (hv : v.isPlain)
    (hfuel : (render style depth v).toList.length ≤ fuel + 1) (hstops : StopsNumber rest) :
    Takes (readValue (fuel + 1)) (render style depth v).toList v rest := by
  cases v with
  | null =>
      rw [render]
      exact takes_null
  | bool b =>
      rw [render]
      exact takes_bool b
  | int n =>
      rw [render]
      exact takes_int (isPlain_int.mp hv) hstops
  | float x => exact absurd hv (not_isPlain_float x)
  | str s =>
      rw [render]
      exact takes_str style.ascii s
  | arr items =>
      cases items with
      | nil =>
          rw [render]
          exact fun p => ⟨p + 2, rfl⟩
      | cons x xs =>
          rw [toList_render_arr, List.length_cons, List.length_append] at hfuel
          have hitems := isPlain_arr.mp hv
          intro p
          obtain ⟨c, cs, htext, hc⟩ := exists_cons_itemsText style depth (arePlain_cons.mp hitems).1 xs
          obtain ⟨hspace, hbracket, -⟩ := opens_iff.mp hc
          obtain ⟨q, hskip⟩ := skipSpace_blanks (style.isSpace_of_mem_lineBreak (depth + 1)) hspace (cs ++ rest) (p + 1)
          obtain ⟨q', hread⟩ := ih.items depth rest hitems (by omega) q
          refine ⟨q', ?_⟩
          rw [htext] at hread
          rw [toList_render_arr, htext, List.cons_append, List.append_assoc]
          exact readValue_arr hskip hbracket hread
  | obj fields =>
      cases fields with
      | nil =>
          rw [render]
          exact fun p => ⟨p + 2, rfl⟩
      | cons field fields =>
          obtain ⟨key, w⟩ := field
          rw [toList_render_obj, List.length_cons, List.length_append] at hfuel
          obtain ⟨hkeys, hfields⟩ := isPlain_obj.mp hv
          intro p
          obtain ⟨c, cs, htext, hc⟩ := exists_cons_fieldsText style depth key w fields
          obtain ⟨hspace, -, hbrace, -⟩ := opens_iff.mp hc
          obtain ⟨q, hskip⟩ := skipSpace_blanks (style.isSpace_of_mem_lineBreak (depth + 1)) hspace (cs ++ rest) (p + 1)
          obtain ⟨q', hread⟩ := ih.fields depth rest hfields (by omega) q
          refine ⟨q', ?_⟩
          rw [htext] at hread
          rw [toList_render_obj, htext, List.cons_append, List.append_assoc, ← Assoc.ofPairs_of_nodup hkeys]
          exact readValue_obj hskip hbrace hread

/-- The text of a list behind its first item: the end of the list, or a separator and the text from the next item on. -/
theorem itemsText_nil (style : Style) (depth : Nat) (x : Json) :
    itemsText style depth x [] = (render style (depth + 1) x).toList ++ ((style.lineBreak depth).toList ++ [']']) := by
  simp [itemsText, renderItems]

theorem itemsText_cons (style : Style) (depth : Nat) (x y : Json) (ys : List Json) :
    itemsText style depth x (y :: ys) = (render style (depth + 1) x).toList ++ (style.itemSeparator.toList ++
      ((style.lineBreak (depth + 1)).toList ++ itemsText style depth y ys)) := by
  simp [itemsText, toList_renderItems_cons]

theorem fieldsText_nil (style : Style) (depth : Nat) (key : String) (v : Json) :
    fieldsText style depth key v [] = (stringText style.ascii key).toList ++ (style.keySeparator.toList ++
      ((render style (depth + 1) v).toList ++ ((style.lineBreak depth).toList ++ ['\x7d']))) := by
  simp [fieldsText, renderFields]

theorem fieldsText_cons (style : Style) (depth : Nat) (key key' : String) (v w : Json) (fields : List (String × Json)) :
    fieldsText style depth key v ((key', w) :: fields) = (stringText style.ascii key).toList ++
      (style.keySeparator.toList ++ ((render style (depth + 1) v).toList ++ (style.itemSeparator.toList ++
        ((style.lineBreak (depth + 1)).toList ++ fieldsText style depth key' w fields)))) := by
  simp [fieldsText, toList_renderFields_cons]

theorem ReadsBack.items_succ (hstyle : style.Readable) (ih : ReadsBack style fuel) {x : Json} {xs : List Json}
    (hplain : arePlain (x :: xs)) (hfuel : (itemsText style depth x xs).length ≤ fuel + 1) :
    Takes (readItems (fuel + 1)) (itemsText style depth x xs) (x :: xs) rest := by
  obtain ⟨hx, hxs⟩ := arePlain_cons.mp hplain
  intro p
  cases xs with
  | nil =>
      have hblanks := style.isSpace_of_mem_lineBreak depth
      rw [itemsText_nil] at hfuel ⊢
      simp only [List.length_append, List.length_singleton] at hfuel
      obtain ⟨q, hread⟩ := ih.value (depth + 1) _ hx (by omega)
        (stopsNumber_blanks hblanks (by decide : ']' ∈ [',', ']', '\x7d']) rest) p
      obtain ⟨q', hskip⟩ := skipSpace_blanks hblanks (rfl : Cursor.isSpace ']' = false) rest q
      refine ⟨q' + 1, ?_⟩
      simp only [List.append_assoc, List.singleton_append]
      exact readItems_last hread hskip
  | cons y ys =>
      obtain ⟨blanks, hcomma, hblanks⟩ := hstyle.items
      rw [itemsText_cons, hcomma] at hfuel ⊢
      simp only [List.length_append, List.length_cons] at hfuel
      obtain ⟨c, cs, htext, hc⟩ := exists_cons_itemsText style depth (arePlain_cons.mp hxs).1 ys
      obtain ⟨hspace, -⟩ := opens_iff.mp hc
      have hspaces : ∀ c ∈ blanks ++ (style.lineBreak (depth + 1)).toList, Cursor.isSpace c :=
        List.forall_mem_append.mpr ⟨hblanks, style.isSpace_of_mem_lineBreak (depth + 1)⟩
      let more := blanks ++ (style.lineBreak (depth + 1)).toList ++ (itemsText style depth y ys ++ rest)
      obtain ⟨q, hread⟩ := ih.value (depth + 1) (',' :: more) hx (by omega) (stopsNumber_cons (by decide) more) p
      obtain ⟨q', hskip⟩ := skipSpace_blanks hspaces hspace (cs ++ rest) (q + 1)
      obtain ⟨q'', hmore⟩ := ih.items depth rest hxs (by omega) q'
      refine ⟨q'', ?_⟩
      rw [htext, List.cons_append, ← hskip] at hmore
      have hcursor : Cursor.skipSpace ⟨',' :: more, q⟩ = ⟨',' :: more, q⟩ := skipSpace_of_not_space rfl q
      have hall := readItems_more hread hcursor (by simpa [more, htext] using hmore)
      simpa [more] using hall

theorem ReadsBack.fields_succ (hstyle : style.Readable) (ih : ReadsBack style fuel) {key : String} {v : Json}
    {others : List (String × Json)} (hplain : havePlain ((key, v) :: others))
    (hfuel : (fieldsText style depth key v others).length ≤ fuel + 1) :
    Takes (readPairs (fuel + 1)) (fieldsText style depth key v others) ((key, v) :: others) rest := by
  obtain ⟨hv, hothers⟩ := havePlain_cons.mp hplain
  have hopens := exists_cons_render style (depth + 1) hv
  intro p
  cases others with
  | nil =>
      have hblanks := style.isSpace_of_mem_lineBreak depth
      rw [fieldsText_nil] at hfuel ⊢
      simp only [List.length_append, List.length_singleton] at hfuel
      obtain ⟨q, hfield⟩ := pastField hstyle style.ascii key hopens (ih.value (depth + 1) _ hv (by omega)
        (stopsNumber_blanks hblanks (by decide : '\x7d' ∈ [',', ']', '\x7d']) rest)) p
      obtain ⟨q', hskip⟩ := skipSpace_blanks hblanks (rfl : Cursor.isSpace '\x7d' = false) rest q
      refine ⟨q' + 1, ?_⟩
      simp only [List.append_assoc, List.singleton_append]
      exact hfield.last hskip
  | cons other others =>
      obtain ⟨key', w⟩ := other
      obtain ⟨blanks, hcomma, hblanks⟩ := hstyle.items
      rw [fieldsText_cons, hcomma] at hfuel ⊢
      simp only [List.length_append, List.length_cons] at hfuel
      obtain ⟨c, cs, htext, hc⟩ := exists_cons_fieldsText style depth key' w others
      obtain ⟨hspace, -⟩ := opens_iff.mp hc
      have hspaces : ∀ c ∈ blanks ++ (style.lineBreak (depth + 1)).toList, Cursor.isSpace c :=
        List.forall_mem_append.mpr ⟨hblanks, style.isSpace_of_mem_lineBreak (depth + 1)⟩
      let more := blanks ++ (style.lineBreak (depth + 1)).toList ++ (fieldsText style depth key' w others ++ rest)
      obtain ⟨q, hfield⟩ := pastField hstyle style.ascii key hopens (ih.value (depth + 1) (',' :: more) hv
        (by omega) (stopsNumber_cons (by decide) more)) p
      obtain ⟨q', hskip⟩ := skipSpace_blanks hspaces hspace (cs ++ rest) (q + 1)
      obtain ⟨q'', hmore⟩ := ih.fields depth rest hothers (by omega) q'
      refine ⟨q'', ?_⟩
      rw [htext, List.cons_append, ← hskip] at hmore
      have hcursor : Cursor.skipSpace ⟨',' :: more, q⟩ = ⟨',' :: more, q⟩ := skipSpace_of_not_space rfl q
      have hall := hfield.more hcursor (by simpa [more, htext] using hmore)
      simpa [more] using hall

theorem readsBack (hstyle : style.Readable) (fuel : Nat) : ReadsBack style fuel := by
  induction fuel with
  | zero =>
      -- no text is empty
      refine ⟨fun depth {v} rest hv hfuel _ => ?_, fun depth {x xs} rest _ hfuel => ?_,
        fun depth {key v others} rest _ hfuel => ?_⟩
      · obtain ⟨c, cs, htext, -⟩ := exists_cons_render style depth hv
        simp [htext] at hfuel
      · simp [itemsText] at hfuel
      · simp [fieldsText] at hfuel
  | succ fuel ih =>
      exact ⟨fun _ {_} _ => ih.value_succ, fun _ {_ _} _ => ih.items_succ hstyle,
        fun _ {_ _ _} _ => ih.fields_succ hstyle⟩

/-- A plain value is read back from its text. -/
theorem parse_print {style : Style} (hstyle : style.Readable) {v : Json} (hv : v.isPlain) :
    parse (v.print style) = .ok v := by
  obtain ⟨c, cs, htext, hc⟩ := exists_cons_render style 0 hv
  obtain ⟨hspace, -, -, hmark⟩ := opens_iff.mp hc
  obtain ⟨q, hread⟩ := (readsBack hstyle ((v.print style).toList.length + 1)).value 0 [] hv
    (Nat.le_succ _) (by simp [StopsNumber]) 0
  have hprint : (v.print style).toList = c :: cs := htext
  rw [List.append_nil, htext] at hread
  rw [parse]
  simp only [hprint, List.head?_cons, Option.some.injEq, hmark, if_false, skipSpace_of_not_space hspace]
  rw [hprint] at hread
  rw [hread]
  rfl

end ChainAlerts.Json
