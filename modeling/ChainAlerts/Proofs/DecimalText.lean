import Mathlib.Data.List.TakeDrop
import Mathlib.Data.List.TakeWhile
import Mathlib.Data.Option.Basic
import ChainAlerts.Number.Decimal
import ChainAlerts.Proofs.IntegerText

/-! The text of a decimal number denotes that number, with its sign, its coefficient and its power of
ten, if the number lies within the bounds of the format. A text is a sign and a body; the body of a
finite number is digits, a point before the last of them if there is a fraction, and an exponent unless
the number is written positionally. -/

namespace ChainAlerts.Decimal

open Text

/-- A character that a reader of numbers neither strips nor skips. -/
def IsPlain (c : Char) : Prop := isBlank c = false ∧ c ≠ '_'

theorem isPlain_of_all {cs : List Char} (h : cs.all fun c => !isBlank c && c != '_') : ∀ c ∈ cs, IsPlain c := by
  intro c hc
  simpa [IsPlain] using List.all_eq_true.mp h c hc

theorem isPlain_of_isDigit {c : Char} (h : c.isDigit) : IsPlain c :=
  ⟨isBlank_of_isDigit h, ne_of_isDigit h (by decide)⟩

theorem dropWhile_isBlank_plain {cs : List Char} (h : ∀ c ∈ cs, IsPlain c) : cs.dropWhile isBlank = cs := by
  cases cs with
  | nil => rfl
  | cons c cs =>
      rw [List.dropWhile_cons, if_neg]
      simp [(h c List.mem_cons_self).1]

theorem stripped_plain {cs : List Char} (h : ∀ c ∈ cs, IsPlain c) :
    (stripChars cs).filter (· ≠ '_') = cs := by
  have hreverse : ∀ c ∈ cs.reverse, IsPlain c := fun c hc => h c (List.mem_reverse.mp hc)
  rw [stripChars, dropTrailing, dropWhile_isBlank_plain h, dropWhile_isBlank_plain hreverse,
    List.reverse_reverse, List.filter_eq_self]
  intro c hc
  simpa using (h c hc).2

theorem digitValues?_digits {cs : List Char} (h : ∀ c ∈ cs, c.isDigit) :
    digitValues? cs = some (cs.map fun c => c.toNat - 48) := by
  induction cs with
  | nil => rfl
  | cons c cs ih =>
      have htail := ih fun d hd => h d (List.mem_cons_of_mem c hd)
      rw [digitValues?, List.mapM_cons, digit?_of_isDigit (h c List.mem_cons_self)]
      rw [digitValues?] at htail
      simp [htail]

def signChars (negative : Bool) : List Char := if negative then ['-'] else []

theorem splitSign_signChars (negative : Bool) {body : List Char}
    (h : ∀ c ∈ body.head?, c ≠ '-' ∧ c ≠ '+') : splitSign (signChars negative ++ body) = (negative, body) := by
  cases negative with
  | true => rfl
  | false =>
      cases body with
      | nil => rfl
      | cons c cs =>
          obtain ⟨hminus, hplus⟩ := h c rfl
          unfold splitSign
          split <;> simp_all [signChars]

/-- A fraction behind its point; no fraction has no point. -/
def pointed (fraction : List Char) : List Char := if fraction.isEmpty then [] else '.' :: fraction

theorem isDigit_of_charIsDigit {c : Char} (h : c.isDigit) : isDigit c := by
  rw [isDigit, digit?_of_isDigit h]
  rfl

theorem span_digits {whole rest : List Char} (hwhole : ∀ c ∈ whole, c.isDigit)
    (hrest : ∀ c ∈ rest.head?, isDigit c = false) : (whole ++ rest).span isDigit = (whole, rest) := by
  have hall : ∀ c ∈ whole, isDigit c := fun c hc => isDigit_of_charIsDigit (hwhole c hc)
  have hhead : rest.takeWhile isDigit = [] ∧ rest.dropWhile isDigit = rest := by
    cases rest with
    | nil => exact ⟨rfl, rfl⟩
    | cons c cs =>
        have hc := hrest c rfl
        rw [List.takeWhile_cons_of_neg (by simp [hc]), List.dropWhile_cons_of_neg (by simp [hc])]
        exact ⟨rfl, rfl⟩
  rw [List.span_eq_takeWhile_dropWhile, List.takeWhile_append_of_pos hall, List.dropWhile_append_of_pos hall,
    hhead.1, hhead.2, List.append_nil]

theorem splitFraction_pointed {fraction power : List Char} (hfraction : ∀ c ∈ fraction, c.isDigit)
    (hpower : ∀ c ∈ power.head?, isDigit c = false ∧ c ≠ '.') :
    splitFraction (pointed fraction ++ power) = (fraction, power) := by
  cases hf : fraction with
  | nil =>
      cases power with
      | nil => rfl
      | cons c cs =>
          have hc := (hpower c rfl).2
          simp only [pointed, List.isEmpty_nil, if_true, List.nil_append]
          unfold splitFraction
          split <;> simp_all
  | cons d ds =>
      rw [← hf]
      have hpoint : pointed fraction = '.' :: fraction := by simp [pointed, hf]
      rw [hpoint]
      exact span_digits hfraction fun c hc => (hpower c hc).1

/-- A run of digits, a fraction and an exponent are read as the number that they spell together. -/
theorem readFinite?_spelled (negative : Bool) {whole fraction power : List Char} {exponent : Int}
    (hwhole : ∀ c ∈ whole, c.isDigit) (hne : whole ≠ []) (hfraction : ∀ c ∈ fraction, c.isDigit)
    (hpower : readExponent? power = some exponent)
    (hhead : ∀ c ∈ power.head?, isDigit c = false ∧ c ≠ '.') :
    readFinite? negative (whole ++ (pointed fraction ++ power)) =
      some (.finite negative (Nat.ofDigitChars 10 (whole ++ fraction) 0) (exponent - fraction.length)) := by
  have hrest : ∀ c ∈ (pointed fraction ++ power).head?, isDigit c = false := by
    intro c hc
    cases fraction with
    | nil => exact (hhead c hc).1
    | cons d ds =>
        obtain rfl : '.' = c := by simpa [pointed] using hc
        decide
  have hdigits : ∀ c ∈ whole ++ fraction, c.isDigit := by
    intro c hc
    rcases List.mem_append.mp hc with hc | hc
    · exact hwhole c hc
    · exact hfraction c hc
  have hsome : ((whole ++ fraction).map fun c => c.toNat - 48).isEmpty = false := by
    simp [hne]
  unfold readFinite?
  simp only [span_digits hwhole hrest, splitFraction_pointed hfraction hhead, digitValues?_digits hdigits,
    hpower, hsome, ofDigitValues_map, Option.bind_eq_bind, Option.bind_some, Bool.not_false, guard_true]
  rfl

theorem digits_of_toDigits {n : Nat} : ∀ c ∈ Nat.toDigits 10 n, c.isDigit :=
  fun _ hc => isDigit_of_mem_toDigits hc

/-- The exponent behind a mantissa, as it is written and as it is read. -/
theorem readExponent?_written (size : Int) :
    readExponent? ('E' :: ((if size < 0 then "" else "+").toList ++ (intText size).toList)) = some size := by
  have hdigits : ∀ n, digitValues? (Nat.toDigits 10 n) = some ((Nat.toDigits 10 n).map fun c => c.toNat - 48) :=
    fun n => digitValues?_digits digits_of_toDigits
  have hvalue : ∀ n, ofDigitValues ((Nat.toDigits 10 n).map fun c => c.toNat - 48) = n := fun n => by
    rw [ofDigitValues_map, Nat.ofDigitChars_ten_toDigits]
  have hletter : 'E'.toLower = 'e' := by decide
  rw [toList_intText]
  by_cases hneg : size < 0
  · rw [if_pos hneg, if_pos hneg]
    have hsign : splitSign (['-'] ++ Nat.toDigits 10 size.natAbs) = (true, Nat.toDigits 10 size.natAbs) := rfl
    simp only [readExponent?, hletter, String.toList_empty, List.nil_append, hsign, hdigits, hvalue, guard_true,
      List.isEmpty_eq_false_iff.mpr Nat.toDigits_ne_nil, Bool.not_false, Option.bind_eq_bind, Option.bind_some,
      if_true]
    rw [Int.ofNat_natAbs_of_nonpos (by omega), Int.neg_neg]
    rfl
  · rw [if_neg hneg, if_neg hneg]
    have hsign : splitSign ("+".toList ++ ([] ++ Nat.toDigits 10 size.natAbs)) =
        (false, Nat.toDigits 10 size.natAbs) := rfl
    simp only [readExponent?, hletter, hsign, hdigits, hvalue, guard_true,
      List.isEmpty_eq_false_iff.mpr Nat.toDigits_ne_nil, Bool.not_false, Option.bind_eq_bind, Option.bind_some,
      Bool.false_eq_true, if_false]
    rw [Int.natAbs_of_nonneg (by omega)]
    rfl

/-- The body of a finite number: its text without the sign. -/
def finiteBody (c : Nat) (e : Int) : List Char :=
  if e ≤ 0 ∧ -6 ≤ adjusted c e then (placePoint c (-e).toNat).toList
  else
    (Nat.toDigits 10 c).take 1 ++ (pointed ((Nat.toDigits 10 c).drop 1) ++
      'E' :: ((if adjusted c e < 0 then "" else "+").toList ++ (intText (adjusted c e)).toList))

theorem toList_sign (negative : Bool) : (if negative then "-" else "").toList = signChars negative := by
  cases negative <;> rfl

theorem toList_text_finite (negative : Bool) (c : Nat) (e : Int) :
    (text (.finite negative c e)).toList = signChars negative ++ finiteBody c e := by
  unfold text finiteBody
  by_cases hpositional : e ≤ 0 ∧ -6 ≤ adjusted c e
  · simp only [if_pos hpositional, String.toList_append, toList_sign]
  · simp only [if_neg hpositional, String.toList_append, String.toList_ofList, pointed, toList_sign,
      List.append_assoc]
    rfl

/-- Digits with a point before the last `places` of them are digits, a fraction of that length, and in all
the value of the number. -/
theorem placePoint_spelled (n places : Nat) :
    ∃ whole fraction, (placePoint n places).toList = whole ++ (pointed fraction ++ []) ∧
      (∀ c ∈ whole, c.isDigit) ∧ whole ≠ [] ∧ (∀ c ∈ fraction, c.isDigit) ∧ fraction.length = places ∧
      Nat.ofDigitChars 10 (whole ++ fraction) 0 = n := by
  unfold placePoint
  by_cases hplaces : places = 0
  · refine ⟨Nat.toDigits 10 n, [], ?_, digits_of_toDigits, Nat.toDigits_ne_nil, by simp, by simp [hplaces], ?_⟩
    · simp [hplaces, pointed]
    · rw [List.append_nil, Nat.ofDigitChars_ten_toDigits]
  · simp only [if_neg hplaces, String.toList_ofList]
    -- enough zeros stand in front for at least one digit before the point
    generalize hpadded :
      List.replicate (places + 1 - (Nat.toDigits 10 n).length) '0' ++ Nat.toDigits 10 n = padded
    have hlength : places + 1 ≤ padded.length := by
      rw [← hpadded, List.length_append, List.length_replicate]
      omega
    have hdigits : ∀ c ∈ padded, c.isDigit := by
      intro c hc
      rw [← hpadded] at hc
      rcases List.mem_append.mp hc with hc | hc
      · rw [List.eq_of_mem_replicate hc]
        decide
      · exact digits_of_toDigits c hc
    have hvalue : Nat.ofDigitChars 10 padded 0 = n := by
      rw [← hpadded, Nat.ofDigitChars_append, Nat.ofDigitChars_replicate_zero, Nat.mul_zero,
        Nat.ofDigitChars_ten_toDigits]
    have hdrop : (padded.drop (padded.length - places)).length = places := by
      rw [List.length_drop]
      omega
    refine ⟨padded.take (padded.length - places), padded.drop (padded.length - places), ?_,
      fun c hc => hdigits c (List.mem_of_mem_take hc), ?_, fun c hc => hdigits c (List.mem_of_mem_drop hc),
      hdrop, ?_⟩
    · have hsome : (padded.drop (padded.length - places)).isEmpty = false := by
        rw [List.isEmpty_eq_false_iff, ← List.length_pos_iff, hdrop]
        omega
      simp only [pointed, hsome, Bool.false_eq_true, if_false, List.append_nil]
    · rw [← List.length_pos_iff, List.length_take]
      omega
    · rw [List.take_append_drop, hvalue]

theorem readFinite?_finiteBody (negative : Bool) (c : Nat) (e : Int) :
    readFinite? negative (finiteBody c e) = some (.finite negative c e) := by
  unfold finiteBody
  by_cases hpositional : e ≤ 0 ∧ -6 ≤ adjusted c e
  · rw [if_pos hpositional]
    obtain ⟨whole, fraction, htext, hwhole, hne, hfraction, hplaces, hvalue⟩ := placePoint_spelled c (-e).toNat
    rw [htext, readFinite?_spelled negative hwhole hne hfraction rfl (by simp), hvalue, hplaces]
    congr 2
    omega
  · rw [if_neg hpositional]
    have htake : ∀ d ∈ (Nat.toDigits 10 c).take 1, d.isDigit := fun d hd =>
      digits_of_toDigits d (List.mem_of_mem_take hd)
    have hdrop : ∀ d ∈ (Nat.toDigits 10 c).drop 1, d.isDigit := fun d hd =>
      digits_of_toDigits d (List.mem_of_mem_drop hd)
    have hpos := Nat.length_toDigits_pos (n := c) (b := 10)
    have hne : (Nat.toDigits 10 c).take 1 ≠ [] := by
      rw [← List.length_pos_iff, List.length_take]
      omega
    rw [readFinite?_spelled negative htake hne hdrop (readExponent?_written (adjusted c e)) (by
      intro d hd
      obtain rfl : 'E' = d := by simpa using hd
      decide), List.take_append_drop, Nat.ofDigitChars_ten_toDigits, List.length_drop]
    congr 2
    simp only [adjusted, decimalLength]
    omega

/-- The digits of a NaN's payload; none stand for no payload. -/
def payloadDigits (payload : Nat) : List Char := if payload = 0 then [] else Nat.toDigits 10 payload

/-- What follows the sign in the text of a number. -/
def body : Decimal → List Char
  | .infinite _ => ['I', 'n', 'f', 'i', 'n', 'i', 't', 'y']
  | .nan _ signaling payload =>
    (if signaling then ['s', 'N', 'a', 'N'] else ['N', 'a', 'N']) ++ payloadDigits payload
  | .finite _ c e => finiteBody c e

def isNegative : Decimal → Bool
  | .infinite negative | .nan negative _ _ | .finite negative _ _ => negative

theorem toList_text (d : Decimal) : d.text.toList = signChars d.isNegative ++ d.body := by
  cases d with
  | finite negative c e => exact toList_text_finite negative c e
  | infinite negative =>
      rw [text, String.toList_append, toList_sign]
      rfl
  | nan negative signaling payload =>
      rw [text, String.toList_append, String.toList_append, toList_sign, List.append_assoc]
      have hword : (if signaling then "sNaN" else "NaN").toList =
          if signaling then ['s', 'N', 'a', 'N'] else ['N', 'a', 'N'] := by cases signaling <;> rfl
      have hdigits : (if payload = 0 then "" else decimalText payload).toList = payloadDigits payload := by
        rw [payloadDigits]
        split
        · rfl
        · exact toList_decimalText payload
      rw [hword, hdigits]
      rfl

/-- The body of a finite number starts with a digit, and all of it is digits, a point, signs and `E`. -/
theorem finiteBody_head (c : Nat) (e : Int) : ∃ d rest, finiteBody c e = d :: rest ∧ d.isDigit := by
  unfold finiteBody
  by_cases hpositional : e ≤ 0 ∧ -6 ≤ adjusted c e
  · rw [if_pos hpositional]
    obtain ⟨whole, fraction, htext, hwhole, hne, -, -, -⟩ := placePoint_spelled c (-e).toNat
    obtain ⟨d, rest, rfl⟩ := List.exists_cons_of_ne_nil hne
    exact ⟨d, _, htext, hwhole d List.mem_cons_self⟩
  · rw [if_neg hpositional]
    obtain ⟨d, rest, hdigits⟩ := List.exists_cons_of_ne_nil (Nat.toDigits_ne_nil (n := c) (b := 10))
    rw [hdigits]
    exact ⟨d, _, rfl, digits_of_toDigits d (by rw [hdigits]; exact List.mem_cons_self)⟩

theorem isPlain_of_mem_pointed {fraction : List Char} (hfraction : ∀ c ∈ fraction, c.isDigit) :
    ∀ c ∈ pointed fraction, IsPlain c := by
  intro c hc
  cases fraction with
  | nil => cases hc
  | cons d ds =>
      rcases List.mem_cons.mp hc with rfl | hc
      · exact ⟨by decide, by decide⟩
      · exact isPlain_of_isDigit (hfraction c hc)

theorem isPlain_of_mem_intText {n : Int} : ∀ c ∈ (intText n).toList, IsPlain c := by
  intro c hc
  rw [toList_intText] at hc
  rcases List.mem_append.mp hc with hc | hc
  · split at hc
    · obtain rfl := List.mem_singleton.mp hc
      exact ⟨by decide, by decide⟩
    · cases hc
  · exact isPlain_of_isDigit (digits_of_toDigits c hc)

theorem isPlain_of_mem_finiteBody {c : Nat} {e : Int} : ∀ d ∈ finiteBody c e, IsPlain d := by
  intro d hd
  unfold finiteBody at hd
  split at hd
  · obtain ⟨whole, fraction, htext, hwhole, -, hfraction, -, -⟩ := placePoint_spelled c (-e).toNat
    rw [htext, List.append_nil] at hd
    rcases List.mem_append.mp hd with hd | hd
    · exact isPlain_of_isDigit (hwhole d hd)
    · exact isPlain_of_mem_pointed hfraction d hd
  · rcases List.mem_append.mp hd with hd | hd
    · exact isPlain_of_isDigit (digits_of_toDigits d (List.mem_of_mem_take hd))
    · rcases List.mem_append.mp hd with hd | hd
      · exact isPlain_of_mem_pointed (fun b hb => digits_of_toDigits b (List.mem_of_mem_drop hb)) d hd
      · rcases List.mem_cons.mp hd with rfl | hd
        · exact ⟨by decide, by decide⟩
        · rcases List.mem_append.mp hd with hd | hd
          · split at hd
            · cases hd
            · obtain rfl : d = '+' := by simpa using hd
              exact ⟨by decide, by decide⟩
          · exact isPlain_of_mem_intText d hd

theorem isDigit_of_mem_payloadDigits {payload : Nat} : ∀ c ∈ payloadDigits payload, c.isDigit := by
  intro c hc
  rw [payloadDigits] at hc
  split at hc
  · cases hc
  · exact digits_of_toDigits c hc

theorem isPlain_of_mem_text {d : Decimal} : ∀ c ∈ d.text.toList, IsPlain c := by
  intro c hc
  rw [toList_text] at hc
  rcases List.mem_append.mp hc with hc | hc
  · rw [signChars] at hc
    split at hc
    · obtain rfl := List.mem_singleton.mp hc
      exact ⟨by decide, by decide⟩
    · cases hc
  · cases d with
    | finite negative coefficient e => exact isPlain_of_mem_finiteBody c hc
    | infinite negative =>
        have hword : ∀ c ∈ ['I', 'n', 'f', 'i', 'n', 'i', 't', 'y'], IsPlain c := isPlain_of_all (by decide)
        exact hword c hc
    | nan negative signaling payload =>
        rcases List.mem_append.mp hc with hc | hc
        · have hword : ∀ c ∈ (if signaling then ['s', 'N', 'a', 'N'] else ['N', 'a', 'N']), IsPlain c := by
            cases signaling <;> exact isPlain_of_all (by decide)
          exact hword c hc
        · exact isPlain_of_isDigit (isDigit_of_mem_payloadDigits c hc)

theorem toLower_of_isDigit {c : Char} (h : c.isDigit) : c.toLower = c := by
  obtain ⟨-, hhi⟩ := toNat_of_isDigit h
  have hval : ¬ (65 ≤ c.val ∧ c.val ≤ 90) := by
    rintro ⟨hlo, -⟩
    have : 65 ≤ c.toNat := hlo
    omega
  delta Char.toLower
  grind

/-- The digits behind the word of a NaN are read as its payload. -/
theorem digitValues?_payloadDigits (payload : Nat) :
    (digitValues? (payloadDigits payload)).map ofDigitValues = some payload := by
  rw [digitValues?_digits isDigit_of_mem_payloadDigits, Option.map_some, ofDigitValues_map, payloadDigits]
  split
  next h => rw [h, Nat.ofDigitChars_nil]
  · rw [Nat.ofDigitChars_ten_toDigits]

theorem readUnsigned?_body (d : Decimal) : readUnsigned? d.isNegative d.body = some d := by
  unfold readUnsigned?
  cases d with
  | infinite negative =>
      rw [if_pos]
      · rfl
      · right
        decide +revert
  | nan negative signaling payload =>
      have hpayload (kind : Bool) : (digitValues? (payloadDigits payload)).map
          (fun ds => nan negative kind (ofDigitValues ds)) = some (nan negative kind payload) := by
        have := congrArg (Option.map (nan negative kind)) (digitValues?_payloadDigits payload)
        rwa [Option.map_map] at this
      cases signaling with
      | false =>
          have hlower : lowerLetters (nan negative false payload).body =
              'n' :: 'a' :: 'n' :: lowerLetters (payloadDigits payload) := rfl
          rw [hlower, if_neg (by simp), if_pos (by simp)]
          exact hpayload false
      | true =>
          have hlower : lowerLetters (nan negative true payload).body =
              's' :: 'n' :: 'a' :: 'n' :: lowerLetters (payloadDigits payload) := rfl
          rw [hlower, if_neg (by simp), if_neg (by simp), if_pos (by simp)]
          exact hpayload true
  | finite negative c e =>
      obtain ⟨d, rest, hbody, hd⟩ := finiteBody_head c e
      have hlower : lowerLetters (finite negative c e).body = d :: lowerLetters rest := by
        rw [body, hbody, lowerLetters, List.map_cons, toLower_of_isDigit hd]
        rfl
      have hi := ne_of_isDigit hd (d := 'i') (by decide)
      have hn := ne_of_isDigit hd (d := 'n') (by decide)
      have hs := ne_of_isDigit hd (d := 's') (by decide)
      rw [hlower, if_neg (by simp [hi]), if_neg (by simp [hn]), if_neg (by simp [hs])]
      exact readFinite?_finiteBody negative c e

theorem body_head (d : Decimal) : ∀ c ∈ d.body.head?, c ≠ '-' ∧ c ≠ '+' := by
  intro c hc
  cases d with
  | infinite negative =>
      obtain rfl : 'I' = c := by simpa [body] using hc
      decide
  | nan negative signaling payload =>
      cases signaling with
      | false =>
          obtain rfl : 'N' = c := by simpa [body] using hc
          decide
      | true =>
          obtain rfl : 's' = c := by simpa [body] using hc
          decide
  | finite negative coefficient e =>
      obtain ⟨d, rest, hbody, hd⟩ := finiteBody_head coefficient e
      obtain rfl : d = c := by simpa [body, hbody] using hc
      exact ⟨ne_of_isDigit hd (by decide), ne_of_isDigit hd (by decide)⟩

/-- Reading the text of a number within the bounds of the format gives the number back, digit for digit. -/
theorem parse_text {d : Decimal} (h : d.inRange) : parse d.text = .ok d := by
  have hbody : (stripChars d.text.toList).filter (· ≠ '_') = signChars d.isNegative ++ d.body := by
    rw [stripped_plain isPlain_of_mem_text, toList_text]
  unfold parse
  rw [hbody, splitSign_signChars d.isNegative (body_head d)]
  simp only [readUnsigned?_body, h, if_true]

theorem inRange_of_parse {s : String} {d : Decimal} (h : parse s = .ok d) : d.inRange := by
  unfold parse at h
  simp only at h
  split at h
  · cases h
  · split at h
    next hrange => rwa [Except.ok.inj h] at hrange
    · cases h

end ChainAlerts.Decimal
