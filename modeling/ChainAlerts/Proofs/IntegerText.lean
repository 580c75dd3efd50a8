import Mathlib.Algebra.Group.Nat.Defs
import ChainAlerts.Number.Integer

/-! Integers in decimal. The digits that a number is written with are read back as that number, so an
integer that is short enough for a text is the one that its text denotes, and different integers have
different texts. An integer that some text denotes is short enough to be written again. -/

namespace ChainAlerts.Text

theorem digit?_of_isDigit {c : Char} (h : c.isDigit) : digit? c = some (c.toNat - 48) := by
  have hrange : '0' ≤ c ∧ c ≤ '9' := by
    simpa [Char.isDigit, Char.le_def] using h
  have hascii : c.toNat < 0x80 := by
    have hle : c.toNat ≤ 57 := hrange.2
    omega
  rw [digit?, if_pos hascii, if_pos hrange]

theorem ofDigitValues_map (cs : List Char) :
    ofDigitValues (cs.map fun c => c.toNat - 48) = Nat.ofDigitChars 10 cs 0 := by
  simp [ofDigitValues, Nat.ofDigitChars, List.foldl_map]

theorem isDigit_of_mem_toDigits {c : Char} {n : Nat} (h : c ∈ Nat.toDigits 10 n) : c.isDigit :=
  Nat.isDigit_of_mem_toDigits (by decide) (by decide) h

@[simp] theorem toList_decimalText (n : Nat) : (decimalText n).toList = Nat.toDigits 10 n := by
  simp [decimalText]

theorem toList_intText (n : Int) :
    (intText n).toList = (if n < 0 then ['-'] else []) ++ Nat.toDigits 10 n.natAbs := by
  cases n with
  | ofNat n => simp [intText]
  | negSucc n => simp [intText, Int.negSucc_lt_zero]

theorem toNat_of_isDigit {c : Char} (h : c.isDigit) : 48 ≤ c.toNat ∧ c.toNat ≤ 57 := by
  have hrange : '0' ≤ c ∧ c ≤ '9' := by
    simpa [Char.isDigit, Char.le_def] using h
  exact hrange

theorem isBlank_of_isDigit {c : Char} (h : c.isDigit) : isBlank c = false := by
  obtain ⟨hlo, hhi⟩ := toNat_of_isDigit h
  simp only [isBlank]
  grind

theorem ne_of_isDigit {c d : Char} (h : c.isDigit) (hd : d.isDigit = false) : c ≠ d := by
  rintro rfl
  rw [h] at hd
  cases hd

theorem toDigits_injective {m n : Nat} (h : Nat.toDigits 10 m = Nat.toDigits 10 n) : m = n := by
  rw [← Nat.ofDigitChars_ten_toDigits (n := m), h, Nat.ofDigitChars_ten_toDigits]

theorem intText_injective {m n : Int} (h : intText m = intText n) : m = n := by
  have hchars := congrArg String.toList h
  rw [toList_intText, toList_intText] at hchars
  -- a minus sign is no digit, so both texts have a sign or neither has
  have hsign : ∀ k l : Nat, '-' :: Nat.toDigits 10 k ≠ Nat.toDigits 10 l := by
    intro k l heq
    have hmem : '-' ∈ Nat.toDigits 10 l := heq ▸ List.mem_cons_self
    exact absurd (isDigit_of_mem_toDigits hmem) (by decide)
  by_cases hm : m < 0 <;> by_cases hn : n < 0
  · rw [if_pos hm, if_pos hn] at hchars
    have habs := toDigits_injective (List.append_cancel_left hchars)
    omega
  · rw [if_pos hm, if_neg hn] at hchars
    exact absurd hchars (hsign _ _)
  · rw [if_neg hm, if_pos hn] at hchars
    exact absurd hchars.symm (hsign _ _)
  · rw [if_neg hm, if_neg hn] at hchars
    have habs := toDigits_injective (List.append_cancel_left hchars)
    omega

theorem mem_intText {c : Char} {n : Int} (h : c ∈ (intText n).toList) : c = '-' ∨ c.isDigit := by
  rw [toList_intText] at h
  rcases List.mem_append.mp h with h | h
  · split at h
    · exact Or.inl (List.mem_singleton.mp h)
    · cases h
  · exact Or.inr (isDigit_of_mem_toDigits h)

end ChainAlerts.Text

namespace ChainAlerts.Integer

open Text

theorem readDigits_digits {cs : List Char} (hcs : ∀ c ∈ cs, c.isDigit) (afterDigit : Bool)
    (h : afterDigit ∨ cs ≠ []) :
    readDigits afterDigit cs = some (cs.map fun c => c.toNat - 48, []) := by
  induction cs generalizing afterDigit with
  | nil =>
      have hafter : afterDigit = true := by simpa using h
      simp [readDigits, hafter]
  | cons c cs ih =>
      have htail := ih (fun d hd => hcs d (List.mem_cons_of_mem c hd)) true (Or.inl rfl)
      simp [readDigits, digit?_of_isDigit (hcs c List.mem_cons_self), htail]

theorem isPadding_of_isDigit {c : Char} (h : c.isDigit) : isPadding c = false := by
  simp [isPadding, isBlank_of_isDigit h]

theorem dropWhile_isPadding_digits {cs : List Char} (hcs : ∀ c ∈ cs, c.isDigit) :
    cs.dropWhile isPadding = cs := by
  cases cs with
  | nil => rfl
  | cons c cs =>
      rw [List.dropWhile_cons, if_neg]
      simp [isPadding_of_isDigit (hcs c List.mem_cons_self)]

theorem length_toDigits_of_isWritable {n : Int} (h : isWritable n) :
    ¬ maxDigits < (Nat.toDigits 10 n.natAbs).length := by
  exact Nat.not_lt.mpr (of_decide_eq_true h)

/-- Reading the text of an integer that can be written gives the integer back. -/
theorem parse_intText {n : Int} (h : isWritable n) : parse (intText n) = .ok n := by
  have hdigits : ∀ c ∈ Nat.toDigits 10 n.natAbs, c.isDigit := fun c hc => isDigit_of_mem_toDigits hc
  have hread := readDigits_digits hdigits false (Or.inr Nat.toDigits_ne_nil)
  have hvalue : ofDigitValues ((Nat.toDigits 10 n.natAbs).map fun c => c.toNat - 48) = n.natAbs := by
    rw [ofDigitValues_map, Nat.ofDigitChars_ten_toDigits]
  unfold parse
  rw [toList_intText]
  by_cases hneg : n < 0
  · have hsign : isPadding '-' = false := by decide
    simp only [if_pos hneg, List.cons_append, List.nil_append, List.dropWhile_cons, hsign, Bool.false_eq_true,
      if_false, hread, List.length_map, if_neg (length_toDigits_of_isWritable h), List.all_nil, if_true, hvalue]
    rw [Int.ofNat_natAbs_of_nonpos (by omega), Int.neg_neg]
  · rw [if_neg hneg, List.nil_append, dropWhile_isPadding_digits hdigits]
    split
    next rest hsplit =>
      -- a digit is no sign, so the whole text is the run of digits
      split at hsplit
      · exact absurd rfl (ne_of_isDigit (hdigits '-' (by simp_all)) (by decide))
      · exact absurd rfl (ne_of_isDigit (hdigits '+' (by simp_all)) (by decide))
      · obtain ⟨rfl, rfl⟩ := Prod.mk.inj hsplit
        simp only [hread, List.length_map, if_neg (length_toDigits_of_isWritable h), List.all_nil, if_true,
          hvalue, Bool.false_eq_true, if_false]
        rw [Int.natAbs_of_nonneg (by omega)]

theorem isWritable_iff {n : Int} : isWritable n ↔ n.natAbs < 10 ^ maxDigits := by
  rw [← Nat.length_toDigits_le_iff (by decide) (by decide)]
  exact decide_eq_true_iff

theorem digit?_lt {c : Char} {d : Nat} (h : digit? c = some d) : d < 10 := by
  unfold digit? at h
  split at h
  · split at h
    next hrange =>
      have hhi : c.toNat ≤ 57 := hrange.2
      obtain rfl := Option.some.inj h
      omega
    · cases h
  · obtain ⟨z, hz, rfl⟩ := Option.map_eq_some_iff.mp h
    have hrange := List.find?_some hz
    simp only [Bool.and_eq_true, decide_eq_true_eq] at hrange
    omega

theorem ofDigitValues_lt {ds : List Nat} (h : ∀ d ∈ ds, d < 10) : ofDigitValues ds < 10 ^ ds.length := by
  have hfold : ∀ (ds : List Nat) (n : Nat), (∀ d ∈ ds, d < 10) →
      ds.foldl (fun n d => 10 * n + d) n < (n + 1) * 10 ^ ds.length := by
    intro ds
    induction ds with
    | nil =>
        intro n _
        simp
    | cons d ds ih =>
        intro n hds
        have hd := hds d List.mem_cons_self
        calc (d :: ds).foldl (fun n d => 10 * n + d) n
            < (10 * n + d + 1) * 10 ^ ds.length := ih _ fun e he => hds e (List.mem_cons_of_mem d he)
          _ ≤ ((n + 1) * 10) * 10 ^ ds.length := Nat.mul_le_mul_right _ (by omega)
          _ = (n + 1) * 10 ^ (d :: ds).length := by rw [List.length_cons, Nat.pow_succ', Nat.mul_assoc]
  simpa [ofDigitValues] using hfold ds 0 h

theorem readDigits_lt {afterDigit : Bool} {cs rest : List Char} {ds : List Nat}
    (h : readDigits afterDigit cs = some (ds, rest)) : ∀ d ∈ ds, d < 10 := by
  induction cs generalizing afterDigit ds rest with
  | nil =>
      rw [readDigits] at h
      split at h
      · obtain ⟨rfl, -⟩ := Prod.mk.inj (Option.some.inj h)
        simp
      · cases h
  | cons c cs ih =>
      rw [readDigits] at h
      split at h
      next d hd =>
        obtain ⟨⟨tail, rest'⟩, htail, heq⟩ := Option.map_eq_some_iff.mp h
        obtain ⟨rfl, -⟩ := Prod.mk.inj heq
        intro e he
        rcases List.mem_cons.mp he with rfl | he
        · exact digit?_lt hd
        · exact ih htail e he
      · split at h
        · cases h
        · split at h
          · exact ih h
          · obtain ⟨rfl, -⟩ := Prod.mk.inj (Option.some.inj h)
            simp

/-- An integer that a text denotes can be written as a text. -/
theorem isWritable_of_parse {s : String} {n : Int} (h : parse s = .ok n) : isWritable n := by
  unfold parse at h
  simp only at h
  split at h
  · cases h
  next ds rest hread =>
    split at h
    · cases h
    next hlength =>
      split at h
      · have hlt := ofDigitValues_lt (readDigits_lt hread)
        have hpow : 10 ^ ds.length ≤ 10 ^ maxDigits := Nat.pow_le_pow_right (by decide) (by omega)
        rw [isWritable_iff]
        have habs : n.natAbs = ofDigitValues ds := by
          rw [← Except.ok.inj h]
          split <;> simp
        omega
      · cases h

end ChainAlerts.Integer
