import ChainAlerts.Json.Parser
import ChainAlerts.Proofs.JsonReading

/-! Values that come out of a text. Whatever text is read as JSON, its integers have no more digits than integers
may have and its floating-point numbers are within the format, at every depth of the value. -/

namespace ChainAlerts.Json

theorem toNat_lt_of_mem_digitRun {cs : List Char} {c : Char} (h : c ∈ digitRun cs) : c.toNat - 48 < 10 := by
  have hdigit := List.all_takeWhile (p := isAsciiDigit) (l := cs)
  have hc := List.all_eq_true.mp hdigit c h
  simp only [isAsciiDigit, Bool.and_eq_true, decide_eq_true_eq] at hc
  have hhi : c.toNat ≤ 57 := hc.2
  omega

/-- An integer of few enough digits is within the bound on integers. -/
theorem isWritable_digitsValue {ds : List Char} (negative : Bool) (hdigits : ∀ c ∈ ds, c.toNat - 48 < 10)
    (hlength : ds.length ≤ Integer.maxDigits) :
    Integer.isWritable (Double.signed negative (digitsValue ds)) := by
  rw [Integer.isWritable_iff, Double.natAbs_signed]
  have hvalue : digitsValue ds < 10 ^ (ds.map fun c => c.toNat - 48).length := by
    refine Integer.ofDigitValues_lt fun d hd => ?_
    obtain ⟨c, hc, rfl⟩ := List.mem_map.mp hd
    exact hdigits c hc
  rw [List.length_map] at hvalue
  exact Nat.lt_of_lt_of_le hvalue (Nat.pow_le_pow_right (by decide) hlength)

theorem toNat_lt_of_mem_wholeDigits {cs : List Char} {c : Char} (h : c ∈ wholeDigits cs) :
    c.toNat - 48 < 10 := by
  unfold wholeDigits at h
  split at h
  · rw [List.mem_singleton.mp h]
    decide
  · exact toNat_lt_of_mem_digitRun h

theorem isDocument_of_numberOf {negative : Bool} {whole fraction : List Char} {exponent : Option Int} {v : Json}
    (hwhole : ∀ c ∈ whole, c.toNat - 48 < 10) (h : numberOf negative whole fraction exponent = .ok v) :
    v.isDocument := by
  unfold numberOf at h
  split at h
  · split at h
    · cases h
    next hlength =>
      obtain rfl := Except.ok.inj h
      exact isWritable_digitsValue negative hwhole (Nat.not_lt.mp hlength)
  · obtain rfl := Except.ok.inj h
    exact Double.isBinary64_ofDecimal _ _ _

theorem isDocument_of_readNumber {cur cur' : Cursor} {v : Json} (h : readNumber cur = .ok (v, cur')) :
    v.isDocument := by
  unfold readNumber at h
  simp only at h
  split at h
  · cases h
  · obtain ⟨number, hnumber, heq⟩ := except_bind_eq_ok.mp h
    obtain ⟨rfl, -⟩ := Prod.mk.inj (Except.ok.inj heq)
    exact isDocument_of_numberOf (fun c hc => toNat_lt_of_mem_wholeDigits hc) hnumber

theorem isDocument_of_readScalar {cur cur' : Cursor} {v : Json} (h : readScalar cur = .ok (v, cur')) :
    v.isDocument := by
  unfold readScalar at h
  split at h
  next word found hfound =>
    obtain ⟨rfl, -⟩ := Prod.mk.inj (Except.ok.inj h)
    have hmem := List.mem_of_find?_eq_some hfound
    have hall : ∀ entry ∈ literals, entry.2.isDocument := by decide
    exact hall _ hmem
  · exact isDocument_of_readNumber h

theorem kind_of_numberOf {negative : Bool} {whole fraction : List Char} {exponent : Option Int} {v : Json}
    (h : numberOf negative whole fraction exponent = .ok v) : v.kind ≠ .obj := by
  unfold numberOf at h
  split at h
  · split at h
    · cases h
    · obtain rfl := Except.ok.inj h
      exact nofun
  · obtain rfl := Except.ok.inj h
    exact nofun

/-- Words and numbers are no objects. -/
theorem kind_of_readScalar {cur cur' : Cursor} {v : Json} (h : readScalar cur = .ok (v, cur')) : v.kind ≠ .obj := by
  unfold readScalar at h
  split at h
  next word found hfound =>
    obtain ⟨rfl, -⟩ := Prod.mk.inj (Except.ok.inj h)
    have hall : ∀ entry ∈ literals, entry.2.kind ≠ .obj := by decide
    exact hall _ (List.mem_of_find?_eq_some hfound)
  · unfold readNumber at h
    simp only at h
    split at h
    · cases h
    · obtain ⟨number, hnumber, heq⟩ := except_bind_eq_ok.mp h
      obtain ⟨rfl, -⟩ := Prod.mk.inj (Except.ok.inj heq)
      exact kind_of_numberOf hnumber

/-- What the three readers of parts of values yield is made of documents. -/
structure ReadsDocuments (fuel : Nat) : Prop where
  value {cur cur' : Cursor} {v : Json} : readValue fuel cur = .ok (v, cur') → v.isDocument
  items {cur cur' : Cursor} {vs : List Json} : readItems fuel cur = .ok (vs, cur') → ∀ v ∈ vs, v.isDocument
  pairs {cur cur' : Cursor} {entries : List (String × Json)} :
    readPairs fuel cur = .ok (entries, cur') → ∀ entry ∈ entries, entry.2.isDocument

variable {fuel : Nat} {cur cur' : Cursor}

theorem ReadsDocuments.value_succ (ih : ReadsDocuments fuel) {v : Json}
    (h : readValue (fuel + 1) cur = .ok (v, cur')) : v.isDocument := by
  rw [readValue.eq_def] at h
  simp only at h
  split at h
  · obtain ⟨⟨s, rest⟩, -, heq⟩ := except_bind_eq_ok.mp h
    obtain ⟨rfl, -⟩ := Prod.mk.inj (Except.ok.inj heq)
    rfl
  · split at h
    · obtain ⟨rfl, -⟩ := Prod.mk.inj (Except.ok.inj h)
      rfl
    · obtain ⟨⟨items, rest⟩, hitems, heq⟩ := except_bind_eq_ok.mp h
      obtain ⟨rfl, -⟩ := Prod.mk.inj (Except.ok.inj heq)
      exact areDocuments_iff.mpr (ih.items hitems)
  · split at h
    · obtain ⟨rfl, -⟩ := Prod.mk.inj (Except.ok.inj h)
      rfl
    · obtain ⟨⟨pairs, rest⟩, hpairs, heq⟩ := except_bind_eq_ok.mp h
      obtain ⟨rfl, -⟩ := Prod.mk.inj (Except.ok.inj heq)
      -- A key that is given twice keeps one of its values, so no value is new.
      exact haveDocuments_iff.mpr fun entry hmem => ih.pairs hpairs entry (Assoc.mem_of_mem_ofPairs hmem)
  · exact isDocument_of_readScalar h

theorem ReadsDocuments.items_succ (ih : ReadsDocuments fuel) {vs : List Json}
    (h : readItems (fuel + 1) cur = .ok (vs, cur')) : ∀ v ∈ vs, v.isDocument := by
  rw [readItems.eq_def] at h
  obtain ⟨⟨item, next⟩, hitem, h⟩ := except_bind_eq_ok.mp h
  have hfirst := ih.value hitem
  simp only at h
  split at h
  · obtain ⟨rfl, -⟩ := Prod.mk.inj (Except.ok.inj h)
    exact List.forall_mem_singleton.mpr hfirst
  · obtain ⟨⟨items, rest⟩, hitems, heq⟩ := except_bind_eq_ok.mp h
    obtain ⟨rfl, -⟩ := Prod.mk.inj (Except.ok.inj heq)
    exact List.forall_mem_cons.mpr ⟨hfirst, ih.items hitems⟩
  · cases h

theorem ReadsDocuments.pairs_succ (ih : ReadsDocuments fuel) {entries : List (String × Json)}
    (h : readPairs (fuel + 1) cur = .ok (entries, cur')) : ∀ entry ∈ entries, entry.2.isDocument := by
  rw [readPairs.eq_def] at h
  simp only at h
  split at h
  · obtain ⟨⟨key, afterKey⟩, -, h⟩ := except_bind_eq_ok.mp h
    simp only at h
    split at h
    · obtain ⟨⟨v, afterValue⟩, hvalue, h⟩ := except_bind_eq_ok.mp h
      have hfirst := ih.value hvalue
      simp only at h
      split at h
      · obtain ⟨rfl, -⟩ := Prod.mk.inj (Except.ok.inj h)
        exact List.forall_mem_singleton.mpr hfirst
      · obtain ⟨⟨pairs, rest⟩, hpairs, heq⟩ := except_bind_eq_ok.mp h
        obtain ⟨rfl, -⟩ := Prod.mk.inj (Except.ok.inj heq)
        exact List.forall_mem_cons.mpr ⟨hfirst, ih.pairs hpairs⟩
      · cases h
    · cases h
  · cases h

theorem readsDocuments (fuel : Nat) : ReadsDocuments fuel := by
  induction fuel with
  | zero =>
      constructor
      · intro cur cur' v h
        cases h
      · intro cur cur' vs h
        cases h
      · intro cur cur' entries h
        cases h
  | succ fuel ih => exact ⟨ih.value_succ, ih.items_succ, ih.pairs_succ⟩

/-- An object's fields are a table, whatever pairs stand in its text. -/
theorem nodup_keys_of_readValue {fields : List (String × Json)} (h : readValue fuel cur = .ok (.obj fields, cur')) :
    (Assoc.keys fields).Nodup := by
  cases fuel with
  | zero => cases h
  | succ fuel =>
      rw [readValue.eq_def] at h
      simp only at h
      split at h
      · obtain ⟨⟨s, rest⟩, -, heq⟩ := except_bind_eq_ok.mp h
        cases (Prod.mk.inj (Except.ok.inj heq)).1
      · split at h
        · cases (Prod.mk.inj (Except.ok.inj h)).1
        · obtain ⟨⟨items, rest⟩, -, heq⟩ := except_bind_eq_ok.mp h
          cases (Prod.mk.inj (Except.ok.inj heq)).1
      · split at h
        · obtain ⟨hfields, -⟩ := Prod.mk.inj (Except.ok.inj h)
          obtain rfl := Json.obj.inj hfields
          exact List.nodup_nil
        · obtain ⟨⟨pairs, rest⟩, -, heq⟩ := except_bind_eq_ok.mp h
          obtain ⟨hfields, -⟩ := Prod.mk.inj (Except.ok.inj heq)
          obtain rfl := Json.obj.inj hfields
          exact Assoc.nodup_keys_ofPairs pairs
      · exact absurd rfl (kind_of_readScalar h)

theorem isDocument_of_parse {text : String} {v : Json} (h : parse text = .ok v) : v.isDocument := by
  unfold parse at h
  simp only at h
  split at h
  · cases h
  · obtain ⟨⟨read, cur⟩, hread, h⟩ := except_bind_eq_ok.mp h
    simp only at h
    split at h
    · obtain rfl := Except.ok.inj h
      exact (readsDocuments _).value hread
    · cases h

theorem isDocument_of_decode {text : String} {v : Json} (h : decode text = .ok v) : v.isDocument := by
  unfold decode at h
  split at h
  next hparse =>
    obtain rfl := Except.ok.inj h
    exact isDocument_of_parse hparse
  · cases h
  · cases h

/-- The keys of an object that is read from a text differ. -/
theorem nodup_keys_of_decode {text : String} {fields : List (String × Json)} (h : decode text = .ok (.obj fields)) :
    (Assoc.keys fields).Nodup := by
  unfold decode at h
  split at h
  next v hparse =>
    obtain rfl := Except.ok.inj h
    unfold parse at hparse
    simp only at hparse
    split at hparse
    · cases hparse
    · obtain ⟨⟨read, cur⟩, hread, hparse⟩ := except_bind_eq_ok.mp hparse
      simp only at hparse
      split at hparse
      · obtain rfl := Except.ok.inj hparse
        exact nodup_keys_of_readValue hread
      · cases hparse
  · cases h
  · cases h

theorem isDocument_of_decodeBytes {items : List Json} {v : Json} (h : decodeBytes items = .ok v) : v.isDocument := by
  obtain ⟨bytes, -, h⟩ := except_bind_eq_ok.mp h
  split at h
  · exact isDocument_of_decode h
  · cases h

end ChainAlerts.Json
