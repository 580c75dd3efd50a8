import ChainAlerts.Proofs.WrittenRecords

/-! Payloads that say the same as a written record. Such a payload may give a number in another form and its fields in
another order, and still every part of it is read as the part that was written. So a record that says the same as a
stored payload is the record that the payload holds, up to the order of its tokens. -/

namespace ChainAlerts

/-- A list each of whose elements is read as something of a kind is read as a list of that kind, and a name that each
element shares with what it is read as is shared by the lists. -/
theorem exists_mapM_of_mem {ε α β γ : Type} {read : α → Except ε β} {kind : List β} {name : β → γ} {name' : α → γ}
    {xs : List α} (h : ∀ x ∈ xs, ∃ y ∈ kind, name y = name' x ∧ read x = .ok y) :
    ∃ ys, xs.mapM read = .ok ys ∧ ys ⊆ kind ∧ ys.map name = xs.map name' := by
  induction xs with
  | nil => exact ⟨[], rfl, List.nil_subset kind, rfl⟩
  | cons x rest ih =>
      obtain ⟨y, hy, hname, hread⟩ := h x List.mem_cons_self
      obtain ⟨ys, hys, hsubset, hnames⟩ := ih fun z hz => h z (List.mem_cons_of_mem x hz)
      refine ⟨y :: ys, ?_, List.cons_subset.mpr ⟨hy, hsubset⟩, ?_⟩
      · rw [List.mapM_cons, hread, hys]
        rfl
      · rw [List.map_cons, List.map_cons, hname, hnames]

namespace Num

/-- A floating-point number that is the same as an integer is finite, and its value is the integer. -/
theorem finite_of_same_float {n : Int} {x : Double} (h : (Num.int n).same (.float x)) :
    ∃ s m e, x = .finite s m e ∧ Double.signed s (m * 2 ^ e.toNat) = n * (2 ^ (-e).toNat : Nat) := by
  simp only [same, lt, Bool.and_eq_true, Bool.not_eq_true'] at h
  obtain ⟨⟨⟨-, hnan⟩, hbelow⟩, habove⟩ := h
  cases x with
  | nan => cases hnan
  | infinite s =>
      cases s with
      | false => cases hbelow
      | true => cases habove
  | finite s m e =>
      refine ⟨s, m, e, rfl, ?_⟩
      simp only [intLtDouble, doubleLtInt, Double.scaleTwo_eq, decide_eq_false_iff_not, Nat.one_mul] at hbelow habove
      omega

end Num

namespace Double

theorem signed_eq_zero_iff {s : Bool} {n : Nat} : signed s n = 0 ↔ n = 0 := by
  cases s <;> simp [signed]

/-- A fraction whose value is an integer has that integer as its whole part. -/
theorem signed_div_eq {s : Bool} {num den : Nat} {n : Int} (hden : 0 < den) (h : signed s num = n * den) :
    signed s (num / den) = n := by
  have habs : num = n.natAbs * den := by
    rw [← natAbs_signed s num, h, Int.natAbs_mul, Int.natAbs_natCast]
  have hquotient : num / den = n.natAbs := by rw [habs, Nat.mul_div_cancel _ hden]
  rw [hquotient]
  cases s with
  | false =>
      have hsign : 0 ≤ n * den := by
        rw [← h]
        exact Int.natCast_nonneg num
      exact Int.natAbs_of_nonneg (Int.nonneg_of_mul_nonneg_left hsign (by omega))
  | true =>
      have hsign : 0 ≤ -n * den := by
        rw [Int.neg_mul, ← h]
        simp [signed]
      have hneg : 0 ≤ -n := Int.nonneg_of_mul_nonneg_left hsign (by omega)
      simp only [signed, if_true]
      omega

end Double

namespace Json

variable {w : Json}

theorem eq_of_alike_str {s : String} (h : (Json.str s).alike w) : w = .str s := by
  cases w with
  | str t => rw [alike_str.mp h]
  | _ => simp [alike, alikePlain, numeric?] at h

/-- A number that says the same as an integer is read as that integer. -/
theorem integer_of_alike {n : Int} (h : (Json.int n).alike w) : w.integer = .ok n := by
  cases w with
  | bool b =>
      simp only [alike, alikePlain, numeric?] at h
      rw [Num.same_int.mp h, integer]
  | int m => rw [alike_int.mp h, integer]
  | float x =>
      simp only [alike, alikePlain, numeric?] at h
      obtain ⟨s, m, e, rfl, hvalue⟩ := Num.finite_of_same_float h
      simp only [integer, truncateDouble, Double.truncate?, Double.scaleTwo_eq, Option.getD_some, Nat.one_mul]
      rw [Double.signed_div_eq (Nat.pow_pos (by decide)) hvalue]
  | _ => simp [alike, alikePlain, numeric?] at h

/-- A value that says the same as yes or no counts as that. -/
theorem truth_of_alike {b : Bool} (h : (Json.bool b).alike w) : w.truth = b := by
  cases w with
  | bool c => rw [truth, alike_bool.mp h]
  | int n =>
      simp only [alike, alikePlain, numeric?] at h
      rw [← Num.same_int.mp h]
      cases b <;> rfl
  | float x =>
      simp only [alike, alikePlain, numeric?] at h
      obtain ⟨s, m, e, rfl, hvalue⟩ := Num.finite_of_same_float h
      have hpower : (2 : Nat) ^ (-e).toNat ≠ 0 := Nat.ne_of_gt (Nat.pow_pos (by decide))
      have hzero : m = 0 ↔ b = false := by
        have hscaled := Double.signed_eq_zero_iff (s := s) (n := m * 2 ^ e.toNat)
        rw [hvalue] at hscaled
        cases b <;> simpa [hpower] using hscaled.symm
      cases b <;> simp_all [truth, Double.isZero]
  | _ => simp [alike, alikePlain, numeric?] at h

/-- A list that says the same as a written one is read element by element as what was written. -/
theorem elements_of_alike {α : Type} {write : α → Json} {read : Json → Except Fault α} {xs : List α}
    (h : (Json.arr (xs.map write)).alike w) (hread : ∀ x ∈ xs, ∀ v, (write x).alike v → read v = .ok x) :
    ∃ items, w.elements = .ok items ∧ items.mapM read = .ok xs := by
  cases w with
  | arr items =>
      refine ⟨items, rfl, ?_⟩
      rw [alike] at h
      induction xs generalizing items with
      | nil =>
          cases items with
          | nil => rfl
          | cons v rest => cases h
      | cons x xs ih =>
          cases items with
          | nil => cases h
          | cons v rest =>
              obtain ⟨hhead, htail⟩ := Bool.and_eq_true_iff.mp h
              have hrest := ih (fun y hy => hread y (List.mem_cons_of_mem x hy)) rest htail
              rw [List.mapM_cons, hread x List.mem_cons_self v hhead, hrest]
              rfl
  | _ => simp [alike, alikePlain, numeric?] at h

/-- Every field of an object is found in an object that says the same, with a value that does. -/
theorem fields_of_alike {fields : List (String × Json)} (h : (Json.obj fields).alike w)
    (hkeys : (Assoc.keys fields).Nodup) :
    ∃ others, w = .obj others ∧ ∀ field ∈ fields, ∃ v, Assoc.get? field.1 others = some v ∧ field.2.alike v := by
  obtain ⟨others, rfl, -, hfields⟩ := keys_of_alike h hkeys
  exact ⟨others, rfl, hfields⟩

end Json

variable {v : Json}

theorem Button.ofJson_of_alike {b : Button} (h : b.toJson.alike v) : ofJson v = .ok b := by
  obtain ⟨others, rfl, hfields⟩ := Json.fields_of_alike h (by simp [Assoc.keys])
  simp only [List.forall_mem_cons] at hfields
  obtain ⟨⟨text, htext, hsame⟩, ⟨url, hurl, hsame'⟩, -⟩ := hfields
  obtain rfl := Json.eq_of_alike_str hsame
  obtain rfl := Json.eq_of_alike_str hsame'
  simp [ofJson, Json.field, htext, hurl, Json.text]

theorem Button.rowsOfJson_of_alike {rows : List (List Button)}
    (h : (Json.arr (rows.map fun row => .arr (row.map Button.toJson))).alike v) : rowsOfJson v = .ok rows := by
  have hrow : ∀ row ∈ rows, ∀ w, (Json.arr (row.map Button.toJson)).alike w →
      (do (← w.elements).mapM ofJson : Except Fault (List Button)) = .ok row := by
    intro row _ w hw
    obtain ⟨items, hitems, hread⟩ := Json.elements_of_alike hw fun b _ _ => Button.ofJson_of_alike
    rw [hitems, except_ok_bind, hread]
  obtain ⟨items, hitems, hread⟩ := Json.elements_of_alike h hrow
  rw [rowsOfJson, hitems, except_ok_bind, hread]

theorem Media.ofJson_of_alike {m : Media} (h : m.toJson.alike v) : ofJson v = .ok m := by
  obtain ⟨others, rfl, hfields⟩ := Json.fields_of_alike h (by simp [Assoc.keys])
  simp only [List.forall_mem_cons] at hfields
  obtain ⟨⟨kind, hkind, hsame⟩, ⟨file, hfile, hsame'⟩, -⟩ := hfields
  obtain rfl := Json.eq_of_alike_str hsame
  obtain rfl := Json.eq_of_alike_str hsame'
  simp [ofJson, Json.field, hkind, hfile, Json.text, MediaKind.ofJson_name]

theorem MinAmount.ofJson_of_alike {least : MinAmount} (hproper : least.isProper) (hwritable : least.isWritable)
    (h : least.toJson.alike v) : ofJson v = .ok least := by
  cases least with
  | token raw =>
      obtain ⟨others, rfl, hfields⟩ := Json.fields_of_alike h (by simp [Assoc.keys])
      simp only [List.forall_mem_cons] at hfields
      obtain ⟨⟨kind, hkind, hsame⟩, ⟨amount, hamount, hsame'⟩, -⟩ := hfields
      obtain rfl := Json.eq_of_alike_str hsame
      obtain rfl := Json.eq_of_alike_str hsame'
      simp [ofJson, Json.fieldOrNull, Json.field, hkind, hamount, Json.isText, Json.integer_intText hwritable]
  | usd value =>
      obtain ⟨others, rfl, hfields⟩ := Json.fields_of_alike h (by simp [Assoc.keys])
      simp only [List.forall_mem_cons] at hfields
      obtain ⟨⟨kind, hkind, hsame⟩, ⟨amount, hamount, hsame'⟩, -⟩ := hfields
      obtain rfl := Json.eq_of_alike_str hsame
      obtain rfl := Json.eq_of_alike_str hsame'
      simp [ofJson, Json.fieldOrNull, Json.field, hkind, hamount, Json.isText, Json.decimal_text hproper]

theorem Attachment.ofJson_of_alike {a : Attachment} (hproper : a.threshold.inRange) (h : a.toJson.alike v) :
    ofJson v = .ok a := by
  obtain ⟨others, rfl, hfields⟩ := Json.fields_of_alike h (by simp [Assoc.keys])
  simp only [List.forall_mem_cons] at hfields
  obtain ⟨⟨threshold, hthreshold, hsame⟩, ⟨media, hmedia, hsame'⟩, -⟩ := hfields
  obtain rfl := Json.eq_of_alike_str hsame
  simp [ofJson, Json.field, hthreshold, hmedia, Json.decimal_text hproper, Media.ofJson_of_alike hsame']

theorem Component.ofJson_of_alike {c : Component} (hproper : c.isProper) (h : c.toJson.alike v) :
    ofJson v = .ok c := by
  cases c with
  | emoji sign usdPerEmoji maxEmojis =>
      obtain ⟨others, rfl, hfields⟩ := Json.fields_of_alike h (by simp [Assoc.keys])
      simp only [List.forall_mem_cons] at hfields
      obtain ⟨⟨kind, hkind, hsame⟩, ⟨drawn, hdrawn, hsame'⟩, ⟨usd, husd, hsame''⟩, ⟨most, hmost, hsame'''⟩, -⟩ :=
        hfields
      obtain rfl := Json.eq_of_alike_str hsame
      obtain rfl := Json.eq_of_alike_str hsame'
      obtain rfl := Json.eq_of_alike_str hsame''
      simp [ofJson, Json.fieldOrNull, Json.field, hkind, hdrawn, husd, hmost, Json.text, Json.decimal_text hproper,
        Json.integer_of_alike hsame''']
  | whaleAlert threshold =>
      obtain ⟨others, rfl, hfields⟩ := Json.fields_of_alike h (by simp [Assoc.keys])
      simp only [List.forall_mem_cons] at hfields
      obtain ⟨⟨kind, hkind, hsame⟩, ⟨usd, husd, hsame'⟩, -⟩ := hfields
      obtain rfl := Json.eq_of_alike_str hsame
      obtain rfl := Json.eq_of_alike_str hsame'
      simp [ofJson, Json.fieldOrNull, Json.field, hkind, husd, Json.decimal_text hproper]
  | _ =>
      obtain ⟨others, rfl, hfields⟩ := Json.fields_of_alike h (by simp [Assoc.keys])
      simp only [List.forall_mem_cons] at hfields
      obtain ⟨⟨kind, hkind, hsame⟩, -⟩ := hfields
      obtain rfl := Json.eq_of_alike_str hsame
      simp [ofJson, Json.fieldOrNull, hkind, plain]

theorem Subscription.ofJson_of_alike {s : Subscription} (hproper : s.Proper) (hwritable : s.minAmount.isWritable)
    (h : s.toJson.alike v) : ofJson v = .ok s := by
  obtain ⟨others, rfl, hfields⟩ := Json.fields_of_alike h (by simp [Assoc.keys])
  simp only [List.forall_mem_cons] at hfields
  obtain ⟨⟨buys, hbuys, hsame₁⟩, ⟨sells, hsells, hsame₂⟩, ⟨lpAdd, hlpAdd, hsame₃⟩, ⟨lpRemove, hlpRemove, hsame₄⟩,
    ⟨least, hleast, hsame₅⟩, ⟨attachments, hattachments, hsame₆⟩, ⟨currency, hcurrency, hsame₇⟩,
    ⟨components, hcomponents, hsame₈⟩, ⟨links, hlinks, hsame₉⟩, ⟨buttons, hbuttons, hsame₁₀⟩, -⟩ := hfields
  obtain ⟨items, hitems, hread⟩ := Json.elements_of_alike hsame₆ fun a ha _ =>
    Attachment.ofJson_of_alike (hproper.thresholds a ha)
  obtain ⟨parts, hparts, hreadParts⟩ := Json.elements_of_alike hsame₈ fun c hc _ =>
    Component.ofJson_of_alike (hproper.components c hc)
  obtain ⟨linkItems, hlinkItems, hreadLinks⟩ := Json.elements_of_alike hsame₉ fun b _ _ => Button.ofJson_of_alike
  have hminAmount := MinAmount.ofJson_of_alike hproper.minAmount hwritable hsame₅
  have hrows := Button.rowsOfJson_of_alike hsame₁₀
  obtain rfl := Json.eq_of_alike_str hsame₇
  have harranged := arranged_eq_self hproper.arranged
  rw [ofJson]
  simp [flag, hbuys, hsells, hlpAdd, hlpRemove, hleast, hattachments, hcurrency, hcomponents, hlinks, hbuttons,
    Json.truth_of_alike hsame₁, Json.truth_of_alike hsame₂, Json.truth_of_alike hsame₃, Json.truth_of_alike hsame₄,
    MinAmount.ofJson?, hminAmount, hitems, hread, Currency.ofJson_name, Component.listOfJson?, Component.listOfJson,
    hparts, hreadParts, hlinkItems, hreadLinks, hrows, harranged]

namespace Subscriber

/-- A payload that says the same as a written record holds that record, up to the order of its tokens. -/
theorem ofJson_of_alike {s : Subscriber} (hs : s.WellFormed) (h : s.toJson.alike v) :
    ∃ r, ofJson v = .ok r ∧ r.enabled = s.enabled ∧ r.tokens.Perm s.tokens := by
  rw [toJson, Assoc.ofPairs_of_nodup (nodup_written hs)] at h
  obtain ⟨others, rfl, hfields⟩ := Json.fields_of_alike h (by simp [Assoc.keys])
  simp only [List.forall_mem_cons] at hfields
  obtain ⟨⟨enabled, henabled, hsame⟩, ⟨tokens, htokens, hsame'⟩, -⟩ := hfields
  obtain ⟨entries, rfl, hkeys, hentries⟩ := Json.keys_of_alike hsame' (nodup_written hs)
  have hnodup : (Assoc.keys entries).Nodup := hkeys.nodup_iff.mp (nodup_written hs)
  -- each stored field is the field of a token, and is read as the token with its settings
  have hread : ∀ field ∈ entries, ∃ entry ∈ s.tokens, entry.1.key = field.1 ∧ readEntry field = .ok entry := by
    intro field hfield
    obtain ⟨written, hwritten, hkey⟩ :=
      List.mem_map.mp (hkeys.mem_iff.mpr (List.mem_map_of_mem (f := Prod.fst) hfield))
    obtain ⟨entry, hentry, rfl⟩ := List.mem_map.mp hwritten
    obtain ⟨value, hvalue, halike⟩ := hentries _ hwritten
    have hsettings : field = ((writeEntry entry).1, value) := by
      rw [hkey] at hvalue ⊢
      exact Prod.ext rfl (Option.some.inj ((Assoc.get?_of_mem hnodup hfield).symm.trans hvalue))
    refine ⟨entry, hentry, hkey, ?_⟩
    have hproper := (hs.proper entry hentry).2
    rw [hsettings, readEntry, writeEntry, parse_key_of_mem hs hentry, except_ok_bind,
      Subscription.ofJson_of_alike hproper (isWritable_iff.mp hs.writable entry hentry).2 halike]
    rfl
  obtain ⟨r, hr, hsubset, hnames⟩ := exists_mapM_of_mem hread
  have hnodupNames : (r.map fun entry => entry.1.key).Nodup := hnames ▸ hnodup
  have hnodupTokens : (Assoc.keys r).Nodup := by
    refine List.Nodup.of_map Token.key ?_
    rwa [Assoc.keys, List.map_map]
  have hlength : r.length = s.tokens.length := by
    calc r.length = entries.length := by simpa using congrArg List.length hnames
      _ = s.tokens.length := by simpa [Assoc.keys] using hkeys.length_eq.symm
  refine ⟨⟨enabled.truth, r⟩, ?_, Json.truth_of_alike hsame, ?_⟩
  · simp [ofJson, Subscription.flag, henabled, htokens, Json.entries, hr, Assoc.ofPairs_of_nodup hnodupTokens]
  · exact (List.subperm_of_subset hnodupNames.of_map hsubset).perm_of_length_le hlength.ge

end Subscriber

end ChainAlerts
