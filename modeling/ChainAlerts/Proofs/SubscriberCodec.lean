import ChainAlerts.Proofs.AttachmentOrder
import ChainAlerts.Proofs.TokenKeys

/-! What a chat asked for, as a payload and read back. Every part of a record is read back from its written
form, and every part that is read from a document is one that would be: decimal numbers within the bounds of
the format, attachments arranged, tokens that their keys file, and integers short enough for a text. -/

namespace ChainAlerts

theorem MediaKind.ofJson_name (kind : MediaKind) : MediaKind.ofJson (.str kind.name) = .ok kind := by
  cases kind <;> simp [ofJson, all, name, Json.isText]

theorem Media.ofJson_toJson (media : Media) : Media.ofJson media.toJson = .ok media := by
  simp [ofJson, toJson, MediaKind.ofJson_name, Json.text]

theorem Button.ofJson_toJson (button : Button) : Button.ofJson button.toJson = .ok button := by
  simp [ofJson, toJson, Json.text]

theorem Button.rowsOfJson_written (rows : List (List Button)) :
    Button.rowsOfJson (.arr (rows.map fun row => .arr (row.map Button.toJson))) = .ok rows :=
  mapM_map_eq_ok fun _ _ => mapM_map_eq_ok fun button _ => button.ofJson_toJson

theorem Currency.ofJson_name (currency : Currency) : Currency.ofJson (.str currency.name) = .ok currency := by
  cases currency <;> simp [ofJson, name, Json.isText]

namespace MinAmount

/-- An amount whose number is within the bounds of the format. -/
def isProper : MinAmount → Bool
  | .token _ => true
  | .usd value => value.inRange

theorem ofJson_toJson {least : MinAmount} (hproper : least.isProper) (hwritable : least.isWritable) :
    ofJson least.toJson = .ok least := by
  cases least with
  | token raw => simp [ofJson, toJson, Json.fieldOrNull_obj, Json.isText, Json.integer_intText hwritable]
  | usd value => simp [ofJson, toJson, Json.fieldOrNull_obj, Json.isText, Json.decimal_text hproper]

/-- An amount is read from an integer or from a decimal number. -/
theorem read_of_ofJson {v : Json} {least : MinAmount} (h : ofJson v = .ok least) :
    ∃ w, v.field "amount" = .ok w ∧
      ((∃ raw, w.integer = .ok raw ∧ least = .token raw) ∨
        ∃ value, w.decimal = .ok value ∧ least = .usd value) := by
  obtain ⟨kind, -, h⟩ := except_bind_eq_ok.mp h
  split at h
  · obtain ⟨w, hw, h⟩ := except_bind_eq_ok.mp h
    obtain ⟨raw, hraw, h⟩ := except_bind_eq_ok.mp h
    exact ⟨w, hw, Or.inl ⟨raw, hraw, (Except.ok.inj h).symm⟩⟩
  · split at h
    · obtain ⟨w, hw, h⟩ := except_bind_eq_ok.mp h
      obtain ⟨value, hvalue, h⟩ := except_bind_eq_ok.mp h
      exact ⟨w, hw, Or.inr ⟨value, hvalue, (Except.ok.inj h).symm⟩⟩
    · cases h

theorem isProper_of_ofJson {v : Json} {least : MinAmount} (h : ofJson v = .ok least) : least.isProper := by
  obtain ⟨w, -, ⟨raw, -, rfl⟩ | ⟨value, hvalue, rfl⟩⟩ := read_of_ofJson h
  · rfl
  · exact Json.inRange_of_decimal hvalue

theorem isWritable_of_ofJson {v : Json} {least : MinAmount} (hv : v.isDocument) (h : ofJson v = .ok least) :
    least.isWritable := by
  obtain ⟨w, hw, ⟨raw, hraw, rfl⟩ | ⟨value, -, rfl⟩⟩ := read_of_ofJson h
  · exact Json.isWritable_of_integer (Json.isDocument_of_field hv hw) hraw
  · rfl

theorem isProper_of_ofJson? {v : Option Json} {least : MinAmount} (h : ofJson? v = .ok least) :
    least.isProper := by
  cases v with
  | some v => exact isProper_of_ofJson h
  | none =>
      rw [← Except.ok.inj h]
      rfl

end MinAmount

namespace Attachment

theorem ofJson_toJson {a : Attachment} (h : a.threshold.inRange) : ofJson a.toJson = .ok a := by
  simp [ofJson, toJson, Json.decimal_text h, Media.ofJson_toJson]

theorem inRange_of_ofJson {v : Json} {a : Attachment} (h : ofJson v = .ok a) : a.threshold.inRange := by
  obtain ⟨w, -, h⟩ := except_bind_eq_ok.mp h
  obtain ⟨threshold, hthreshold, h⟩ := except_bind_eq_ok.mp h
  obtain ⟨m, -, h⟩ := except_bind_eq_ok.mp h
  obtain ⟨media, -, h⟩ := except_bind_eq_ok.mp h
  obtain rfl := Except.ok.inj h
  exact Json.inRange_of_decimal hthreshold

end Attachment

namespace Component

/-- A component whose numbers are within the bounds of the format. -/
def isProper : Component → Bool
  | .emoji _ usdPerEmoji _ => usdPerEmoji.inRange
  | .whaleAlert threshold => threshold.inRange
  | _ => true

theorem ofJson_toJson {c : Component} (h : c.isProper) : ofJson c.toJson = .ok c := by
  cases c with
  | emoji sign usdPerEmoji maxEmojis =>
      simp [ofJson, toJson, Json.fieldOrNull_obj, Json.decimal_text h, Json.text, Json.integer]
  | whaleAlert threshold => simp [ofJson, toJson, Json.fieldOrNull_obj, Json.decimal_text h]
  | _ => simp [ofJson, toJson, Json.fieldOrNull_obj, plain]

theorem isProper_of_mem_plain : ∀ entry ∈ plain, entry.2.isProper := by
  decide

theorem isProper_of_ofJson {v : Json} {c : Component} (h : ofJson v = .ok c) : c.isProper := by
  obtain ⟨kind, -, h⟩ := except_bind_eq_ok.mp h
  split at h
  · obtain ⟨sign, -, h⟩ := except_bind_eq_ok.mp h
    obtain ⟨w, -, h⟩ := except_bind_eq_ok.mp h
    obtain ⟨usdPerEmoji, husd, h⟩ := except_bind_eq_ok.mp h
    obtain ⟨u, -, h⟩ := except_bind_eq_ok.mp h
    obtain ⟨maxEmojis, -, h⟩ := except_bind_eq_ok.mp h
    obtain rfl := Except.ok.inj h
    exact Json.inRange_of_decimal husd
  · obtain ⟨w, -, h⟩ := except_bind_eq_ok.mp h
    obtain ⟨threshold, hthreshold, h⟩ := except_bind_eq_ok.mp h
    obtain rfl := Except.ok.inj h
    exact Json.inRange_of_decimal hthreshold
  · split at h
    next found hfound =>
      obtain rfl := Except.ok.inj h
      exact isProper_of_mem_plain _ (Assoc.mem_of_get? hfound)
    · cases h
  · cases h
  · cases h
  · cases h

theorem isProper_of_listOfJson {v : Json} {cs : List Component} (h : listOfJson v = .ok cs) :
    ∀ c ∈ cs, c.isProper := by
  obtain ⟨items, -, h⟩ := except_bind_eq_ok.mp h
  intro c hc
  obtain ⟨item, -, hread⟩ := exists_of_mem_mapM h c hc
  exact isProper_of_ofJson hread

theorem isProper_of_listOfJson? {v : Option Json} {cs : List Component} (h : listOfJson? v = .ok cs) :
    ∀ c ∈ cs, c.isProper := by
  cases v with
  | some v => exact isProper_of_listOfJson h
  | none =>
      rw [← Except.ok.inj h]
      decide

end Component

namespace Subscription

/-- Settings as they are made: the numbers in them within the bounds of the format, the attachments
arranged. -/
structure Proper (s : Subscription) : Prop where
  minAmount : s.minAmount.isProper
  thresholds : ∀ a ∈ s.attachments, a.threshold.inRange
  arranged : Attachment.Arranged s.attachments
  components : ∀ c ∈ s.components, c.isProper

theorem arranged_eq_self {s : Subscription} (h : Attachment.Arranged s.attachments) : s.arranged = .ok s := by
  rw [Subscription.arranged, Attachment.ordered_eq_self h]
  rfl

/-- Settings whose attachments were put in order differ in nothing else. -/
theorem of_arranged {s t : Subscription} (h : s.arranged = .ok t) :
    ∃ attachments, Attachment.ordered s.attachments = .ok attachments ∧ t = { s with attachments } := by
  obtain ⟨attachments, hordered, h⟩ := except_bind_eq_ok.mp h
  exact ⟨attachments, hordered, (Except.ok.inj h).symm⟩

/-- Settings are read as they were written, with their attachments put in order. -/
theorem ofJson_toJson_eq_arranged {s : Subscription} (hleast : s.minAmount.isProper)
    (hwritable : s.minAmount.isWritable) (hthresholds : ∀ a ∈ s.attachments, a.threshold.inRange)
    (hproper : ∀ c ∈ s.components, c.isProper) :
    ofJson s.toJson = s.arranged := by
  have hattachments : (s.attachments.map Attachment.toJson).mapM Attachment.ofJson = .ok s.attachments :=
    mapM_map_eq_ok fun a ha => Attachment.ofJson_toJson (hthresholds a ha)
  have hcomponents : (s.components.map Component.toJson).mapM Component.ofJson = .ok s.components :=
    mapM_map_eq_ok fun c hc => Component.ofJson_toJson (hproper c hc)
  have hlinks : (s.links.map Button.toJson).mapM Button.ofJson = .ok s.links :=
    mapM_map_eq_ok fun link _ => link.ofJson_toJson
  rw [ofJson, toJson]
  simp [flag, Json.truth, -List.mapM_map, MinAmount.ofJson?,
    MinAmount.ofJson_toJson hleast hwritable, Json.elements, hattachments,
    Currency.ofJson_name, Component.listOfJson?, Component.listOfJson,
    hcomponents, hlinks, Button.rowsOfJson_written]

theorem ofJson_toJson {s : Subscription} (h : s.Proper) (hwritable : s.minAmount.isWritable) :
    ofJson s.toJson = .ok s := by
  rw [ofJson_toJson_eq_arranged h.minAmount hwritable h.thresholds h.components, arranged_eq_self h.arranged]

/-- What a proper record needs to know of how settings were read. -/
theorem read_of_ofJson {v : Json} {s : Subscription} (h : ofJson v = .ok s) :
    (∃ w, v.field? "min_amount" = .ok w ∧ MinAmount.ofJson? w = .ok s.minAmount) ∧
    (∃ stored items given, v.field? "attachments" = .ok stored ∧ (stored.getD (.arr [])).elements = .ok items ∧
      items.mapM Attachment.ofJson = .ok given ∧ Attachment.ordered given = .ok s.attachments) ∧
    ∃ w, Component.listOfJson? w = .ok s.components := by
  obtain ⟨buys, -, h⟩ := except_bind_eq_ok.mp h
  obtain ⟨sells, -, h⟩ := except_bind_eq_ok.mp h
  obtain ⟨lpAdd, -, h⟩ := except_bind_eq_ok.mp h
  obtain ⟨lpRemove, -, h⟩ := except_bind_eq_ok.mp h
  obtain ⟨storedLeast, hstoredLeast, h⟩ := except_bind_eq_ok.mp h
  obtain ⟨least, hleast, h⟩ := except_bind_eq_ok.mp h
  obtain ⟨stored, hstored, h⟩ := except_bind_eq_ok.mp h
  obtain ⟨items, hitems, h⟩ := except_bind_eq_ok.mp h
  obtain ⟨given, hgiven, h⟩ := except_bind_eq_ok.mp h
  obtain ⟨storedCurrency, -, h⟩ := except_bind_eq_ok.mp h
  obtain ⟨currency, -, h⟩ := except_bind_eq_ok.mp h
  obtain ⟨storedComponents, -, h⟩ := except_bind_eq_ok.mp h
  obtain ⟨components, hcomponents, h⟩ := except_bind_eq_ok.mp h
  obtain ⟨storedLinks, -, h⟩ := except_bind_eq_ok.mp h
  obtain ⟨linkItems, -, h⟩ := except_bind_eq_ok.mp h
  obtain ⟨links, -, h⟩ := except_bind_eq_ok.mp h
  obtain ⟨storedButtons, -, h⟩ := except_bind_eq_ok.mp h
  obtain ⟨buttons, -, h⟩ := except_bind_eq_ok.mp h
  obtain ⟨kept, hkept, rfl⟩ := of_arranged h
  exact ⟨⟨storedLeast, hstoredLeast, hleast⟩, ⟨stored, items, given, hstored, hitems, hgiven, hkept⟩,
    storedComponents, hcomponents⟩

theorem proper_of_ofJson {v : Json} {s : Subscription} (h : ofJson v = .ok s) : s.Proper := by
  obtain ⟨⟨w, -, hleast⟩, ⟨stored, items, given, -, -, hgiven, hordered⟩, u, hcomponents⟩ := read_of_ofJson h
  obtain ⟨hperm, harranged⟩ := Attachment.arranged_of_ordered hordered
  refine ⟨MinAmount.isProper_of_ofJson? hleast, fun a ha => ?_, harranged,
    Component.isProper_of_listOfJson? hcomponents⟩
  obtain ⟨item, -, hread⟩ := exists_of_mem_mapM hgiven a (hperm.mem_iff.mp ha)
  exact Attachment.inRange_of_ofJson hread

theorem isWritable_of_ofJson {v : Json} {s : Subscription} (hv : v.isDocument) (h : ofJson v = .ok s) :
    s.minAmount.isWritable := by
  obtain ⟨⟨w, hw, hleast⟩, -, -⟩ := read_of_ofJson h
  cases w with
  | some m => exact MinAmount.isWritable_of_ofJson (Json.isDocument_of_field? hv hw) hleast
  | none =>
      rw [← Except.ok.inj hleast]
      rfl

end Subscription

namespace Subscriber

/-- A chat's settings as they are made and as they can be stored: no token twice, each filed by its key, the
settings for each proper, and every integer that is written as a text short enough. -/
structure WellFormed (s : Subscriber) : Prop where
  tokens : (Assoc.keys s.tokens).Nodup
  proper : ∀ entry ∈ s.tokens, entry.1.isProper ∧ entry.2.Proper
  writable : s.isWritable

theorem isWritable_iff {s : Subscriber} :
    s.isWritable ↔ ∀ entry ∈ s.tokens, entry.1.isWritable ∧ entry.2.minAmount.isWritable := by
  simp [isWritable]

theorem parse_key_of_mem {s : Subscriber} (h : s.WellFormed) {entry : Token × Subscription}
    (hmem : entry ∈ s.tokens) : Token.parse entry.1.key = .ok entry.1 :=
  Token.parse_key (h.proper entry hmem).1 (isWritable_iff.mp h.writable entry hmem).1

/-- The fields under which the settings are written are the keys of the tokens, no two of them the same. -/
theorem nodup_written {s : Subscriber} (h : s.WellFormed) : (Assoc.keys (s.tokens.map writeEntry)).Nodup := by
  have hkeys : Assoc.keys (s.tokens.map writeEntry) = (Assoc.keys s.tokens).map Token.key := by
    simp [Assoc.keys, writeEntry, Function.comp_def]
  rw [hkeys]
  refine h.tokens.map_on fun t ht u hu heq => ?_
  obtain ⟨entry, hentry, rfl⟩ := List.mem_map.mp ht
  obtain ⟨other, hother, rfl⟩ := List.mem_map.mp hu
  exact Token.key_injective (parse_key_of_mem h hentry) (parse_key_of_mem h hother) heq

theorem readEntry_writeEntry {s : Subscriber} (h : s.WellFormed) {entry : Token × Subscription}
    (hmem : entry ∈ s.tokens) : readEntry (writeEntry entry) = .ok entry := by
  have hsettings := Subscription.ofJson_toJson (h.proper entry hmem).2 (isWritable_iff.mp h.writable entry hmem).2
  rw [readEntry, writeEntry, parse_key_of_mem h hmem, except_ok_bind, hsettings]
  rfl

theorem ofJson_toJson {s : Subscriber} (h : s.WellFormed) : ofJson s.toJson = .ok s := by
  have htokens : (s.tokens.map writeEntry).mapM readEntry = .ok s.tokens :=
    mapM_map_eq_ok fun entry hmem => readEntry_writeEntry h hmem
  rw [ofJson, toJson, Assoc.ofPairs_of_nodup (nodup_written h)]
  simp [Subscription.flag, Json.truth, -List.mapM_map, Json.entries, htokens, Assoc.ofPairs_of_nodup h.tokens]

/-- The tokens of a record are read from different fields, each with its settings. -/
theorem read_of_ofJson {v : Json} {s : Subscriber} (h : ofJson v = .ok s) :
    (Assoc.keys s.tokens).Nodup ∧ ∀ entry ∈ s.tokens, ∃ key settings, (v.isDocument → settings.isDocument) ∧
      Token.parse key = .ok entry.1 ∧ Subscription.ofJson settings = .ok entry.2 := by
  obtain ⟨enabled, -, h⟩ := except_bind_eq_ok.mp h
  obtain ⟨stored, hstored, h⟩ := except_bind_eq_ok.mp h
  obtain ⟨fields, hfields, h⟩ := except_bind_eq_ok.mp h
  obtain ⟨tokens, htokens, h⟩ := except_bind_eq_ok.mp h
  obtain rfl := Except.ok.inj h
  have hdocument : v.isDocument → (stored.getD (.obj [])).isDocument := by
    intro hv
    cases stored with
    | some w => exact Json.isDocument_of_field? hv hstored
    | none => rfl
  refine ⟨Assoc.nodup_keys_ofPairs tokens, fun entry hmem => ?_⟩
  obtain ⟨field, hfield, h⟩ := exists_of_mem_mapM htokens entry (Assoc.mem_of_mem_ofPairs hmem)
  obtain ⟨token, htoken, h⟩ := except_bind_eq_ok.mp h
  obtain ⟨settings, hsettings, h⟩ := except_bind_eq_ok.mp h
  obtain rfl := Except.ok.inj h
  exact ⟨field.1, field.2, fun hv => Json.isDocument_of_entries (hdocument hv) hfields field hfield, htoken, hsettings⟩

/-- A record that was read is well-formed if it can be written. -/
theorem wellFormed_of_isWritable {v : Json} {s : Subscriber} (h : ofJson v = .ok s) (hwritable : s.isWritable) :
    s.WellFormed := by
  obtain ⟨htokens, hread⟩ := read_of_ofJson h
  refine ⟨htokens, fun entry hmem => ?_, hwritable⟩
  obtain ⟨key, settings, -, htoken, hsettings⟩ := hread entry hmem
  exact ⟨Token.isProper_of_parse htoken, Subscription.proper_of_ofJson hsettings⟩

theorem wellFormed_of_ofJson {v : Json} {s : Subscriber} (hv : v.isDocument) (h : ofJson v = .ok s) :
    s.WellFormed := by
  refine wellFormed_of_isWritable h (isWritable_iff.mpr fun entry hmem => ?_)
  obtain ⟨key, settings, hdocument, htoken, hsettings⟩ := (read_of_ofJson h).2 entry hmem
  exact ⟨Token.isWritable_of_parse htoken, Subscription.isWritable_of_ofJson (hdocument hv) hsettings⟩

end Subscriber

end ChainAlerts
