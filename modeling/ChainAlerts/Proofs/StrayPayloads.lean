import ChainAlerts.Proofs.FilterPredicates
import ChainAlerts.Proofs.PayloadIntake

/-! Payloads that hold no record and are not counted as malformed either. A reader that guards against malformed
payloads does not stop at them: their faults pass. They are called stray. A value is stray if it has no fields where
fields are looked for, if its text denotes no decimal number where one is asked for, or if it is an infinity that should
be an integer. A payload is read part by part and the first part that is not read decides, so a record is stray exactly
if that part is. -/

namespace ChainAlerts

/-- Of the elements of a list, the first that is not read is stray. -/
def FirstUnread {α β : Type} (read : α → Except Fault β) (stray : α → Prop) (xs : List α) : Prop :=
  ∃ before x after, xs = before ++ x :: after ∧ (∀ y ∈ before, ∃ b, read y = .ok b) ∧ stray x

namespace Passes

variable {α β : Type} {reading : Except Fault α} {next : α → Except Fault β}

theorem not_malformed {f : Fault} (h : f.isMalformed) : ¬Passes (.error f : Except Fault α) :=
  (FailsWithin.malformed h).not_passes

/-- A reading that is followed by nothing that passes on a fault decides by itself. -/
theorem bind_iff_left (h : ∀ a, ¬Passes (next a)) : Passes (reading >>= next) ↔ Passes reading := by
  rw [passes_bind, or_iff_left]
  rintro ⟨a, -, hpasses⟩
  exact h a hpasses

theorem map_iff (g : α → β) : Passes (do return g (← reading)) ↔ Passes reading :=
  bind_iff_left fun a => not_passes_ok (g a)

/-- A reading that passes on no fault of its own leaves the next one to decide. -/
theorem bind_within_iff (h : FailsWithin [] reading) :
    Passes (reading >>= next) ↔ ∃ a, reading = .ok a ∧ Passes (next a) := by
  rw [passes_bind, or_iff_right h.not_passes]

theorem mapM_iff {read : α → Except Fault β} {stray : α → Prop} (h : ∀ x, Passes (read x) ↔ stray x) (xs : List α) :
    Passes (xs.mapM read) ↔ FirstUnread read stray xs := by
  constructor
  · rintro ⟨f, hread, hpasses⟩
    obtain ⟨before, x, after, hsplit, hbefore, hx⟩ := mapM_eq_error_iff.mp hread
    exact ⟨before, x, after, hsplit, hbefore, (h x).mp ⟨f, hx, hpasses⟩⟩
  · rintro ⟨before, x, after, hsplit, hbefore, hstray⟩
    obtain ⟨f, hx, hpasses⟩ := (h x).mpr hstray
    exact ⟨f, mapM_eq_error_iff.mpr ⟨before, x, after, hsplit, hbefore, hx⟩, hpasses⟩

end Passes

namespace Json

variable {α : Type}

/-- A value without fields. -/
def IsBare (v : Json) : Prop := ∀ fields, v ≠ .obj fields

/-- A value whose text denotes no decimal number. -/
def NotDecimal (v : Json) : Prop := ∀ d, Decimal.parse v.text ≠ .ok d

theorem passes_decimal_iff (v : Json) : Passes v.decimal ↔ v.NotDecimal := by
  rw [decimal, NotDecimal]
  cases Decimal.parse v.text with
  | ok d => exact iff_of_false (not_passes_ok d) fun h => h d rfl
  | error cause => exact iff_of_true ⟨_, rfl, rfl⟩ (by simp)

theorem passes_decimal_bind_iff {v : Json} {next : Decimal → Except Fault α} :
    Passes (v.decimal >>= next) ↔ v.NotDecimal ∨ ∃ d, v.decimal = .ok d ∧ Passes (next d) := by
  rw [passes_bind, passes_decimal_iff]

/-- A field that has to be there only matters if it is. -/
theorem passes_field_bind_iff {key : String} {fields : List (String × Json)} {next : Json → Except Fault α} :
    Passes ((Json.obj fields).field key >>= next) ↔ ∃ w, Assoc.get? key fields = some w ∧ Passes (next w) := by
  rw [Passes.bind_within_iff (failsWithin_field key _), field]
  cases Assoc.get? key fields <;> simp

theorem isText_getD_iff {stored : Option Json} {s : String} :
    (stored.getD .null).isText s ↔ stored = some (.str s) := by
  cases stored with
  | none => simp [isText]
  | some v => cases v <;> simp [isText]

end Json

open Json

/-- An amount that is stray. -/
inductive MinAmount.Stray : Json → Prop where
  | bare {v : Json} (h : v.IsBare) : Stray v
  | token {fields : List (String × Json)} {negative : Bool} (kind : Assoc.get? "type" fields = some (.str "token"))
    (amount : Assoc.get? "amount" fields = some (.float (.infinite negative))) : Stray (.obj fields)
  | usd {fields : List (String × Json)} {w : Json} (kind : Assoc.get? "type" fields = some (.str "usd"))
    (amount : Assoc.get? "amount" fields = some w) (notDecimal : w.NotDecimal) : Stray (.obj fields)

theorem MinAmount.passes_iff (v : Json) : Passes (ofJson v) ↔ Stray v := by
  cases v with
  | obj fields =>
      have htoken : Passes (do return MinAmount.token (← (← (Json.obj fields).field "amount").integer)) ↔
          ∃ w, Assoc.get? "amount" fields = some w ∧ ∃ negative, w = .float (.infinite negative) := by
        simp only [passes_field_bind_iff, Passes.map_iff, Payload.passes_integer]
      have husd : Passes (do return MinAmount.usd (← (← (Json.obj fields).field "amount").decimal)) ↔
          ∃ w, Assoc.get? "amount" fields = some w ∧ w.NotDecimal := by
        simp only [passes_field_bind_iff, Passes.map_iff, passes_decimal_iff]
      rw [ofJson, fieldOrNull_obj, except_ok_bind]
      by_cases hkind : Assoc.get? "type" fields = some (.str "token")
      · rw [if_pos (isText_getD_iff.mpr hkind), htoken]
        constructor
        · rintro ⟨_, hamount, negative, rfl⟩
          exact .token hkind hamount
        · rintro (hbare | ⟨-, hamount⟩ | ⟨hother, -, -⟩)
          · exact absurd rfl (hbare fields)
          · exact ⟨_, hamount, _, rfl⟩
          · simp [hother] at hkind
      · rw [if_neg fun htext => hkind (isText_getD_iff.mp htext)]
        by_cases hkind' : Assoc.get? "type" fields = some (.str "usd")
        · rw [if_pos (isText_getD_iff.mpr hkind'), husd]
          constructor
          · rintro ⟨w, hamount, hw⟩
            exact .usd hkind' hamount hw
          · rintro (hbare | ⟨hother, -⟩ | ⟨-, hamount, hw⟩)
            · exact absurd rfl (hbare fields)
            · exact absurd hother hkind
            · exact ⟨_, hamount, hw⟩
        · rw [if_neg fun htext => hkind' (isText_getD_iff.mp htext)]
          refine iff_of_false (Passes.not_malformed rfl) ?_
          rintro (hbare | ⟨hother, -⟩ | ⟨hother, -, -⟩)
          · exact hbare fields rfl
          · exact hkind hother
          · exact hkind' hother
  | _ => exact iff_of_true ⟨_, rfl, rfl⟩ (.bare (by simp [IsBare]))

/-- An attachment that is stray. -/
def Attachment.Stray (v : Json) : Prop :=
  ∃ fields w, v = .obj fields ∧ Assoc.get? "threshold" fields = some w ∧ w.NotDecimal

theorem Attachment.passes_iff (v : Json) : Passes (ofJson v) ↔ Stray v := by
  cases v with
  | obj fields =>
      have hrest : ∀ threshold, FailsWithin [] (do
          return ({ threshold, media := ← Media.ofJson (← (Json.obj fields).field "media") } : Attachment)) := fun _ =>
        (failsWithin_field "media" _).bind fun media => (failsWithin_media media).bind fun _ => FailsWithin.ok _
      rw [ofJson, passes_field_bind_iff]
      simp only [Passes.bind_iff_left fun threshold => (hrest threshold).not_passes, passes_decimal_iff]
      simp [Stray]
  | _ => exact iff_of_false (Passes.not_malformed rfl) (by simp [Stray])

/-- A component that is stray. -/
inductive Component.Stray : Json → Prop where
  | bare {v : Json} (h : v.IsBare) : Stray v
  | usdPerEmoji {fields : List (String × Json)} {sign w : Json} (kind : Assoc.get? "type" fields = some (.str "emoji"))
    (sign : Assoc.get? "emoji" fields = some sign) (stored : Assoc.get? "usd_per_emoji" fields = some w)
    (notDecimal : w.NotDecimal) : Stray (.obj fields)
  | maxEmojis {fields : List (String × Json)} {sign w : Json} {d : Decimal} {negative : Bool}
    (kind : Assoc.get? "type" fields = some (.str "emoji")) (sign : Assoc.get? "emoji" fields = some sign)
    (stored : Assoc.get? "usd_per_emoji" fields = some w) (decimal : w.decimal = .ok d)
    (most : Assoc.get? "max_emojis" fields = some (.float (.infinite negative))) : Stray (.obj fields)
  | whaleAlert {fields : List (String × Json)} {w : Json} (kind : Assoc.get? "type" fields = some (.str "whale_alert"))
    (stored : Assoc.get? "threshold_usd" fields = some w) (notDecimal : w.NotDecimal) : Stray (.obj fields)

theorem Component.passes_emoji_iff (fields : List (String × Json)) :
    Passes (do
      return Component.emoji (← (Json.obj fields).field "emoji").text
        (← (← (Json.obj fields).field "usd_per_emoji").decimal)
        (← (← (Json.obj fields).field "max_emojis").integer)) ↔
      ∃ sign, Assoc.get? "emoji" fields = some sign ∧ ∃ w, Assoc.get? "usd_per_emoji" fields = some w ∧
        (w.NotDecimal ∨ ∃ d, w.decimal = .ok d ∧ ∃ most, Assoc.get? "max_emojis" fields = some most ∧
          ∃ negative, most = .float (.infinite negative)) := by
  simp only [passes_field_bind_iff, passes_decimal_bind_iff, Passes.map_iff, Payload.passes_integer]

theorem Component.passes_whaleAlert_iff (fields : List (String × Json)) :
    Passes (do return Component.whaleAlert (← (← (Json.obj fields).field "threshold_usd").decimal)) ↔
      ∃ w, Assoc.get? "threshold_usd" fields = some w ∧ w.NotDecimal := by
  simp only [passes_field_bind_iff, Passes.map_iff, passes_decimal_iff]

/-- A component of another kind is not stray. -/
theorem Component.not_stray {fields : List (String × Json)} (hemoji : Assoc.get? "type" fields ≠ some (.str "emoji"))
    (hwhale : Assoc.get? "type" fields ≠ some (.str "whale_alert")) : ¬Stray (.obj fields) := by
  rintro (hbare | ⟨hkind, -⟩ | ⟨hkind, -⟩ | ⟨hkind, -⟩)
  · exact hbare fields rfl
  · exact hemoji hkind
  · exact hemoji hkind
  · exact hwhale hkind

theorem Component.passes_iff (v : Json) : Passes (ofJson v) ↔ Stray v := by
  cases v with
  | obj fields =>
      rw [ofJson, fieldOrNull_obj, except_ok_bind]
      by_cases hemoji : Assoc.get? "type" fields = some (.str "emoji")
      · rw [hemoji]
        refine (passes_emoji_iff fields).trans ⟨?_, ?_⟩
        · rintro ⟨sign, hsign, w, hw, hnot | ⟨d, hd, _, hmost, negative, rfl⟩⟩
          · exact .usdPerEmoji hemoji hsign hw hnot
          · exact .maxEmojis hemoji hsign hw hd hmost
        · rintro (hbare | ⟨-, hsign, hw, hnot⟩ | ⟨-, hsign, hw, hd, hmost⟩ | ⟨hother, -⟩)
          · exact absurd rfl (hbare fields)
          · exact ⟨_, hsign, _, hw, Or.inl hnot⟩
          · exact ⟨_, hsign, _, hw, Or.inr ⟨_, hd, _, hmost, _, rfl⟩⟩
          · simp [hother] at hemoji
      by_cases hwhale : Assoc.get? "type" fields = some (.str "whale_alert")
      · rw [hwhale]
        refine (passes_whaleAlert_iff fields).trans ⟨?_, ?_⟩
        · rintro ⟨w, hw, hnot⟩
          exact .whaleAlert hwhale hw hnot
        · rintro (hbare | ⟨hother, -⟩ | ⟨hother, -⟩ | ⟨-, hw, hnot⟩)
          · exact absurd rfl (hbare fields)
          · exact absurd hother hemoji
          · exact absurd hother hemoji
          · exact ⟨_, hw, hnot⟩
      refine iff_of_false ?_ (not_stray hemoji hwhale)
      cases hkind : (Assoc.get? "type" fields).getD .null with
      | str name =>
          have hname : Assoc.get? "type" fields = some (.str name) := by
            cases hstored : Assoc.get? "type" fields <;> simp_all
          have hne : name ≠ "emoji" ∧ name ≠ "whale_alert" := by
            constructor <;> rintro rfl
            · exact hemoji hname
            · exact hwhale hname
          split
          · simp_all
          · simp_all
          · split
            · exact not_passes_ok _
            · exact Passes.not_malformed rfl
          · exact Passes.not_malformed rfl
          · exact Passes.not_malformed rfl
          · exact Passes.not_malformed rfl
      | _ => exact Passes.not_malformed rfl
  | _ => exact iff_of_true ⟨_, rfl, rfl⟩ (.bare (by simp [IsBare]))

theorem MinAmount.passes_ofJson?_iff (stored : Option Json) :
    Passes (ofJson? stored) ↔ ∃ w, stored = some w ∧ Stray w := by
  cases stored with
  | none => exact iff_of_false (not_passes_ok _) (by simp)
  | some w => exact (passes_iff w).trans (by simp)

theorem Component.passes_listOfJson?_iff (stored : Option Json) :
    Passes (listOfJson? stored) ↔
      ∃ w, stored = some w ∧ ∃ parts, w.elements = .ok parts ∧ FirstUnread ofJson Stray parts := by
  cases stored with
  | none => exact iff_of_false (not_passes_ok _) (by simp)
  | some w =>
      rw [listOfJson?, listOfJson, Passes.bind_within_iff (failsWithin_elements w)]
      simp only [Passes.mapM_iff passes_iff, Option.some.injEq, exists_eq_left']

/-- Attachments can be put in order unless there are several and the threshold of one is no number. -/
theorem Subscription.passes_arranged_iff (s : Subscription) :
    Passes (arranged s) ↔ 2 ≤ s.attachments.length ∧ ∃ a ∈ s.attachments, a.threshold.isNan := by
  rw [arranged, Passes.map_iff, Attachment.ordered]
  split
  next h =>
    rw [Bool.and_eq_true, decide_eq_true_eq, List.any_eq_true] at h
    exact iff_of_true ⟨_, rfl, rfl⟩ h
  next h =>
    rw [Bool.and_eq_true, decide_eq_true_eq, List.any_eq_true] at h
    exact iff_of_false (not_passes_ok _) h

namespace Subscription

theorem flag_obj (key : String) (default : Bool) (fields : List (String × Json)) :
    flag key default (.obj fields) = .ok ((Assoc.get? key fields).getD (.bool default)).truth := rfl

/-- The elements of a list of the settings, which may not be given. -/
def listed (key : String) (fields : List (String × Json)) : Except Fault (List Json) :=
  ((Assoc.get? key fields).getD (.arr [])).elements

/-- The parts of the settings before the components, as they are read. -/
structure Opening (fields : List (String × Json)) (attachments : List Attachment) : Prop where
  minAmount : ∃ least, MinAmount.ofJson? (Assoc.get? "min_amount" fields) = .ok least
  attachments : ∃ items, listed "attachments" fields = .ok items ∧ items.mapM Attachment.ofJson = .ok attachments
  currency : ∃ currency, Currency.ofJson ((Assoc.get? "attachment_currency" fields).getD (.str "usd")) = .ok currency

/-- The parts of the settings from the components on, as they are read. -/
structure Closing (fields : List (String × Json)) : Prop where
  components : ∃ components, Component.listOfJson? (Assoc.get? "components" fields) = .ok components
  links : ∃ items links, listed "links" fields = .ok items ∧ items.mapM Button.ofJson = .ok links
  buttons : ∃ buttons, Button.rowsOfJson ((Assoc.get? "buttons" fields).getD (.arr [])) = .ok buttons

/-- Settings that are stray. -/
inductive Stray : Json → Prop where
  | bare {v : Json} (h : v.IsBare) : Stray v
  | minAmount {fields : List (String × Json)} {w : Json} (stored : Assoc.get? "min_amount" fields = some w)
    (stray : MinAmount.Stray w) : Stray (.obj fields)
  | attachment {fields : List (String × Json)} {least : MinAmount} {items : List Json}
    (least : MinAmount.ofJson? (Assoc.get? "min_amount" fields) = .ok least)
    (stored : listed "attachments" fields = .ok items)
    (stray : FirstUnread Attachment.ofJson Attachment.Stray items) : Stray (.obj fields)
  | component {fields : List (String × Json)} {attachments : List Attachment} {w : Json} {parts : List Json}
    (opening : Opening fields attachments) (stored : Assoc.get? "components" fields = some w)
    (elements : w.elements = .ok parts) (stray : FirstUnread Component.ofJson Component.Stray parts) :
    Stray (.obj fields)
  | unordered {fields : List (String × Json)} {attachments : List Attachment} (opening : Opening fields attachments)
    (closing : Closing fields) (several : 2 ≤ attachments.length) (nan : ∃ a ∈ attachments, a.threshold.isNan) :
    Stray (.obj fields)

/-- The settings are read part by part, and a fault passes from the first part that is not read. -/
theorem passes_obj_iff (fields : List (String × Json)) :
    Passes (ofJson (.obj fields)) ↔
      Passes (MinAmount.ofJson? (Assoc.get? "min_amount" fields)) ∨
        ∃ least, MinAmount.ofJson? (Assoc.get? "min_amount" fields) = .ok least ∧
        ∃ items, listed "attachments" fields = .ok items ∧ (Passes (items.mapM Attachment.ofJson) ∨
        ∃ attachments, items.mapM Attachment.ofJson = .ok attachments ∧
        ∃ currency, Currency.ofJson ((Assoc.get? "attachment_currency" fields).getD (.str "usd")) = .ok currency ∧
          (Passes (Component.listOfJson? (Assoc.get? "components" fields)) ∨
        ∃ components, Component.listOfJson? (Assoc.get? "components" fields) = .ok components ∧
        ∃ others, listed "links" fields = .ok others ∧ ∃ links, others.mapM Button.ofJson = .ok links ∧
        ∃ buttons, Button.rowsOfJson ((Assoc.get? "buttons" fields).getD (.arr [])) = .ok buttons ∧
          2 ≤ attachments.length ∧ ∃ a ∈ attachments, a.threshold.isNan)) := by
  simp only [ofJson, flag_obj, field?_obj, except_ok_bind]
  refine passes_bind.trans (or_congr_right (exists_congr fun least => and_congr_right fun _ => ?_))
  refine (Passes.bind_within_iff (failsWithin_elements _)).trans
    (exists_congr fun items => and_congr_right fun _ => ?_)
  refine passes_bind.trans (or_congr_right (exists_congr fun attachments => and_congr_right fun _ => ?_))
  refine (Passes.bind_within_iff (failsWithin_currency _)).trans
    (exists_congr fun currency => and_congr_right fun _ => ?_)
  refine passes_bind.trans (or_congr_right (exists_congr fun components => and_congr_right fun _ => ?_))
  refine (Passes.bind_within_iff (failsWithin_elements _)).trans
    (exists_congr fun others => and_congr_right fun _ => ?_)
  refine (Passes.bind_within_iff (FailsWithin.mapM failsWithin_button _)).trans
    (exists_congr fun links => and_congr_right fun _ => ?_)
  refine (Passes.bind_within_iff (failsWithin_buttonRows _)).trans
    (exists_congr fun buttons => and_congr_right fun _ => ?_)
  exact passes_arranged_iff _

theorem passes_iff (v : Json) : Passes (ofJson v) ↔ Stray v := by
  cases v with
  | obj fields =>
      rw [passes_obj_iff, MinAmount.passes_ofJson?_iff, Component.passes_listOfJson?_iff]
      simp only [Passes.mapM_iff Attachment.passes_iff]
      constructor
      · rintro (⟨w, hw, hstray⟩ | ⟨least, hleast, items, hitems, hrest⟩)
        · exact .minAmount hw hstray
        rcases hrest with hstray | ⟨attachments, hattachments, currency, hcurrency, hrest⟩
        · exact .attachment hleast hitems hstray
        have hopening : Opening fields attachments := ⟨⟨_, hleast⟩, ⟨_, hitems, hattachments⟩, ⟨_, hcurrency⟩⟩
        rcases hrest with ⟨w, hw, parts, hparts, hstray⟩ |
          ⟨components, hcomponents, others, hothers, links, hlinks, hrest⟩
        · exact .component hopening hw hparts hstray
        obtain ⟨buttons, hbuttons, hseveral, hnan⟩ := hrest
        exact .unordered hopening ⟨⟨_, hcomponents⟩, ⟨_, _, hothers, hlinks⟩, ⟨_, hbuttons⟩⟩ hseveral hnan
      · rintro (hbare | ⟨hw, hstray⟩ | ⟨hleast, hitems, hstray⟩ | ⟨hopening, hw, hparts, hstray⟩ |
          ⟨hopening, hclosing, hseveral, hnan⟩)
        · exact absurd rfl (hbare fields)
        · exact Or.inl ⟨_, hw, hstray⟩
        · exact Or.inr ⟨_, hleast, _, hitems, Or.inl hstray⟩
        · obtain ⟨⟨_, hleast⟩, ⟨_, hitems, hattachments⟩, ⟨_, hcurrency⟩⟩ := hopening
          exact Or.inr ⟨_, hleast, _, hitems, Or.inr ⟨_, hattachments, _, hcurrency,
            Or.inl ⟨_, hw, _, hparts, hstray⟩⟩⟩
        · obtain ⟨⟨_, hleast⟩, ⟨_, hitems, hattachments⟩, ⟨_, hcurrency⟩⟩ := hopening
          obtain ⟨⟨_, hcomponents⟩, ⟨_, _, hothers, hlinks⟩, ⟨_, hbuttons⟩⟩ := hclosing
          exact Or.inr ⟨_, hleast, _, hitems, Or.inr ⟨_, hattachments, _, hcurrency,
            Or.inr ⟨_, hcomponents, _, hothers, _, hlinks, _, hbuttons, hseveral, hnan⟩⟩⟩
  | _ => exact iff_of_true ⟨_, rfl, rfl⟩ (.bare (by simp [IsBare]))

end Subscription

namespace Subscriber

/-- A record of followed tokens that is stray. -/
inductive Stray : Json → Prop where
  | bare {v : Json} (h : v.IsBare) : Stray v
  | tokens {fields : List (String × Json)} {w : Json} (stored : Assoc.get? "tokens" fields = some w) (h : w.IsBare) :
    Stray (.obj fields)
  | settings {fields entries : List (String × Json)} (stored : Assoc.get? "tokens" fields = some (.obj entries))
    (stray : FirstUnread readEntry (fun entry =>
      (∃ token, Token.parse entry.1 = .ok token) ∧ Subscription.Stray entry.2) entries) : Stray (.obj fields)

theorem passes_readEntry_iff (entry : String × Json) :
    Passes (readEntry entry) ↔ (∃ token, Token.parse entry.1 = .ok token) ∧ Subscription.Stray entry.2 := by
  rw [readEntry, Passes.bind_within_iff (failsWithin_token _)]
  simp only [Passes.map_iff, Subscription.passes_iff, exists_and_right]

theorem passes_iff (v : Json) : Passes (ofJson v) ↔ Stray v := by
  cases v with
  | obj fields =>
      have hentries : ∀ entries, Passes (do
          return ({ enabled := ((Assoc.get? "enabled" fields).getD (.bool true)).truth
                    tokens := Assoc.ofPairs (← entries.mapM readEntry) } : Subscriber)) ↔
          FirstUnread readEntry (fun entry => (∃ token, Token.parse entry.1 = .ok token) ∧ Subscription.Stray entry.2)
            entries := fun entries => (Passes.map_iff _).trans (Passes.mapM_iff passes_readEntry_iff entries)
      simp only [ofJson, Subscription.flag_obj, field?_obj, except_ok_bind]
      cases hstored : Assoc.get? "tokens" fields with
      | none =>
          refine ((hentries []).trans (by simp [FirstUnread])).trans (iff_of_false id ?_)
          rintro (hbare | ⟨hother, -⟩ | ⟨hother, -⟩)
          · exact hbare fields rfl
          · simp [hstored] at hother
          · simp [hstored] at hother
      | some w =>
          cases w with
          | obj entries =>
              refine (hentries entries).trans ⟨.settings hstored, ?_⟩
              rintro (hbare | ⟨hother, hbare⟩ | ⟨hsame, hstray⟩)
              · exact absurd rfl (hbare fields)
              · rw [hstored] at hother
                exact absurd (Option.some.inj hother).symm (hbare entries)
              · rw [hstored] at hsame
                obtain rfl := Json.obj.inj (Option.some.inj hsame)
                exact hstray
          | _ => exact iff_of_true ⟨_, rfl, rfl⟩ (.tokens hstored (by simp [IsBare]))
  | _ => exact iff_of_true ⟨_, rfl, rfl⟩ (.bare (by simp [IsBare]))

end Subscriber

/-- A filter on lines is stray if it has no fields. -/
theorem TextFilter.passes_iff (v : Json) : Passes (ofJson v) ↔ v.IsBare := by
  cases v with
  | obj fields =>
      refine iff_of_false ?_ fun hbare => hbare fields rfl
      simp only [ofJson, fieldOrNull_obj, except_ok_bind, passes_field_bind_iff]
      rintro ⟨account, -, hpasses⟩
      exact not_passes_ok _ hpasses
  | _ => exact iff_of_true ⟨_, rfl, rfl⟩ (by simp [IsBare])

namespace StructuredFilter

open LogFilter

variable {versions : VersionScheme}

/-- A filter on events is stray if it has no fields, or asks for a version with something else than a text. -/
inductive Stray : Json → Prop where
  | bare {v : Json} (h : v.IsBare) : Stray v
  | version {fields : List (String × Json)} {wanted : Json} (stored : Assoc.get? "version" fields = some wanted)
    (notText : ¬IsPredicate wanted) : Stray (.obj fields)

theorem passes_readRequirement_iff (v : Json) : Passes (readRequirement v versions) ↔ ¬IsPredicate v := by
  cases v with
  | null => exact iff_of_false (not_passes_ok _) (by simp [IsPredicate])
  | str s =>
      have hwithin : FailsWithin [] (readRequirement (.str s) versions) := (failsWithin_requirement versions s).map some
      exact iff_of_false hwithin.not_passes (by simp [IsPredicate])
  | _ => exact iff_of_true ⟨_, rfl, rfl⟩ (by simp [IsPredicate])

theorem passes_iff (v : Json) : Passes (ofJson v versions) ↔ Stray v := by
  cases v with
  | obj fields =>
      simp only [ofJson, fieldOrNull_obj, except_ok_bind]
      rw [Passes.map_iff, passes_readRequirement_iff]
      constructor
      · intro hnot
        cases hstored : Assoc.get? "version" fields with
        | none =>
            rw [hstored] at hnot
            exact absurd (Or.inl rfl) hnot
        | some wanted =>
            rw [hstored] at hnot
            exact .version hstored hnot
      · rintro (hbare | ⟨hstored, hnot⟩)
        · exact absurd rfl (hbare fields)
        · rw [hstored]
          exact hnot
  | _ => exact iff_of_true ⟨_, rfl, rfl⟩ (.bare (by simp [IsBare]))

end StructuredFilter

namespace LogKind

variable {log filter : Type} {kind : LogKind log filter} {stray : Json → Prop}

/-- A list of filters that is stray: it has no fields, or the first of its elements that is no filter is stray. -/
inductive StrayList (kind : LogKind log filter) (stray : Json → Prop) : Json → Prop where
  | bare {v : Json} (h : v.IsBare) : StrayList kind stray v
  | element {fields : List (String × Json)} {items : List Json}
    (stored : ((Assoc.get? "filters" fields).getD (.arr [])).elements = .ok items)
    (unread : FirstUnread kind.read stray items) : StrayList kind stray (.obj fields)

theorem passes_readFilters_iff (h : ∀ v, Passes (kind.read v) ↔ stray v) (v : Json) :
    Passes (kind.readFilters v) ↔ kind.StrayList stray v := by
  cases v with
  | obj fields =>
      rw [readFilters, field?_obj, except_ok_bind, Passes.bind_within_iff (failsWithin_elements _)]
      simp only [Passes.mapM_iff h]
      constructor
      · rintro ⟨items, hstored, hstray⟩
        exact .element hstored hstray
      · rintro (hbare | ⟨hstored, hstray⟩)
        · exact absurd rfl (hbare fields)
        · exact ⟨_, hstored, hstray⟩
  | _ => exact iff_of_true ⟨_, rfl, rfl⟩ (.bare (by simp [IsBare]))

end LogKind

end ChainAlerts
