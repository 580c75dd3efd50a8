import ChainAlerts.Proofs.Followers
import ChainAlerts.Proofs.Listings

/-! Rows that hold no record. A store reports what marks a payload as malformed as an error of its own, with the row it
concerns; any other fault of a payload passes through it as it is. The main statement says for each kind of record
which faults can pass, and that they do. -/

namespace ChainAlerts

/-- A reading that fails only because its value is malformed, or with a fault of some classes. -/
def FailsWithin {α : Type} (classes : List FaultClass) (reading : Except Fault α) : Prop :=
  ∀ f, reading = .error f → f.isMalformed ∨ f.faultClass ∈ classes

namespace FailsWithin

variable {α β : Type} {classes : List FaultClass}

theorem ok (a : α) : FailsWithin classes (.ok a) := nofun

theorem malformed {f : Fault} (h : f.isMalformed) : FailsWithin classes (.error f : Except Fault α) := by
  intro cause hcause
  obtain rfl := Except.error.inj hcause
  exact Or.inl h

theorem passing {f : Fault} (h : f.faultClass ∈ classes) : FailsWithin classes (.error f : Except Fault α) := by
  intro cause hcause
  obtain rfl := Except.error.inj hcause
  exact Or.inr h

theorem bind {reading : Except Fault α} {next : α → Except Fault β} (h : FailsWithin classes reading)
    (hnext : ∀ a, FailsWithin classes (next a)) : FailsWithin classes (reading >>= next) := by
  intro cause hcause
  cases reading with
  | ok a => exact hnext a cause hcause
  | error f => exact h cause (congrArg Except.error (Except.error.inj hcause))

theorem map {reading : Except Fault α} (f : α → β) (h : FailsWithin classes reading) :
    FailsWithin classes (f <$> reading) := by
  intro cause hcause
  cases reading with
  | ok a => cases hcause
  | error f => exact h cause (congrArg Except.error (Except.error.inj hcause))

theorem mapM {read : α → Except Fault β} (h : ∀ x, FailsWithin classes (read x)) (xs : List α) :
    FailsWithin classes (xs.mapM read) := by
  intro cause hcause
  obtain ⟨-, x, -, -, -, hx⟩ := mapM_eq_error_iff.mp hcause
  exact h x cause hx

end FailsWithin

/-! A field that must be there, the elements of a value, a choice and a key are malformed at worst. A field that may be
absent can be asked of a value that has none, which is not counted as malformed, and a number can be out of bounds. -/

section

variable {classes : List FaultClass}

open FailsWithin

theorem failsWithin_field (key : String) (v : Json) : FailsWithin classes (v.field key) := by
  rw [Json.field.eq_def]
  split
  · split
    · exact ok _
    · exact malformed rfl
  · exact malformed rfl

theorem failsWithin_elements (v : Json) : FailsWithin classes v.elements := by
  cases v <;> first | exact ok _ | exact malformed rfl

theorem failsWithin_readInteger (s : String) : FailsWithin classes (Json.readInteger s) := by
  rw [Json.readInteger]
  cases Integer.parse s with
  | ok n => exact ok n
  | error cause => exact malformed rfl

theorem failsWithin_currency (v : Json) : FailsWithin classes (Currency.ofJson v) := by
  rw [Currency.ofJson]
  split
  · exact ok _
  · exact malformed rfl

theorem failsWithin_token (key : String) : FailsWithin classes (Token.parse key) := by
  rw [Token.parse]
  split
  · exact malformed rfl
  · split
    · exact (failsWithin_readInteger _).map _
    · exact ok _

theorem failsWithin_mediaKind (v : Json) : FailsWithin classes (MediaKind.ofJson v) := by
  rw [MediaKind.ofJson]
  split
  · exact ok _
  · exact malformed rfl

theorem failsWithin_media (v : Json) : FailsWithin classes (Media.ofJson v) :=
  (failsWithin_field "kind" v).bind fun kind => (failsWithin_mediaKind kind).bind fun _ =>
    (failsWithin_field "file" v).bind fun _ => ok _

theorem failsWithin_button (v : Json) : FailsWithin classes (Button.ofJson v) :=
  (failsWithin_field "text" v).bind fun _ => (failsWithin_field "url" v).bind fun _ => ok _

theorem failsWithin_buttonRows (v : Json) : FailsWithin classes (Button.rowsOfJson v) :=
  (failsWithin_elements v).bind <| FailsWithin.mapM fun row =>
    (failsWithin_elements row).bind <| FailsWithin.mapM failsWithin_button

theorem failsWithin_requirement (versions : VersionScheme) (s : String) :
    FailsWithin classes (Requirement.parse s versions) := by
  rw [Requirement.parse]
  split
  · exact malformed rfl
  · refine FailsWithin.bind (fun f hf => Or.inl ?_) fun _ => ok _
    rw [Fault.isMalformed, versions.isBadValue_of_specifiers hf]
    rfl

variable (hlacks : FaultClass.lacksOperation ∈ classes)

include hlacks

theorem failsWithin_field? (key : String) (v : Json) : FailsWithin classes (v.field? key) := by
  cases v <;> first | exact ok _ | exact passing hlacks

theorem failsWithin_fieldOrNull (key : String) (v : Json) : FailsWithin classes (v.fieldOrNull key) :=
  (failsWithin_field? hlacks key v).bind fun _ => ok _

theorem failsWithin_entries (v : Json) : FailsWithin classes v.entries := by
  cases v <;> first | exact ok _ | exact passing hlacks

theorem failsWithin_flag (key : String) (default : Bool) (v : Json) :
    FailsWithin classes (Subscription.flag key default v) :=
  (failsWithin_field? hlacks key v).bind fun _ => ok _

end

namespace Subscriber

open FailsWithin

/-- The classes of the faults that can pass when a record of followed tokens is read. -/
def passing : List FaultClass := [.lacksOperation, .decimalInvalid, .tooLarge]

theorem failsWithin_integer (v : Json) : FailsWithin passing v.integer := by
  rw [Json.integer.eq_def]
  split
  · exact ok _
  · exact ok _
  · rw [Json.truncateDouble.eq_def]
    split
    · exact ok _
    · exact FailsWithin.passing (by decide)
    · exact malformed rfl
  · exact failsWithin_readInteger _
  · exact malformed rfl

theorem failsWithin_decimal (v : Json) : FailsWithin passing v.decimal := by
  rw [Json.decimal]
  cases Decimal.parse v.text with
  | ok d => exact ok d
  | error cause => exact FailsWithin.passing (show FaultClass.decimalInvalid ∈ passing by decide)

theorem failsWithin_minAmount (v : Json) : FailsWithin passing (MinAmount.ofJson v) := by
  refine (failsWithin_fieldOrNull (by decide) "type" v).bind fun kind => ?_
  split
  · exact (failsWithin_field "amount" v).bind fun w => (failsWithin_integer w).bind fun _ => ok _
  · split
    · exact (failsWithin_field "amount" v).bind fun w => (failsWithin_decimal w).bind fun _ => ok _
    · exact malformed rfl

theorem failsWithin_minAmount? (v : Option Json) : FailsWithin passing (MinAmount.ofJson? v) := by
  cases v with
  | none => exact ok _
  | some v => exact failsWithin_minAmount v

theorem failsWithin_attachment (v : Json) : FailsWithin passing (Attachment.ofJson v) :=
  (failsWithin_field "threshold" v).bind fun threshold => (failsWithin_decimal threshold).bind fun _ =>
    (failsWithin_field "media" v).bind fun media => (failsWithin_media media).bind fun _ => ok _

theorem failsWithin_ordered (attachments : List Attachment) : FailsWithin passing (Attachment.ordered attachments) := by
  rw [Attachment.ordered]
  split
  · exact FailsWithin.passing (by decide)
  · exact ok _

theorem failsWithin_component (v : Json) : FailsWithin passing (Component.ofJson v) := by
  refine (failsWithin_fieldOrNull (by decide) "type" v).bind fun kind => ?_
  split
  · exact (failsWithin_field "emoji" v).bind fun _ => (failsWithin_field "usd_per_emoji" v).bind fun usd =>
      (failsWithin_decimal usd).bind fun _ => (failsWithin_field "max_emojis" v).bind fun most =>
        (failsWithin_integer most).bind fun _ => ok _
  · exact (failsWithin_field "threshold_usd" v).bind fun threshold => (failsWithin_decimal threshold).bind fun _ => ok _
  · split
    · exact ok _
    · exact malformed rfl
  · exact malformed rfl
  · exact malformed rfl
  · exact malformed rfl

theorem failsWithin_components? (v : Option Json) : FailsWithin passing (Component.listOfJson? v) := by
  cases v with
  | none => exact ok _
  | some v => exact (failsWithin_elements v).bind (FailsWithin.mapM failsWithin_component)

theorem failsWithin_subscription (v : Json) : FailsWithin passing (Subscription.ofJson v) := by
  have hlacks : FaultClass.lacksOperation ∈ passing := by decide
  have hfield? : ∀ key, FailsWithin passing (v.field? key) := fun key => failsWithin_field? hlacks key v
  have hflag : ∀ key default, FailsWithin passing (Subscription.flag key default v) :=
    fun key default => failsWithin_flag hlacks key default v
  refine (hflag "buys" true).bind fun _ => (hflag "sells" false).bind fun _ => ?_
  refine (hflag "lp_add" false).bind fun _ => (hflag "lp_remove" false).bind fun _ => ?_
  refine (hfield? "min_amount").bind fun least => (failsWithin_minAmount? least).bind fun _ => ?_
  refine (hfield? "attachments").bind fun stored => (failsWithin_elements _).bind fun _ => ?_
  refine (FailsWithin.mapM failsWithin_attachment _).bind fun _ => ?_
  refine (hfield? "attachment_currency").bind fun _ => (failsWithin_currency _).bind fun _ => ?_
  refine (hfield? "components").bind fun parts => (failsWithin_components? parts).bind fun _ => ?_
  refine (hfield? "links").bind fun _ => (failsWithin_elements _).bind fun _ => ?_
  refine (FailsWithin.mapM failsWithin_button _).bind fun _ => ?_
  refine (hfield? "buttons").bind fun _ => (failsWithin_buttonRows _).bind fun _ => ?_
  exact (failsWithin_ordered _).bind fun _ => ok _

/-- Reading a record of followed tokens. -/
theorem failsWithin_ofJson (v : Json) : FailsWithin passing (ofJson v) := by
  have hlacks : FaultClass.lacksOperation ∈ passing := by decide
  refine (failsWithin_flag hlacks "enabled" true v).bind fun _ => ?_
  refine (failsWithin_field? hlacks "tokens" v).bind fun _ => ?_
  refine (failsWithin_entries hlacks _).bind fun entries => ?_
  refine (FailsWithin.mapM (fun entry => ?_) entries).bind fun _ => ok _
  exact (failsWithin_token entry.1).bind fun _ => (failsWithin_subscription entry.2).bind fun _ => ok _

end Subscriber

namespace LogKind

open FailsWithin

/-- The classes of the faults that can pass when a list of filters is read. -/
def passing : List FaultClass := [.lacksOperation]

theorem failsWithin_textFilter (v : Json) : FailsWithin passing (TextFilter.ofJson v) := by
  have hfield : ∀ key, FailsWithin passing (v.fieldOrNull key) := fun key => failsWithin_fieldOrNull (by decide) key v
  refine (hfield _).bind fun _ => (failsWithin_field "account_id" v).bind fun _ => ?_
  refine (hfield _).bind fun _ => (hfield _).bind fun _ => (hfield _).bind fun _ => ?_
  exact (hfield _).bind fun _ => (hfield _).bind fun _ => ok _

theorem failsWithin_structuredFilter (versions : VersionScheme) (v : Json) :
    FailsWithin passing (StructuredFilter.ofJson v versions) := by
  have hfield : ∀ key, FailsWithin passing (v.fieldOrNull key) := fun key => failsWithin_fieldOrNull (by decide) key v
  refine (hfield _).bind fun _ => (hfield _).bind fun _ => (hfield _).bind fun _ => (hfield _).bind fun _ => ?_
  refine (hfield _).bind fun stored => (hfield _).bind fun _ => ?_
  refine FailsWithin.bind ?_ fun _ => ok _
  rw [StructuredFilter.readRequirement.eq_def]
  split
  · exact ok _
  · exact (failsWithin_requirement versions _).map _
  · exact FailsWithin.passing (show FaultClass.lacksOperation ∈ passing by decide)

/-- Reading a list of filters. -/
theorem failsWithin_readFilters {log filter : Type} {kind : LogKind log filter}
    (h : ∀ v, FailsWithin passing (kind.read v)) (v : Json) : FailsWithin passing (kind.readFilters v) :=
  (failsWithin_field? (by decide) "filters" v).bind fun _ => (failsWithin_elements _).bind (FailsWithin.mapM h)

end LogKind

namespace Store

variable {ρ : Type} (s : Store ρ) {classes : List FaultClass} {chat : Int} {payload : Json} {cause : StoreFailure}

/-- Why a row is not read: its payload is malformed, which is an error of the store that names the row, or there is
another fault of one of some classes, which passes as it is. -/
def Unread (classes : List FaultClass) (chat : Int) (payload : Json) (cause : StoreFailure) : Prop :=
  ∃ f, s.codec.decode payload = .error f ∧
    (f.isMalformed ∧ cause = .store (.corrupt s.codec.collection s.bot chat f) ∨
      f.isMalformed = false ∧ f.faultClass ∈ classes ∧ cause = .fault f)

/-- What reading the rows of a store comes to, with the classes of the faults that can pass. -/
structure ReadsRows (classes : List FaultClass) : Prop where
  get : ∀ shelf chat payload, shelf.database.get s.codec.collection s.bot chat = .ok (some payload) →
    (∃ r, s.codec.decode payload = .ok r ∧ s.runAlone (s.get chat) shelf = (.ok (some r), shelf)) ∨
    ∃ cause, s.Unread classes chat payload cause ∧ s.runAlone (s.get chat) shelf = (.error cause, shelf)
  all : ∀ shelf rows, shelf.database.list s.codec.collection s.bot = .ok rows →
    (∃ records, List.Forall₂ (fun row record => record.1 = row.1 ∧ s.codec.decode row.2 = .ok record.2) rows records ∧
      s.runAlone s.all shelf = (.ok records, shelf)) ∨
    ∃ before row after cause, rows = before ++ row :: after ∧
      (∀ other ∈ before, ∃ r, s.codec.decode other.2 = .ok r) ∧ s.Unread classes row.1 row.2 cause ∧
      s.runAlone s.all shelf = (.error cause, shelf)
  passes : ∀ c ∈ classes, ∃ fields f, s.codec.decode (.obj fields) = .error f ∧ f.isMalformed = false ∧
    f.faultClass = c

theorem decode_eq_ok_iff {r : ρ} : s.decode chat payload = .ok r ↔ s.codec.decode payload = .ok r := by
  rw [decode]
  cases s.codec.decode payload <;> simp

theorem unread_of_decode (hdecode : ∀ v, FailsWithin classes (s.codec.decode v))
    (h : s.decode chat payload = .error cause) : s.Unread classes chat payload cause := by
  rw [decode] at h
  cases hread : s.codec.decode payload with
  | ok r =>
      rw [hread] at h
      cases h
  | error f =>
      rw [hread] at h
      obtain rfl := Except.error.inj h
      refine ⟨f, hread, ?_⟩
      cases hmalformed : f.isMalformed with
      | true => exact Or.inl ⟨rfl, rfl⟩
      | false =>
          rcases hdecode payload f hread with hbad | hclass
          · rw [hmalformed] at hbad
            cases hbad
          · exact Or.inr ⟨rfl, hclass, rfl⟩

/-- How a store reads its rows follows from how it reads a payload. -/
theorem readsRows (hdecode : ∀ v, FailsWithin classes (s.codec.decode v))
    (hpasses : ∀ c ∈ classes, ∃ fields f, s.codec.decode (.obj fields) = .error f ∧ f.isMalformed = false ∧
      f.faultClass = c) : s.ReadsRows classes where
  get := by
    intro shelf chat payload hget
    have hrun : s.runAlone (s.get chat) shelf = (s.record? chat (.ok (some payload)), shelf) := by
      rw [← hget]
      rfl
    rw [hrun, record?]
    cases hread : s.decode chat payload with
    | ok r => exact Or.inl ⟨r, s.decode_eq_ok_iff.mp hread, rfl⟩
    | error cause => exact Or.inr ⟨cause, s.unread_of_decode hdecode hread, rfl⟩
  all := by
    intro shelf rows hlist
    have hrun : s.runAlone s.all shelf = (s.records (.ok rows), shelf) := by
      rw [← hlist]
      rfl
    rw [hrun]
    cases hread : s.records (.ok rows) with
    | ok records =>
        have hrows := s.forall₂_records hread
        simp only [s.decode_eq_ok_iff] at hrows
        exact Or.inl ⟨records, hrows, rfl⟩
    | error cause =>
        obtain ⟨before, row, after, hsplit, hbefore, hrow⟩ := s.records_eq_error_iff.mp hread
        simp only [s.decode_eq_ok_iff] at hbefore
        exact Or.inr ⟨before, row, after, cause, hsplit, hbefore, s.unread_of_decode hdecode hrow, rfl⟩
  passes := hpasses

end Store

/-- A payload that files one token with a minimum. -/
def withMinimum (kind : String) (amount : Json) : List (String × Json) :=
  [("tokens", .obj [("a.near", .obj [("min_amount", .obj [("type", .str kind), ("amount", amount)])])])]

theorem Subscriber.passes : ∀ c ∈ passing, ∃ fields f, ofJson (.obj fields) = .error f ∧ f.isMalformed = false ∧
    f.faultClass = c := by
  intro c hc
  simp only [passing, List.mem_cons, List.not_mem_nil, or_false] at hc
  rcases hc with rfl | rfl | rfl
  · exact ⟨[("tokens", .int 5)], _, rfl, rfl, rfl⟩
  · exact ⟨withMinimum "usd" (.str "x"), _, rfl, rfl, rfl⟩
  · exact ⟨withMinimum "token" (.float (.infinite false)), _, rfl, rfl, rfl⟩

theorem LogKind.passes {log filter : Type} {kind : LogKind log filter}
    (h : kind.read (.str "x") = .error (.lacks .str "get")) :
    ∀ c ∈ passing, ∃ fields f, kind.readFilters (.obj fields) = .error f ∧ f.isMalformed = false ∧
      f.faultClass = c := by
  intro c hc
  obtain rfl := List.mem_singleton.mp hc
  refine ⟨[("filters", .arr [.str "x"])], .lacks .str "get", ?_, rfl, rfl⟩
  show [Json.str "x"].mapM kind.read = _
  rw [List.mapM_cons, h]
  rfl

/-- Each kind of record is read row by row, a row that is malformed is reported as such, and the faults that can pass
are those of a value that lacks an operation and, among followed tokens, those of numbers out of bounds. How versions
are numbered makes no difference. -/
theorem rows_read_or_reported (versions : VersionScheme) (bot : Int) :
    (Subscriptions.store bot).ReadsRows Subscriber.passing ∧
      (FilterLists.store LogKind.text bot).ReadsRows LogKind.passing ∧
      (FilterLists.store (LogKind.structured versions) bot).ReadsRows LogKind.passing :=
  ⟨Store.readsRows _ Subscriber.failsWithin_ofJson Subscriber.passes,
    Store.readsRows _ (LogKind.failsWithin_readFilters LogKind.failsWithin_textFilter) (LogKind.passes rfl),
    Store.readsRows _ (LogKind.failsWithin_readFilters (LogKind.failsWithin_structuredFilter versions))
      (LogKind.passes rfl)⟩

theorem rows_read_or_reported_malformed :
    let shelf : Store.Shelf := { database := { tables := [(("text_logs", 1), [(7, .obj [("filters", .int 5)])])] } }
    let lines := FilterLists.store LogKind.text 1
    (lines.runAlone (lines.get 7) shelf).1 = .error (.store (.corrupt "text_logs" 1 7 (.notIterable .int))) := by
  intro shelf lines
  obtain ⟨-, hlines, -⟩ := rows_read_or_reported .standard 1
  obtain ⟨r, hread, -⟩ | ⟨cause, ⟨f, hread, hcause⟩, hrun⟩ := hlines.get shelf 7 (.obj [("filters", .int 5)]) rfl
  · cases hread
  · obtain rfl : Fault.notIterable .int = f := Except.error.inj hread
    obtain ⟨-, rfl⟩ | ⟨hmalformed, -⟩ := hcause
    · exact congrArg Prod.fst hrun
    · cases hmalformed

/-- A minimum that is no number and a filter that is a text are not reported as corrupt rows: their faults pass. -/
theorem unreported_faults :
    let shelf : Store.Shelf := { database := { tables := [
      (("buybot", 1), [(7, .obj (withMinimum "usd" (.str "x")))]),
      (("text_logs", 1), [(7, .obj [("filters", .arr [.str "x"])])])] } }
    let tokens := Subscriptions.store 1
    let lines := FilterLists.store LogKind.text 1
    (tokens.runAlone (tokens.get 7) shelf).1 = .error (.fault (.badDecimal .malformed)) ∧
      (lines.runAlone lines.all shelf).1 = .error (.fault (.lacks .str "get")) := by
  intro shelf tokens lines
  exact ⟨rfl, rfl⟩

end ChainAlerts
