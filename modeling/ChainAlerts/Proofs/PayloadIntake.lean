import ChainAlerts.Intake
import ChainAlerts.Proofs.UnreadableRows

/-! What becomes of the payload of a feed. What cannot be read is counted as an error and dropped, with two exceptions:
amounts that are filed in something other than an object, and a block height or an auction number that is infinite. The
faults of these do not mark a payload as malformed, so that they pass, and nothing is counted. -/

namespace ChainAlerts

/-- A reading ends in a fault that does not mark its value as malformed. -/
def Passes {α : Type} (reading : Except Fault α) : Prop := ∃ f, reading = .error f ∧ f.isMalformed = false

section

variable {α β : Type} {x : Except Fault α}

@[simp] theorem not_passes_ok (a : α) : ¬Passes (.ok a : Except Fault α) := by
  rintro ⟨f, hf, -⟩
  cases hf

@[simp] theorem passes_error {f : Fault} : Passes (.error f : Except Fault α) ↔ f.isMalformed = false := by
  constructor
  · rintro ⟨cause, hcause, h⟩
    obtain rfl := Except.error.inj hcause
    exact h
  · exact fun h => ⟨f, rfl, h⟩

theorem passes_bind {next : α → Except Fault β} :
    Passes (x >>= next) ↔ Passes x ∨ ∃ a, x = .ok a ∧ Passes (next a) := by
  cases x with
  | ok a => simp
  | error f =>
      show Passes (.error f) ↔ _
      simp

theorem passes_map {f : α → β} : Passes (f <$> x) ↔ Passes x := by
  cases x with
  | ok a => simp [Functor.map, Except.map]
  | error e => simp [Functor.map, Except.map]

theorem FailsWithin.not_passes (h : FailsWithin [] x) : ¬Passes x := by
  rintro ⟨f, hf, hpasses⟩
  rcases h f hf with hmalformed | hclass
  · rw [hpasses] at hmalformed
    cases hmalformed
  · cases hclass

/-- After a reading that is malformed at worst, a fault passes only if that reading succeeds. -/
theorem FailsWithin.passes_bind {next : α → Except Fault β} {Q : Prop} (h : FailsWithin [] x)
    (hnext : ∀ a, x = .ok a → (Passes (next a) ↔ Q)) : Passes (x >>= next) ↔ (∃ a, x = .ok a) ∧ Q := by
  rw [ChainAlerts.passes_bind, or_iff_right h.not_passes]
  constructor
  · rintro ⟨a, ha, hpasses⟩
    exact ⟨⟨a, ha⟩, (hnext a ha).mp hpasses⟩
  · rintro ⟨⟨a, ha⟩, hq⟩
    exact ⟨a, ha, (hnext a ha).mpr hq⟩

theorem FailsWithin.not_passes_bind {next : α → Except Fault β} (h : FailsWithin [] x)
    (hnext : ∀ a, x = .ok a → ¬Passes (next a)) : ¬Passes (x >>= next) := by
  rw [h.passes_bind fun a ha => iff_false_intro (hnext a ha)]
  exact And.right

end

/-! The fields of a payload. -/

namespace Payload

variable {α : Type} {fields : List (String × Json)} {key : String}

/-- A payload has all of some fields. -/
def HasAll (keys : List String) (fields : List (String × Json)) : Prop := ∀ key ∈ keys, Assoc.contains key fields

/-- A field holds an infinite number. -/
def IsInfinite (key : String) (fields : List (String × Json)) : Prop :=
  ∃ negative, Assoc.get? key fields = some (.float (.infinite negative))

/-- A field is there and holds no object. -/
def IsNoObject (key : String) (fields : List (String × Json)) : Prop :=
  ∃ v, Assoc.get? key fields = some v ∧ v.kind ≠ .obj

/-- The amounts that are filed in a field, none if it is absent. -/
def amounts (key : String) (fields : List (String × Json)) : Except Fault (List (String × Int)) := do
  readLegs (← ((Assoc.get? key fields).getD (.obj [])).entries)

theorem field_eq_ok_iff {v : Json} : (Json.obj fields).field key = .ok v ↔ Assoc.get? key fields = some v := by
  rw [Json.field]
  cases Assoc.get? key fields <;> simp

theorem hasAll_cons {keys : List String} :
    HasAll (key :: keys) fields ↔ Assoc.contains key fields ∧ HasAll keys fields :=
  List.forall_mem_cons

theorem hasAll_nil : HasAll [] fields := nofun

theorem passes_integer {v : Json} : Passes v.integer ↔ ∃ negative, v = .float (.infinite negative) := by
  cases v with
  | float x =>
      cases x <;> simp [Json.integer, Json.truncateDouble, Fault.isMalformed, Fault.isBadValue, Fault.faultClass]
  | str s => exact iff_of_false (failsWithin_readInteger s).not_passes (by simp)
  | _ => simp [Json.integer, Fault.isMalformed, Fault.isBadValue, Fault.faultClass]

theorem passes_entries {v : Json} : Passes v.entries ↔ v.kind ≠ .obj := by
  cases v <;> simp [Json.entries, Json.kind, Fault.isMalformed, Fault.isBadValue, Fault.faultClass]

theorem failsWithin_integerOfText (v : Json) : FailsWithin [] v.integerOfText := failsWithin_readInteger v.text

theorem failsWithin_readLegs (entries : List (String × Json)) : FailsWithin [] (readLegs entries) := by
  rw [readLegs]
  refine FailsWithin.mapM (fun entry => ?_) entries
  exact (failsWithin_integerOfText entry.2).bind fun _ => FailsWithin.ok _

/-- A field that is written out as a text has to be there. -/
theorem passes_field {next : Json → Except Fault α} {Q : Prop} (h : ∀ v, Passes (next v) ↔ Q) :
    Passes ((Json.obj fields).field key >>= next) ↔ Assoc.contains key fields ∧ Q := by
  rw [(failsWithin_field key _).passes_bind fun v _ => h v, Assoc.contains, Option.isSome_iff_exists]
  simp only [field_eq_ok_iff]

/-- A field that is to be an integer can be infinite; what is read after it is malformed at worst. -/
theorem passes_integerField {next : Int → Except Fault α} (h : ∀ n, FailsWithin [] (next n)) :
    Passes ((Json.obj fields).field key >>= fun v => v.integer >>= next) ↔ IsInfinite key fields := by
  have hvalue : ∀ v : Json, Passes (v.integer >>= next) ↔ Passes v.integer := fun v => by
    rw [passes_bind, or_iff_left]
    rintro ⟨n, -, hn⟩
    exact (h n).not_passes hn
  rw [passes_bind, or_iff_right (failsWithin_field key _).not_passes, IsInfinite]
  simp only [hvalue, passes_integer, field_eq_ok_iff]
  constructor
  · rintro ⟨_, hv, negative, rfl⟩
    exact ⟨negative, hv⟩
  · rintro ⟨negative, hv⟩
    exact ⟨_, hv, negative, rfl⟩

/-- Amounts that are filed in no object let a fault pass; amounts that cannot be read do not. -/
theorem passes_amounts {next : List (String × Int) → Except Fault α} {Q : List (String × Int) → Prop}
    (h : ∀ legs, Passes (next legs) ↔ Q legs) :
    Passes (((Assoc.get? key fields).getD (.obj [])).entries >>= fun entries => readLegs entries >>= next) ↔
      IsNoObject key fields ∨ ∃ legs, amounts key fields = .ok legs ∧ Q legs := by
  have hassoc : (((Assoc.get? key fields).getD (.obj [])).entries >>= fun entries => readLegs entries >>= next) =
      amounts key fields >>= next := (bind_assoc ..).symm
  have hamounts : Passes (amounts key fields) ↔ IsNoObject key fields := by
    rw [amounts, passes_bind, or_iff_left, passes_entries, IsNoObject]
    · cases Assoc.get? key fields <;> simp [Json.kind]
    · rintro ⟨entries, -, hlegs⟩
      exact (failsWithin_readLegs entries).not_passes hlegs
  rw [hassoc, passes_bind, hamounts]
  simp only [h]

end Payload

open Payload

/-! The readings of each feed. -/

namespace Feed

variable {fields : List (String × Json)} {testnet : Bool}

/-- The block height is the first of the last fields of a payload, and the only one whose fault can pass. -/
theorem passes_height {α : Type} {next : Int → Int → Json → Except Fault α}
    (h : ∀ height time transaction, FailsWithin [] (next height time transaction)) :
    Passes ((Json.obj fields).field "block_height" >>= fun v => v.integer >>= fun height =>
      (Json.obj fields).field "block_timestamp_nanosec" >>= fun t => t.integerOfText >>= fun time =>
        (Json.obj fields).field "transaction_id" >>= fun transaction => next height time transaction) ↔
      IsInfinite "block_height" fields :=
  passes_integerField fun _ => (failsWithin_field _ _).bind fun t =>
    (failsWithin_integerOfText t).bind fun _ => (failsWithin_field _ _).bind fun _ => h _ _ _

theorem passes_swap : Passes (Swap.ofJson (.obj fields)) ↔
    IsNoObject "balance_changes" fields ∨
      (∃ legs, amounts "balance_changes" fields = .ok legs) ∧ HasAll ["trader"] fields ∧
        IsInfinite "block_height" fields := by
  unfold Swap.ofJson
  simp only [Json.field?_obj, except_ok_bind]
  rw [passes_amounts fun legs => passes_field fun trader => passes_height fun _ _ _ => by
    rw [Json.fieldOrNull_obj]
    exact FailsWithin.ok _]
  simp [hasAll_cons, hasAll_nil]

theorem passes_liquidity : Passes (LiquidityChange.ofJson (.obj fields)) ↔
    IsNoObject "tokens" fields ∨
      (∃ first second, amounts "tokens" fields = .ok [first, second]) ∧
        HasAll ["provider_account_id", "pool_id"] fields ∧ IsInfinite "block_height" fields := by
  unfold LiquidityChange.ofJson
  simp only [Json.field?_obj, except_ok_bind]
  rw [passes_amounts (Q := fun legs => (∃ first second, legs = [first, second]) ∧
    HasAll ["provider_account_id", "pool_id"] fields ∧ IsInfinite "block_height" fields)]
  · simp only [← and_assoc, exists_and_right]
    simp
  · intro legs
    split
    next first second =>
      refine (passes_field fun _ => passes_field fun _ => passes_height fun _ _ _ => FailsWithin.ok _).trans ?_
      simp [hasAll_cons, hasAll_nil, and_assoc]
    next h =>
      refine iff_of_false (FailsWithin.malformed rfl).not_passes ?_
      rintro ⟨⟨first, second, rfl⟩, -⟩
      exact h first second rfl

theorem passes_text : Passes (TextLog.ofJson testnet (.obj fields)) ↔
    HasAll ["account_id", "predecessor_id", "log_text", "transaction_id"] fields ∧
      IsInfinite "block_height" fields := by
  unfold TextLog.ofJson
  refine (passes_field fun _ => passes_field fun _ => passes_field fun _ => passes_field fun _ =>
    passes_integerField fun _ => (failsWithin_field _ _).bind fun time =>
      (failsWithin_integerOfText time).bind fun _ => FailsWithin.ok _).trans ?_
  simp [hasAll_cons, hasAll_nil, and_assoc]

theorem passes_structured : Passes (StructuredLog.ofJson testnet (.obj fields)) ↔
    HasAll ["account_id", "predecessor_id", "event_standard", "event_version", "event_event", "transaction_id"] fields ∧
      IsInfinite "block_height" fields := by
  unfold StructuredLog.ofJson
  simp only [Json.fieldOrNull_obj, except_ok_bind]
  refine (passes_field fun _ => passes_field fun _ => passes_field fun _ => passes_field fun _ => passes_field fun _ =>
    passes_field fun _ => passes_integerField fun _ => (failsWithin_field _ _).bind fun time =>
      (failsWithin_integerOfText time).bind fun _ => FailsWithin.ok _).trans ?_
  simp [hasAll_cons, hasAll_nil, and_assoc]

/-- The payload announces one of the steps in an auction that are told of, and the number of the auction is infinite. -/
def HasInfiniteAuction (fields : List (String × Json)) : Prop :=
  Assoc.get? "account_id" fields = some (.str auctionContract) ∧
    Assoc.get? "event_standard" fields = some (.str AuctionEvent.standard) ∧
    (∃ kind ∈ ["deposit", "withdraw", "create_token"], Assoc.get? "event_event" fields = some (.str kind)) ∧
    ∃ details, Assoc.get? "event_data" fields = some (.obj details) ∧ IsInfinite "meme_id" details

theorem isText_getD_iff {v : Option Json} {s : String} : (v.getD .null).isText s ↔ v = some (.str s) := by
  cases v with
  | none => simp [Json.isText]
  | some w => cases w <;> simp [Json.isText]

/-- The number of an auction in the details of a step is read first, and nothing after it lets a fault pass. -/
theorem passes_auctionNumber {α : Type} {details : Json} {next : Int → Except Fault α}
    (h : ∀ inner n, details = .obj inner → FailsWithin [] (next n)) :
    Passes (details.field "meme_id" >>= fun v => v.integer >>= next) ↔
      ∃ inner, details = .obj inner ∧ IsInfinite "meme_id" inner := by
  cases details with
  | obj inner =>
      rw [passes_integerField fun n => h inner n rfl]
      simp
  | _ =>
      refine iff_of_false ((failsWithin_field _ _).not_passes_bind fun v hv => ?_) (by simp)
      cases hv

/-- Details that count as unset are taken for an object without fields. -/
theorem exists_infinite_details_iff {v : Option Json} :
    (∃ inner, (if (v.getD .null).truth then v.getD .null else .obj []) = .obj inner ∧ IsInfinite "meme_id" inner) ↔
      ∃ inner, v = some (.obj inner) ∧ IsInfinite "meme_id" inner := by
  constructor
  · rintro ⟨inner, hv, negative, hinner⟩
    split at hv
    · cases v with
      | none => cases hv
      | some w => exact ⟨inner, congrArg some hv, negative, hinner⟩
    · obtain rfl := Json.obj.inj hv
      cases hinner
  · rintro ⟨inner, rfl, negative, hinner⟩
    refine ⟨inner, if_pos ?_, negative, hinner⟩
    cases inner with
    | nil => cases hinner
    | cons => rfl

theorem passes_auction : Passes (AuctionEvent.ofJson? (.obj fields)) ↔
    HasInfiniteAuction fields ∧
      ∃ n, ((Assoc.get? "block_timestamp_nanosec" fields).getD (.int 0)).integerOfText = .ok n := by
  unfold AuctionEvent.ofJson? HasInfiniteAuction
  simp only [Json.fieldOrNull_obj, Json.field?_obj, except_ok_bind, ← isText_getD_iff]
  rw [← exists_infinite_details_iff]
  generalize (Assoc.get? "account_id" fields).getD .null = account
  generalize (Assoc.get? "event_standard" fields).getD .null = standard
  generalize (Assoc.get? "event_event" fields).getD .null = event
  generalize (if ((Assoc.get? "event_data" fields).getD .null).truth then (Assoc.get? "event_data" fields).getD .null
    else .obj []) = details
  cases haccount : account.isText auctionContract with
  | false => simp
  | true =>
  cases hstandard : standard.isText AuctionEvent.standard with
  | false => simp
  | true =>
  simp only [Bool.not_true, Bool.false_eq_true, if_false, true_and]
  rw [(failsWithin_integerOfText _).passes_bind, and_comm]
  intro nanoseconds _
  have hkind : (∃ kind ∈ ["deposit", "withdraw", "create_token"], event.isText kind) ↔
      event.isText "deposit" ∨ event.isText "withdraw" ∨ event.isText "create_token" := by simp
  rw [hkind]
  split
  next hdeposit =>
    rw [and_iff_right (Or.inl hdeposit)]
    refine passes_auctionNumber fun inner n h => ?_
    subst h
    exact (failsWithin_field _ _).bind fun _ => (failsWithin_field _ _).bind fun amount =>
      (failsWithin_integerOfText amount).bind fun _ => FailsWithin.ok _
  next hdeposit =>
  split
  next hwithdraw =>
    rw [and_iff_right (Or.inr (Or.inl hwithdraw))]
    exact passes_auctionNumber fun _ _ _ =>
      (failsWithin_field _ _).bind fun _ => (failsWithin_field _ _).bind fun amount =>
      (failsWithin_integerOfText amount).bind fun _ => FailsWithin.ok _
  next hwithdraw =>
  split
  next hlaunch =>
    rw [and_iff_right (Or.inr (Or.inr hlaunch))]
    exact passes_auctionNumber fun _ _ _ => (failsWithin_field _ _).bind fun _ => FailsWithin.ok _
  next hlaunch => simp [hdeposit, hwithdraw, hlaunch]

theorem exists_time_of_structured {log : StructuredLog} (h : StructuredLog.ofJson testnet (.obj fields) = .ok log) :
    ∃ n, ((Assoc.get? "block_timestamp_nanosec" fields).getD (.int 0)).integerOfText = .ok n := by
  simp only [StructuredLog.ofJson, except_bind_eq_ok, field_eq_ok_iff] at h
  obtain ⟨_, -, _, -, _, -, _, -, _, -, _, -, _, -, _, -, _, -, time, htime, n, hn, -⟩ := h
  exact ⟨n, by rw [htime]; exact hn⟩

/-- The first reading of a feed's payloads. -/
def reading : Feed → Reading
  | .swaps => readSwap
  | .liquidity => readLiquidity
  | .structuredLogs testnet => readStructured testnet
  | .textLogs testnet => readText testnet

/-- The payloads whose first reading ends in a fault that passes. -/
def Overlooks : Feed → List (String × Json) → Prop
  | .swaps, fields => IsNoObject "balance_changes" fields ∨
      (∃ legs, amounts "balance_changes" fields = .ok legs) ∧ HasAll ["trader"] fields ∧
        IsInfinite "block_height" fields
  | .liquidity, fields => IsNoObject "tokens" fields ∨
      (∃ first second, amounts "tokens" fields = .ok [first, second]) ∧
        HasAll ["provider_account_id", "pool_id"] fields ∧ IsInfinite "block_height" fields
  | .structuredLogs _, fields =>
      HasAll ["account_id", "predecessor_id", "event_standard", "event_version", "event_event", "transaction_id"]
        fields ∧ IsInfinite "block_height" fields
  | .textLogs _, fields =>
      HasAll ["account_id", "predecessor_id", "log_text", "transaction_id"] fields ∧ IsInfinite "block_height" fields

/-- The payloads of the main network's structured logs whose second reading, as a step in an auction, ends in a fault
that passes. -/
def OverlooksAuction (feed : Feed) (fields : List (String × Json)) : Prop :=
  feed = .structuredLogs false ∧ (∃ log, StructuredLog.ofJson false (.obj fields) = .ok log) ∧
    HasInfiniteAuction fields

theorem passes_reading (feed : Feed) (fields : List (String × Json)) :
    Passes (feed.reading (.obj fields)) ↔ feed.Overlooks fields := by
  cases feed with
  | swaps => exact passes_map.trans passes_swap
  | liquidity => exact passes_map.trans passes_liquidity
  | structuredLogs testnet => exact passes_map.trans passes_structured
  | textLogs testnet => exact passes_map.trans passes_text

end Feed

/-- What an event is counted as. -/
inductive EventKind where
  | swap | liquidity | auction | structuredLog | textLog
  deriving DecidableEq, Repr

namespace ChainEvent

def kind : ChainEvent → EventKind
  | .trade (.swap _) => .swap
  | .trade (.liquidity _) => .liquidity
  | .trade (.auction _) => .auction
  | .structured _ => .structuredLog
  | .text _ => .textLog

end ChainEvent

namespace Feed

/-- The kind of the events that the first reading of a feed's payloads gives. -/
def eventKind : Feed → EventKind
  | .swaps => .swap
  | .liquidity => .liquidity
  | .structuredLogs _ => .structuredLog
  | .textLogs _ => .textLog

theorem kind_of_reading {feed : Feed} {payload : Json} {event : Option ChainEvent}
    (h : feed.reading payload = .ok event) : event.map ChainEvent.kind = some feed.eventKind := by
  cases feed with
  | swaps =>
      obtain ⟨swap, -, rfl⟩ := except_map_eq_ok.mp h
      rfl
  | liquidity =>
      obtain ⟨change, -, rfl⟩ := except_map_eq_ok.mp h
      rfl
  | structuredLogs testnet =>
      obtain ⟨log, -, rfl⟩ := except_map_eq_ok.mp h
      rfl
  | textLogs testnet =>
      obtain ⟨log, -, rfl⟩ := except_map_eq_ok.mp h
      rfl

theorem kind_of_readAuction {payload : Json} {event : ChainEvent} (h : readAuction payload = .ok (some event)) :
    event.kind = .auction := by
  obtain ⟨step, -, hstep⟩ := except_map_eq_ok.mp h
  obtain ⟨auction, -, rfl⟩ := Option.map_eq_some_iff.mp hstep
  rfl

end Feed

namespace Intake

variable {σ : Type}

/-- How many events of a kind have come in. -/
def ofKind (c : Intake) : EventKind → Nat
  | .swap => c.swaps
  | .liquidity => c.liquidity
  | .auction => c.auctions
  | .structuredLog => c.structuredLogs
  | .textLog => c.textLogs

/-- One event of a kind more is counted, and nothing else. -/
structure CountsEvent (kind : EventKind) (c c' : Intake) : Prop where
  ofKind : ∀ k, c'.ofKind k = c.ofKind k + if k = kind then 1 else 0
  received : c'.received = c.received
  errors : c'.errors = c.errors
  lastError : c'.lastError = c.lastError

/-- One error more is counted, and nothing else. -/
structure CountsError (cause : Fault) (c c' : Intake) : Prop where
  ofKind : ∀ k, c'.ofKind k = c.ofKind k
  received : c'.received = c.received
  errors : c'.errors = c.errors + 1
  lastError : c'.lastError = some cause.message

theorem note_countsEvent (event : ChainEvent) (c : Intake) : CountsEvent event.kind c (c.note event) := by
  rcases event with (_ | _ | _) | _ | _ <;> exact ⟨fun k => by cases k <;> rfl, rfl, rfl, rfl⟩

theorem drop_countsError (cause : Fault) (c : Intake) : CountsError cause c (c.drop cause) :=
  ⟨fun k => by cases k <;> rfl, rfl, rfl, rfl⟩

/-- What becomes of one reading of a payload: its event is counted by its kind and handed on once; it announces nothing
of interest; it is malformed, which is counted as an error, and nothing is handed on; or its fault passes. -/
inductive Settles (deliver : ChainEvent → σ → σ) (c : Intake) (s : σ) :
    Except Fault (Option ChainEvent) → Option Fault → Intake → σ → Prop where
  | received (event : ChainEvent) (c' : Intake) (h : CountsEvent event.kind c c') :
      Settles deliver c s (.ok (some event)) none c' (deliver event s)
  | ignored : Settles deliver c s (.ok none) none c s
  | dropped (cause : Fault) (c' : Intake) (hmalformed : cause.isMalformed) (h : CountsError cause c c') :
      Settles deliver c s (.error cause) none c' s
  | overlooked (cause : Fault) (hpasses : cause.isMalformed = false) :
      Settles deliver c s (.error cause) (some cause) c s

variable {deliver : ChainEvent → σ → σ} {c c' : Intake} {s s' : σ} {fault : Option Fault}
  {reading : Except Fault (Option ChainEvent)}

theorem Settles.fault_eq_none_iff (h : Settles deliver c s reading fault c' s') : fault = none ↔ ¬Passes reading := by
  cases h with
  | received => simp
  | ignored => simp
  | dropped _ _ hmalformed => simp [hmalformed]
  | overlooked _ hpasses => simp [hpasses]

theorem Settles.received_eq (h : Settles deliver c s reading fault c' s') : c'.received = c.received := by
  cases h with
  | received _ _ h => exact h.received
  | ignored => rfl
  | dropped _ _ _ h => exact h.received
  | overlooked => rfl

/-- One reading of a payload: the readings after it follow only if it succeeds. -/
theorem readAll_cons (deliver : ChainEvent → σ → σ) (payload : Json) (read : Feed.Reading) (rest : List Feed.Reading)
    (c : Intake) (s : σ) :
    ∃ fault c' s', Settles deliver c s (read payload) fault c' s' ∧
      readAll (fun event s => (none, deliver event s)) payload (read :: rest) (c, s) =
        if (read payload).isOk then readAll (fun event s => (none, deliver event s)) payload rest (c', s')
        else (fault, c', s') := by
  rw [readAll]
  rcases read payload with f | _ | event
  · cases hmalformed : f.isMalformed with
    | true =>
        refine ⟨none, c.drop f, s, .dropped f _ hmalformed (drop_countsError f c), ?_⟩
        simp [hmalformed, Except.isOk, Except.toBool]
    | false =>
        refine ⟨some f, c, s, .overlooked f hmalformed, ?_⟩
        simp [hmalformed, Except.isOk, Except.toBool]
  · exact ⟨none, c, s, .ignored, rfl⟩
  · exact ⟨none, c.note event, deliver event s, .received event _ (note_countsEvent event c), rfl⟩

theorem readAll_singleton (deliver : ChainEvent → σ → σ) (payload : Json) (read : Feed.Reading) (c : Intake) (s : σ) :
    ∃ fault c' s', Settles deliver c s (read payload) fault c' s' ∧
      readAll (fun event s => (none, deliver event s)) payload [read] (c, s) = (fault, c', s') := by
  obtain ⟨fault, c', s', hsettles, hall⟩ := readAll_cons deliver payload read [] c s
  refine ⟨fault, c', s', hsettles, ?_⟩
  rw [hall]
  cases hread : read payload with
  | error f => rfl
  | ok event =>
      rw [hread] at hsettles
      rw [hsettles.fault_eq_none_iff.mpr (not_passes_ok event)]
      rfl

/-- A payload that is an object is always counted as received, and its event is counted by its kind and handed on once,
or it is counted as an error; a structured log of the main network is then read once more on its own as a step in an
auction, whatever became of the log. The exceptions are the payloads that hold what the guard overlooks: their faults
pass, and they are counted as received only. -/
theorem payload_settled (deliver : ChainEvent → σ → σ) (feed : Feed) (fields : List (String × Json)) (c : Intake)
    (s : σ) :
    ∃ fault c' s', take (fun event s => (none, deliver event s)) feed (.obj fields) (c, s) = (fault, c', s') ∧
      c'.received = c.received + 1 ∧
      (fault = none ↔ ¬feed.Overlooks fields ∧ ¬feed.OverlooksAuction fields) ∧
      ∃ first c₁ s₁,
        Settles deliver { c with received := c.received + 1 } s (feed.reading (.obj fields)) first c₁ s₁ ∧
        (∀ event, feed.reading (.obj fields) = .ok event → event.map ChainEvent.kind = some feed.eventKind) ∧
        if feed = .structuredLogs false ∧ (feed.reading (.obj fields)).isOk then
          Settles deliver c₁ s₁ (Feed.readAuction (.obj fields)) fault c' s' ∧
            ∀ event, Feed.readAuction (.obj fields) = .ok (some event) → event.kind = .auction
        else (fault, c', s') = (first, c₁, s₁) := by
  have hkind : ∀ event, feed.reading (.obj fields) = .ok event → event.map ChainEvent.kind = some feed.eventKind :=
    fun _ => Feed.kind_of_reading
  by_cases hlogs : feed = .structuredLogs false
  · subst hlogs
    obtain ⟨first, c₁, s₁, hfirst, hall⟩ := readAll_cons deliver (.obj fields) (Feed.readStructured false)
      [Feed.readAuction] { c with received := c.received + 1 } s
    obtain ⟨fault, c', s', hsecond, hlast⟩ := readAll_singleton deliver (.obj fields) Feed.readAuction c₁ s₁
    rw [hlast] at hall
    have hpasses := Feed.passes_reading (.structuredLogs false) fields
    change Passes (Feed.readStructured false (.obj fields)) ↔ _ at hpasses
    cases hread : Feed.readStructured false (.obj fields) with
    | ok event =>
        rw [hread] at hall hpasses
        obtain ⟨log, hlog, -⟩ := except_map_eq_ok.mp hread
        have hsecondPasses : Passes (Feed.readAuction (.obj fields)) ↔
            Feed.OverlooksAuction (.structuredLogs false) fields := by
          rw [Feed.OverlooksAuction, and_iff_right rfl, and_iff_right ⟨log, hlog⟩]
          exact passes_map.trans (Feed.passes_auction.trans (and_iff_left (Feed.exists_time_of_structured hlog)))
        refine ⟨fault, c', s', hall, hsecond.received_eq.trans hfirst.received_eq, ?_, first, c₁, s₁, hfirst, hkind, ?_⟩
        · rw [hsecond.fault_eq_none_iff, hsecondPasses, ← hpasses]
          exact (and_iff_right (not_passes_ok event)).symm
        · rw [if_pos ⟨rfl, congrArg Except.isOk hread⟩]
          exact ⟨hsecond, fun _ => Feed.kind_of_readAuction⟩
    | error f =>
        rw [hread] at hall
        refine ⟨first, c₁, s₁, hall, hfirst.received_eq, ?_, first, c₁, s₁, hfirst, hkind, ?_⟩
        · refine hfirst.fault_eq_none_iff.trans ?_
          rw [hpasses]
          refine (and_iff_left ?_).symm
          rintro ⟨-, ⟨log, hlog⟩, -⟩
          rw [Feed.readStructured, hlog] at hread
          cases hread
        · refine if_neg ?_ ▸ rfl
          rintro ⟨-, hok⟩
          rw [show Feed.reading (.structuredLogs false) (.obj fields) = .error f from hread] at hok
          cases hok
  · obtain ⟨fault, c', s', hsettles, hall⟩ := readAll_singleton deliver (.obj fields) feed.reading
      { c with received := c.received + 1 } s
    have hreadings : feed.readings = [feed.reading] := by
      cases feed with
      | structuredLogs testnet =>
          cases testnet with
          | true => rfl
          | false => exact absurd rfl hlogs
      | _ => rfl
    refine ⟨fault, c', s', ?_, hsettles.received_eq, ?_, fault, c', s', hsettles, hkind, ?_⟩
    · rw [take, hreadings, hall]
    · rw [hsettles.fault_eq_none_iff, Feed.passes_reading]
      exact (and_iff_left fun h => hlogs h.1).symm
    · rw [if_neg fun h => hlogs h.1]

/-- A swap whose changes are filed in a list is neither taken for malformed nor counted. -/
theorem swap_of_list_passes :
    take (fun event events => (none, events ++ [event])) .swaps (.obj [("balance_changes", .arr [])]) ({}, []) =
      (some (.lacks .arr "items"), { received := 1 }, []) := rfl

end Intake

end ChainAlerts
