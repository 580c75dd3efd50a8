import ChainAlerts.Prices
import ChainAlerts.Proofs.PayloadIntake

/-! Lists of prices, entry by entry. Whether an entry is listed, and with what, depends on that entry alone; the native
token is listed as the wrapped one. There is one exception: an entry with an infinite number of decimals fails in a way
for which entries are not left out, so that none of a payload with such an entry is listed. -/

namespace ChainAlerts

open Payload

/-- What the fields of an object say of a token's metadata. -/
structure TokenMetadata.Stated (fields : List (String × Json)) (metadata : TokenMetadata) : Prop where
  name : ∃ v, Assoc.get? "name" fields = some v ∧ v.text = metadata.name
  symbol : ∃ v, Assoc.get? "symbol" fields = some v ∧ v.text = metadata.symbol
  decimals : ∃ v, Assoc.get? "decimals" fields = some v ∧ v.integer = .ok metadata.decimals

/-- What the fields of an entry say of a token. Supplies may be absent. -/
structure TokenInfo.Stated (account : String) (fields : List (String × Json)) (info : TokenInfo) : Prop where
  account : info.account = account
  price : ∃ v, Assoc.get? "price_usd_hardcoded" fields = some v ∧ v.decimal = .ok info.price
  metadata : ∃ inner, Assoc.get? "metadata" fields = some (.obj inner) ∧ info.metadata.Stated inner
  totalSupply : ((Assoc.get? "total_supply" fields).getD (.int 0)).integerOfText = .ok info.totalSupply
  circulatingSupply :
    ((Assoc.get? "circulating_supply" fields).getD (.int 0)).integerOfText = .ok info.circulatingSupply

/-- An entry with a price, a name, a symbol and an infinite number of decimals. -/
structure TokenInfo.Boundless (fields : List (String × Json)) : Prop where
  price : ∃ v d, Assoc.get? "price_usd_hardcoded" fields = some v ∧ v.decimal = .ok d
  metadata : ∃ inner, Assoc.get? "metadata" fields = some (.obj inner) ∧ HasAll ["name", "symbol"] inner ∧
    IsInfinite "decimals" inner

namespace PriceList

variable {α β : Type} {x : Except Fault α} {f : Fault} {v : Json} {fields : List (String × Json)} {account : String}

/-! A fault that an entry is not left out for. -/

/-- A reading ends in a fault for which entries are not left out. -/
def Escapes (reading : Except Fault α) (f : Fault) : Prop := reading = .error f ∧ isSkipped f = false

theorem not_escapes_ok (a : α) : ¬Escapes (.ok a) f := fun h => nomatch h.1

theorem escapes_bind {next : α → Except Fault β} :
    Escapes (x >>= next) f ↔ Escapes x f ∨ ∃ a, x = .ok a ∧ Escapes (next a) f := by
  cases x with
  | ok a =>
      simp only [except_ok_bind, Except.ok.injEq, exists_eq_left', not_escapes_ok, false_or]
  | error e =>
      have hbind : (Except.error e >>= next) = .error e := rfl
      simp [Escapes, hbind]

/-- Malformed values and texts that are no decimal numbers do not escape. -/
theorem not_escapes (h : FailsWithin [.decimalInvalid] x) : ¬Escapes x f := by
  rintro ⟨hf, hescapes⟩
  rcases h f hf with hmalformed | hclass
  · simp [isSkipped, hmalformed] at hescapes
  · simp [isSkipped, List.mem_singleton.mp hclass] at hescapes

theorem escapes_bind_of_not (h : FailsWithin [.decimalInvalid] x) {next : α → Except Fault β} :
    Escapes (x >>= next) f ↔ ∃ a, x = .ok a ∧ Escapes (next a) f := by
  rw [escapes_bind, or_iff_right (not_escapes h)]

theorem failsWithin_decimal (v : Json) : FailsWithin [.decimalInvalid] v.decimal := by
  rw [Json.decimal]
  cases Decimal.parse v.text with
  | ok d => exact FailsWithin.ok d
  | error cause => exact FailsWithin.passing (List.mem_singleton.mpr rfl)

/-- Only an infinite number escapes when it is to be an integer. -/
theorem escapes_integer :
    Escapes v.integer f ↔ f = .infinityToInteger ∧ ∃ negative, v = .float (.infinite negative) := by
  cases v with
  | float x =>
      cases x with
      | finite s m e => simp [Json.integer, Json.truncateDouble, not_escapes_ok]
      | infinite s =>
          simp only [Json.integer, Json.truncateDouble, Escapes, Except.error.injEq, Json.float.injEq,
            Double.infinite.injEq, exists_eq', and_true]
          constructor
          · exact fun h => h.1.symm
          · rintro rfl
            exact ⟨rfl, rfl⟩
      | nan =>
          refine iff_of_false ?_ (by simp)
          rintro ⟨hf, hescapes⟩
          obtain rfl := Except.error.inj hf
          cases hescapes
  | str s => exact iff_of_false (not_escapes (failsWithin_readInteger s)) (by simp)
  | bool b => exact iff_of_false (not_escapes_ok _) (by simp)
  | int n => exact iff_of_false (not_escapes_ok _) (by simp)
  | _ => exact iff_of_false (not_escapes (FailsWithin.malformed rfl)) (by simp)

end PriceList

/-! What is read of an entry. -/

theorem TokenMetadata.ofJson_eq_ok_iff {v : Json} {metadata : TokenMetadata} :
    ofJson v = .ok metadata ↔ ∃ fields, v = .obj fields ∧ metadata.Stated fields := by
  cases v with
  | obj fields =>
      constructor
      · intro h
        obtain ⟨name, hname, h⟩ := except_bind_eq_ok.mp h
        obtain ⟨symbol, hsymbol, h⟩ := except_bind_eq_ok.mp h
        obtain ⟨decimals, hdecimals, h⟩ := except_bind_eq_ok.mp h
        obtain ⟨n, hn, h⟩ := except_bind_eq_ok.mp h
        obtain rfl := Except.ok.inj h
        exact ⟨fields, rfl, ⟨name, field_eq_ok_iff.mp hname, rfl⟩, ⟨symbol, field_eq_ok_iff.mp hsymbol, rfl⟩,
          ⟨decimals, field_eq_ok_iff.mp hdecimals, hn⟩⟩
      · rintro ⟨_, heq, ⟨name, hname, hnameText⟩, ⟨symbol, hsymbol, hsymbolText⟩, ⟨decimals, hdecimals, hn⟩⟩
        obtain rfl := Json.obj.inj heq
        rw [ofJson, field_eq_ok_iff.mpr hname, field_eq_ok_iff.mpr hsymbol, field_eq_ok_iff.mpr hdecimals]
        simp only [except_ok_bind, hn, except_pure, hnameText, hsymbolText]
  | _ =>
      refine iff_of_false (fun hread => by cases hread) ?_
      rintro ⟨_, heq, -⟩
      cases heq

theorem TokenInfo.ofJson_eq_ok_iff {v : Json} {account : String} {info : TokenInfo} :
    ofJson account v = .ok info ↔ ∃ fields, v = .obj fields ∧ info.Stated account fields := by
  cases v with
  | obj fields =>
      constructor
      · intro h
        obtain ⟨price, hprice, h⟩ := except_bind_eq_ok.mp h
        obtain ⟨d, hd, h⟩ := except_bind_eq_ok.mp h
        obtain ⟨inner, hinner, h⟩ := except_bind_eq_ok.mp h
        obtain ⟨metadata, hmetadata, h⟩ := except_bind_eq_ok.mp h
        simp only [Json.field?_obj, except_ok_bind] at h
        obtain ⟨total, htotal, h⟩ := except_bind_eq_ok.mp h
        obtain ⟨circulating, hcirculating, h⟩ := except_bind_eq_ok.mp h
        obtain rfl := Except.ok.inj h
        obtain ⟨innerFields, rfl, hstated⟩ := TokenMetadata.ofJson_eq_ok_iff.mp hmetadata
        exact ⟨fields, rfl, rfl, ⟨price, field_eq_ok_iff.mp hprice, hd⟩,
          ⟨innerFields, field_eq_ok_iff.mp hinner, hstated⟩, htotal, hcirculating⟩
      · rintro ⟨_, heq, rfl, ⟨price, hprice, hd⟩, ⟨inner, hinner, hstated⟩, htotal, hcirculating⟩
        obtain rfl := Json.obj.inj heq
        have hmetadata := TokenMetadata.ofJson_eq_ok_iff.mpr ⟨inner, rfl, hstated⟩
        rw [ofJson, field_eq_ok_iff.mpr hprice, field_eq_ok_iff.mpr hinner]
        simp only [except_ok_bind, hd, hmetadata, Json.field?_obj, htotal, hcirculating, except_pure]
  | _ =>
      refine iff_of_false (fun hread => by cases hread) ?_
      rintro ⟨_, heq, -⟩
      cases heq

namespace PriceList

variable {v : Json} {f : Fault} {fields : List (String × Json)} {account token : String} {info : TokenInfo}
  {current : PriceList}

theorem escapes_metadata : Escapes (TokenMetadata.ofJson v) f ↔ f = .infinityToInteger ∧
    ∃ inner, v = .obj inner ∧ HasAll ["name", "symbol"] inner ∧ IsInfinite "decimals" inner := by
  rw [TokenMetadata.ofJson, escapes_bind_of_not (failsWithin_field _ v)]
  simp only [escapes_bind_of_not (failsWithin_field _ v), escapes_bind, escapes_integer, except_pure, not_escapes_ok,
    and_false, exists_false, or_false]
  cases v with
  | obj inner =>
      simp only [field_eq_ok_iff, hasAll_cons, hasAll_nil, and_true, Json.obj.injEq, exists_eq_left',
        Assoc.contains, Option.isSome_iff_exists, IsInfinite]
      constructor
      · rintro ⟨name, hname, symbol, hsymbol, decimals, hdecimals, rfl, negative, rfl⟩
        exact ⟨rfl, ⟨⟨name, hname⟩, symbol, hsymbol⟩, negative, hdecimals⟩
      · rintro ⟨rfl, ⟨⟨name, hname⟩, symbol, hsymbol⟩, negative, hdecimals⟩
        exact ⟨name, hname, symbol, hsymbol, _, hdecimals, rfl, negative, rfl⟩
  | _ => simp [Json.field]

theorem failsWithin_supplies {β : Type} (fields : List (String × Json)) (next : Int → Int → β) :
    FailsWithin [.decimalInvalid] (do
      let total ← (Json.obj fields).field? "total_supply"
      let total ← (total.getD (.int 0)).integerOfText
      let circulating ← (Json.obj fields).field? "circulating_supply"
      let circulating ← (circulating.getD (.int 0)).integerOfText
      pure (next total circulating)) := by
  simp only [Json.field?_obj, except_ok_bind]
  exact (failsWithin_readInteger _).bind fun _ => (failsWithin_readInteger _).bind fun _ => FailsWithin.ok _

/-- Only an infinite number of decimals escapes when an entry is read. -/
theorem escapes_info : Escapes (TokenInfo.ofJson account v) f ↔
    f = .infinityToInteger ∧ ∃ fields, v = .obj fields ∧ TokenInfo.Boundless fields := by
  rw [TokenInfo.ofJson, escapes_bind_of_not (failsWithin_field _ v)]
  simp only [escapes_bind_of_not (failsWithin_decimal _), escapes_bind_of_not (failsWithin_field _ v)]
  cases v with
  | obj fields =>
      simp only [field_eq_ok_iff, escapes_bind (x := TokenMetadata.ofJson _),
        not_escapes (failsWithin_supplies fields _), and_false, exists_false, or_false, escapes_metadata,
        Json.obj.injEq, exists_eq_left']
      constructor
      · rintro ⟨price, hprice, d, hd, _, hinner, rfl, inner, rfl, hall, hinfinite⟩
        exact ⟨rfl, ⟨price, d, hprice, hd⟩, inner, hinner, hall, hinfinite⟩
      · rintro ⟨rfl, ⟨price, d, hprice, hd⟩, inner, hinner, hall, hinfinite⟩
        exact ⟨price, hprice, d, hd, _, hinner, rfl, inner, rfl, hall, hinfinite⟩
  | _ => simp [Json.field]

/-! The entries of a payload. -/

/-- What a payload's entry for a token says of it, if there is one and it is well-formed. -/
def States (fields : List (String × Json)) (token : String) (info : TokenInfo) : Prop :=
  ∃ entry, Assoc.get? token fields = some (.obj entry) ∧ info.Stated token entry

/-- No entry of a payload has an infinite number of decimals. -/
def Bounded (fields : List (String × Json)) : Prop :=
  ∀ token entry, (token, Json.obj entry) ∈ fields → ¬TokenInfo.Boundless entry

/-- What a payload enters under a token: its own entry, or the wrapped token's for the native one if that is
well-formed. -/
inductive Enters (fields : List (String × Json)) : String → TokenInfo → Prop
  | own {token : String} {info : TokenInfo} (h : States fields token info)
      (hwrapped : token = nativeNear → ∀ wrapped, ¬States fields wrappedNear wrapped) : Enters fields token info
  | mirrored {info : TokenInfo} (h : States fields wrappedNear info) : Enters fields nativeNear info

/-- The list that a payload amounts to. -/
structure Lists (fields : List (String × Json)) (prices : PriceList) : Prop where
  keys : (Assoc.keys prices).Nodup
  entry (token : String) (info : TokenInfo) : Assoc.get? token prices = some info ↔ Enters fields token info

/-- An entry that is not left out. -/
def read? (account : String) (v : Json) : Option TokenInfo := (TokenInfo.ofJson account v).toOption

theorem read?_eq_some_iff :
    read? account v = some info ↔ ∃ fields, v = .obj fields ∧ info.Stated account fields := by
  rw [← TokenInfo.ofJson_eq_ok_iff, read?]
  cases TokenInfo.ofJson account v <;> simp [Except.toOption]

theorem states_iff : States fields token info ↔ (Assoc.get? token fields).bind (read? token) = some info := by
  simp only [Option.bind_eq_some_iff, read?_eq_some_iff]
  constructor
  · rintro ⟨entry, hentry, hstated⟩
    exact ⟨_, hentry, entry, rfl, hstated⟩
  · rintro ⟨_, hentry, entry, rfl, hstated⟩
    exact ⟨entry, hentry, hstated⟩

/-- Well-formed entries are read, and others left out, as long as none has an infinite number of decimals. -/
theorem readEntries_of_bounded (h : Bounded fields) :
    readEntries fields = .ok (fields.filterMap fun entry => (read? entry.1 entry.2).map (entry.1, ·)) := by
  induction fields with
  | nil => rfl
  | cons entry rest ih =>
      obtain ⟨account, v⟩ := entry
      specialize ih fun token inner hmem => h token inner (List.mem_cons_of_mem _ hmem)
      rw [readEntries, List.filterMap_cons, read?]
      cases hread : TokenInfo.ofJson account v with
      | ok info =>
          simp only [ih, except_ok_bind, Except.toOption, Option.map_some, except_pure]
      | error f =>
          have hskipped : isSkipped f = true := by
            by_contra hnot
            obtain ⟨-, inner, rfl, hboundless⟩ := escapes_info.mp ⟨hread, Bool.not_eq_true _ ▸ hnot⟩
            exact h account inner List.mem_cons_self hboundless
          simp only [hskipped, if_true, ih, Except.toOption, Option.map_none]

theorem readEntries_of_not_bounded (h : ¬Bounded fields) : readEntries fields = .error .infinityToInteger := by
  induction fields with
  | nil => exact absurd (fun _ _ hmem => nomatch hmem) h
  | cons entry rest ih =>
      obtain ⟨account, v⟩ := entry
      rw [readEntries]
      by_cases hrest : Bounded rest
      · have hfirst : ∃ inner, v = .obj inner ∧ TokenInfo.Boundless inner := by
          by_contra hnot
          refine h fun token inner hmem hboundless => ?_
          rcases List.mem_cons.mp hmem with heq | hmem
          · obtain ⟨rfl, rfl⟩ := Prod.mk.inj heq
            exact hnot ⟨inner, rfl, hboundless⟩
          · exact hrest token inner hmem hboundless
        have hread : Escapes (TokenInfo.ofJson account v) .infinityToInteger := escapes_info.mpr ⟨rfl, hfirst⟩
        obtain ⟨hread, hescapes⟩ := hread
        simp only [hread, hescapes, Bool.false_eq_true, if_false]
      · specialize ih hrest
        cases hread : TokenInfo.ofJson account v with
        | ok info => simp only [ih]; rfl
        | error f =>
            by_cases hskipped : isSkipped f
            · simp only [hskipped, if_true, ih]
            · obtain ⟨rfl, -⟩ := escapes_info.mp ⟨hread, Bool.not_eq_true _ ▸ hskipped⟩
              simp only [hskipped]
              rfl

theorem get?_withNative (prices : PriceList) (token : String) :
    Assoc.get? token (withNative prices) =
      if token = nativeNear ∧ (Assoc.get? wrappedNear prices).isSome then Assoc.get? wrappedNear prices
      else Assoc.get? token prices := by
  rw [withNative]
  cases hwrapped : Assoc.get? wrappedNear prices with
  | none => simp
  | some info =>
      by_cases htoken : token = nativeNear
      · simp [htoken]
      · simp [htoken, Assoc.get?_put_of_ne htoken]

theorem keys_withNative {prices : PriceList} (h : (Assoc.keys prices).Nodup) :
    (Assoc.keys (withNative prices)).Nodup := by
  rw [withNative]
  split
  · exact Assoc.nodup_keys_put h
  · exact h

/-- The well-formed entries, with the native token beside the wrapped one, are the list that a payload amounts to. -/
theorem lists_withNative {entries : PriceList} (hkeys : (Assoc.keys entries).Nodup)
    (h : ∀ token info, States fields token info ↔ Assoc.get? token entries = some info) :
    Lists fields (withNative entries) := by
  refine ⟨keys_withNative hkeys, fun token info => ?_⟩
  rw [get?_withNative]
  constructor
  · intro hfound
    split at hfound
    next hnative =>
      rw [hnative.1]
      exact Enters.mirrored ((h _ _).mpr hfound)
    next hother =>
      refine Enters.own ((h _ _).mpr hfound) fun htoken wrapped hwrapped => hother ⟨htoken, ?_⟩
      rw [(h _ _).mp hwrapped, Option.isSome_some]
  · intro henters
    cases henters with
    | own hown hwrapped =>
        rw [if_neg, (h _ _).mp hown]
        rintro ⟨htoken, hlisted⟩
        obtain ⟨wrapped, hlisted⟩ := Option.isSome_iff_exists.mp hlisted
        exact hwrapped htoken wrapped ((h _ _).mpr hlisted)
    | mirrored hmirrored =>
        have hlisted := (h _ _).mp hmirrored
        rw [if_pos ⟨rfl, Option.isSome_iff_exists.mpr ⟨_, hlisted⟩⟩, hlisted]

/-- What loading a payload comes to: the list stays if no entry is well-formed, and is replaced otherwise. -/
inductive Loads (current : PriceList) (fields : List (String × Json)) : Nat × PriceList → Prop
  | kept (h : ∀ token info, ¬States fields token info) : Loads current fields (0, current)
  | listed {token : String} {info : TokenInfo} {prices : PriceList} (h : States fields token info)
      (hlists : Lists fields prices) : Loads current fields (prices.length, prices)

theorem load_of_bounded (current : PriceList) (hkeys : (Assoc.keys fields).Nodup) (h : Bounded fields) :
    ∃ loaded, current.load (.obj fields) = .ok loaded ∧ Loads current fields loaded := by
  set entries := fields.filterMap fun entry => (read? entry.1 entry.2).map (entry.1, ·) with hentries
  have hread : readEntries fields = .ok entries := readEntries_of_bounded h
  have hstates : ∀ token info, States fields token info ↔ Assoc.get? token entries = some info := fun token info => by
    rw [states_iff, hentries, Assoc.get?_filterMap _ hkeys]
  simp only [load, Json.entries, except_ok_bind, hread]
  cases hempty : entries.isEmpty with
  | true =>
      refine ⟨_, rfl, Loads.kept fun token info hstated => ?_⟩
      rw [hstates, List.isEmpty_iff.mp hempty] at hstated
      cases hstated
  | false =>
      obtain ⟨⟨token, info⟩, hmem⟩ := List.exists_mem_of_ne_nil entries (List.isEmpty_eq_false_iff.mp hempty)
      have hnodup : (Assoc.keys entries).Nodup := (Assoc.keys_filterMap_sublist _ fields).nodup hkeys
      exact ⟨_, rfl, Loads.listed ((hstates token info).mpr (Assoc.get?_of_mem hnodup hmem))
        (lists_withNative hnodup hstates)⟩

theorem load_of_not_bounded (current : PriceList) (h : ¬Bounded fields) :
    current.load (.obj fields) = .error .infinityToInteger := by
  simp only [load, Json.entries, except_ok_bind, readEntries_of_not_bounded h]
  rfl

/-! An entry of a price list with a price and a number of decimals. -/

def entryOf (price decimals : Json) : List (String × Json) := [
  ("price_usd_hardcoded", price),
  ("metadata", .obj [("name", .str "Shitzu"), ("symbol", .str "SHIT"), ("decimals", decimals)])]

theorem stated_entryOf (account : String) {price : Json} {d : Decimal} (h : price.decimal = .ok d) (n : Int) :
    TokenInfo.Stated account (entryOf price (.int n)) ⟨account, d, ⟨"Shitzu", "SHIT", n⟩, 0, 0⟩ where
  account := rfl
  price := ⟨price, rfl, h⟩
  metadata := ⟨_, rfl, ⟨_, rfl, rfl⟩, ⟨_, rfl, rfl⟩, ⟨_, rfl, rfl⟩⟩
  totalSupply := by simp [entryOf, Assoc.get?]; rfl
  circulatingSupply := by simp [entryOf, Assoc.get?]; rfl

theorem not_boundless_entryOf (price : Json) (n : Int) : ¬TokenInfo.Boundless (entryOf price (.int n)) := by
  intro h
  obtain ⟨inner, hinner, -, negative, hinfinite⟩ := h.metadata
  obtain rfl := Json.obj.inj (Option.some.inj hinner)
  cases Option.some.inj hinfinite

theorem boundless_entryOf {price : Json} {d : Decimal} (h : price.decimal = .ok d) (negative : Bool) :
    TokenInfo.Boundless (entryOf price (.float (.infinite negative))) := by
  refine ⟨⟨price, d, rfl, h⟩, _, rfl, ?_, negative, rfl⟩
  simp [hasAll_cons, hasAll_nil, Assoc.contains, Assoc.get?]

theorem bounded_cons {v : Json} : Bounded ((token, v) :: fields) ↔
    (∀ entry, v = .obj entry → ¬TokenInfo.Boundless entry) ∧ Bounded fields := by
  constructor
  · refine fun h => ⟨?_, fun token entry hmem => h token entry (List.mem_cons_of_mem _ hmem)⟩
    rintro entry rfl
    exact h token entry List.mem_cons_self
  · rintro ⟨hfirst, hrest⟩ other entry hmem
    rcases List.mem_cons.mp hmem with heq | hmem
    · exact hfirst entry (Prod.mk.inj heq).2.symm
    · exact hrest other entry hmem

theorem bounded_nil : Bounded [] := nofun

end PriceList

end ChainAlerts
