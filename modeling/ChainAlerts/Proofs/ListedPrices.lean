import ChainAlerts.Proofs.DecimalOrder
import ChainAlerts.Proofs.PriceEntries

/-! The price that is known of a token after payloads have been loaded one after another. The last payload that could be
loaded decides. A price that is known is above zero, and the native token has the price of the wrapped one; where the
entry's price is no number, asking for it fails. -/

namespace ChainAlerts.PriceList

variable {current prices : PriceList} {fields : List (String × Json)} {token : String} {info : TokenInfo}

/-- The list after a payload. One that cannot be loaded leaves it as it is. -/
def after (current : PriceList) (fields : List (String × Json)) : PriceList :=
  match current.load (.obj fields) with
  | .ok (_, prices) => prices
  | .error _ => current

/-- The list after some payloads, the first of which finds none. -/
def afterAll (payloads : List (List (String × Json))) : PriceList := payloads.foldl after []

/-- A payload that takes effect: at least one of its entries is well-formed and none makes it fail. -/
def Effective (fields : List (String × Json)) : Prop := Bounded fields ∧ ∃ token info, States fields token info

theorem lists_after (current : PriceList) (hkeys : (Assoc.keys fields).Nodup) (h : Effective fields) :
    Lists fields (current.after fields) := by
  obtain ⟨hbounded, token, info, hstated⟩ := h
  obtain ⟨outcome, hload, hloads⟩ := load_of_bounded current hkeys hbounded
  rw [after, hload]
  cases hloads with
  | kept hnone => exact absurd hstated (hnone token info)
  | listed _ hlists => exact hlists

theorem after_of_not_effective (hkeys : (Assoc.keys fields).Nodup) (h : ¬Effective fields) :
    current.after fields = current := by
  rw [after]
  by_cases hbounded : Bounded fields
  · obtain ⟨outcome, hload, hloads⟩ := load_of_bounded current hkeys hbounded
    rw [hload]
    cases hloads with
    | kept => rfl
    | @listed token info _ hstated => exact absurd ⟨hbounded, token, info, hstated⟩ h
  · rw [load_of_not_bounded current hbounded]

/-- Payloads without effect leave the list as it is. -/
theorem foldl_after_of_not_effective {payloads : List (List (String × Json))}
    (hkeys : ∀ fields ∈ payloads, (Assoc.keys fields).Nodup) (h : ∀ fields ∈ payloads, ¬Effective fields) :
    payloads.foldl after current = current := by
  induction payloads with
  | nil => rfl
  | cons fields rest ih =>
      obtain ⟨hfirst, hrest⟩ := List.forall_mem_cons.mp hkeys
      obtain ⟨hnot, hnots⟩ := List.forall_mem_cons.mp h
      rw [List.foldl_cons, after_of_not_effective hfirst hnot, ih hrest hnots]

/-- The last payload with an effect is the one that is listed. -/
theorem lists_afterAll {before later : List (List (String × Json))}
    (hkeys : ∀ payload ∈ before ++ fields :: later, (Assoc.keys payload).Nodup) (h : Effective fields)
    (hlater : ∀ payload ∈ later, ¬Effective payload) : Lists fields (afterAll (before ++ fields :: later)) := by
  obtain ⟨-, hkeys⟩ := List.forall_mem_append.mp hkeys
  obtain ⟨hfields, hkeys⟩ := List.forall_mem_cons.mp hkeys
  rw [afterAll, List.foldl_append, List.foldl_cons, foldl_after_of_not_effective hkeys hlater]
  exact lists_after _ hfields h

/-! What is known of a price that is listed. -/

theorem price_of_nan (h : Assoc.get? token prices = some info) (hnan : info.price.isNan) :
    prices.price token = .error (.arithmetic .invalid) := by
  have hle : info.price.isNonpositive = .error .invalid := by
    rw [Decimal.isNonpositive, Decimal.le, hnan, Bool.true_or, if_pos rfl]
  rw [price, h]
  simp only [hle]

theorem price_of_not_nan (h : Assoc.get? token prices = some info) (hnan : info.price.isNan = false) :
    prices.price token = .ok (if 0 < info.price.rank then some info.price else none) := by
  have hzero : (Decimal.ofNat 0).rank = 0 := by simp [Decimal.ofNat, Decimal.rank]
  have hle : info.price.isNonpositive = .ok (decide (info.price.rank ≤ 0)) := by
    rw [Decimal.isNonpositive, Decimal.le_eq_ok hnan rfl, hzero]
  rw [price, h]
  by_cases hpositive : 0 < info.price.rank
  · simp only [hle, decide_eq_false (not_le.mpr hpositive), if_pos hpositive]
  · simp only [hle, decide_eq_true (not_lt.mp hpositive), if_neg hpositive]

/-- A price that is known is a number above zero. -/
theorem positive_of_price {d : Decimal} (h : prices.price token = .ok (some d)) : d.isNan = false ∧ 0 < d.rank := by
  cases hfound : Assoc.get? token prices with
  | none => simp [price, hfound] at h
  | some info =>
      cases hnan : info.price.isNan with
      | true =>
          rw [price_of_nan hfound hnan] at h
          cases h
      | false =>
          rw [price_of_not_nan hfound hnan] at h
          by_cases hpositive : 0 < info.price.rank
          · rw [if_pos hpositive] at h
            obtain rfl := Option.some.inj (Except.ok.inj h)
            exact ⟨hnan, hpositive⟩
          · rw [if_neg hpositive] at h
            cases Except.ok.inj h

/-- After any payloads, a price that is known is a number above zero. The prices are those that the last payload with an
effect enters: what is not entered or not above zero is not known, the native token has the price of the wrapped one,
and asking for a price that is entered and no number fails. -/
theorem price_unknown_or_positive (payloads : List (List (String × Json)))
    (hkeys : ∀ fields ∈ payloads, (Assoc.keys fields).Nodup) :
    (∀ token d, (afterAll payloads).price token = .ok (some d) → d.isNan = false ∧ 0 < d.rank) ∧
    ((∀ fields ∈ payloads, ¬Effective fields) → ∀ token, (afterAll payloads).price token = .ok none) ∧
    ∀ (before : List (List (String × Json))) (fields : List (String × Json)) (later : List (List (String × Json))),
      payloads = before ++ fields :: later → Effective fields → (∀ payload ∈ later, ¬Effective payload) →
      (∀ token, (∀ info, ¬Enters fields token info) → (afterAll payloads).price token = .ok none) ∧
      (∀ token info, Enters fields token info → info.price.isNan →
        (afterAll payloads).price token = .error (.arithmetic .invalid)) ∧
      (∀ token info, Enters fields token info → info.price.isNan = false →
        (afterAll payloads).price token = .ok (if 0 < info.price.rank then some info.price else none)) ∧
      ∀ info, States fields wrappedNear info →
        (afterAll payloads).price nativeNear = (afterAll payloads).price wrappedNear := by
  refine ⟨fun _ _ => positive_of_price, fun hnone token => ?_, ?_⟩
  · rw [afterAll, foldl_after_of_not_effective hkeys hnone]
    rfl
  · rintro before fields later rfl heffective hlater
    have hlists := lists_afterAll hkeys heffective hlater
    refine ⟨fun token hnot => ?_, fun token info henters => price_of_nan ((hlists.entry token info).mpr henters),
      fun token info henters => price_of_not_nan ((hlists.entry token info).mpr henters), fun info hwrapped => ?_⟩
    · cases hfound : Assoc.get? token (afterAll (before ++ fields :: later)) with
      | none => rw [price, hfound]
      | some info => exact absurd ((hlists.entry token info).mp hfound) (hnot info)
    · have hown := (hlists.entry wrappedNear info).mpr (Enters.own hwrapped fun heq => absurd heq (by decide))
      have hnative := (hlists.entry nativeNear info).mpr (Enters.mirrored hwrapped)
      rw [price, price, hown, hnative]

theorem price_unknown_or_positive_wrapped :
    let fields := [
      (wrappedNear, .obj (entryOf (.str "5.1") (.int 24))), ("a.near", .obj (entryOf (.str "0E-3") (.int 2)))]
    let prices := afterAll [fields]
    prices.price nativeNear = prices.price wrappedNear ∧ prices.price "a.near" = .ok none := by
  intro fields prices
  have hbounded : Bounded fields := by
    refine bounded_cons.mpr ⟨?_, bounded_cons.mpr ⟨?_, bounded_nil⟩⟩
    · rintro _ ⟨⟩
      exact not_boundless_entryOf _ 24
    · rintro _ ⟨⟩
      exact not_boundless_entryOf _ 2
  have hwrapped : States fields wrappedNear ⟨wrappedNear, .finite false 51 (-1), ⟨"Shitzu", "SHIT", 24⟩, 0, 0⟩ :=
    ⟨_, rfl, stated_entryOf wrappedNear rfl 24⟩
  have hzero : States fields "a.near" ⟨"a.near", .finite false 0 (-3), ⟨"Shitzu", "SHIT", 2⟩, 0, 0⟩ :=
    ⟨_, rfl, stated_entryOf "a.near" rfl 2⟩
  obtain ⟨-, -, hlast⟩ := price_unknown_or_positive [fields] (by decide)
  obtain ⟨-, -, hnumber, hmirrored⟩ := hlast [] fields [] rfl ⟨hbounded, _, _, hwrapped⟩ nofun
  refine ⟨hmirrored _ hwrapped, ?_⟩
  rw [hnumber "a.near" _ (Enters.own hzero fun heq => absurd heq (by decide)) rfl, if_neg (by simp [Decimal.rank])]

/-- A price that is no number is listed, and asking for it fails. -/
theorem no_answer_for_nan_price :
    let fields := [("x.near", .obj (entryOf (.str "NaN") (.int 2)))]
    (Assoc.keys fields).Nodup ∧ (afterAll [fields]).price "x.near" = .error (.arithmetic .invalid) := by
  intro fields
  have hbounded : Bounded fields := by
    refine bounded_cons.mpr ⟨?_, bounded_nil⟩
    rintro _ ⟨⟩
    exact not_boundless_entryOf _ 2
  have hstated : States fields "x.near" ⟨"x.near", .nan false false 0, ⟨"Shitzu", "SHIT", 2⟩, 0, 0⟩ :=
    ⟨_, rfl, stated_entryOf "x.near" rfl 2⟩
  have hlists : Lists fields (afterAll [fields]) := lists_after [] (by decide) ⟨hbounded, _, _, hstated⟩
  have henters := Enters.own hstated fun heq => absurd heq (by decide)
  exact ⟨by decide, price_of_nan ((hlists.entry "x.near" _).mpr henters) rfl⟩

end ChainAlerts.PriceList
