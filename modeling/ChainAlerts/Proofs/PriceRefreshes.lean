import ChainAlerts.Pipeline
import ChainAlerts.Proofs.JsonDocument
import ChainAlerts.Proofs.PriceEntries

/-! The price list that is fetched again and again. What an answer does to the list, what a number of answers do one
after another, and which answer ends the fetching. -/

namespace ChainAlerts

open PriceList

namespace WebResponse

/-- The value that an answer holds, if it holds one that can be read. -/
def body? : WebResponse → Option Json
  | .value body => some body
  | .text s => (Json.decode s).toOption
  | _ => none

/-- An answer as the service gives it: nothing unforeseen happens on the way, and the keys of an object differ. -/
structure IsOrderly (r : WebResponse) : Prop where
  foreseen (text : String) : r ≠ .crashed text
  keys (fields : List (String × Json)) : r = .value (.obj fields) → (Assoc.keys fields).Nodup

/-- No entry of an answer has an infinite number of decimals. -/
def IsBounded (r : WebResponse) : Prop := ∀ fields, r.body? = some (.obj fields) → Bounded fields

theorem IsOrderly.nodup_keys {r : WebResponse} (hr : r.IsOrderly) {fields : List (String × Json)}
    (h : r.body? = some (.obj fields)) : (Assoc.keys fields).Nodup := by
  cases r with
  | value body => exact hr.keys fields (congrArg WebResponse.value (Option.some.inj h))
  | text s =>
      rw [body?] at h
      cases hdecode : Json.decode s with
      | ok body =>
          rw [hdecode] at h
          obtain rfl := Option.some.inj h
          exact Json.nodup_keys_of_decode hdecode
      | error f =>
          rw [hdecode] at h
          cases h
  | _ => cases h

end WebResponse

/-- What fetching the list comes to. It is loaded, or the oracle's own error is raised and the list stays; an entry with
an infinite number of decimals is a fault, and the list stays as well. -/
inductive Fetched (r : WebResponse) (current : PriceList) : Except OracleFailure (Nat × PriceList) → Prop
  | loaded {fields : List (String × Json)} {outcome : Nat × PriceList} (h : r.body? = some (.obj fields))
      (hbounded : Bounded fields) (hloads : Loads current fields outcome) : Fetched r current (.ok outcome)
  | refused {e : OracleError} (h : ∀ fields, r.body? ≠ some (.obj fields)) : Fetched r current (.error (.oracle e))
  | broken {fields : List (String × Json)} (h : r.body? = some (.obj fields)) (hbounded : ¬Bounded fields) :
      Fetched r current (.error (.fault .infinityToInteger))

/-- Using a value as the list that it holds. -/
theorem fetched_load {r : WebResponse} {fields : List (String × Json)} (hr : r.IsOrderly)
    (h : r.body? = some (.obj fields)) (current : PriceList) :
    Fetched r current ((current.load (.obj fields)).mapError .fault) := by
  by_cases hbounded : Bounded fields
  · obtain ⟨outcome, hload, hloads⟩ := load_of_bounded current (hr.nodup_keys h) hbounded
    rw [hload]
    exact Fetched.loaded h hbounded hloads
  · rw [load_of_not_bounded current hbounded]
    exact Fetched.broken h hbounded

/-- A value that can be read is used as the list if it is an object, and is no list otherwise. -/
theorem fetched_body {r : WebResponse} {body : Json} (hr : r.IsOrderly) (current : PriceList) :
    r.body? = some body → Fetched r current (match body with
      | .obj _ => (current.load body).mapError .fault
      | _ => .error (.oracle .notObject)) := by
  intro h
  cases body with
  | obj fields => exact fetched_load hr h current
  | _ => exact Fetched.refused fun fields hfields => by cases h.symm.trans hfields

theorem fetched_refresh {o : Oracle} {net net' : Net} {r : WebResponse} (hask : net.ask (.list o.url) = (r, net'))
    (hr : r.IsOrderly) (current : PriceList) :
    ∃ result, (o.refresh current).run net = (result, net') ∧ Fetched r current result := by
  rw [StateT.run, Oracle.refresh, hask]
  cases r with
  | failed text => exact ⟨_, rfl, Fetched.refused fun _ hfields => by cases hfields⟩
  | timedOut text => exact ⟨_, rfl, Fetched.refused fun _ hfields => by cases hfields⟩
  | crashed text => exact absurd rfl (hr.foreseen text)
  | value body => exact ⟨_, rfl, fetched_body hr current rfl⟩
  | text s =>
      cases hdecode : Json.decode s with
      | ok body =>
          simp only [hdecode]
          exact ⟨_, rfl, fetched_body hr current (by rw [WebResponse.body?, hdecode]; rfl)⟩
      | error f =>
          simp only [hdecode]
          refine ⟨_, rfl, Fetched.refused fun fields hfields => ?_⟩
          rw [WebResponse.body?, hdecode] at hfields
          cases hfields

/-- What one answer does to the list and to the count of failures: the list is loaded, or the failure is counted. -/
inductive Turned (r : WebResponse) : PriceList × Nat → PriceList × Nat → Prop
  | loaded {fields : List (String × Json)} {prices prices' : PriceList} {count failures : Nat}
      (h : r.body? = some (.obj fields)) (hloads : Loads prices fields (count, prices')) :
      Turned r (prices, failures) (prices', failures)
  | refused {prices : PriceList} {failures : Nat} (h : ∀ fields, r.body? ≠ some (.obj fields)) :
      Turned r (prices, failures) (prices, failures + 1)

/-- What a number of answers do one after another. -/
inductive Kept : List WebResponse → PriceList × Nat → PriceList × Nat → Prop
  | done (state : PriceList × Nat) : Kept [] state state
  | turn {r : WebResponse} {script : List WebResponse} {start mid final : PriceList × Nat} (h : Turned r start mid)
      (hrest : Kept script mid final) : Kept (r :: script) start final

namespace Pipeline

/-- Keeps the list up to date for a number of turns. A failure of the oracle is counted; any other ends it. -/
def keepPrices : Nat → Pipeline → Option OracleFailure × Pipeline
  | 0, p => (none, p)
  | turns + 1, p =>
    match fetchPrices p with
    | (none, p) => keepPrices turns p
    | (some (.oracle _), p) => keepPrices turns { p with refreshFailures := p.refreshFailures + 1 }
    | (some cause, p) => (some cause, p)

/-- Its first turn is what the service does when its background gets a turn. -/
theorem keepPrices_one (p : Pipeline) : (keepPrices 1 p).2 = p.refreshPrices := by
  rw [keepPrices, refreshPrices]
  rcases fetchPrices p with ⟨failure, p'⟩
  cases failure with
  | none => rfl
  | some cause => cases cause <;> rfl

/-- The list and the count of failures. -/
def upkeep (p : Pipeline) : PriceList × Nat := (p.hub.surroundings.prices, p.refreshFailures)

/-- The service that lists prices answers the next requests from a queue. -/
structure Awaits (p : Pipeline) (queue : List WebResponse) : Prop where
  unlisted : p.hub.surroundings.net.web.listing = none
  queue : p.hub.surroundings.net.web.queue = queue

variable {p : Pipeline} {r : WebResponse} {script rest : List WebResponse}

/-- One request takes one answer from the queue. -/
theorem exists_ask (h : p.Awaits (r :: rest)) (url : String) :
    ∃ net, p.hub.surroundings.net.ask (.list url) = (r, net) ∧ net.web.listing = none ∧ net.web.queue = rest := by
  refine ⟨(p.hub.surroundings.net.ask (.list url)).2, ?_⟩
  simp [Net.ask, Web.answer, h.unlisted, Web.next, h.queue]

/-- What a turn of fetching comes to. A fetched list replaces the one there is, and nothing else replaces it. -/
inductive Fetches (p : Pipeline) (r : WebResponse) : Option OracleFailure → Pipeline → Prop
  | loaded {p' : Pipeline} (hbounded : r.IsBounded) (hturned : Turned r p.upkeep p'.upkeep) : Fetches p r none p'
  | refused {p' : Pipeline} {e : OracleError} (hbody : ∀ fields, r.body? ≠ some (.obj fields))
      (hkept : p'.upkeep = p.upkeep) : Fetches p r (some (.oracle e)) p'
  | broken {p' : Pipeline} (hbounded : ¬r.IsBounded) (hkept : p'.upkeep = p.upkeep) :
      Fetches p r (some (.fault .infinityToInteger)) p'

theorem exists_fetchPrices (h : p.Awaits (r :: rest)) (hr : r.IsOrderly) :
    ∃ failure p', fetchPrices p = (failure, p') ∧ p'.Awaits rest ∧ Fetches p r failure p' := by
  obtain ⟨net, hask, hunlisted, hqueue⟩ := exists_ask h (oracle p.settings).url
  obtain ⟨result, hrefresh, hfetched⟩ := fetched_refresh (o := oracle p.settings) hask hr p.hub.surroundings.prices
  rw [fetchPrices, hrefresh]
  cases hfetched with
  | @loaded fields outcome hbody hbounded hloads =>
      refine ⟨none, _, rfl, ⟨hunlisted, hqueue⟩, .loaded (fun other hother => ?_) (Turned.loaded hbody hloads)⟩
      obtain rfl := Json.obj.inj (Option.some.inj (hbody.symm.trans hother))
      exact hbounded
  | refused hbody => exact ⟨_, _, rfl, ⟨hunlisted, hqueue⟩, .refused hbody rfl⟩
  | broken hbody hbounded => exact ⟨_, _, rfl, ⟨hunlisted, hqueue⟩, .broken (fun h => hbounded (h _ hbody)) rfl⟩

/-- A turn with an answer whose entries are bounded goes on, with the list that the answer leaves. -/
theorem keepPrices_turn (turns : Nat) (h : p.Awaits (r :: rest)) (hr : r.IsOrderly) (hbounded : r.IsBounded) :
    ∃ p', keepPrices (turns + 1) p = keepPrices turns p' ∧ p'.Awaits rest ∧ Turned r p.upkeep p'.upkeep := by
  obtain ⟨failure, p', hfetch, hawaits, hfetches⟩ := exists_fetchPrices h hr
  rw [keepPrices, hfetch]
  cases hfetches with
  | loaded _ hturned => exact ⟨p', rfl, hawaits, hturned⟩
  | refused hbody hkept =>
      refine ⟨{ p' with refreshFailures := p'.refreshFailures + 1 }, rfl, ⟨hawaits.unlisted, hawaits.queue⟩, ?_⟩
      obtain ⟨hprices, hfailures⟩ := Prod.mk.inj hkept
      rw [upkeep, upkeep, hprices, hfailures]
      exact Turned.refused hbody
  | broken hnot => exact absurd hbounded hnot

/-- A turn with an answer that has an infinite number of decimals is the last. -/
theorem keepPrices_broken (turns : Nat) (h : p.Awaits (r :: rest)) (hr : r.IsOrderly) (hbounded : ¬r.IsBounded) :
    ∃ p', keepPrices (turns + 1) p = (some (.fault .infinityToInteger), p') ∧ p'.Awaits rest ∧
      p'.upkeep = p.upkeep := by
  obtain ⟨failure, p', hfetch, hawaits, hfetches⟩ := exists_fetchPrices h hr
  rw [keepPrices, hfetch]
  cases hfetches with
  | loaded hbounds => exact absurd hbounds hbounded
  | refused hbody => exact absurd (fun fields hfields => absurd hfields (hbody fields)) hbounded
  | broken _ hkept => exact ⟨p', rfl, hawaits, hkept⟩

/-- A number of turns with bounded answers, and more after them. -/
theorem keepPrices_script (more : Nat) (h : p.Awaits (script ++ rest)) (hscript : ∀ r ∈ script, r.IsOrderly)
    (hbounded : ∀ r ∈ script, r.IsBounded) :
    ∃ p', keepPrices (script.length + more) p = keepPrices more p' ∧ p'.Awaits rest ∧
      Kept script p.upkeep p'.upkeep := by
  induction script generalizing p with
  | nil => exact ⟨p, by rw [List.length_nil, Nat.zero_add], h, Kept.done _⟩
  | cons r script ih =>
      obtain ⟨horderly, hscript⟩ := List.forall_mem_cons.mp hscript
      obtain ⟨hfirst, hbounded⟩ := List.forall_mem_cons.mp hbounded
      obtain ⟨mid, hturn, hawaits, hturned⟩ := keepPrices_turn (script.length + more) h horderly hfirst
      obtain ⟨p', hrun, hleft, hkept⟩ := ih hawaits hscript hbounded
      refine ⟨p', ?_, hleft, Kept.turn hturned hkept⟩
      rw [List.length_cons, Nat.add_right_comm, hturn, hrun]

/-- A payload is loaded entry by entry, whatever its entries are, unless one has an infinite number of decimals: then
loading fails. The list is kept up to date in the same way, one answer after another, until an answer has such an
entry, which ends it. -/
theorem prices_kept_up (current : PriceList) (fields : List (String × Json)) (p : Pipeline)
    (script rest : List WebResponse) :
    ((Assoc.keys fields).Nodup →
      (Bounded fields → ∃ outcome, current.load (.obj fields) = .ok outcome ∧ Loads current fields outcome) ∧
      (¬Bounded fields → current.load (.obj fields) = .error .infinityToInteger)) ∧
    (p.Awaits (script ++ rest) → (∀ r ∈ script, r.IsOrderly) →
      ((∀ r ∈ script, r.IsBounded) →
        ∃ p', p.keepPrices script.length = (none, p') ∧ p'.Awaits rest ∧ Kept script p.upkeep p'.upkeep) ∧
      ∀ (before : List WebResponse) (r : WebResponse) (after : List WebResponse), script = before ++ r :: after →
        (∀ r ∈ before, r.IsBounded) → ¬r.IsBounded →
        ∃ p', p.keepPrices script.length = (some (.fault .infinityToInteger), p') ∧ p'.Awaits (after ++ rest) ∧
          Kept before p.upkeep p'.upkeep) := by
  refine ⟨fun hkeys => ⟨load_of_bounded current hkeys, load_of_not_bounded current⟩, fun hawaits horderly => ?_⟩
  refine ⟨fun hbounded => keepPrices_script 0 hawaits horderly hbounded, ?_⟩
  rintro before r after rfl hbefore hr
  obtain ⟨hordinary, hlast⟩ := List.forall_mem_append.mp horderly
  obtain ⟨mid, hrun, hmid, hkept⟩ :=
    keepPrices_script (after.length + 1) (by rwa [List.append_assoc] at hawaits) hordinary hbefore
  obtain ⟨p', hend, hleft, hsame⟩ := keepPrices_broken after.length hmid (hlast r List.mem_cons_self) hr
  refine ⟨p', ?_, hleft, by rw [hsame]; exact hkept⟩
  rw [List.length_append, List.length_cons, hrun, hend]

/-- A pipeline to which these answers come. -/
def answered (queue : List WebResponse) : Pipeline :=
  { settings := { databaseUrl := "" }, hub := { surroundings := { net := { web := { queue } } } } }

/-- A price list with one entry that has an infinite number of decimals. -/
def brokenList : List (String × Json) := [("y.near", .obj (entryOf (.str "0.02") (.float (.infinite false))))]

theorem not_bounded_append_broken (fields : List (String × Json)) : ¬Bounded (fields ++ brokenList) := fun hbounded =>
  hbounded "y.near" _ (List.mem_append_right fields List.mem_cons_self)
    (boundless_entryOf (d := .finite false 2 (-2)) rfl false)

theorem isOrderly_value {fields : List (String × Json)} (h : (Assoc.keys fields).Nodup) :
    (WebResponse.value (.obj fields)).IsOrderly := by
  refine ⟨nofun, fun other hother => ?_⟩
  obtain rfl := Json.obj.inj (WebResponse.value.inj hother)
  exact h

theorem prices_kept_up_three_answers :
    let fields := [("shit.near", .obj (entryOf (.str "0.02") (.int 18))), ("x.near", .null)]
    let p := answered [.failed "down", .value (.obj fields), .value (.obj brokenList)]
    (∃ outcome, PriceList.load [] (.obj fields) = .ok outcome ∧ Loads [] fields outcome) ∧
      PriceList.load [] (.obj brokenList) = .error .infinityToInteger ∧
      (∃ p', p.keepPrices 2 = (none, p') ∧ p'.Awaits [.value (.obj brokenList)] ∧
        Kept [.failed "down", .value (.obj fields)] p.upkeep p'.upkeep) ∧
      ∃ p', p.keepPrices 3 = (some (.fault .infinityToInteger), p') ∧ p'.Awaits [] ∧
        Kept [.failed "down", .value (.obj fields)] p.upkeep p'.upkeep := by
  intro fields p
  have hfirst : ∀ r ∈ [WebResponse.failed "down", .value (.obj fields)], r.IsOrderly :=
    List.forall_mem_cons.mpr ⟨⟨nofun, nofun⟩, List.forall_mem_singleton.mpr (isOrderly_value (by decide))⟩
  have hbroken : (WebResponse.value (.obj brokenList)).IsOrderly := isOrderly_value (by decide)
  have hentry : Bounded fields := by
    refine bounded_cons.mpr ⟨?_, bounded_cons.mpr ⟨nofun, bounded_nil⟩⟩
    rintro _ ⟨⟩
    exact not_boundless_entryOf _ 18
  have hbounded : ∀ r ∈ [WebResponse.failed "down", .value (.obj fields)], r.IsBounded := by
    refine List.forall_mem_cons.mpr ⟨nofun, List.forall_mem_singleton.mpr fun other hother => ?_⟩
    obtain rfl := Json.obj.inj (Option.some.inj hother)
    exact hentry
  have hnot : ¬Bounded brokenList := not_bounded_append_broken []
  obtain ⟨hload, hfetch⟩ := prices_kept_up [] fields p [.failed "down", .value (.obj fields)] [.value (.obj brokenList)]
  obtain ⟨hfail, hrun⟩ := prices_kept_up [] brokenList p
    ([.failed "down", .value (.obj fields)] ++ [.value (.obj brokenList)]) []
  obtain ⟨-, hend⟩ := hrun ⟨rfl, rfl⟩ (List.forall_mem_append.mpr ⟨hfirst, List.forall_mem_singleton.mpr hbroken⟩)
  exact ⟨(hload (by decide)).1 hentry, (hfail (by decide)).2 hnot, (hfetch ⟨rfl, rfl⟩ hfirst).1 hbounded,
    hend _ _ [] rfl hbounded fun h => hnot (h brokenList rfl)⟩

/-- An entry with an infinite number of decimals keeps the entries beside it from being listed, and ends the
fetching. -/
theorem infinite_decimals_end_upkeep :
    let fields := [("b.near", .obj (entryOf (.str "0.02") (.int 2)))] ++ brokenList
    (Assoc.keys fields).Nodup ∧ (∃ info, States fields "b.near" info) ∧
      PriceList.load [] (.obj fields) = .error .infinityToInteger ∧
      ((answered [.value (.obj fields)]).keepPrices 1).1 = some (.fault .infinityToInteger) := by
  intro fields
  have hkeys : (Assoc.keys fields).Nodup := by decide
  have hnot : ¬Bounded fields := not_bounded_append_broken _
  obtain ⟨p', hrun, -⟩ := keepPrices_broken (p := answered [.value (.obj fields)]) 0 ⟨rfl, rfl⟩ (isOrderly_value hkeys)
    fun h => hnot (h fields rfl)
  exact ⟨hkeys, ⟨_, _, rfl, stated_entryOf "b.near" (d := .finite false 2 (-2)) rfl 2⟩, load_of_not_bounded [] hnot,
    by rw [hrun]⟩

end Pipeline

end ChainAlerts
