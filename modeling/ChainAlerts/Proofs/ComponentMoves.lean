import Mathlib.Data.List.InsertIdx
import Mathlib.Data.List.Perm.Basic
import ChainAlerts.Proofs.AlikePayloads
import ChainAlerts.Proofs.BookCalls
import ChainAlerts.Proofs.LaunchedAccounts

/-! Moving a component of a notification up or down. The component comes to stand at the place asked for, or at the
end of the list that this is beyond; the others close up and keep their order, so moving it back restores the list.
The stored record changes in nothing but this list, whatever payload it was kept as, and a place that is not there is
refused before anything is stored. -/

namespace ChainAlerts

namespace Component

variable {components : List Component} {position offset : Int}

/-- Where a component of a list of some length goes: the place asked for, if that is not beyond an end. -/
def landing (count position offset : Int) : Int := max 0 (min (count - 1) (position + offset))

theorem landing_mem (offset : Int) (h : 0 ≤ position) (hlt : position < components.length) :
    0 ≤ landing components.length position offset ∧ landing components.length position offset < components.length := by
  unfold landing
  omega

theorem landing_of_mem {count : Int} (h : 0 ≤ position + offset) (hlt : position + offset < count) :
    landing count position offset = position + offset := by
  unfold landing
  omega

/-- A component is moved by taking it out and putting it in at its new place. -/
theorem move?_of_mem (offset : Int) (h : 0 ≤ position) (hlt : position.toNat < components.length) :
    move? components position offset = some ((components.eraseIdx position.toNat).insertIdx
      (landing components.length position offset).toNat components[position.toNat]) := by
  rw [move?, List.getElem?_eq_getElem hlt]
  simp only [landing, if_neg (Int.not_lt.mpr h)]

theorem move?_of_not_mem (offset : Int) (h : ¬(0 ≤ position ∧ position < components.length)) :
    move? components position offset = none := by
  rw [move?]
  split
  next c hfound =>
    have hlt := (List.getElem?_eq_some_iff.mp hfound).1
    rw [if_pos (by omega)]
  · rfl

/-- What a list is after one of its components was moved from one place to another. -/
structure MovedTo (components : List Component) (source target : Nat) (moved : List Component) : Prop where
  perm : moved.Perm components
  place : moved[target]? = components[source]?
  others : moved.eraseIdx target = components.eraseIdx source

theorem movedTo_of_move? {moved : List Component} (h : 0 ≤ position) (hlt : position < components.length)
    (hmoved : move? components position offset = some moved) :
    MovedTo components position.toNat (landing components.length position offset).toNat moved := by
  obtain ⟨hlanding, hlast⟩ := landing_mem offset h hlt
  have hsource : position.toNat < components.length := by omega
  have hlength : (components.eraseIdx position.toNat).length = components.length - 1 :=
    List.length_eraseIdx_of_lt hsource
  have htarget : (landing components.length position offset).toNat ≤ (components.eraseIdx position.toNat).length := by
    omega
  rw [move?_of_mem offset h hsource] at hmoved
  obtain rfl := Option.some.inj hmoved
  refine ⟨?_, ?_, List.eraseIdx_insertIdx_self _⟩
  · calc List.Perm _ (components[position.toNat] :: components.eraseIdx position.toNat) :=
          List.perm_insertIdx _ _ htarget
      List.Perm _ components := List.getElem_cons_eraseIdx_perm hsource
  · rw [List.getElem?_insertIdx_self, if_pos htarget, List.getElem?_eq_getElem hsource]

/-- Moving a component back restores the list, if it went where it was asked to go. -/
theorem move?_back {moved : List Component} (h : 0 ≤ position) (hlt : position < components.length)
    (htarget : 0 ≤ position + offset) (hinside : position + offset < components.length)
    (hmoved : move? components position offset = some moved) :
    move? moved (position + offset) (-offset) = some components := by
  obtain ⟨hperm, hplace, hothers⟩ := movedTo_of_move? h hlt hmoved
  rw [landing_of_mem htarget hinside] at hplace hothers
  have hlength := hperm.length_eq
  have hsource : (position + offset).toNat < moved.length := by omega
  have hinitial : position.toNat < components.length := by omega
  have hback : landing moved.length (position + offset) (-offset) = position := by
    unfold landing
    omega
  have hcomponent : moved[(position + offset).toNat] = components[position.toNat] := by
    rw [List.getElem?_eq_getElem hsource, List.getElem?_eq_getElem hinitial] at hplace
    exact Option.some.inj hplace
  rw [move?_of_mem (-offset) htarget hsource, hback, hothers, hcomponent]
  exact congrArg some (List.insertIdx_eraseIdx_getElem hinitial)

end Component

namespace Assoc

variable {κ ν : Type} [DecidableEq κ]

@[simp] theorem put_put (key : κ) (first second : ν) (table : List (κ × ν)) :
    put key second (put key first table) = put key second table := by
  induction table with
  | nil => simp [put]
  | cons entry rest ih =>
      by_cases heq : entry.1 = key
      · simp [put, heq]
      · simp [put, heq, ih]

/-- A value that is put under a key that is there takes the place of the one before. -/
theorem exists_put_eq {key : κ} {old : ν} {table : List (κ × ν)} (h : get? key table = some old) :
    ∃ before after, table = before ++ (key, old) :: after ∧
      ∀ value, put key value table = before ++ (key, value) :: after := by
  induction table with
  | nil => cases h
  | cons entry rest ih =>
      rw [get?] at h
      split at h
      next heq =>
        obtain rfl := Option.some.inj h
        refine ⟨[], rest, by rw [← heq]; rfl, fun value => ?_⟩
        rw [put, if_pos heq]
        rfl
      next hne =>
        obtain ⟨before, after, rfl, hput⟩ := ih h
        refine ⟨entry :: before, after, rfl, fun value => ?_⟩
        rw [put, if_neg hne, hput]
        rfl

end Assoc

namespace Subscriptions

open Store

variable {bot chat : Int} {token : Token} {db : Database} {shelf : Shelf} {s r : Subscriber} {settings : Subscription}

/-- A chat's record is read from its row, in a database that serves its bot. -/
theorem row_of_recordOf (h : recordOf bot chat db = .ok (some s)) :
    db.Serves bot ∧ Database.fits chat ∧
      ∃ payload, Records.get? chat (rows bot db) = some payload ∧ Subscriber.ofJson payload = .ok s := by
  have hbegin : db.begin [bot, chat] = .ok () := by
    cases hbegin : db.begin [bot, chat] with
    | ok u => rfl
    | error e =>
        have hget : db.get (store bot).codec.collection (store bot).bot chat = .error e := by
          change db.get Subscriber.codec.collection bot chat = _
          rw [Database.get, hbegin]
          rfl
        rw [recordOf, hget] at h
        cases h
  have hserves : db.Serves bot := by
    rw [Database.begin] at hbegin
    split at hbegin
    · cases hbegin
    next hworks =>
      split at hbegin
      · cases hbegin
      next hschema =>
        split at hbegin
        next hfits =>
          simp only [List.all_cons, Bool.and_eq_true] at hfits
          exact ⟨hworks, by simpa using hschema, hfits.1⟩
        · cases hbegin
  exact ⟨hserves, (recordOf_eq_some_iff hserves).mp h⟩

/-- A change of a database that leaves every row but that of one chat of a bot. -/
def KeepsOthers (bot chat : Int) (db db' : Database) : Prop :=
  ∀ collection other place, (collection, other, place) ≠ (Subscriber.codec.collection, bot, chat) →
    Records.get? place (db'.records collection other) = Records.get? place (db.records collection other)

theorem keepsOthers_put (payload : Json) (db : Database) : KeepsOthers bot chat db
    (db.withRecords Subscriber.codec.collection bot ((rows bot db).put chat payload)) := by
  intro collection other place hne
  by_cases hown : collection = Subscriber.codec.collection ∧ other = bot
  · obtain ⟨rfl, rfl⟩ := hown
    have hplace : place ≠ chat := fun heq => hne (by rw [heq])
    rw [Database.records_withRecords]
    exact Records.get?_put_of_ne hplace _ _
  · rw [Database.records_withRecords_of_ne hown]

/-- Storing a record that has the tokens of the chat's old one in no other order: the record is then read from the
chat's row, whatever payload was in it. -/
theorem run_put_recorded (hrecord : recordOf bot chat shelf.database = .ok (some s)) (hr : r.WellFormed)
    (horder : r.tokens.Perm s.tokens → r.tokens = s.tokens) :
    ∃ database, (store bot).runAlone ((store bot).put chat r) shelf = (.ok (), { shelf with database }) ∧
      recordOf bot chat database = .ok (some r) ∧ KeepsOthers bot chat shelf.database database := by
  obtain ⟨hserves, hchat, payload, hrow, hread⟩ := row_of_recordOf hrecord
  have hbegin : shelf.database.begin [bot, chat] = .ok () := by
    rw [hserves.begin]
    simp [hchat]
  have hput : shelf.database.put Subscriber.codec.collection bot chat r.toJson = .ok (
      if Database.isStored (rows bot shelf.database) chat r.toJson then shelf.database
      else shelf.database.withRecords Subscriber.codec.collection bot
        ((rows bot shelf.database).put chat r.toJson)) := Database.put_obj hbegin
  refine ⟨_, run_put hr.writable hput, ?_⟩
  split
  next hstored =>
    -- the payload says the same, so it holds the new record already
    rw [Database.isStored, hrow] at hstored
    obtain ⟨old, hold, henabled, hperm⟩ := Subscriber.ofJson_of_alike hr hstored
    obtain rfl := Except.ok.inj (hread.symm.trans hold)
    have hsame : r = s := by
      cases r
      cases s
      exact congrArg₂ Subscriber.mk henabled.symm (horder hperm.symm)
    rw [hsame]
    exact ⟨hrecord, fun _ _ _ _ => rfl⟩
  · refine ⟨(recordOf_eq_some_iff (hserves.withRecords _ _)).mpr ⟨hchat, r.toJson, ?_, Subscriber.ofJson_toJson hr⟩,
      keepsOthers_put r.toJson shelf.database⟩
    rw [rows_withRecords]
    exact Records.get?_put_self chat _ _

section Update

variable {change : Subscription → Except SubscriptionError Subscription}
  (hrecord : recordOf bot chat shelf.database = .ok (some s)) (hsettings : Assoc.get? token s.tokens = some settings)

include hrecord hsettings

/-- A change of settings as an edit of the record that is there. -/
theorem run_update : (store bot).runAlone (update bot chat token change) shelf =
    match change settings with
    | .error cause => (.error cause, shelf)
    | .ok changed =>
      match (store bot).runAlone ((store bot).put chat (s.withToken token changed)) shelf with
      | (.error cause, shelf') => (.error (.store cause), shelf')
      | (.ok _, shelf') => (.ok changed, shelf') := by
  have hmap : (store bot).runAlone (edit bot chat none (changing chat token change)) shelf =
      (((store bot).runAlone ((store bot).edit chat none (changing chat token change)) shelf).1.mapError ofEdit,
        ((store bot).runAlone ((store bot).edit chat none (changing chat token change)) shelf).2) :=
    Task.run_map _ _ _ shelf
  have hread := hrecord
  rw [recordOf] at hread
  rw [update_eq, runAlone_ifOk, hmap, Store.run_edit, hread]
  simp only [Option.some_or, changing, hsettings]
  cases change settings with
  | error cause => rfl
  | ok changed =>
      simp only [Except.map]
      rcases (store bot).runAlone ((store bot).put chat (s.withToken token changed)) shelf with ⟨_ | u, shelf'⟩ <;> rfl

theorem run_update_refused {cause : SubscriptionError} (hchange : change settings = .error cause) :
    (store bot).runAlone (update bot chat token change) shelf = (.error cause, shelf) := by
  rw [run_update hrecord hsettings, hchange]

/-- A change of settings is found in the record afterwards, and nothing else is changed. -/
theorem run_update_stored (hs : s.WellFormed) {changed : Subscription} (hchange : change settings = .ok changed)
    (hproper : changed.Proper) (hwritable : changed.minAmount.isWritable) :
    ∃ database, (store bot).runAlone (update bot chat token change) shelf = (.ok changed, { shelf with database }) ∧
      recordOf bot chat database = .ok (some (s.withToken token changed)) ∧
      KeepsOthers bot chat shelf.database database := by
  have hentry := Subscriber.isWritable_iff.mp hs.writable _ (Assoc.mem_of_get? hsettings)
  have htoken := (hs.proper_of_get? hsettings).1
  obtain ⟨database, hput, hstored, hkept⟩ := run_put_recorded hrecord
    (hs.withSettings ⟨htoken, hentry.1⟩ ⟨hproper, hwritable⟩) (Assoc.put_eq_of_perm hs.tokens)
  refine ⟨database, ?_, hstored, hkept⟩
  rw [run_update hrecord hsettings, hchange]
  simp only [hput]

end Update

/-- The change of settings that a move asks for. -/
def moving (position offset : Int) (settings : Subscription) : Except SubscriptionError Subscription :=
  match Component.move? settings.components position offset with
  | some components => .ok { settings with components }
  | none => .error (.noComponent position)

theorem moving_eq_ok {position offset : Int} {components : List Component}
    (h : Component.move? settings.components position offset = some components) :
    moving position offset settings = .ok { settings with components } := by
  rw [moving, h]

/-- Settings that are moved can be stored as they could before. -/
theorem writable_of_moved {position offset : Int} {moved : List Component} (hs : s.WellFormed)
    (hsettings : Assoc.get? token s.tokens = some settings)
    (hmoved : Component.move? settings.components position offset = some moved) :
    ({ settings with components := moved } : Subscription).Proper ∧ settings.minAmount.isWritable := by
  have hproper := keepsProper_move position offset settings _ (hs.proper_of_get? hsettings).2 (moving_eq_ok hmoved)
  exact ⟨hproper, (Subscriber.isWritable_iff.mp hs.writable _ (Assoc.mem_of_get? hsettings)).2⟩

/-- A move within the list, as the record shows it afterwards. -/
theorem run_move {position offset : Int} {moved : List Component}
    (hrecord : recordOf bot chat shelf.database = .ok (some s)) (hs : s.WellFormed)
    (hsettings : Assoc.get? token s.tokens = some settings)
    (hmoved : Component.move? settings.components position offset = some moved) :
    ∃ database, (store bot).runAlone (moveComponent bot chat token position offset) shelf =
        (.ok { settings with components := moved }, { shelf with database }) ∧
      recordOf bot chat database = .ok (some (s.withToken token { settings with components := moved })) ∧
      KeepsOthers bot chat shelf.database database := by
  obtain ⟨hproper, hwritable⟩ := writable_of_moved hs hsettings hmoved
  exact run_update_stored hrecord hsettings hs (moving_eq_ok hmoved) hproper hwritable

/-- In a record that can be stored, a move is refused, and nothing stored, exactly if there is no component at the
position. Else the stored list is the old one with that component at the place asked for, or at the end that this is
beyond, and all others in their order; where it went as far as it was asked to, moving it back restores the list.
Nothing else is changed, neither in the record nor in any other row. -/
theorem moveComponent_rotates (bot chat : Int) (token : Token) (position offset : Int) {shelf : Shelf} {s : Subscriber}
    {settings : Subscription} (hrecord : recordOf bot chat shelf.database = .ok (some s)) (hwritable : s.isWritable)
    (hsettings : Assoc.get? token s.tokens = some settings) :
    let move (position offset : Int) (shelf : Shelf) :=
      (store bot).runAlone (moveComponent bot chat token position offset) shelf
    let n : Int := settings.components.length
    let target : Nat := (max 0 (min (n - 1) (position + offset))).toNat
    (move position offset shelf = (.error (.noComponent position), shelf) ↔ ¬(0 ≤ position ∧ position < n)) ∧
    (0 ≤ position ∧ position < n → ∃ (before after : List (Token × Subscription)) (moved : List Component)
        (database : Database),
      s.tokens = before ++ (token, settings) :: after ∧
      move position offset shelf = (.ok { settings with components := moved }, { shelf with database }) ∧
      recordOf bot chat database =
        .ok (some { s with tokens := before ++ (token, { settings with components := moved }) :: after }) ∧
      KeepsOthers bot chat shelf.database database ∧
      moved.Perm settings.components ∧ moved[target]? = settings.components[position.toNat]? ∧
      moved.eraseIdx target = settings.components.eraseIdx position.toNat ∧
      (0 ≤ position + offset ∧ position + offset < n → ∃ database' : Database,
        move (position + offset) (-offset) { shelf with database } =
          (.ok settings, { shelf with database := database' }) ∧
        recordOf bot chat database' = .ok (some s))) := by
  intro move n target
  obtain ⟨-, -, payload, -, hread⟩ := row_of_recordOf hrecord
  have hs := Subscriber.wellFormed_of_isWritable hread hwritable
  have hinside : 0 ≤ position ∧ position < n → ∃ moved,
      Component.move? settings.components position offset = some moved :=
    fun h => ⟨_, Component.move?_of_mem offset h.1 (by omega)⟩
  refine ⟨⟨fun hrefused h => ?_, fun h => ?_⟩, fun h => ?_⟩
  · obtain ⟨moved, hmoved⟩ := hinside h
    obtain ⟨database, hrun, -⟩ := run_move hrecord hs hsettings hmoved
    have hresult := congrArg Prod.fst (hrun.symm.trans hrefused)
    cases hresult
  · refine run_update_refused hrecord hsettings ?_
    show moving position offset settings = _
    rw [moving, Component.move?_of_not_mem offset h]
  · obtain ⟨moved, hmoved⟩ := hinside h
    obtain ⟨before, after, htokens, hput⟩ := Assoc.exists_put_eq hsettings
    obtain ⟨database, hrun, hstored, hkept⟩ := run_move hrecord hs hsettings hmoved
    obtain ⟨hperm, hplace, hothers⟩ := Component.movedTo_of_move? h.1 h.2 hmoved
    refine ⟨before, after, moved, database, htokens, hrun, ?_, hkept, hperm, hplace, hothers, fun hback => ?_⟩
    · rw [hstored, Subscriber.withToken, hput]
    · -- the second move starts from the record that the first one left
      have hentry := Subscriber.isWritable_iff.mp hs.writable _ (Assoc.mem_of_get? hsettings)
      have hrotated : (s.withToken token { settings with components := moved }).WellFormed :=
        hs.withSettings ⟨(hs.proper_of_get? hsettings).1, hentry.1⟩ (writable_of_moved hs hsettings hmoved)
      have hstart : recordOf bot chat ({ shelf with database } : Shelf).database =
          .ok (some (s.withToken token { settings with components := moved })) := hstored
      obtain ⟨database', hrun', hstored', -⟩ := run_move hstart hrotated (Assoc.get?_put_self token _ _)
        (Component.move?_back h.1 h.2 hback.1 hback.2 hmoved)
      refine ⟨database', hrun', ?_⟩
      rw [hstored', Subscriber.withToken, Subscriber.withToken, Assoc.put_put, Assoc.put_eq_self hsettings]

/-- A chat that follows one token, with three components. -/
def threeParts : Subscriber := { tokens := [(.fungible "a.near", { components := [.trader, .price, .txLink] })] }

theorem moveComponent_rotates_three :
    let shelf : Shelf := { database := { tables := [((Subscriber.codec.collection, 1), [(7, threeParts.toJson)])] } }
    let settings : Subscription := { components := [.trader, .price, .txLink] }
    let move (position offset : Int) (shelf : Shelf) :=
      (store 1).runAlone (moveComponent 1 7 (.fungible "a.near") position offset) shelf
    recordOf 1 7 shelf.database = .ok (some threeParts) ∧ threeParts.isWritable ∧
      Assoc.get? (.fungible "a.near") threeParts.tokens = some settings ∧
      move 3 (-1) shelf = (.error (.noComponent 3), shelf) ∧
      ∃ moved database, move 0 2 shelf = (.ok { settings with components := moved }, { shelf with database }) ∧
        moved[2]? = some .trader ∧ moved.eraseIdx 2 = [.price, .txLink] ∧
        ∃ database', move 2 (-2) { shelf with database } = (.ok settings, { shelf with database := database' }) ∧
          recordOf 1 7 database' = .ok (some threeParts) := by
  intro shelf settings move
  have hproper : settings.Proper := { Subscription.proper_default with components := by decide }
  have hs : threeParts.WellFormed := ⟨by decide, List.forall_mem_singleton.mpr ⟨by decide, hproper⟩, by decide⟩
  have hrecord : recordOf 1 7 shelf.database = .ok (some threeParts) :=
    (recordOf_eq_some_iff ⟨rfl, rfl, by decide⟩).mpr ⟨rfl, _, rfl, Subscriber.ofJson_toJson hs⟩
  have hsettings : Assoc.get? (.fungible "a.near") threeParts.tokens = some settings := rfl
  have hrefused := (moveComponent_rotates 1 7 (.fungible "a.near") 3 (-1) hrecord hs.writable hsettings).1
  obtain ⟨-, -, moved, database, -, hmove, -, -, -, hplace, hothers, hback⟩ :=
    (moveComponent_rotates 1 7 (.fungible "a.near") 0 2 hrecord hs.writable hsettings).2 (by decide)
  exact ⟨hrecord, hs.writable, hsettings, hrefused.mpr (by decide), moved, database, hmove, hplace, hothers,
    hback (by decide)⟩

end Subscriptions

end ChainAlerts
