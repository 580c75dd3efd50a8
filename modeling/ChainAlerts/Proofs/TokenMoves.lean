import Mathlib.Data.List.Perm.Subperm
import ChainAlerts.Proofs.EditRequests
import ChainAlerts.Proofs.IndexRuns

/-! Settings that go over from one token to another. They go as they are, in place of any that the other token
had, and every other token of the chat keeps its settings and its place. A payload that files the first token
never says the same as the record after the move, so the record is stored; after the moves of several chats each
of them has the moved record, and every other row is as it was. -/

namespace ChainAlerts

namespace Assoc

variable {κ ν : Type} [DecidableEq κ]

/-- Putting a value under a key changes nothing under the others, nor their order. -/
theorem erase_put (key : κ) (value : ν) (table : List (κ × ν)) : erase key (put key value table) = erase key table := by
  induction table with
  | nil => simp [put, erase]
  | cons entry rest ih =>
      by_cases h : entry.1 = key
      · simp [put, erase, h]
      · simp only [put, h, if_false]
        simp only [erase] at ih ⊢
        rw [List.filter_cons_of_pos (by simpa using h), List.filter_cons_of_pos (by simpa using h), ih]

end Assoc

namespace Json

theorem alikeFields_iff {fields others : List (String × Json)} :
    alikeFields fields others ↔ ∀ field ∈ fields, ∃ w, Assoc.get? field.1 others = some w ∧ field.2.alike w := by
  induction fields with
  | nil => simp [alikeFields]
  | cons field rest ih =>
      rw [alikeFields, Bool.and_eq_true, ih, List.forall_mem_cons]
      apply and_congr_left
      intro _
      cases Assoc.get? field.1 others <;> simp

/-- Only an object says the same as an object: one that has the same fields in some order. -/
theorem keys_of_alike {fields : List (String × Json)} {other : Json} (h : (Json.obj fields).alike other)
    (hkeys : (Assoc.keys fields).Nodup) :
    ∃ others, other = .obj others ∧ (Assoc.keys fields).Perm (Assoc.keys others) ∧
      ∀ field ∈ fields, ∃ w, Assoc.get? field.1 others = some w ∧ field.2.alike w := by
  cases other with
  | obj others =>
      rw [alike, Bool.and_eq_true, beq_iff_eq] at h
      obtain ⟨hlength, hfields⟩ := h
      have hfields := alikeFields_iff.mp hfields
      refine ⟨others, rfl, ?_, hfields⟩
      have hsubset : Assoc.keys fields ⊆ Assoc.keys others := by
        intro key hkey
        obtain ⟨field, hfield, rfl⟩ := List.mem_map.mp hkey
        obtain ⟨w, hw, -⟩ := hfields field hfield
        exact List.mem_map.mpr ⟨_, Assoc.mem_of_get? hw, rfl⟩
      apply (List.subperm_of_subset hkeys hsubset).perm_of_length_le
      simp [Assoc.keys, hlength]
  | _ => cases h

end Json

namespace Subscriber

/-- The tokens of a record are those that some field of its payload's tokens files. -/
theorem exists_field_of_follows {payload : Json} {s : Subscriber} {token : Token} (h : ofJson payload = .ok s)
    (hfollows : s.follows token) :
    ∃ stored fields, payload.field? "tokens" = .ok (some stored) ∧ stored.entries = .ok fields ∧
      ∃ field ∈ fields, Token.parse field.1 = .ok token := by
  obtain ⟨enabled, -, h⟩ := except_bind_eq_ok.mp h
  obtain ⟨stored, hstored, h⟩ := except_bind_eq_ok.mp h
  obtain ⟨fields, hfields, h⟩ := except_bind_eq_ok.mp h
  obtain ⟨tokens, htokens, h⟩ := except_bind_eq_ok.mp h
  obtain rfl := Except.ok.inj h
  obtain ⟨entry, hentry, rfl⟩ := List.mem_map.mp (Assoc.contains_iff.mp hfollows)
  obtain ⟨field, hfield, hread⟩ := exists_of_mem_mapM htokens entry (Assoc.mem_of_mem_ofPairs hentry)
  obtain ⟨token, htoken, hread⟩ := except_bind_eq_ok.mp hread
  obtain ⟨settings, -, hread⟩ := except_bind_eq_ok.mp hread
  obtain rfl := Except.ok.inj hread
  cases stored with
  | none =>
      obtain rfl := Except.ok.inj hfields
      cases hfield
  | some stored => exact ⟨stored, fields, hstored, hfields, field, hfield, htoken⟩

/-- A record that says the same as a payload has every token that the payload's record has. -/
theorem follows_of_alike {r s : Subscriber} {payload : Json} {token : Token} (hr : r.WellFormed)
    (halike : r.toJson.alike payload) (hread : ofJson payload = .ok s) (hfollows : s.follows token) :
    r.follows token := by
  rw [toJson, Assoc.ofPairs_of_nodup (nodup_written hr)] at halike
  obtain ⟨fields, rfl, -, hfields⟩ := Json.keys_of_alike halike (by simp [Assoc.keys])
  obtain ⟨w, hw, htokens⟩ := hfields ("tokens", .obj (r.tokens.map writeEntry)) (by simp)
  obtain ⟨stored, entries, hstored, hentries, field, hfield, hparse⟩ := exists_field_of_follows hread hfollows
  obtain rfl : w = stored := Option.some.inj (hw.symm.trans (Except.ok.inj hstored))
  obtain ⟨others, rfl, hperm, -⟩ := Json.keys_of_alike htokens (nodup_written hr)
  obtain rfl : others = entries := Except.ok.inj hentries
  -- the field that files the token is one that the record writes
  have hkey : field.1 ∈ Assoc.keys (r.tokens.map writeEntry) :=
    hperm.mem_iff.mpr (List.mem_map_of_mem (f := Prod.fst) hfield)
  simp only [Assoc.keys, List.map_map, List.mem_map, Function.comp_apply] at hkey
  obtain ⟨entry, hentry, hwritten⟩ := hkey
  have htoken : Token.parse entry.1.key = .ok token := by
    rw [← hparse, ← hwritten]
    rfl
  rw [parse_key_of_mem hr hentry] at htoken
  obtain rfl := Except.ok.inj htoken
  exact Assoc.contains_iff.mpr (List.mem_map_of_mem (f := Prod.fst) hentry)

end Subscriber

namespace Subscriptions

open Store

/-- What became of a record whose settings for one token went over to another. -/
structure Relabels (source target : Token) (s s' : Subscriber) : Prop where
  enabled : s'.enabled = s.enabled
  settings : Assoc.get? target s'.tokens = Assoc.get? source s.tokens
  gone : s'.follows source = false
  others : s'.tokens.filter (·.1 ≠ target) = s.tokens.filter fun entry => entry.1 ≠ source ∧ entry.1 ≠ target
  once : (Assoc.keys s'.tokens).Nodup

variable {source target : Token} {s : Subscriber}

theorem moveSettings_of_follows (target : Token) (hfollows : s.follows source) :
    ∃ settings, Assoc.get? source s.tokens = some settings ∧
      moveSettings source target s = ((s.withoutToken source).withToken target settings, true) := by
  obtain ⟨settings, hsettings⟩ := Option.isSome_iff_exists.mp hfollows
  refine ⟨settings, hsettings, ?_⟩
  rw [moveSettings, hsettings]

theorem relabels_moveSettings (hne : source ≠ target) (hs : s.WellFormed) (hfollows : s.follows source) :
    Relabels source target s (moveSettings source target s).1 := by
  obtain ⟨settings, hsettings, hmove⟩ := moveSettings_of_follows target hfollows
  rw [hmove]
  refine ⟨rfl, ?_, ?_, ?_, Assoc.nodup_keys_put (Assoc.nodup_keys_erase hs.tokens)⟩
  · exact (Assoc.get?_put_self target settings _).trans hsettings.symm
  · show Assoc.contains source (Assoc.put target settings (Assoc.erase source s.tokens)) = false
    rw [Assoc.contains_put, Assoc.contains_erase]
    simp [hne]
  · show Assoc.erase target (Assoc.put target settings (Assoc.erase source s.tokens)) = _
    rw [Assoc.erase_put, Assoc.erase, Assoc.erase, List.filter_filter]
    apply List.filter_congr
    intro entry _
    simp only [ne_eq, decide_not, Bool.decide_and]
    apply Bool.and_comm

theorem follows_moveSettings (hfollows : s.follows source) (token : Token) :
    (moveSettings source target s).1.follows token =
      (decide (token = target) || decide (token ≠ source) && s.follows token) := by
  obtain ⟨settings, -, hmove⟩ := moveSettings_of_follows target hfollows
  rw [hmove]
  show Assoc.contains token (Assoc.put target settings (Assoc.erase source s.tokens)) = _
  rw [Assoc.contains_put, Assoc.contains_erase]
  rfl

variable {bot chat : Int} {db db' : Database} {chats : List Int}

/-- What a chat's record is read as depends on the chat's row. -/
theorem recordOf_congr (h : db.Serves bot) (h' : db'.Serves bot)
    (hrow : Records.get? chat (rows bot db') = Records.get? chat (rows bot db)) :
    recordOf bot chat db' = recordOf bot chat db := by
  have hget : db'.get Subscriber.codec.collection bot chat = db.get Subscriber.codec.collection bot chat := by
    rw [rows, rows] at hrow
    rw [Database.get, Database.get, h.begin, h'.begin, hrow]
  exact congrArg ((store bot).record? chat) hget

theorem Sound.row_of_record (h : Sound bot db) (hrecord : recordOf bot chat db = .ok (some s)) :
    Database.fits chat ∧ ∃ payload, Records.get? chat (rows bot db) = some payload ∧
      Subscriber.ofJson payload = .ok s ∧ s.WellFormed := by
  cases hchat : Database.fits chat with
  | false =>
      rw [recordOf_of_not_fits h.serves hchat] at hrecord
      cases hrecord
  | true =>
      refine ⟨rfl, ?_⟩
      obtain ⟨-, hnone⟩ | ⟨payload, s', hsome, hs, hwell, hread⟩ := h.recordOf_cases hchat
      · rw [hnone] at hrecord
        cases hrecord
      · rw [hread] at hrecord
        obtain rfl := Option.some.inj (Except.ok.inj hrecord)
        exact ⟨payload, hsome, hs, hwell⟩

theorem Sound.record_of_row (h : Sound bot db) {payload : Json}
    (hrow : Records.get? chat (rows bot db) = some payload) (hs : Subscriber.ofJson payload = .ok s) :
    recordOf bot chat db = .ok (some s) := by
  have hchat := h.fits _ (Records.mem_of_get? hrow)
  obtain ⟨hnone, -⟩ | ⟨payload', s', hsome, hs', -, hread⟩ := h.recordOf_cases hchat
  · rw [hrow] at hnone
    cases hnone
  · obtain rfl : payload = payload' := Option.some.inj (hrow.symm.trans hsome)
    rw [hs] at hs'
    obtain rfl := Except.ok.inj hs'
    exact hread

/-- A change of a database that moves the settings of some chats from one token to another, and nothing else. -/
structure Moves (bot : Int) (source target : Token) (chats : List Int) (db db' : Database) : Prop where
  sound : Sound bot db'
  moved : ∀ chat ∈ chats, ∀ s, recordOf bot chat db = .ok (some s) →
    recordOf bot chat db' = .ok (some (moveSettings source target s).1)
  kept : ∀ chat ∉ chats, Records.get? chat (rows bot db') = Records.get? chat (rows bot db)
  elsewhere : ∀ collection other, (collection, other) ≠ (Subscriber.codec.collection, bot) →
    db'.records collection other = db.records collection other

theorem Sound.moves_none (h : Sound bot db) : Moves bot source target [] db db where
  sound := h
  moved := by simp
  kept := fun _ _ => rfl
  elsewhere := fun _ _ _ => rfl

theorem Moves.record_kept (h : Sound bot db) (hmoves : Moves bot source target chats db db') (hchat : chat ∉ chats) :
    recordOf bot chat db' = recordOf bot chat db :=
  recordOf_congr h.serves hmoves.sound.serves (hmoves.kept chat hchat)

/-- Moves of different chats one after the other are one move of them all. -/
theorem Moves.trans {db'' : Database} {others : List Int} (h : Sound bot db)
    (hfirst : Moves bot source target chats db db') (hothers : Moves bot source target others db' db'')
    (hdisjoint : chats.Disjoint others) : Moves bot source target (chats ++ others) db db'' where
  sound := hothers.sound
  moved := by
    intro chat hchat s hs
    rcases List.mem_append.mp hchat with hchat | hchat
    · rw [hothers.record_kept hfirst.sound (hdisjoint hchat)]
      exact hfirst.moved chat hchat s hs
    · apply hothers.moved chat hchat
      rw [hfirst.record_kept h fun hmem => hdisjoint hmem hchat]
      exact hs
  kept := by
    intro chat hchat
    obtain ⟨hnot, hnotOther⟩ := not_or.mp (fun hmem => hchat (List.mem_append.mpr hmem))
    exact (hothers.kept chat hnotOther).trans (hfirst.kept chat hnot)
  elsewhere := fun collection other hne =>
    (hothers.elsewhere collection other hne).trans (hfirst.elsewhere collection other hne)

/-- Storing the moved record of a chat that follows the first token changes the chat's row. -/
theorem Sound.put_moved (h : Sound bot db) (hrecord : recordOf bot chat db = .ok (some s)) (hfollows : s.follows source)
    (htarget : Token.parse target.key = .ok target) (hne : source ≠ target) :
    ∃ db', db.put Subscriber.codec.collection bot chat (moveSettings source target s).1.toJson = .ok db' ∧
      Moves bot source target [chat] db db' := by
  obtain ⟨hchat, payload, hrow, hs, hwell⟩ := h.row_of_record hrecord
  have hmoved := moveSettings_wellFormed source htarget hwell
  obtain ⟨db', hput, hsound, -⟩ := h.put hchat hmoved
  have hgone : (moveSettings source target s).1.follows source = false :=
    (relabels_moveSettings hne hwell hfollows).gone
  have hnew : Database.isStored (rows bot db) chat (moveSettings source target s).1.toJson = false := by
    rw [Database.isStored, hrow]
    apply Bool.eq_false_iff.mpr
    intro halike
    rw [Subscriber.follows_of_alike hmoved halike hs hfollows] at hgone
    cases hgone
  have hdb : db' = db.withRecords Subscriber.codec.collection bot
      ((rows bot db).put chat (moveSettings source target s).1.toJson) := by
    rw [rows] at hnew ⊢
    rw [Database.put_eq_ok hput, hnew]
    rfl
  refine ⟨db', hput, hsound, ?_, ?_, ?_⟩
  · intro other hother s' hs'
    obtain rfl := List.mem_singleton.mp hother
    rw [hrecord] at hs'
    obtain rfl := Option.some.inj (Except.ok.inj hs')
    apply hsound.record_of_row _ (Subscriber.ofJson_toJson hmoved)
    rw [hdb, rows_withRecords]
    exact Records.get?_put_self _ _ _
  · intro other hother
    rw [hdb, rows_withRecords]
    exact Records.get?_put_of_ne (fun heq => hother (List.mem_singleton.mpr heq)) _ _
  · intro collection other hne
    rw [hdb, Database.withRecords, Database.records, Database.records, Assoc.get?_put_of_ne hne]

end Subscriptions

end ChainAlerts
