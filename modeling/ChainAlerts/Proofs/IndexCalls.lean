import Mathlib.Data.List.InsertIdx
import ChainAlerts.Proofs.Followers

/-! The calls that chats make of a bot, each by itself. Four of them change what is followed and make the index
afresh; the others change settings and leave the index as it is. Each keeps a bot consistent: either the index
was just made from the records, or the call stored a record with the tokens that it had before. -/

namespace ChainAlerts

theorem Subscription.proper_default : ({} : Subscription).Proper where
  minAmount := by decide
  thresholds := by simp
  arranged := by decide
  components := by decide

theorem Component.mem_of_mem_move? {components moved : List Component} {position offset : Int}
    (h : Component.move? components position offset = some moved) : ∀ c ∈ moved, c ∈ components := by
  rw [Component.move?] at h
  split at h
  next c hc =>
    split at h
    · cases h
    · obtain rfl := Option.some.inj h
      intro d hd
      rcases List.eq_or_mem_of_mem_insertIdx hd with rfl | hd
      · exact List.mem_of_getElem? hc
      · exact List.mem_of_mem_eraseIdx hd
  · cases h

namespace Subscriber

theorem wellFormed_new : ({} : Subscriber).WellFormed where
  tokens := List.nodup_nil
  proper := by simp
  writable := rfl

variable {s : Subscriber} {token : Token} {settings : Subscription}

theorem WellFormed.withToken (h : s.WellFormed) (htoken : token.isProper) (hsettings : settings.Proper)
    (hwritable : (s.withToken token settings).isWritable) : (s.withToken token settings).WellFormed where
  tokens := Assoc.nodup_keys_put h.tokens
  proper := by
    intro entry hmem
    rcases Assoc.mem_put hmem with rfl | hmem
    · exact ⟨htoken, hsettings⟩
    · exact h.proper entry hmem
  writable := hwritable

theorem WellFormed.withoutToken (h : s.WellFormed) (token : Token) : (s.withoutToken token).WellFormed where
  tokens := Assoc.nodup_keys_erase h.tokens
  proper := fun entry hmem => h.proper entry (Assoc.mem_of_mem_erase hmem)
  writable := isWritable_iff.mpr fun entry hmem =>
    isWritable_iff.mp h.writable entry (Assoc.mem_of_mem_erase hmem)

theorem WellFormed.proper_of_get? (h : s.WellFormed) (hget : Assoc.get? token s.tokens = some settings) :
    token.isProper ∧ settings.Proper := h.proper _ (Assoc.mem_of_get? hget)

theorem follows_withToken (hget : Assoc.get? token s.tokens = some settings) (other : Subscription)
    (t : Token) : (s.withToken token other).follows t = s.follows t := by
  have hhas : Assoc.contains token s.tokens = true := by
    rw [Assoc.contains, hget]
    rfl
  rw [follows, withToken, Assoc.contains_put]
  by_cases heq : t = token
  · rw [heq, follows, hhas]
    simp
  · simp [heq, follows]

theorem follows_withoutToken (h : s.follows token = false) (t : Token) :
    (s.withoutToken token).follows t = s.follows t := by
  rw [follows, withoutToken, Assoc.contains_erase]
  by_cases heq : t = token
  · rw [heq, h]
    simp
  · simp [heq, follows]

end Subscriber

namespace Subscriptions

open Store

variable {bot chat : Int} {shelf : Shelf} {token : Token}

/-- A bot whose records can be read and whose index is exact. -/
structure Consistent (bot : Int) (shelf : Shelf) : Prop where
  sound : Sound bot shelf.database
  exact : Exact bot shelf

/-- Making the index afresh makes a bot with a sound database consistent. -/
theorem Sound.rebuild_consistent (h : Sound bot shelf.database) :
    ∃ shelf', (store bot).runAlone (rebuild bot) shelf = (.ok (), shelf') ∧ Consistent bot shelf' := by
  obtain ⟨entries, hrun, hexact⟩ := h.run_rebuild
  exact ⟨_, hrun, h, hexact⟩

/-- A call that ends by making the index afresh leaves the bot consistent. -/
theorem Sound.consistent_of_rebuild {α : Type} (h : Sound bot shelf.database) (result : α) :
    Consistent bot ((store bot).runAlone ((rebuild bot).ifOk fun _ => .done (.ok result)) shelf).2 := by
  obtain ⟨shelf', hrun, hconsistent⟩ := h.rebuild_consistent
  rw [runAlone] at hrun
  rw [runAlone, Task.run_ifOk, hrun]
  exact hconsistent

/-- Storing a record with the tokens of the one it started from keeps a bot consistent. -/
theorem Consistent.of_stores {default : Option Subscriber} {current updated : Subscriber} {database : Database}
    (h : Consistent bot shelf) (hdefault : ∀ r ∈ default, r.tokens = [])
    (hstart : StartsFrom bot chat default shelf.database current) (hupdated : updated.WellFormed)
    (hsound : Sound bot database) (hstores : Stores bot chat updated shelf.database database)
    (hsame : ∀ t, updated.follows t = current.follows t) : Consistent bot { shelf with database } where
  sound := hsound
  exact := fun t => (h.exact t).trans
    (followers_of_stores h.sound hdefault hstart hupdated hstores (hsame t)).symm

/-- A call that edits a record and goes on keeps a bot consistent, if going on changes nothing where nothing was
stored, and leaves the bot consistent after what was stored. -/
theorem Consistent.edit_then {α β : Type} {default : Option Subscriber}
    {change : Subscriber → Except SubscriptionError (Subscriber × α)}
    {next : Option (Subscriber × α) → Attempt β}
    (h : Consistent bot shelf) (hdefault : ∀ r ∈ default, r.WellFormed) (hchange : Keeps change)
    (hnone : ((store bot).runAlone (next none) shelf).2 = shelf)
    (hstored : ∀ current updated extra database, StartsFrom bot chat default shelf.database current →
      change current = .ok (updated, extra) → updated.WellFormed → Sound bot database →
      Stores bot chat updated shelf.database database →
      Consistent bot ((store bot).runAlone (next (some (updated, extra))) { shelf with database }).2) :
    Consistent bot ((store bot).runAlone ((edit bot chat default change).ifOk next) shelf).2 := by
  have houtcome := h.sound.attempt_outcome chat hdefault hchange
  rw [runAlone, Task.run_ifOk]
  rw [runAlone] at houtcome hnone
  generalize (edit bot chat default change).run (answer (store bot).codec.collection (store bot).bot)
    shelf = out at houtcome ⊢
  cases houtcome with
  | failed => exact h
  | absent =>
      simp only [hnone]
      exact h
  | stored start update wellFormed sound stores => exact hstored _ _ _ _ start update wellFormed sound stores

/-- An edit that keeps the tokens of every record keeps a bot consistent, if nothing is asked for after it. -/
theorem Consistent.edit_same {α β : Type} {default : Option Subscriber}
    {change : Subscriber → Except SubscriptionError (Subscriber × α)}
    {next : Option (Subscriber × α) → Attempt β}
    (h : Consistent bot shelf) (hdefault : ∀ r ∈ default, r.WellFormed ∧ r.tokens = []) (hchange : Keeps change)
    (hsame : ∀ r updated extra, change r = .ok (updated, extra) → ∀ t, updated.follows t = r.follows t)
    (hnext : ∀ r shelf, ((store bot).runAlone (next r) shelf).2 = shelf) :
    Consistent bot ((store bot).runAlone ((edit bot chat default change).ifOk next) shelf).2 := by
  refine h.edit_then (fun r hr => (hdefault r hr).1) hchange (hnext none shelf) ?_
  intro current updated extra database hstart hupdate hupdated hsound hstores
  rw [hnext]
  exact h.of_stores (fun r hr => (hdefault r hr).2) hstart hupdated hsound hstores
    (hsame current updated extra hupdate)

theorem wellFormed_of_mem_new : ∀ r ∈ some ({} : Subscriber), r.WellFormed ∧ r.tokens = [] := by
  intro r hr
  obtain rfl := Option.some.inj hr
  exact ⟨Subscriber.wellFormed_new, rfl⟩

theorem keeps_enabled (enabled : Bool) :
    Keeps (ε := SubscriptionError) fun s : Subscriber => .ok ({ s with enabled }, ()) := by
  intro r updated extra hr hupdate _
  obtain ⟨rfl, -⟩ := Prod.mk.inj (Except.ok.inj hupdate)
  exact ⟨hr.tokens, hr.proper, hr.writable⟩

theorem Consistent.setEnabled (h : Consistent bot shelf) (enabled : Bool) :
    Consistent bot ((store bot).runAlone (setEnabled bot chat enabled) shelf).2 := by
  rw [Subscriptions.setEnabled, editOrBegin]
  refine h.edit_same wellFormed_of_mem_new (keeps_enabled enabled) ?_ fun r shelf => by cases r <;> rfl
  intro r updated extra hupdate t
  obtain ⟨rfl, -⟩ := Prod.mk.inj (Except.ok.inj hupdate)
  rfl

/-- A change of the settings for a token replaces them under that token, which the record had. -/
theorem update_eq_ok {change : Subscription → Except SubscriptionError Subscription} {r updated : Subscriber}
    {extra : Subscription}
    (h : (match Assoc.get? token r.tokens with
      | none => .error (.notFollowed chat token)
      | some settings => do
        let settings ← change settings
        return (r.withToken token settings, settings)) = Except.ok (updated, extra)) :
    ∃ settings, Assoc.get? token r.tokens = some settings ∧ change settings = .ok extra ∧
      updated = r.withToken token extra := by
  split at h
  · cases h
  next settings hget =>
    obtain ⟨changed, hchanged, h⟩ := except_bind_eq_ok.mp h
    obtain ⟨rfl, rfl⟩ := Prod.mk.inj (Except.ok.inj h)
    exact ⟨settings, hget, hchanged, rfl⟩

/-- A change that makes proper settings of proper ones. -/
def KeepsProper (change : Subscription → Except SubscriptionError Subscription) : Prop :=
  ∀ s t, s.Proper → change s = .ok t → t.Proper

theorem KeepsProper.keeps {change : Subscription → Except SubscriptionError Subscription}
    (hchange : KeepsProper change) (chat : Int) (token : Token) :
    Keeps fun r : Subscriber =>
      match Assoc.get? token r.tokens with
      | none => .error (.notFollowed chat token)
      | some settings => do
        let settings ← change settings
        return (r.withToken token settings, settings) := by
  intro r updated extra hr hupdate hwritable
  obtain ⟨settings, hget, hchanged, rfl⟩ := update_eq_ok hupdate
  obtain ⟨htoken, hsettings⟩ := hr.proper_of_get? hget
  exact hr.withToken htoken (hchange settings extra hsettings hchanged) hwritable

theorem Consistent.update (h : Consistent bot shelf)
    {change : Subscription → Except SubscriptionError Subscription} (hchange : KeepsProper change) :
    Consistent bot ((store bot).runAlone (update bot chat token change) shelf).2 := by
  refine h.edit_same (by simp) (hchange.keeps chat token) ?_ fun r shelf => by cases r <;> rfl
  intro r updated extra hupdate t
  obtain ⟨settings, hget, -, rfl⟩ := update_eq_ok hupdate
  exact Subscriber.follows_withToken hget extra t

theorem keepsProper_polarity (p : Polarity) (wanted : Bool) : KeepsProper fun s => .ok (s.setPolarity p wanted) := by
  intro s t hs ht
  obtain rfl := Except.ok.inj ht
  cases p <;> exact ⟨hs.minAmount, hs.thresholds, hs.arranged, hs.components⟩

theorem keepsProper_minAmount {least : MinAmount} (hleast : least.isProper) :
    KeepsProper fun s => .ok { s with minAmount := least } := by
  intro s t hs ht
  obtain rfl := Except.ok.inj ht
  exact ⟨hleast, hs.thresholds, hs.arranged, hs.components⟩

theorem keepsProper_attachments {attachments : List Attachment} (hattachments : ∀ a ∈ attachments, a.threshold.inRange)
    (currency : Option Currency) :
    KeepsProper fun s =>
      (Subscription.arranged { s with attachments, currency := currency.getD s.currency }).mapError .settings := by
  intro s t hs ht
  beta_reduce at ht
  cases harranged : Subscription.arranged { s with attachments, currency := currency.getD s.currency } with
  | error f =>
      rw [harranged] at ht
      cases ht
  | ok kept =>
      rw [harranged] at ht
      obtain rfl := Except.ok.inj ht
      obtain ⟨ordered, hordered, rfl⟩ := Subscription.of_arranged harranged
      obtain ⟨hperm, hkept⟩ := Attachment.arranged_of_ordered hordered
      exact ⟨hs.minAmount, fun a ha => hattachments a (hperm.mem_iff.mp ha), hkept, hs.components⟩

theorem keepsProper_components {components : List Component} (hcomponents : ∀ c ∈ components, c.isProper) :
    KeepsProper fun s => .ok { s with components } := by
  intro s t hs ht
  obtain rfl := Except.ok.inj ht
  exact ⟨hs.minAmount, hs.thresholds, hs.arranged, hcomponents⟩

theorem keepsProper_move (position offset : Int) :
    KeepsProper fun s =>
      match Component.move? s.components position offset with
      | some components => .ok { s with components }
      | none => .error (.noComponent position) := by
  intro s t hs ht
  beta_reduce at ht
  split at ht
  next components hmove =>
    obtain rfl := Except.ok.inj ht
    exact ⟨hs.minAmount, hs.thresholds, hs.arranged, fun c hc =>
      hs.components c (Component.mem_of_mem_move? hmove c hc)⟩
  · cases ht

theorem keepsProper_links (links : List Button) : KeepsProper fun s => .ok { s with links } := by
  intro s t hs ht
  obtain rfl := Except.ok.inj ht
  exact ⟨hs.minAmount, hs.thresholds, hs.arranged, hs.components⟩

theorem keepsProper_buttons (buttons : List (List Button)) : KeepsProper fun s => .ok { s with buttons } := by
  intro s t hs ht
  obtain rfl := Except.ok.inj ht
  exact ⟨hs.minAmount, hs.thresholds, hs.arranged, hs.components⟩

theorem keeps_follow (htoken : Token.parse token.key = .ok token) {settings : Option Subscription}
    (hsettings : ∀ s ∈ settings, s.Proper) :
    Keeps (ε := SubscriptionError) fun s : Subscriber =>
      .ok (if s.follows token && settings.isNone then s else s.withToken token (settings.getD {}), ()) := by
  intro r updated extra hr hupdate hwritable
  obtain ⟨rfl, -⟩ := Prod.mk.inj (Except.ok.inj hupdate)
  split at hwritable
  next hkeep =>
    rw [if_pos hkeep]
    exact hr
  next hnew =>
    rw [if_neg hnew]
    refine hr.withToken (Token.isProper_of_parse htoken) ?_ hwritable
    cases settings with
    | none => exact Subscription.proper_default
    | some s => exact hsettings s rfl

theorem Consistent.follow (h : Consistent bot shelf) (htoken : Token.parse token.key = .ok token)
    {settings : Option Subscription} (hsettings : ∀ s ∈ settings, s.Proper) :
    Consistent bot ((store bot).runAlone (follow bot chat token settings) shelf).2 := by
  rw [Subscriptions.follow, editOrBegin, Task.ifOk_assoc]
  refine h.edit_then (fun r hr => (wellFormed_of_mem_new r hr).1) (keeps_follow htoken hsettings) rfl ?_
  intro current updated extra database _ _ _ hsound _
  exact hsound.consistent_of_rebuild _

theorem keeps_unfollow (token : Token) :
    Keeps (ε := SubscriptionError) fun s : Subscriber => .ok (s.withoutToken token, s.follows token) := by
  intro r updated extra hr hupdate _
  obtain ⟨rfl, -⟩ := Prod.mk.inj (Except.ok.inj hupdate)
  exact hr.withoutToken token

theorem Consistent.unfollow (h : Consistent bot shelf) :
    Consistent bot ((store bot).runAlone (unfollow bot chat token) shelf).2 := by
  refine h.edit_then (by simp) (keeps_unfollow token) rfl ?_
  intro current updated extra database hstart hupdate hupdated hsound hstores
  obtain ⟨rfl, rfl⟩ := Prod.mk.inj (Except.ok.inj hupdate)
  cases hfollows : current.follows token with
  | true => exact hsound.consistent_of_rebuild _
  | false =>
      exact h.of_stores (by simp) hstart hupdated hsound hstores
        (Subscriber.follows_withoutToken hfollows)

theorem Consistent.forget (h : Consistent bot shelf) :
    Consistent bot ((store bot).runAlone (forget bot chat) shelf).2 := by
  rw [Subscriptions.forget, runAlone, Task.run_ifOk, Task.run_map]
  obtain ⟨cause, hrun⟩ | ⟨removed, database, hrun, hsound⟩ := h.sound.run_remove chat
  · rw [runAlone] at hrun
    rw [hrun]
    exact h
  · rw [runAlone] at hrun
    rw [hrun]
    exact hsound.consistent_of_rebuild _

theorem moveSettings_wellFormed (source : Token) {target : Token}
    (htarget : Token.parse target.key = .ok target) {s : Subscriber} (hs : s.WellFormed) :
    (moveSettings source target s).1.WellFormed := by
  rw [moveSettings]
  split
  next settings hget =>
    have hsource := Subscriber.isWritable_iff.mp hs.writable _ (Assoc.mem_of_get? hget)
    refine (hs.withoutToken source).withToken (Token.isProper_of_parse htarget) (hs.proper_of_get? hget).2 ?_
    refine Subscriber.isWritable_iff.mpr fun entry hmem => ?_
    rcases Assoc.mem_put hmem with rfl | hmem
    · exact ⟨Token.isWritable_of_parse htarget, hsource.2⟩
    · exact Subscriber.isWritable_iff.mp (hs.withoutToken source).writable entry hmem
  · exact hs

theorem keeps_moveSettings (source : Token) {target : Token} (htarget : Token.parse target.key = .ok target) :
    Keeps (ε := SubscriptionError) fun s => .ok (moveSettings source target s) := by
  intro r updated extra hr hupdate _
  have hwell := moveSettings_wellFormed source htarget hr
  rwa [Except.ok.inj hupdate] at hwell

/-- Moving the settings of chats that are keys does not fail, and the database stays sound. -/
theorem Sound.run_migrateEach (source : Token) {target : Token} (htarget : Token.parse target.key = .ok target)
    {chats : List Int} (hchats : ∀ c ∈ chats, Database.fits c) (h : Sound bot shelf.database)
    (moved : List (Int × Bool)) :
    ∃ result shelf', (store bot).runAlone (migrateEach bot source target chats moved) shelf =
        (.ok result, shelf') ∧ Sound bot shelf'.database := by
  induction chats generalizing shelf moved with
  | nil => exact ⟨moved, shelf, rfl, h⟩
  | cons c rest ih =>
      have hrest : ∀ d ∈ rest, Database.fits d := fun d hd => hchats d (List.mem_cons_of_mem c hd)
      have hnone : ∀ r ∈ (none : Option Subscriber), r.WellFormed := by simp
      have houtcome := h.attempt_outcome c hnone (keeps_moveSettings source htarget)
      rw [runAlone, migrateEach, Task.run_ifOk]
      rw [runAlone] at houtcome
      generalize (edit bot c none fun s => .ok (moveSettings source target s)).run
        (answer (store bot).codec.collection (store bot).bot) shelf = out at houtcome ⊢
      cases houtcome with
      | failed hfailed =>
          -- neither the chat nor the change can be at fault
          exfalso
          rcases hfailed with hfits | ⟨current, hcurrent, hunwritable⟩
          · rw [hchats c List.mem_cons_self] at hfits
            cases hfits
          · have hwritable := (moveSettings_wellFormed source htarget hcurrent).writable
            have hnot := hunwritable (moveSettings source target current).1
              (moveSettings source target current).2 rfl
            rw [hnot] at hwritable
            cases hwritable
      | absent => exact ih hrest h moved
      | @stored current updated extra database start update wellFormed sound stores =>
          cases extra with
          | false => exact ih hrest sound moved
          | true => exact ih hrest sound (moved ++ [(c, updated.enabled)])

theorem Consistent.migrate {source target : Token} (h : Consistent bot shelf)
    (htarget : Token.parse target.key = .ok target) :
    Consistent bot ((store bot).runAlone (migrate bot source target) shelf).2 := by
  obtain ⟨records, hrecords, hwell, -⟩ := h.sound.records
  have hall : ((store bot).all.map fun result => result.mapError SubscriptionError.store).run
      (answer (store bot).codec.collection (store bot).bot) shelf = (.ok records, shelf) := by
    rw [Task.run_map]
    simp only [Store.all, Task.run, answer, hrecords]
    rfl
  have hchats : ∀ c ∈ (records.filter fun record => record.2.follows source).map (·.1), Database.fits c := by
    intro c hc
    obtain ⟨record, hrecord, rfl⟩ := List.mem_map.mp hc
    exact (hwell record (List.mem_filter.mp hrecord).1).1
  obtain ⟨moved, shelf', hrun, hsound⟩ := h.sound.run_migrateEach source htarget hchats []
  rw [runAlone] at hrun
  rw [Subscriptions.migrate, runAlone, Task.run_ifOk, hall]
  simp only [Task.run_ifOk, hrun]
  have hconsistent := hsound.consistent_of_rebuild moved
  rwa [runAlone, Task.run_ifOk] at hconsistent

end Subscriptions

end ChainAlerts
