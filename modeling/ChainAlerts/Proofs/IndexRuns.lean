import ChainAlerts.Proofs.IndexCalls

/-! Runs of the calls that chats make of a bot, one after another, in any order and with any arguments. After
every call of a run, whether it returned or failed, the index finds for each token exactly the chats whose stored
record has it. The invariant is that the database is sound and the index exact; each call keeps it. -/

namespace ChainAlerts.Subscriptions

open Store

/-- A call that a chat makes of a bot, or that its operator makes for all chats. -/
inductive ChatCall where
  | follow (chat : Int) (token : Token) (settings : Option Subscription)
  | unfollow (chat : Int) (token : Token)
  | forget (chat : Int)
  | migrate (source target : Token)
  | setEnabled (chat : Int) (enabled : Bool)
  | setPolarity (chat : Int) (token : Token) (p : Polarity) (wanted : Bool)
  | setMinAmount (chat : Int) (token : Token) (least : MinAmount)
  | setAttachments (chat : Int) (token : Token) (attachments : List Attachment) (currency : Option Currency)
  | setComponents (chat : Int) (token : Token) (components : List Component)
  | moveComponent (chat : Int) (token : Token) (position offset : Int)
  | setLinks (chat : Int) (token : Token) (links : List Button)
  | setButtons (chat : Int) (token : Token) (buttons : List (List Button))

namespace ChatCall

/-- Makes a call of a bot while nothing interferes. Kept of its result is whether it failed, and how. -/
def run (bot : Int) (shelf : Shelf) (call : ChatCall) : Except SubscriptionError Unit × Shelf :=
  let alone {α : Type} (attempt : Attempt α) : Except SubscriptionError Unit × Shelf :=
    ((store bot).runAlone attempt shelf).map (Except.map fun _ => ()) id
  match call with
  | follow chat token settings => alone (Subscriptions.follow bot chat token settings)
  | unfollow chat token => alone (Subscriptions.unfollow bot chat token)
  | forget chat => alone (Subscriptions.forget bot chat)
  | migrate source target => alone (Subscriptions.migrate bot source target)
  | setEnabled chat enabled => alone (Subscriptions.setEnabled bot chat enabled)
  | setPolarity chat token p wanted => alone (Subscriptions.setPolarity bot chat token p wanted)
  | setMinAmount chat token least => alone (Subscriptions.setMinAmount bot chat token least)
  | setAttachments chat token attachments currency =>
    alone (Subscriptions.setAttachments bot chat token attachments currency)
  | setComponents chat token components => alone (Subscriptions.setComponents bot chat token components)
  | moveComponent chat token position offset =>
    alone (Subscriptions.moveComponent bot chat token position offset)
  | setLinks chat token links => alone (Subscriptions.setLinks bot chat token links)
  | setButtons chat token buttons => alone (Subscriptions.setButtons bot chat token buttons)

/-- What the arguments of a call are by their types: tokens that their keys file, settings as they are made, and
decimal numbers within the bounds of the format. -/
def Valid : ChatCall → Prop
  | follow _ token settings => Token.parse token.key = .ok token ∧ ∀ s ∈ settings, s.Proper
  | migrate _ target => Token.parse target.key = .ok target
  | setMinAmount _ _ least => least.isProper
  | setAttachments _ _ attachments _ => ∀ a ∈ attachments, a.threshold.inRange
  | setComponents _ _ components => ∀ c ∈ components, c.isProper
  | _ => True

end ChatCall

def afterCalls (bot : Int) (shelf : Shelf) (calls : List ChatCall) : Shelf :=
  calls.foldl (fun shelf call => (call.run bot shelf).2) shelf

/-- A database in which every record of a bot can be read. -/
structure Readable (bot : Int) (db : Database) : Prop where
  serves : db.Serves bot
  ascending : (rows bot db).Ascending
  fits : ∀ row ∈ rows bot db, Database.fits row.1
  records : ∀ row ∈ rows bot db, row.2.isDocument ∧ ∃ s, Subscriber.ofJson row.2 = .ok s

/-- Where a run begins: with no records and nothing in the index, or with records that can be read, just after
the index was made from them. -/
inductive Begins (bot : Int) : Shelf → Prop where
  | empty {shelf : Shelf} (serves : shelf.database.Serves bot) (rows : rows bot shelf.database = [])
    (index : shelf.index.entries = []) : Begins bot shelf
  | rebuilt {shelf : Shelf} (readable : Readable bot shelf.database) :
    Begins bot ((store bot).runAlone (rebuild bot) shelf).2

variable {bot : Int} {shelf : Shelf}

theorem Readable.sound {db : Database} (h : Readable bot db) : Sound bot db where
  serves := h.serves
  ascending := h.ascending
  fits := h.fits
  wellFormed := by
    intro row hrow
    obtain ⟨hdocument, s, hs⟩ := h.records row hrow
    exact ⟨s, hs, Subscriber.wellFormed_of_ofJson hdocument hs⟩

theorem Begins.consistent (h : Begins bot shelf) : Consistent bot shelf := by
  cases h with
  | empty serves hrows hindex =>
      refine ⟨⟨serves, ?_, ?_, ?_⟩, fun token => ?_⟩
      · rw [hrows]
        exact List.Pairwise.nil
      · simp [hrows]
      · simp [hrows]
      · rw [SubscriberIndex.lookup, hindex, followers, hrows]
        rfl
  | @rebuilt shelf readable =>
      obtain ⟨shelf', hrun, hconsistent⟩ := readable.sound.rebuild_consistent
      rw [hrun]
      exact hconsistent

theorem Consistent.run (h : Consistent bot shelf) {call : ChatCall} (hcall : call.Valid) :
    Consistent bot (call.run bot shelf).2 := by
  cases call with
  | follow chat token settings => exact h.follow hcall.1 hcall.2
  | unfollow chat token => exact h.unfollow
  | forget chat => exact h.forget
  | migrate source target => exact h.migrate hcall
  | setEnabled chat enabled => exact h.setEnabled enabled
  | setPolarity chat token p wanted => exact h.update (keepsProper_polarity p wanted)
  | setMinAmount chat token least => exact h.update (keepsProper_minAmount hcall)
  | setAttachments chat token attachments currency => exact h.update (keepsProper_attachments hcall currency)
  | setComponents chat token components => exact h.update (keepsProper_components hcall)
  | moveComponent chat token position offset => exact h.update (keepsProper_move position offset)
  | setLinks chat token links => exact h.update (keepsProper_links links)
  | setButtons chat token buttons => exact h.update (keepsProper_buttons buttons)

theorem Consistent.afterCalls (h : Consistent bot shelf) {calls : List ChatCall}
    (hcalls : ∀ call ∈ calls, call.Valid) :
    Consistent bot (afterCalls bot shelf calls) := by
  induction calls generalizing shelf with
  | nil => exact h
  | cons call rest ih =>
      refine ih (h.run (hcalls call List.mem_cons_self)) fun other hother => ?_
      exact hcalls other (List.mem_cons_of_mem call hother)

/-- The followers of a token are the chats whose record is read as one that has it. -/
theorem Sound.mem_followers {db : Database} (h : Sound bot db) (token : Token) (chat : Int) :
    chat ∈ followers bot db token ↔ ∃ s, recordOf bot chat db = .ok (some s) ∧ s.follows token := by
  rw [followers, Records.mem_chatsWith]
  constructor
  · rintro ⟨payload, hmem, hfollows⟩
    obtain ⟨hnone, -⟩ | ⟨stored, s, hsome, hs, -, hrecord⟩ := h.recordOf_cases (h.fits _ hmem)
    · rw [h.ascending.get?_eq_some_iff.mpr hmem] at hnone
      cases hnone
    · rw [h.ascending.get?_eq_some_iff.mpr hmem] at hsome
      obtain rfl := Option.some.inj hsome
      rw [payloadFollows_eq hs] at hfollows
      exact ⟨s, hrecord, hfollows⟩
  · rintro ⟨s, hrecord, hfollows⟩
    cases hfits : Database.fits chat with
    | false =>
        rw [recordOf_of_not_fits h.serves hfits] at hrecord
        cases hrecord
    | true =>
        obtain ⟨-, hnone⟩ | ⟨payload, s', hsome, hs, -, hread⟩ := h.recordOf_cases hfits
        · rw [hnone] at hrecord
          cases hrecord
        · rw [hread] at hrecord
          obtain rfl := Option.some.inj (Except.ok.inj hrecord)
          exact ⟨payload, Records.mem_of_get? hsome, (payloadFollows_eq hs).trans hfollows⟩

/-- After every run of calls the index finds, for each token, the chats whose stored record has it: all of them
and no others, in strictly ascending order. -/
theorem index_exact_after_calls (bot : Int) (start : Shelf) (hstart : Begins bot start) (calls : List ChatCall)
    (hcalls : ∀ call ∈ calls, call.Valid) (token : Token) :
    let shelf := afterCalls bot start calls
    (shelf.index.lookup token).Pairwise (· < ·) ∧
      ∀ chat, chat ∈ shelf.index.lookup token ↔
        ∃ s, recordOf bot chat shelf.database = .ok (some s) ∧ s.follows token := by
  have h := hstart.consistent.afterCalls hcalls
  intro shelf
  rw [h.exact token]
  exact ⟨h.sound.ascending.chatsWith _, h.sound.mem_followers token⟩

/-- A run in which calls succeed, find nothing, are refused, and move one token's followers to another. -/
def mixedCalls : List ChatCall := [
  .follow (-5) (.fungible "a.near") none, .follow 3 (.prelaunch 7) (some { minAmount := .token 10 }),
  .setEnabled 9 false, .follow 9 (.fungible "a.near") none, .setPolarity 4 (.prelaunch 7) .sell true,
  .setAttachments 3 (.prelaunch 7) [⟨.nan false false 0, ⟨.photo, "x"⟩⟩, ⟨.ofNat 1, ⟨.photo, "y"⟩⟩] none,
  .moveComponent 3 (.prelaunch 7) 9 1, .unfollow 3 (.fungible "a.near"),
  .migrate (.prelaunch 7) (.fungible "a.near"),
  .forget (-5)]

theorem mixedCalls_valid : ∀ call ∈ mixedCalls, call.Valid := by
  have htoken : Token.parse (Token.fungible "a.near").key = .ok (.fungible "a.near") :=
    Token.parse_key (by decide) rfl
  have hauction : Token.parse (Token.prelaunch 7).key = .ok (.prelaunch 7) := Token.parse_key rfl (by decide)
  have hsettings : ({ minAmount := .token 10 } : Subscription).Proper :=
    ⟨rfl, by simp, by decide, by decide⟩
  have hthresholds : ∀ a ∈ [(⟨.nan false false 0, ⟨.photo, "x"⟩⟩ : Attachment), ⟨.ofNat 1, ⟨.photo, "y"⟩⟩],
      a.threshold.inRange := by decide
  intro call hcall
  simp only [mixedCalls, List.mem_cons, List.not_mem_nil, or_false] at hcall
  rcases hcall with rfl | rfl | rfl | rfl | rfl | rfl | rfl | rfl | rfl | rfl
  · exact ⟨htoken, by simp⟩
  · exact ⟨hauction, fun s hs => Option.some.inj hs ▸ hsettings⟩
  · trivial
  · exact ⟨htoken, by simp⟩
  · trivial
  · exact hthresholds
  · trivial
  · trivial
  · exact htoken
  · trivial

theorem index_exact_after_mixedCalls :
    (afterCalls 1 {} mixedCalls).index.lookup (.fungible "a.near") = [3, 9] ∧
      ∃ s, recordOf 1 9 (afterCalls 1 {} mixedCalls).database = .ok (some s) ∧
      s.follows (.fungible "a.near") := by
  have hstart : Begins 1 {} := .empty ⟨rfl, rfl, by decide⟩ rfl rfl
  obtain ⟨-, hmem⟩ := index_exact_after_calls 1 {} hstart mixedCalls mixedCalls_valid (.fungible "a.near")
  have hlookup : (afterCalls 1 {} mixedCalls).index.lookup (.fungible "a.near") = [3, 9] := by decide +kernel
  exact ⟨hlookup, (hmem 9).mp (by rw [hlookup]; decide)⟩

end ChainAlerts.Subscriptions
