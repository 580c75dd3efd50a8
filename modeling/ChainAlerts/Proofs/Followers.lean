import ChainAlerts.Proofs.StoreRuns

/-! Who follows a token. The index that is made from a list of records finds, for each token, the chats whose
records have it, in the order of the list and each once. The followers of a token are the chats whose stored
record has it; making the index afresh makes it find exactly them. -/

namespace ChainAlerts

namespace SubscriberIndex

/-- The chats under a token in the entries of an index. -/
def found (entries : List (Token × List Int)) (token : Token) : List Int := (Assoc.get? token entries).getD []

theorem found_addChat (chat : Int) (t token : Token) (entries : List (Token × List Int)) :
    found (addChat chat t entries) token = found entries token ++ if t = token then [chat] else [] := by
  induction entries with
  | nil => by_cases h : t = token <;> simp [addChat, found, Assoc.get?, h]
  | cons entry rest ih =>
      obtain ⟨first, chats⟩ := entry
      simp only [found] at ih ⊢
      by_cases ht : first = t
      · by_cases h : t = token <;> simp [addChat, Assoc.get?, ht, h]
      · rw [addChat, if_neg ht]
        by_cases h : first = token
        · have hne : ¬ t = token := fun heq => ht (h.trans heq.symm)
          simp [Assoc.get?, h, hne]
        · simp only [Assoc.get?, h, if_false, ih]

/-- Adding a chat under each of its tokens, no token twice, adds it once under each. -/
theorem found_addTokens (chat : Int) (token : Token) {tokens : List (Token × Subscription)}
    (h : (Assoc.keys tokens).Nodup) (entries : List (Token × List Int)) :
    found (tokens.foldl (fun entries (t, _) => addChat chat t entries) entries) token =
      found entries token ++ if Assoc.contains token tokens then [chat] else [] := by
  induction tokens generalizing entries with
  | nil => simp [Assoc.contains, Assoc.get?]
  | cons entry rest ih =>
      obtain ⟨hfresh, hrest⟩ := List.nodup_cons.mp h
      rw [List.foldl_cons, ih hrest, found_addChat]
      by_cases heq : entry.1 = token
      · have habsent : Assoc.contains token rest = false := by
          rw [← heq]
          exact Bool.eq_false_iff.mpr fun hc => hfresh (Assoc.contains_iff.mp hc)
        have hhead : Assoc.contains token (entry :: rest) = true :=
          Assoc.contains_iff.mpr (by simp [Assoc.keys, heq])
        rw [habsent, hhead]
        simp [heq]
      · have hsame : Assoc.contains token (entry :: rest) = Assoc.contains token rest := by
          simp [Assoc.contains, Assoc.get?, heq]
        rw [hsame]
        simp [heq]

/-- The index made from records finds, for each token, the chats whose records have it. -/
theorem found_ofRecords (token : Token) {records : List (Int × Subscriber)}
    (h : ∀ record ∈ records, (Assoc.keys record.2.tokens).Nodup) :
    found (ofRecords records) token = (records.filter fun record => record.2.follows token).map (·.1) := by
  have hfold : ∀ (records : List (Int × Subscriber)) (entries : List (Token × List Int)),
      (∀ record ∈ records, (Assoc.keys record.2.tokens).Nodup) →
      found (records.foldl (fun entries record =>
        record.2.tokens.foldl (fun entries entry => addChat record.1 entry.1 entries) entries) entries) token =
        found entries token ++ (records.filter fun record => record.2.follows token).map (·.1) := by
    intro records
    induction records with
    | nil =>
        intro entries _
        simp
    | cons record rest ih =>
        intro entries h
        rw [List.foldl_cons, ih _ fun other hother => h other (List.mem_cons_of_mem record hother),
          found_addTokens record.1 token (h record List.mem_cons_self), List.filter_cons]
        change _ ++ (if record.2.follows token then _ else _) ++ _ = _
        split <;> simp
  exact hfold records [] h

end SubscriberIndex

namespace Subscriptions

open Store

variable {bot chat : Int} {db : Database} {shelf : Shelf} {token : Token}

/-- Whether a payload is a record that has a token. -/
def payloadFollows (token : Token) (payload : Json) : Bool :=
  match Subscriber.ofJson payload with
  | .ok s => s.follows token
  | .error _ => false

/-- The chats whose stored record has a token. -/
def followers (bot : Int) (db : Database) (token : Token) : List Int :=
  Records.chatsWith (payloadFollows token) (rows bot db)

theorem payloadFollows_eq {payload : Json} {s : Subscriber} (h : Subscriber.ofJson payload = .ok s) :
    payloadFollows token payload = s.follows token := by
  rw [payloadFollows, h]

/-- An index is exact if it finds the followers of every token. -/
def Exact (bot : Int) (shelf : Shelf) : Prop :=
  ∀ token, shelf.index.lookup token = followers bot shelf.database token

/-- Storing a record that has the same tokens as the one it started from leaves the followers of each as they
are. -/
theorem followers_of_stores {default : Option Subscriber} {current updated : Subscriber} {db' : Database}
    (h : Sound bot db) (hdefault : ∀ r ∈ default, r.tokens = [])
    (hstart : StartsFrom bot chat default db current) (hupdated : updated.WellFormed)
    (hstores : Stores bot chat updated db db')
    (hsame : updated.follows token = current.follows token) :
    followers bot db' token = followers bot db token := by
  rcases hstores with rfl | hrows
  · rfl
  · rw [followers, hrows]
    refine Records.chatsWith_put h.ascending ?_
    rw [payloadFollows_eq (Subscriber.ofJson_toJson hupdated), hsame]
    obtain ⟨payload, hget, hread⟩ | ⟨hget, hcurrent⟩ := hstart
    · rw [hget]
      exact (payloadFollows_eq hread).symm
    · rw [hget, Subscriber.follows, hdefault current hcurrent]
      rfl

/-- Rows that hold well-formed records are read one by one, and the records follow what the payloads follow. -/
theorem exists_records_of_rows {rows : Records}
    (hrows : ∀ row ∈ rows, Database.fits row.1 ∧ ∃ s, Subscriber.ofJson row.2 = .ok s ∧ s.WellFormed) :
    ∃ records, rows.mapM (fun (chat, payload) => do return (chat, ← (store bot).decode chat payload)) =
        .ok records ∧
      (∀ record ∈ records, Database.fits record.1 ∧ record.2.WellFormed) ∧
      ∀ token, (records.filter fun record => record.2.follows token).map (·.1) =
        Records.chatsWith (payloadFollows token) rows := by
  induction rows with
  | nil => exact ⟨[], rfl, by simp, fun token => rfl⟩
  | cons row rest ih =>
      obtain ⟨records, hrest, hwell, hfollowers⟩ :=
        ih fun other hother => hrows other (List.mem_cons_of_mem row hother)
      obtain ⟨hfits, s, hs, hsWell⟩ := hrows row List.mem_cons_self
      refine ⟨(row.1, s) :: records, ?_, List.forall_mem_cons.mpr ⟨⟨hfits, hsWell⟩, hwell⟩, fun token => ?_⟩
      · simp only [List.mapM_cons, decode_eq_ok hs, hrest]
        rfl
      · have htail := hfollowers token
        simp only [Records.chatsWith] at htail ⊢
        rw [List.filter_cons, List.filter_cons, payloadFollows_eq hs]
        split <;> simp [htail]

/-- The records that listing the rows of a sound database gives. -/
theorem Sound.records (h : Sound bot db) :
    ∃ records, (store bot).records (db.list (store bot).codec.collection (store bot).bot) = .ok records ∧
      (∀ record ∈ records, Database.fits record.1 ∧ record.2.WellFormed) ∧
      ∀ token, (records.filter fun record => record.2.follows token).map (·.1) = followers bot db token := by
  have hlist : db.list (store bot).codec.collection (store bot).bot = .ok (rows bot db) := by
    change db.list Subscriber.codec.collection bot = _
    rw [Database.list, h.serves.begin]
    rfl
  rw [hlist]
  exact exists_records_of_rows fun row hrow => ⟨h.fits row hrow, h.wellFormed row hrow⟩

/-- Making the index afresh succeeds on a sound database, changes nothing else, and leaves the index exact. -/
theorem Sound.run_rebuild (h : Sound bot shelf.database) :
    ∃ entries, (store bot).runAlone (rebuild bot) shelf =
      (.ok (), { shelf with index := shelf.index.renew entries }) ∧
      Exact bot { shelf with index := shelf.index.renew entries } := by
  obtain ⟨records, hrecords, hwell, hfollowers⟩ := h.records
  refine ⟨SubscriberIndex.ofRecords records, ?_, fun token => ?_⟩
  · simp only [runAlone, rebuild, Task.run, Store.all, Task.run_andThen, answer, hrecords]
  · exact (SubscriberIndex.found_ofRecords token fun record hrecord => (hwell record hrecord).2.tokens).trans
      (hfollowers token)

end Subscriptions

end ChainAlerts
