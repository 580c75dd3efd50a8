import ChainAlerts.Valuation
import ChainAlerts.Proofs.BookCalls
import ChainAlerts.Proofs.DecimalOrder

/-! Which attachment goes with a change. It is found by going through the attachments until one asks for more, and
that is right only because settings keep them arranged. What was meant is a choice among the attachments as they were
given, in whatever order: of those whose threshold is reached the one with the greatest threshold, and of several such
the last. Choosing so does not depend on the places of two attachments with different thresholds, and putting
attachments in order exchanges no others. -/

namespace ChainAlerts

namespace Attachment

/-- The attachment that goes with a magnitude: the last one among those with the greatest threshold that does not
exceed it, or none if every threshold does. -/
inductive Chooses (m : Decimal) (given : List Attachment) : Option Attachment → Prop where
  | none (exceeded : ∀ a ∈ given, m.rank < a.threshold.rank) : Chooses m given none
  | last {before : List Attachment} {a : Attachment} {after : List Attachment} (split : given = before ++ a :: after)
      (reached : a.threshold.rank ≤ m.rank)
      (greatest : ∀ b ∈ before, b.threshold.rank ≤ m.rank → b.threshold.rank ≤ a.threshold.rank)
      (last : ∀ b ∈ after, b.threshold.rank ≤ m.rank → b.threshold.rank < a.threshold.rank) :
      Chooses m given (some a)

namespace Chooses

variable {m : Decimal} {given : List Attachment}

/-- The first attachment is chosen if it is reached and those after it that are reached have smaller thresholds. -/
theorem first {a : Attachment} {rest : List Attachment} (reached : a.threshold.rank ≤ m.rank)
    (largest : ∀ b ∈ rest, b.threshold.rank ≤ m.rank → b.threshold.rank < a.threshold.rank) :
    Chooses m (a :: rest) (some a) :=
  .last (List.nil_append _).symm reached (by simp) largest

theorem eq_none_iff {chosen : Option Attachment} (h : Chooses m given chosen) :
    chosen = .none ↔ ∀ a ∈ given, ¬a.threshold.rank ≤ m.rank := by
  cases h with
  | none exceeded => exact ⟨fun _ a ha => not_le.mpr (exceeded a ha), fun _ => rfl⟩
  | last split reached =>
      subst split
      exact ⟨fun h => (Option.some_ne_none _ h).elim, fun h => absurd reached (h _ (by simp))⟩

theorem le {a b : Attachment} (h : Chooses m given (some a)) (hb : b ∈ given) (hreached : b.threshold.rank ≤ m.rank) :
    b.threshold.rank ≤ a.threshold.rank := by
  cases h with
  | last split reached greatest last =>
      subst split
      rcases List.mem_append.mp hb with hb | hb
      · exact greatest b hb hreached
      · rcases List.mem_cons.mp hb with rfl | hb
        · exact le_rfl
        · exact (last b hb hreached).le

end Chooses

/-- An attachment in front of others is chosen if it is reached and has a greater threshold than their choice. -/
def prefer (m : Decimal) (a : Attachment) : Option Attachment → Option Attachment
  | some b => if a.threshold.rank ≤ m.rank ∧ b.threshold.rank < a.threshold.rank then some a else some b
  | none => if a.threshold.rank ≤ m.rank then some a else none

def choice? (m : Decimal) (attachments : List Attachment) : Option Attachment := attachments.foldr (prefer m) none

variable {m : Decimal} {a b : Attachment} {attachments given : List Attachment}

@[simp] theorem choice?_nil : choice? m [] = none := rfl

@[simp] theorem choice?_cons : choice? m (a :: attachments) = prefer m a (choice? m attachments) := rfl

theorem prefer_of_exceeds (h : m.rank < a.threshold.rank) (found : Option Attachment) : prefer m a found = found := by
  cases found <;> simp [prefer, not_le.mpr h]

/-- The places of two attachments with different thresholds do not matter. -/
theorem prefer_comm (h : b.threshold.rank < a.threshold.rank) (found : Option Attachment) :
    prefer m b (prefer m a found) = prefer m a (prefer m b found) := by
  rcases lt_or_ge m.rank a.threshold.rank with ha | ha
  · rw [prefer_of_exceeds ha, prefer_of_exceeds ha]
  have hb : b.threshold.rank ≤ m.rank := h.le.trans ha
  cases found with
  | none => simp [prefer, ha, hb, h, h.not_gt]
  | some c =>
      by_cases hca : c.threshold.rank < a.threshold.rank
      · by_cases hcb : c.threshold.rank < b.threshold.rank
        · simp [prefer, ha, hb, hca, hcb, h, h.not_gt]
        · simp [prefer, ha, hca, hcb, h.not_gt]
      · have hcb : ¬c.threshold.rank < b.threshold.rank := fun hcb => hca (hcb.trans h)
        simp [prefer, hca, hcb]

/-- Attachments whose thresholds are numbers. -/
def Numbers (attachments : List Attachment) : Prop := ∀ a ∈ attachments, a.threshold.isNan = false

instance (attachments : List Attachment) : Decidable (Numbers attachments) := inferInstanceAs (Decidable (∀ _ ∈ _, _))

theorem inOrder_iff (ha : a.threshold.isNan = false) (hb : b.threshold.isNan = false) :
    InOrder a b ↔ a.threshold.rank ≤ b.threshold.rank := by
  rw [InOrder, ← not_lt, ← Decimal.ltNumber_iff hb ha, Bool.not_eq_true]

theorem choice?_insert (ha : a.threshold.isNan = false) (h : Numbers attachments) :
    choice? m (insert a attachments) = choice? m (a :: attachments) := by
  induction attachments with
  | nil => rfl
  | cons b rest ih =>
      obtain ⟨hb, hrest⟩ := List.forall_mem_cons.mp h
      rw [insert]
      split
      next hlt =>
        have hrank : b.threshold.rank < a.threshold.rank := (Decimal.ltNumber_iff hb ha).mp hlt
        calc choice? m (b :: insert a rest) = prefer m b (choice? m (a :: rest)) := by rw [choice?_cons, ih hrest]
          _ = choice? m (a :: b :: rest) := prefer_comm hrank _
      next => rfl

/-- Putting attachments in order does not change which is chosen. -/
theorem choice?_sort (h : Numbers given) : choice? m (sort given) = choice? m given := by
  induction given with
  | nil => rfl
  | cons a rest ih =>
      obtain ⟨ha, hrest⟩ := List.forall_mem_cons.mp h
      have hsorted : Numbers (sort rest) := fun b hb => hrest b ((sort_perm rest).mem_iff.mp hb)
      calc choice? m (sort (a :: rest)) = choice? m (insert a (sort rest)) := rfl
        _ = prefer m a (choice? m (sort rest)) := choice?_insert ha hsorted
        _ = choice? m (a :: rest) := by rw [ih hrest, choice?_cons]

theorem choice?_eq_none_iff : choice? m attachments = none ↔ ∀ a ∈ attachments, m.rank < a.threshold.rank := by
  induction attachments with
  | nil => simp
  | cons a rest ih =>
      rw [List.forall_mem_cons, ← ih, choice?_cons]
      rcases lt_or_ge m.rank a.threshold.rank with ha | ha
      · simp [prefer_of_exceeds ha, ha]
      · cases choice? m rest with
        | none => simp [prefer, ha]
        | some b =>
            simp only [prefer, reduceCtorEq, and_false, iff_false]
            split <;> simp

/-- Of the attachments that are reached, the chosen one is the last with the greatest threshold. -/
theorem choice?_chooses (m : Decimal) (attachments : List Attachment) :
    Chooses m attachments (choice? m attachments) := by
  induction attachments with
  | nil => exact .none (by simp)
  | cons a rest ih =>
      rw [choice?_cons]
      cases hrest : choice? m rest with
      | none =>
          have hexceed := choice?_eq_none_iff.mp hrest
          rcases lt_or_ge m.rank a.threshold.rank with ha | ha
          · rw [prefer_of_exceeds ha]
            exact .none (List.forall_mem_cons.mpr ⟨ha, hexceed⟩)
          · rw [prefer, if_pos ha]
            exact .first ha fun b hb hreached => absurd (hexceed b hb) hreached.not_gt
      | some c =>
          rw [hrest] at ih
          rw [prefer]
          split
          next ha =>
            exact .first ha.1 fun b hb hreached => (ih.le hb hreached).trans_lt ha.2
          next ha =>
            cases ih with
            | @last before _ after split reached greatest last =>
                have hsplit : a :: rest = (a :: before) ++ c :: after := congrArg (a :: ·) split
                refine .last hsplit reached ?_ last
                refine List.forall_mem_cons.mpr ⟨fun hreached => ?_, greatest⟩
                exact not_lt.mp fun hlt => ha ⟨hreached, hlt⟩

theorem mem_of_choice? (h : choice? m attachments = some a) : a ∈ attachments := by
  have hchosen := h ▸ choice?_chooses m attachments
  cases hchosen with
  | last split => simp [split]

/-- Arranged attachments are in the order of their thresholds, not only each with the next. -/
theorem ascending (hnumbers : Numbers attachments) (harranged : attachments.IsChain InOrder) :
    attachments.Pairwise fun a b => a.threshold.rank ≤ b.threshold.rank := by
  induction attachments with
  | nil => exact .nil
  | cons a rest ih =>
      obtain ⟨ha, hrest⟩ := List.forall_mem_cons.mp hnumbers
      have hpairs := ih hrest harranged.tail
      refine List.pairwise_cons.mpr ⟨?_, hpairs⟩
      cases rest with
      | nil => simp
      | cons b rest =>
          have hab : a.threshold.rank ≤ b.threshold.rank :=
            (inOrder_iff ha (hrest b List.mem_cons_self)).mp (List.isChain_cons_cons.mp harranged).1
          exact List.forall_mem_cons.mpr ⟨hab, fun c hc => hab.trans ((List.pairwise_cons.mp hpairs).1 c hc)⟩

/-- Going through arranged attachments finds the one that is chosen. -/
theorem select_eq (hm : m.isNan = false) (hnumbers : Numbers attachments) (harranged : attachments.IsChain InOrder)
    (found : Option Media) :
    select m found attachments = .ok (((choice? m attachments).map (·.media)).or found) := by
  induction attachments generalizing found with
  | nil => rfl
  | cons a rest ih =>
      obtain ⟨ha, hrest⟩ := List.forall_mem_cons.mp hnumbers
      have hrank := (List.pairwise_cons.mp (ascending hnumbers harranged)).1
      rw [select, atMost, Decimal.le_eq_ok ha hm]
      rcases lt_or_ge m.rank a.threshold.rank with hexceeds | hreached
      · have hnone : choice? m (a :: rest) = none :=
          choice?_eq_none_iff.mpr (List.forall_mem_cons.mpr ⟨hexceeds, fun b hb => hexceeds.trans_le (hrank b hb)⟩)
        rw [hnone, decide_eq_false (not_le.mpr hexceeds)]
        rfl
      · have hfound : prefer m a (choice? m rest) = (choice? m rest).or (some a) := by
          cases hchoice : choice? m rest with
          | none => exact if_pos hreached
          | some c =>
              have hle := hrank c (mem_of_choice? hchoice)
              exact if_neg fun hlt => hle.not_gt hlt.2
        rw [decide_eq_true hreached]
        change select m (some a.media) rest = _
        rw [ih hrest harranged.tail, choice?_cons, hfound]
        cases choice? m rest <;> rfl

theorem ordered_eq_sort (hnumbers : Numbers given) : ordered given = .ok (sort given) := by
  refine if_neg fun hnan => ?_
  obtain ⟨a, ha, hnan⟩ := List.any_eq_true.mp (Bool.and_eq_true_iff.mp hnan).2
  rw [hnumbers a ha] at hnan
  cases hnan

/-- Attachments in order come to the choice among them as they were given. -/
theorem select_sort (hm : m.isNan = false) (hnumbers : Numbers given) :
    select m none (sort given) = .ok ((choice? m given).map (·.media)) := by
  have hkept : Numbers (sort given) := fun a ha => hnumbers a ((sort_perm given).mem_iff.mp ha)
  rw [select_eq hm hkept (sort_chain given), choice?_sort hnumbers, Option.or_none]

end Attachment

namespace Subscription

variable {given : List Attachment}

theorem arranged_numbers (s : Subscription) (hgiven : Attachment.Numbers given) :
    ({ s with attachments := given } : Subscription).arranged =
      .ok { s with attachments := Attachment.sort given } := by
  rw [arranged, Attachment.ordered_eq_sort hgiven]
  rfl

/-- Settings whose numbers are within the bounds of the format, and whose amount can be written. -/
structure InBounds (s : Subscription) : Prop where
  minAmount : s.minAmount.isProper
  writable : s.minAmount.isWritable
  thresholds : ∀ a ∈ s.attachments, a.threshold.inRange
  components : ∀ c ∈ s.components, c.isProper

/-- Written before or after they are put in order, attachments are read in order. -/
theorem ofJson_toJson_numbers {s : Subscription} (h : s.InBounds) (hnumbers : Attachment.Numbers s.attachments) :
    let kept := { s with attachments := Attachment.sort s.attachments }
    ofJson s.toJson = .ok kept ∧ ofJson kept.toJson = .ok kept := by
  have hperm := Attachment.sort_perm s.attachments
  refine ⟨(ofJson_toJson_eq_arranged h.minAmount h.writable h.thresholds h.components).trans
    (arranged_numbers s hnumbers), ?_⟩
  have hkept : ({ s with attachments := Attachment.sort s.attachments } : Subscription).Proper :=
    ⟨h.minAmount, fun a ha => h.thresholds a (hperm.mem_iff.mp ha),
      (Attachment.arranged_of_ordered (Attachment.ordered_eq_sort hnumbers)).2, h.components⟩
  exact ofJson_toJson hkept h.writable

/-- The attachments of settings that were read are those of the payload, in order. -/
theorem attachments_of_ofJson {payload stored : Json} {items : List Json} {kept : Subscription}
    (hfield : payload.field? "attachments" = .ok (some stored)) (hitems : stored.elements = .ok items)
    (hread : items.mapM Attachment.ofJson = .ok given) (hgiven : Attachment.Numbers given)
    (h : ofJson payload = .ok kept) : kept.attachments = Attachment.sort given := by
  obtain ⟨-, ⟨found, items', given', hfound, hitems', hread', hordered⟩, -⟩ := read_of_ofJson h
  obtain rfl := Except.ok.inj (hfield.symm.trans hfound)
  obtain rfl := Except.ok.inj (hitems.symm.trans hitems')
  obtain rfl := Except.ok.inj (hread.symm.trans hread')
  exact (Except.ok.inj ((Attachment.ordered_eq_sort hgiven).symm.trans hordered)).symm

end Subscription

namespace Subscriptions

open Store

variable {bot chat : Int} {token : Token} {book : Book} {shelf : Shelf} {record : Subscriber} {old : Subscription}
  {given : List Attachment}

theorem Book.get?_put (chat : Int) (s : Subscriber) (book : Book) : (book.put chat s).get? chat = some s := by
  induction book with
  | nil => exact Assoc.get?_cons_self chat s []
  | cons entry rest ih =>
      rw [put]
      split
      · exact Assoc.get?_cons_self ..
      · split
        · exact Assoc.get?_cons_self ..
        next hne => exact (Assoc.get?_cons_of_ne (fun heq => hne heq.symm) ..).trans ih

/-- Attachments that a chat sets are kept in order, and are so in the record that is read afterwards. -/
theorem Mirrors.setAttachments (h : Mirrors bot book shelf.database) (hchat : Database.fits chat)
    (hrecord : book.get? chat = some record) (hfound : Assoc.get? token record.tokens = some old)
    (hgiven : Attachment.Numbers given) (hrange : ∀ a ∈ given, a.threshold.inRange) (currency : Option Currency) :
    let kept := { old with attachments := Attachment.sort given, currency := currency.getD old.currency }
    let out := (store bot).runAlone (Subscriptions.setAttachments bot chat token given currency) shelf
    out.1 = .ok kept ∧
      ((store bot).runAlone (Subscriptions.get bot chat) out.2).1 = .ok (some (record.withToken token kept)) := by
  intro kept out
  have harranged :
      (Subscription.arranged { old with attachments := given, currency := currency.getD old.currency }).mapError
        SubscriptionError.settings = .ok kept := by
    rw [arranged_given, Attachment.ordered_eq_sort hgiven]
  have hconfigured := h.update hchat token (keepsProper_attachments hrange currency)
    (keepsWritable_attachments given currency)
  rw [Book.configure, hrecord] at hconfigured
  simp only [hfound, harranged] at hconfigured
  exact ⟨hconfigured.result, (hconfigured.mirrors.get hchat).result.trans (by rw [Book.get?_put])⟩

/-- Attachments fall through. However thresholds come to be among a chat's settings (by settings being made with them,
by settings being written and read, by a payload that is read, or by the chat setting them), and in whatever order they
were given, going through what is kept finds the last of the attachments with the greatest threshold that the magnitude
reaches, and none if it reaches no threshold. -/
theorem attachments_fall_through {m : Decimal} (hm : m.isNan = false) (hgiven : Attachment.Numbers given) :
    ∃ chosen, Attachment.Chooses m given chosen ∧
      (chosen = none ↔ ∀ a ∈ given, ¬a.threshold.rank ≤ m.rank) ∧
      (∀ s : Subscription, ∃ kept, ({ s with attachments := given } : Subscription).arranged = .ok kept ∧
        Attachment.select m none kept.attachments = .ok (chosen.map (·.media)) ∧
        (({ s with attachments := given } : Subscription).InBounds →
          Subscription.ofJson ({ s with attachments := given } : Subscription).toJson = .ok kept ∧
          Subscription.ofJson kept.toJson = .ok kept)) ∧
      (∀ payload stored items kept, payload.field? "attachments" = .ok (some stored) → stored.elements = .ok items →
        items.mapM Attachment.ofJson = .ok given → Subscription.ofJson payload = .ok kept →
        Attachment.select m none kept.attachments = .ok (chosen.map (·.media))) ∧
      ∀ bot chat token currency book shelf record, Mirrors bot book shelf.database → Database.fits chat →
        book.get? chat = some record → record.follows token → (∀ a ∈ given, a.threshold.inRange) →
        let out := (store bot).runAlone (Subscriptions.setAttachments bot chat token given currency) shelf
        ∃ kept record', out.1 = .ok kept ∧
          ((store bot).runAlone (Subscriptions.get bot chat) out.2).1 = .ok (some record') ∧
          Assoc.get? token record'.tokens = some kept ∧
          Attachment.select m none kept.attachments = .ok (chosen.map (·.media)) := by
  have hchoice := Attachment.choice?_chooses m given
  have hselect := Attachment.select_sort hm hgiven
  refine ⟨Attachment.choice? m given, hchoice, hchoice.eq_none_iff, fun s => ?_, ?_, ?_⟩
  · exact ⟨_, Subscription.arranged_numbers s hgiven, hselect,
      fun hbounds => Subscription.ofJson_toJson_numbers hbounds hgiven⟩
  · intro payload stored items kept hfield hitems hread hkept
    rw [Subscription.attachments_of_ofJson hfield hitems hread hgiven hkept]
    exact hselect
  · intro bot chat token currency book shelf record h hchat hrecord hfollows hrange out
    obtain ⟨old, hfound⟩ := Option.isSome_iff_exists.mp hfollows
    obtain ⟨hset, hread⟩ := h.setAttachments hchat hrecord hfound hgiven hrange currency
    exact ⟨_, _, hset, hread, Assoc.get?_put_self .., hselect⟩

/-- Attachments out of order, among them two for a hundred dollars, two for nothing, and one that is out of reach. -/
def tiedAttachments : List Attachment := [
  ⟨.finite false 1000 (-1), ⟨.photo, "first"⟩⟩, ⟨.infinite false, ⟨.photo, "never"⟩⟩,
  ⟨.finite true 0 0, ⟨.photo, "least"⟩⟩, ⟨.ofNat 100, ⟨.photo, "second"⟩⟩, ⟨.ofNat 0, ⟨.photo, "zero"⟩⟩]

theorem attachments_fall_through_tied :
    Attachment.Numbers tiedAttachments ∧
      let shelf := ((store 1).runAlone (Subscriptions.follow 1 2 (.fungible "a.near") none) {}).2
      let out := (store 1).runAlone (Subscriptions.setAttachments 1 2 (.fungible "a.near") tiedAttachments none) shelf
      ∃ kept record, out.1 = .ok kept ∧ ((store 1).runAlone (Subscriptions.get 1 2) out.2).1 = .ok (some record) ∧
        Assoc.get? (.fungible "a.near") record.tokens = some kept ∧
        Attachment.select (.ofNat 250) none kept.attachments = .ok (some ⟨.photo, "second"⟩) := by
  have hnumbers : Attachment.Numbers tiedAttachments := by decide
  refine ⟨hnumbers, ?_⟩
  intro shelf out
  have hbegin : Mirrors 1 [] ({} : Shelf).database := .of_no_rows ⟨rfl, rfl, by decide⟩ rfl
  have htoken : Token.parse (Token.fungible "a.near").key = .ok (.fungible "a.near") := Token.parse_key (by decide) rfl
  have hchat : Database.fits 2 := rfl
  have hdefault : ∀ s ∈ (none : Option Subscription), s.Proper ∧ s.minAmount.isWritable := by simp
  have hfollowed := (hbegin.follow hchat htoken hdefault).mirrors
  obtain ⟨chosen, -, -, hmade, -, hset⟩ := attachments_fall_through (m := .ofNat 250) rfl hnumbers
  obtain ⟨kept, record, hout, hread, hkept, hselect⟩ :=
    hset 1 2 (.fungible "a.near") none _ shelf _ hfollowed rfl rfl (by decide) (by decide)
  obtain ⟨made, harranged, hmade, -⟩ := hmade {}
  have hsecond : Attachment.select (.ofNat 250) none made.attachments = .ok (some ⟨.photo, "second"⟩) := by
    rw [Subscription.arranged_numbers _ hnumbers] at harranged
    obtain rfl := Except.ok.inj harranged
    rfl
  exact ⟨kept, record, hout, hread, hkept, hselect.trans (hmade.symm.trans hsecond)⟩

end Subscriptions

end ChainAlerts
