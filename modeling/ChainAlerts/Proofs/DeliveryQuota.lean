import ChainAlerts.Proofs.DeliveryLedger

/-! Deliveries within their quota, over every schedule. Every job is at one of its stages, the store's ledger bounds
what all of them have done, every notice was started by the attempt that claimed its announcement, and every job that
has ended is counted. Each of these is kept by one move, and together they say what a schedule of any length leaves. -/

namespace ChainAlerts.Dispatch

open Limiter (Slot noticeKey)

variable {δ : Type}

namespace Tracked

def isDelivery (job : Tracked δ) : Bool :=
  match job.duty with
  | .delivery .. => true
  | .notice .. => false

/-- Whether a job has been counted as ended in a way. -/
def hasEndedAs (outcome : Outcome) (job : Tracked δ) : Bool := job.cleared && outcome? job.rest = some outcome

/-- Whether a job is an attempt to notify a slot's chat that falls into its bucket. -/
def isAttemptIn (t : Slot) (job : Tracked δ) : Bool :=
  match job.duty with
  | .delivery chat _ => chat = t.chat && bucketAt t.window (timeRead job.deeds) = some t.bucket
  | .notice .. => false

/-- Whether a job is a notice about a slot. -/
def isNoticeOf (t : Slot) (job : Tracked δ) : Bool :=
  match job.duty with
  | .delivery .. => false
  | .notice chat e time => chat = t.chat && e.window = t.window && bucketAt t.window time = some t.bucket

/-- How many notices about a slot a job has started. -/
def announcedIn (t : Slot) (job : Tracked δ) : Nat :=
  if job.isAttemptIn t then done (announces t.chat t.window) job else 0

end Tracked

namespace Deliveries

/-- How many notifications the attempts of a slot have handed to the chat service. -/
def handedIn (t : Slot) (s : Deliveries δ) : Nat := s.total fun job => if job.isAttemptIn t then done isSend job else 0

/-- How many notices about a slot have been handed to the chat service. -/
def noticesIn (t : Slot) (s : Deliveries δ) : Nat := s.total fun job => if job.isNoticeOf t then done isSend job else 0

end Deliveries

/-- What a job has done, and how it has ended, fits what it is for. -/
def Fits (l : Limiter) : Duty δ → List (Deed δ) → Option Outcome → Prop
  | .delivery chat draft => DeliveryStage l chat draft
  | .notice chat _ _ => NoticeStage chat

section Jobs

variable {l : Limiter} {duty : Duty δ} {deeds : List (Deed δ)} {ended : Option Outcome} {job : Tracked δ} {t : Slot}

theorem Fits.keepsTo (h : Fits l duty deeds ended) : ∀ deed ∈ deeds, deed.KeepsTo l duty.chat := by
  cases duty with
  | delivery chat draft => exact DeliveryStage.keepsTo h
  | notice chat e time => exact NoticeStage.keepsTo h

/-- Only a delivery starts notices, and they are for its own chat. -/
theorem Fits.of_announce (h : Fits l duty deeds ended) {chat : Int} {e : LimitExceeded} {u : Unit}
    (hmem : ⟨.announce chat e, u⟩ ∈ deeds) : ∃ draft, duty = .delivery chat draft := by
  have hkeeps : chat = duty.chat := h.keepsTo _ hmem
  cases duty with
  | delivery c draft =>
      obtain rfl : chat = c := hkeeps
      exact ⟨draft, rfl⟩
  | notice c e' time =>
      have hnone := List.countP_eq_zero.mp (NoticeStage.announces_eq h chat e.window) _ hmem
      simp [announces] at hnone

/-- A notice is announced by a delivery that has read the time. -/
theorem announcedIn_append (h : Fits l job.duty job.deeds ended) (deed : Deed δ) (rest : Activity δ) :
    Tracked.announcedIn t { job with rest, deeds := job.deeds ++ [deed] } =
      job.announcedIn t + if job.isAttemptIn t && announces t.chat t.window deed then 1 else 0 := by
  obtain ⟨duty, rest', deeds, cleared⟩ := job
  cases duty with
  | notice chat e time => rfl
  | delivery chat draft =>
      cases htime : timeRead deeds with
      | none =>
          obtain rfl : deeds = [] := DeliveryStage.eq_nil h htime
          -- what it does first is not a notice, or it has read no time for it
          cases hannounces : announces t.chat t.window deed with
          | false => simp [Tracked.announcedIn, done, hannounces]
          | true =>
              have hread : timeRead [deed] = none := by
                obtain ⟨r, reply⟩ := deed
                cases r with
                | announce c e => rfl
                | _ => cases hannounces
              simp [Tracked.announcedIn, Tracked.isAttemptIn, hread, htime, bucketAt]
      | some time =>
          have hread : timeRead (deeds ++ [deed]) = some time := timeRead_append htime _
          simp only [Tracked.announcedIn, Tracked.isAttemptIn, hread, htime, done, List.countP_append,
            List.countP_singleton]
          split
          next hin => simp [hin]
          next hout => simp [hout]

/-- The notices that a request starts are those that the job has announced with it. -/
theorem isNoticeOf_started (d : Dispatcher δ) {r : Request δ} {reply : r.Reply}
    (h : Fits l job.duty (job.deeds ++ [⟨r, reply⟩]) ended) :
    ((Deliveries.started d (timeRead job.deeds) r).map fun new => (new.isNoticeOf t).toNat).sum =
      if job.isAttemptIn t && announces t.chat t.window ⟨r, reply⟩ then 1 else 0 := by
  cases r with
  | announce chat e =>
      obtain ⟨draft, hduty⟩ := h.of_announce (List.mem_append_right _ (List.mem_singleton_self _))
      simp only [Deliveries.started, List.map_singleton, List.sum_singleton, Tracked.isNoticeOf,
        Tracked.isAttemptIn, announces, hduty]
      have htoNat : ∀ b : Bool, b.toNat = if b then 1 else 0 := by decide
      by_cases hchat : chat = t.chat <;> by_cases hwindow : e.window = t.window <;> simp [hchat, hwindow, htoNat]
  | _ => simp [Deliveries.started, announces]

end Jobs

/-- What holds of the jobs of a bot at every point of a schedule. -/
structure InOrder (l : Limiter) (addressee : δ → Int) (s : Deliveries δ) : Prop where
  fits : ∀ job ∈ s.jobs, Always (Deed.IsSound addressee) (Fits l job.duty) job.deeds job.rest
  ledger : Ledger l s
  caused : ∀ job ∈ s.jobs, ∀ chat e time, job.duty = .notice chat e time → ∃ cause ∈ s.jobs, ∃ draft,
    cause.duty = .delivery chat draft ∧ ⟨.announce chat e, ()⟩ ∈ cause.deeds
  notices : ∀ t : Slot, s.total (fun job => (job.isNoticeOf t).toNat) = s.total (Tracked.announcedIn t)

variable {d : Dispatcher δ} {l : Limiter} {addressee : δ → Int} {s next : Deliveries δ}

/-- The answers that a move gives are ones that a job may get. -/
theorem World.IsSound.answer {world : World δ} (h : world.IsSound addressee) {redis : Redis.State}
    (hserves : redis.failing = []) (r : Request δ) : Deed.IsSound addressee ⟨r, (world.answer r redis).1⟩ := by
  cases r with
  | now => exact h.clock
  | redis command => exact ⟨_, congrArg Prod.fst (answer_serving hserves command)⟩
  | render draft => exact h.rendering draft
  | _ => trivial

theorem InOrder.fits_step (h : InOrder l addressee s) (hl : d.limiter = some l)
    (hseconds : ∀ w ∈ l.windows, w.seconds ≠ 0) (hstep : Deliveries.Step d l addressee s next) :
    ∀ job ∈ next.jobs, Always (Deed.IsSound addressee) (Fits l job.duty) job.deeds job.rest := by
  cases hstep with
  | stays => exact h.fits
  | outside hcommand => exact h.fits
  | @spawned chat draft hdraft =>
      exact List.forall_mem_append.mpr ⟨h.fits, List.forall_mem_singleton.mpr (always_deliver hl hseconds hdraft)⟩
  | @ended i job outcome hjob hpending hrest =>
      intro other hmem
      rcases List.mem_or_eq_of_mem_set hmem with hold | rfl
      · exact h.fits other hold
      · exact h.fits job (List.mem_of_getElem? hjob)
  | @asked i job r rest world hjob hpending hrest hworld =>
      refine List.forall_mem_append.mpr ⟨fun other hmem => ?_, fun other hmem => ?_⟩
      · rcases List.mem_or_eq_of_mem_set hmem with hold | rfl
        · exact h.fits other hold
        · have hjobFits := h.fits job (List.mem_of_getElem? hjob)
          rw [hrest] at hjobFits
          exact hjobFits.2 _ (hworld.answer h.ledger.serves r)
      · cases r with
        | announce chat e =>
            obtain rfl := List.mem_singleton.mp hmem
            exact always_announce d _ chat e
        | _ => cases hmem

/-- What a job has done after one more request fits what it is for. -/
theorem InOrder.fits_asked (h : InOrder l addressee s) {i : Nat} {job : Tracked δ} {r : Request δ}
    {rest : r.Reply → Activity δ} {world : World δ} (hjob : s.jobs[i]? = some job) (hrest : job.rest = .ask r rest)
    (hworld : world.IsSound addressee) :
    ∃ ended, Fits l job.duty (job.deeds ++ [⟨r, (world.answer r s.redis).1⟩]) ended := by
  have hjobFits := h.fits job (List.mem_of_getElem? hjob)
  rw [hrest] at hjobFits
  exact ⟨_, (hjobFits.2 _ (hworld.answer h.ledger.serves r)).now⟩

theorem InOrder.ledger_step (h : InOrder l addressee s) (hstep : Deliveries.Step d l addressee s next) :
    Ledger l next := by
  cases hstep with
  | stays => exact h.ledger
  | @outside command hcommand =>
      refine h.ledger.congr ?_ (fun key hkey => ?_) fun t ht => ⟨rfl, rfl⟩
      · exact (Redis.State.failing_answer command s.redis).trans h.ledger.serves
      · refine Redis.State.cell?_answer_of_ne command ?_
        rintro rfl
        exact hcommand hkey
  | @spawned chat draft hdraft =>
      have htotal : ∀ p : Deed δ → Bool, (s.spawn d chat draft).total (done p) = s.total (done p) := by
        intro p
        simp [Deliveries.total, Deliveries.spawn, done]
      exact h.ledger.congr h.ledger.serves (fun _ _ => rfl) fun t ht => ⟨htotal _, htotal _⟩
  | @ended i job outcome hjob hpending hrest =>
      exact h.ledger.congr h.ledger.serves (fun _ _ => rfl) fun t ht =>
        ⟨total_cleared hjob rfl, total_cleared hjob rfl⟩
  | @asked i job r rest world hjob hpending hrest hworld =>
      obtain ⟨ended, hfits⟩ := h.fits_asked hjob hrest hworld
      have hown := hfits.keepsTo _ (List.mem_append_right _ (List.mem_singleton_self _))
      cases r with
      | redis command =>
          have hanswer := answer_serving h.ledger.serves command
          have hdeed : (⟨.redis command, (world.answer (.redis command) s.redis).1⟩ : Deed δ) =
              ⟨.redis command, .ok (s.redis.perform command).1⟩ :=
            congrArg (Deed.mk (.redis command)) (congrArg Prod.fst hanswer)
          refine h.ledger.perform hown (congrArg Prod.snd hanswer) fun p => ?_
          rw [total_done p hjob, hdeed]
      | _ =>
          refine h.ledger.congr h.ledger.serves (fun _ _ => rfl) fun t ht => ⟨?_, ?_⟩ <;>
          · rw [total_done _ hjob]
            rfl

/-- Jobs stay, and what they have done stays done. -/
theorem Deliveries.Step.grows (hstep : Deliveries.Step d l addressee s next) {job : Tracked δ} (hjob : job ∈ s.jobs) :
    ∃ later ∈ next.jobs, later.duty = job.duty ∧ job.deeds ⊆ later.deeds := by
  have hsame : ∃ later ∈ s.jobs, later.duty = job.duty ∧ job.deeds ⊆ later.deeds :=
    ⟨job, hjob, rfl, List.Subset.refl _⟩
  -- the job that moves is replaced by one that has done more
  have hset : ∀ {i : Nat} {old : Tracked δ} (new : Tracked δ), s.jobs[i]? = some old → new.duty = old.duty →
      old.deeds ⊆ new.deeds → ∃ later ∈ s.jobs.set i new, later.duty = job.duty ∧ job.deeds ⊆ later.deeds := by
    intro i old new hold hduty hdeeds
    obtain ⟨j, hj⟩ := List.mem_iff_getElem?.mp hjob
    by_cases hij : i = j
    · subst hij
      obtain rfl : old = job := Option.some.inj (hold.symm.trans hj)
      have hlength : i < s.jobs.length := (List.getElem?_eq_some_iff.mp hold).1
      exact ⟨new, List.mem_iff_getElem?.mpr ⟨i, List.getElem?_set_self hlength⟩, hduty, hdeeds⟩
    · refine ⟨job, List.mem_iff_getElem?.mpr ⟨j, ?_⟩, rfl, List.Subset.refl _⟩
      rw [List.getElem?_set_ne hij]
      exact hj
  cases hstep with
  | stays => exact hsame
  | outside hcommand => exact hsame
  | spawned hdraft => exact ⟨job, List.mem_append_left _ hjob, rfl, List.Subset.refl _⟩
  | ended hold hpending hrest => exact hset _ hold rfl (List.Subset.refl _)
  | @asked i old r rest world hold hpending hrest hworld =>
      obtain ⟨later, hmem, hlater⟩ := hset
        { old with
          rest := rest (world.answer r s.redis).1
          deeds := old.deeds ++ [⟨r, (world.answer r s.redis).1⟩] } hold rfl (List.subset_append_left _ _)
      exact ⟨later, List.mem_append_left _ hmem, hlater⟩

theorem InOrder.caused_step (h : InOrder l addressee s) (hstep : Deliveries.Step d l addressee s next) :
    ∀ job ∈ next.jobs, ∀ chat e time, job.duty = .notice chat e time → ∃ cause ∈ next.jobs, ∃ draft,
      cause.duty = .delivery chat draft ∧ ⟨.announce chat e, ()⟩ ∈ cause.deeds := by
  intro job hmem chat e time hduty
  have hold : ∀ old ∈ s.jobs, old.duty = .notice chat e time → ∃ cause ∈ next.jobs, ∃ draft,
      cause.duty = .delivery chat draft ∧ ⟨.announce chat e, ()⟩ ∈ cause.deeds := by
    intro old hmem hduty
    obtain ⟨cause, hcause, draft, hdelivery, hannounced⟩ := h.caused old hmem chat e time hduty
    obtain ⟨later, hlater, hsame, hdeeds⟩ := hstep.grows hcause
    exact ⟨later, hlater, draft, hsame.trans hdelivery, hdeeds hannounced⟩
  cases hstep with
  | stays => exact hold job hmem hduty
  | outside hcommand => exact hold job hmem hduty
  | spawned hdraft =>
      rcases List.mem_append.mp hmem with hmem | hmem
      · exact hold job hmem hduty
      · obtain rfl := List.mem_singleton.mp hmem
        cases hduty
  | @ended i old outcome hjob hpending hrest =>
      rcases List.mem_or_eq_of_mem_set hmem with hmem | rfl
      · exact hold job hmem hduty
      · exact hold old (List.mem_of_getElem? hjob) hduty
  | @asked i old r rest world hjob hpending hrest hworld =>
      rcases List.mem_append.mp hmem with hmem | hmem
      · rcases List.mem_or_eq_of_mem_set hmem with hmem | rfl
        · exact hold job hmem hduty
        · exact hold old (List.mem_of_getElem? hjob) hduty
      · -- a notice that has just been started is caused by the job that moves
        obtain ⟨ended, hfits⟩ := h.fits_asked hjob hrest hworld
        cases r with
        | announce c e' =>
            obtain rfl := List.mem_singleton.mp hmem
            cases hduty
            have hdeed := List.mem_append_right old.deeds (List.mem_singleton_self (⟨.announce chat e, ()⟩ : Deed δ))
            obtain ⟨draft, hdelivery⟩ := hfits.of_announce hdeed
            have hlength : i < s.jobs.length := (List.getElem?_eq_some_iff.mp hjob).1
            exact ⟨_, List.mem_append_left _ (List.mem_set hlength _), draft, hdelivery, hdeed⟩
        | _ => cases hmem

theorem InOrder.notices_step (h : InOrder l addressee s) (hstep : Deliveries.Step d l addressee s next) (t : Slot) :
    next.total (fun job => (job.isNoticeOf t).toNat) = next.total (Tracked.announcedIn t) := by
  have hnotices := h.notices t
  cases hstep with
  | stays => exact hnotices
  | outside hcommand => exact hnotices
  | spawned hdraft =>
      simpa [Deliveries.total, Deliveries.spawn, Tracked.isNoticeOf, Tracked.announcedIn, done] using hnotices
  | @ended i job outcome hjob hpending hrest =>
      rw [total_cleared hjob rfl, total_cleared hjob rfl]
      exact hnotices
  | @asked i job r rest world hjob hpending hrest hworld =>
      obtain ⟨ended, hfits⟩ := h.fits_asked hjob hrest hworld
      have hbefore := (h.fits job (List.mem_of_getElem? hjob)).now
      let later : Tracked δ :=
        { job with
          rest := rest (world.answer r s.redis).1
          deeds := job.deeds ++ [⟨r, (world.answer r s.redis).1⟩] }
      let after : Deliveries δ :=
        ⟨(world.answer r s.redis).2, s.jobs.set i later ++ Deliveries.started d (timeRead job.deeds) r, s.counts⟩
      have hstarted : after.total (fun job => (job.isNoticeOf t).toNat) + (job.isNoticeOf t).toNat =
          s.total (fun job => (job.isNoticeOf t).toNat) + (job.isNoticeOf t).toNat + _ :=
        total_set _ _ _ hjob later (Deliveries.started d (timeRead job.deeds) r)
      have hannounced : after.total (Tracked.announcedIn t) + job.announcedIn t =
          s.total (Tracked.announcedIn t) + later.announcedIn t + _ :=
        total_set _ _ _ hjob later (Deliveries.started d (timeRead job.deeds) r)
      have hnone : ((Deliveries.started d (timeRead job.deeds) r).map (Tracked.announcedIn t)).sum = 0 := by
        cases r <;> rfl
      have hlater : later.announcedIn t = _ := announcedIn_append hbefore _ _
      rw [isNoticeOf_started d hfits] at hstarted
      rw [hlater, hnone] at hannounced
      show after.total _ = after.total _
      omega

theorem InOrder.step (h : InOrder l addressee s) (hl : d.limiter = some l)
    (hseconds : ∀ w ∈ l.windows, w.seconds ≠ 0) (hstep : Deliveries.Step d l addressee s next) :
    InOrder l addressee next where
  fits := h.fits_step hl hseconds hstep
  ledger := h.ledger_step hstep
  caused := h.caused_step hstep
  notices := h.notices_step hstep

/-- How many jobs are counted as ended in a way. -/
def Counts.of (c : Counts) : Outcome → Nat
  | .sent => c.sent
  | .limited => c.limited
  | .skipped => c.skipped
  | .failed => c.failed
  | .noticeSent => c.notices
  | .brokeOff | .noticeLost => 0

/-- The ways in which a delivery ends. -/
def deliveryEnds : List Outcome := [.sent, .limited, .skipped, .failed]

theorem Counts.of_add (c : Counts) (outcome : Outcome) {other : Outcome} (hother : other ∈ deliveryEnds) :
    (c.add outcome).of other = c.of other + if outcome = other then 1 else 0 := by
  cases other <;> cases outcome <;> first | rfl | exact absurd hother (by decide)

/-- Every delivery that was started is counted, and every job that has ended. -/
structure Accounts (s : Deliveries δ) : Prop where
  spawned : s.counts.spawned = s.total fun job => job.isDelivery.toNat
  ended : ∀ outcome ∈ deliveryEnds, s.counts.of outcome = s.total fun job => (job.hasEndedAs outcome).toNat
  cleared : ∀ job ∈ s.jobs, job.cleared → ∃ outcome, job.rest = .done outcome

theorem Accounts.step (h : Accounts s) (hstep : Deliveries.Step d l addressee s next) : Accounts next := by
  cases hstep with
  | stays => exact h
  | outside hcommand => exact ⟨h.spawned, h.ended, h.cleared⟩
  | @spawned chat draft hdraft =>
      refine ⟨?_, fun outcome hmem => ?_, ?_⟩
      · have hspawned := h.spawned
        simp only [Deliveries.total, Deliveries.spawn, List.map_append, List.sum_append] at hspawned ⊢
        rw [hspawned]
        rfl
      · have hended := h.ended outcome hmem
        simp only [Deliveries.total, Deliveries.spawn, List.map_append, List.sum_append] at hended ⊢
        exact hended
      · refine List.forall_mem_append.mpr ⟨h.cleared, List.forall_mem_singleton.mpr fun hcleared => ?_⟩
        exact absurd hcleared Bool.false_ne_true
  | @ended i job outcome hjob hpending hrest =>
      refine ⟨?_, fun other hmem => ?_, fun other hmem hother => ?_⟩
      · have hspawned : (s.counts.add outcome).spawned = s.counts.spawned := by cases outcome <;> rfl
        rw [total_cleared hjob rfl]
        exact hspawned.trans h.spawned
      · have hset := sum_map_set (fun job => (job.hasEndedAs other).toNat) hjob { job with cleared := true }
        have hbefore := h.ended other hmem
        have hopen : (job.hasEndedAs other).toNat = 0 := by simp [Tracked.hasEndedAs, hpending]
        have hcounted :
            (Tracked.hasEndedAs other { job with cleared := true }).toNat = if outcome = other then 1 else 0 := by
          simp only [Tracked.hasEndedAs, Bool.true_and, hrest, outcome?, Option.some.injEq]
          split <;> simp_all
        simp only [Deliveries.total, hopen, hcounted] at hset hbefore ⊢
        rw [Counts.of_add s.counts outcome hmem]
        omega
      · rcases List.mem_or_eq_of_mem_set hmem with hmem | rfl
        · exact h.cleared other hmem hother
        · exact ⟨outcome, hrest⟩
  | @asked i job r rest world hjob hpending hrest hworld =>
      let later : Tracked δ :=
        { job with
          rest := rest (world.answer r s.redis).1
          deeds := job.deeds ++ [⟨r, (world.answer r s.redis).1⟩] }
      let started := Deliveries.started d (timeRead job.deeds) r
      refine ⟨?_, fun outcome hmem => ?_, fun other hmem hother => ?_⟩
      · have htotal : Deliveries.total (fun job => job.isDelivery.toNat) ⟨_, s.jobs.set i later ++ started, s.counts⟩ +
            job.isDelivery.toNat = s.total (fun job => job.isDelivery.toNat) + job.isDelivery.toNat + _ :=
          total_set _ (world.answer r s.redis).2 s.counts hjob later started
        have hnone : (started.map fun job => job.isDelivery.toNat).sum = 0 := by cases r <;> rfl
        rw [hnone] at htotal
        exact h.spawned.trans (Nat.add_right_cancel htotal).symm
      · have hopen : (job.hasEndedAs outcome).toNat = 0 := by simp [Tracked.hasEndedAs, hpending]
        have hlater : (later.hasEndedAs outcome).toNat = 0 := by simp [Tracked.hasEndedAs, later, hpending]
        have htotal := total_set (fun job => (job.hasEndedAs outcome).toNat) (world.answer r s.redis).2 s.counts hjob
          later started
        have hnone : (started.map fun job => (job.hasEndedAs outcome).toNat).sum = 0 := by cases r <;> rfl
        simp only [hopen, hlater, hnone, Nat.add_zero] at htotal
        exact (h.ended outcome hmem).trans htotal.symm
      · rcases List.mem_append.mp hmem with hmem | hmem
        · rcases List.mem_or_eq_of_mem_set hmem with hmem | rfl
          · exact h.cleared other hmem hother
          · exact absurd (hpending.symm.trans hother) Bool.false_ne_true
        · cases r with
          | announce chat e =>
              obtain rfl := List.mem_singleton.mp hmem
              cases hother
          | _ => cases hmem

section Runs

variable {t : Slot}

theorem total_le {f g : Tracked δ → Nat} (h : ∀ job ∈ s.jobs, f job ≤ g job) : s.total f ≤ s.total g :=
  List.sum_le_sum h

/-- An attempt of a slot is at one of the stages of a delivery to its chat. -/
theorem InOrder.stage_of_attempt (h : InOrder l addressee s) {job : Tracked δ} (hjob : job ∈ s.jobs)
    (hin : job.isAttemptIn t) :
    ∃ chat draft, DeliveryStage l chat draft job.deeds (outcome? job.rest) ∧ t.chat = chat ∧
      bucketAt t.window (timeRead job.deeds) = some t.bucket := by
  have hfits := (h.fits job hjob).now
  obtain ⟨duty, rest, deeds, cleared⟩ := job
  cases duty with
  | notice chat e time => cases hin
  | delivery chat draft =>
      obtain ⟨hchat, hbucket⟩ := Bool.and_eq_true_iff.mp hin
      exact ⟨chat, draft, hfits, (of_decide_eq_true hchat).symm, of_decide_eq_true hbucket⟩

/-- The attempts of a slot that were handed over have each been told a number within the limit. -/
theorem InOrder.handedIn_le (h : InOrder l addressee s) (ht : t.window ∈ l.windows) :
    (s.handedIn t : Int) ≤ max 0 t.window.limit := by
  have hcounted : s.handedIn t ≤ s.total (done (countsWithin (l.slotKey t) t.window.limit)) := by
    refine total_le fun job hjob => ?_
    split
    next hin =>
      obtain ⟨chat, draft, hstage, hchat, hbucket⟩ := h.stage_of_attempt hjob hin
      exact hstage.sends_le ht hchat hbucket
    · exact Nat.zero_le _
  have hledger := h.ledger.counted t ht
  omega

/-- The notices about a slot were each started by the first attempt to claim the announcement. -/
theorem InOrder.noticesIn_le (h : InOrder l addressee s) (ht : t.window ∈ l.windows) : s.noticesIn t ≤ 1 := by
  calc s.noticesIn t ≤ s.total (fun job => (job.isNoticeOf t).toNat) := total_le fun job hjob => ?_
    _ = s.total (Tracked.announcedIn t) := h.notices t
    _ ≤ s.total (done (claimsFirst (noticeKey (l.slotKey t)))) := total_le fun job hjob => ?_
    _ ≤ (l.announced s.redis t).toNat := h.ledger.claimed t ht
    _ ≤ 1 := Bool.toNat_le _
  · split
    next hin =>
      rw [hin]
      have hfits := (h.fits job hjob).now
      obtain ⟨duty, rest, deeds, cleared⟩ := job
      cases duty with
      | delivery chat draft => cases hin
      | notice chat e time => exact NoticeStage.sends_le hfits
    · exact Nat.zero_le _
  · unfold Tracked.announcedIn
    split
    next hin =>
      obtain ⟨chat, draft, hstage, hchat, hbucket⟩ := h.stage_of_attempt hjob hin
      exact hstage.announces_le hchat hbucket
    · exact Nat.zero_le _

/-- When no job is pending, every delivery has ended in one of the ways that are counted, and no notice has. -/
theorem InOrder.ended_once (h : InOrder l addressee s) (haccounts : Accounts s) (hidle : s.isIdle) {job : Tracked δ}
    (hjob : job ∈ s.jobs) :
    job.isDelivery.toNat = (deliveryEnds.map fun outcome => (job.hasEndedAs outcome).toNat).sum := by
  have hcleared : job.cleared := List.all_eq_true.mp hidle job hjob
  obtain ⟨outcome, hrest⟩ := haccounts.cleared job hjob hcleared
  have hfits := (h.fits job hjob).now
  obtain ⟨duty, rest, deeds, cleared⟩ := job
  obtain rfl : cleared = true := hcleared
  obtain rfl : rest = .done outcome := hrest
  cases duty with
  | delivery chat draft =>
      have hmem := DeliveryStage.outcome_mem hfits rfl
      simp only [List.mem_cons, List.not_mem_nil, or_false] at hmem
      rcases hmem with rfl | rfl | rfl | rfl <;> rfl
  | notice chat e time =>
      have hmem := NoticeStage.outcome_mem hfits rfl
      simp only [List.mem_cons, List.not_mem_nil, or_false] at hmem
      rcases hmem with rfl | rfl <;> rfl

/-- Every delivery that was started is counted once, when no job is pending. -/
theorem InOrder.spawned_eq (h : InOrder l addressee s) (haccounts : Accounts s) (hidle : s.isIdle) :
    s.counts.spawned = s.counts.sent + s.counts.limited + s.counts.skipped + s.counts.failed := by
  have hended : ∀ outcome ∈ deliveryEnds, s.counts.of outcome = _ := haccounts.ended
  calc s.counts.spawned = s.total (fun job => job.isDelivery.toNat) := haccounts.spawned
    _ = s.total fun job => (deliveryEnds.map fun outcome => (job.hasEndedAs outcome).toNat).sum := ?_
    _ = (deliveryEnds.map fun outcome => s.total fun job => (job.hasEndedAs outcome).toNat).sum := ?_
    _ = (deliveryEnds.map s.counts.of).sum := ?_
    _ = s.counts.sent + s.counts.limited + s.counts.skipped + s.counts.failed := ?_
  · exact congrArg List.sum (List.map_congr_left fun job hjob => h.ended_once haccounts hidle hjob)
  · simp only [Deliveries.total, deliveryEnds, List.map_cons, List.map_nil, List.sum_cons, List.sum_nil,
      List.sum_map_add]
    simp
  · exact congrArg List.sum (List.map_congr_left fun outcome hmem => (hended outcome hmem).symm)
  · simp only [deliveryEnds, List.map_cons, List.map_nil, List.sum_cons, List.sum_nil, Counts.of]
    omega

theorem InOrder.begin (l : Limiter) (addressee : δ → Int) {redis : Redis.State} (hserves : redis.failing = [])
    (hcounters : ∀ t : Slot, t.window ∈ l.windows → 0 ≤ l.tally redis t) :
    InOrder l addressee ({ redis } : Deliveries δ) where
  fits := fun _ hjob => absurd hjob List.not_mem_nil
  ledger := ⟨hserves, hcounters, fun _ _ => Int.le_max_left 0 _, fun _ _ => Nat.zero_le _⟩
  caused := fun _ hjob => absurd hjob List.not_mem_nil
  notices := fun _ => rfl

theorem Accounts.begin (redis : Redis.State) : Accounts ({ redis } : Deliveries δ) where
  spawned := rfl
  ended := fun outcome _ => by cases outcome <;> rfl
  cleared := fun _ hjob => absurd hjob List.not_mem_nil

/-- An attempt that is over a limit does not render. -/
theorem InOrder.not_render (h : InOrder l addressee s) {job : Tracked δ} (hjob : job ∈ s.jobs)
    (hlimited : job.hasEndedAs .limited ∨ job.deeds.any isClaim) : job.deeds.any isRender = false := by
  have hfits := (h.fits job hjob).now
  obtain ⟨duty, rest, deeds, cleared⟩ := job
  cases duty with
  | notice chat e time => exact NoticeStage.not_render hfits
  | delivery chat draft =>
      refine DeliveryStage.not_render hfits (hlimited.imp_left fun hended => ?_)
      exact of_decide_eq_true (Bool.and_eq_true_iff.mp hended).2

/-- What holds at every point of a schedule: it holds at its beginning, and each move keeps it. -/
theorem InOrder.run (h : InOrder l addressee s) (haccounts : Accounts s) (hl : d.limiter = some l)
    (hseconds : ∀ w ∈ l.windows, w.seconds ≠ 0) {moves : List (Move δ)} (hmoves : ∀ m ∈ moves, m.IsSound l addressee) :
    InOrder l addressee (s.run d moves) ∧ Accounts (s.run d moves) := by
  induction moves generalizing s with
  | nil => exact ⟨h, haccounts⟩
  | cons m rest ih =>
      obtain ⟨hm, hrest⟩ := List.forall_mem_cons.mp hmoves
      have hstep := s.step_move d hm
      exact ih (h.step hl hseconds hstep) (haccounts.step hstep) hrest

end Runs

/-- Deliveries within their quota. Over every schedule, the attempts of a chat that fall into one bucket of a window
hand over no more notifications than the window's limit, and one notice at most is handed over for the bucket. Every
job charges and notifies its own chat only, an attempt that is over a limit does not render, and a notice is started
by an attempt to notify the same chat. When no job is pending, every delivery that was started is counted once. -/
theorem deliveries_within_quota (d : Dispatcher δ) (l : Limiter) (hl : d.limiter = some l)
    (hseconds : ∀ w ∈ l.windows, w.seconds ≠ 0) (redis : Redis.State) (hserves : redis.failing = [])
    (hcounters : ∀ t : Slot, t.window ∈ l.windows → 0 ≤ l.tally redis t) (addressee : δ → Int)
    (moves : List (Move δ)) (hmoves : ∀ m ∈ moves, m.IsSound l addressee) :
    let after := Deliveries.run d moves { redis }
    (∀ t : Slot, t.window ∈ l.windows → (after.handedIn t : Int) ≤ max 0 t.window.limit ∧ after.noticesIn t ≤ 1) ∧
    (∀ job ∈ after.jobs, (∀ deed ∈ job.deeds, deed.KeepsTo l job.duty.chat) ∧
      ((job.hasEndedAs .limited ∨ job.deeds.any isClaim) → job.deeds.any isRender = false) ∧
      ∀ chat e time, job.duty = .notice chat e time → ∃ cause ∈ after.jobs, ∃ draft,
        cause.duty = .delivery chat draft ∧ ⟨.announce chat e, ()⟩ ∈ cause.deeds) ∧
    (after.isIdle → after.counts.spawned =
      after.counts.sent + after.counts.limited + after.counts.skipped + after.counts.failed) := by
  obtain ⟨h, haccounts⟩ := (InOrder.begin l addressee hserves hcounters).run (.begin redis) hl hseconds hmoves
  exact ⟨fun t ht => ⟨h.handedIn_le ht, h.noticesIn_le ht⟩,
    fun job hjob => ⟨(h.fits job hjob).now.keepsTo, h.not_render hjob, h.caused job hjob⟩, h.spawned_eq haccounts⟩

/-- One notification in five minutes, and three in an hour. -/
def strictLimiter : Limiter := ⟨7, [⟨"5m", 300, 1⟩, ⟨"1h", 3600, 3⟩], "limit:"⟩

def strict : Dispatcher Int := { bot := 7, limiter := some strictLimiter }

def fairWorld : World Int where
  now := .int 1000
  render := fun chat => .ready { chat, text := "hello" }
  accept := fun _ => .ok ()

/-- Three attempts to notify chat 5 whose requests take turns, while someone else counts on the store, and then the
notice that they start. -/
def crowd : List (Move Int) :=
  List.replicate 3 (.spawn 5 5) ++
    (List.replicate 8 [.go 0 fairWorld, .outside (.incr "prices"), .go 1 fairWorld, .go 2 fairWorld]).flatten ++
    List.replicate 3 (.go 3 fairWorld)

theorem not_isKeyOf_prices : ¬ IsKeyOf strictLimiter "prices" := by
  rintro ⟨t, -, h | h⟩ <;>
  · have hchars := congrArg (List.head? ∘ String.toList) h
    simp [Limiter.toList_slotKey_parts, Limiter.toList_noticeKey_parts, strictLimiter] at hchars

theorem crowd_isSound : ∀ m ∈ crowd, m.IsSound strictLimiter id := by
  have hworld : fairWorld.IsSound id :=
    ⟨⟨1000, rfl⟩, fun chat note h => (congrArg Notification.chat (Rendering.ready.inj h)).symm⟩
  intro m hm
  simp only [crowd, List.mem_append, List.mem_flatten, List.mem_replicate] at hm
  rcases hm with (⟨-, rfl⟩ | ⟨round, ⟨-, rfl⟩, hm⟩) | ⟨-, rfl⟩
  · exact rfl
  · simp only [List.mem_cons, List.not_mem_nil, or_false] at hm
    rcases hm with rfl | rfl | rfl | rfl
    · exact hworld
    · exact not_isKeyOf_prices
    · exact hworld
    · exact hworld
  · exact hworld

theorem deliveries_within_quota_crowd :
    let after := Deliveries.run strict crowd { redis := {} }
    after.handedIn ⟨5, ⟨"5m", 300, 1⟩, 3⟩ ≤ 1 ∧ after.noticesIn ⟨5, ⟨"5m", 300, 1⟩, 3⟩ ≤ 1 ∧
      after.counts = { spawned := 3, sent := 1, limited := 2, notices := 1 } ∧
      after.counts.spawned = after.counts.sent + after.counts.limited + after.counts.skipped + after.counts.failed := by
  obtain ⟨hslots, -, haccounts⟩ := deliveries_within_quota strict strictLimiter rfl (by decide) {} rfl
    (fun _ _ => Int.le_refl 0) id crowd crowd_isSound
  obtain ⟨hhanded, hnotices⟩ := hslots ⟨5, ⟨"5m", 300, 1⟩, 3⟩ (by decide)
  exact ⟨Int.ofNat_le.mp hhanded, hnotices, by decide +kernel, haccounts (by decide +kernel)⟩

end ChainAlerts.Dispatch
