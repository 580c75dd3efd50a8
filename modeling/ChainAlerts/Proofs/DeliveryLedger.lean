import Mathlib.Algebra.BigOperators.Group.List.Basic
import Mathlib.Algebra.Order.BigOperators.Group.List
import Mathlib.Algebra.Order.Ring.Nat
import ChainAlerts.Proofs.DeliveryStages
import ChainAlerts.Proofs.SharedLimiters

/-! What the shared store says about all jobs of a bot at once. A counter only goes up, by one for each attempt that
is told a number, so no more attempts were told a number within a limit than the limit admits; and an announcement is
claimed first by one attempt only. This holds whichever jobs move in between. -/

namespace ChainAlerts.Dispatch

open Limiter (Slot noticeKey)

variable {δ : Type}

/-- Replacing one element of a list changes a sum over it by as much as that element. -/
theorem sum_map_set {α : Type} (f : α → Nat) {xs : List α} {i : Nat} {x : α} (h : xs[i]? = some x) (y : α) :
    ((xs.set i y).map f).sum + f x = (xs.map f).sum + f y := by
  induction xs generalizing i with
  | nil => cases h
  | cons z rest ih =>
      cases i with
      | zero =>
          obtain rfl : z = x := Option.some.inj h
          simp only [List.set_cons_zero, List.map_cons, List.sum_cons]
          omega
      | succ j =>
          have hrest := ih (i := j) h
          simp only [List.set_cons_succ, List.map_cons, List.sum_cons]
          omega

/-- A key of a limiter: of one of its counters or announcements. -/
def IsKeyOf (l : Limiter) (key : String) : Prop :=
  ∃ t : Slot, t.window ∈ l.windows ∧ (key = l.slotKey t ∨ key = noticeKey (l.slotKey t))

/-- The surroundings are as they should be: the clock shows a time in seconds, and a draft is rendered for the chat it
is addressed to. -/
structure World.IsSound (addressee : δ → Int) (world : World δ) : Prop where
  clock : ∃ seconds, Limiter.wholeSeconds world.now = .ok seconds
  rendering : ∀ draft note, world.render draft = .ready note → note.chat = addressee draft

/-- A move that may be part of a schedule. Others keep off the keys of the limiter. -/
def Move.IsSound (l : Limiter) (addressee : δ → Int) : Move δ → Prop
  | .spawn chat draft => addressee draft = chat
  | .go _ world => world.IsSound addressee
  | .outside command => ¬ IsKeyOf l command.key

namespace Deliveries

/-- What a move can do. -/
inductive Step (d : Dispatcher δ) (l : Limiter) (addressee : δ → Int) (s : Deliveries δ) : Deliveries δ → Prop
  | stays : Step d l addressee s s
  | spawned {chat : Int} {draft : δ} (hdraft : addressee draft = chat) : Step d l addressee s (s.spawn d chat draft)
  | ended {i : Nat} {job : Tracked δ} {outcome : Outcome} (hjob : s.jobs[i]? = some job)
      (hpending : job.cleared = false) (hrest : job.rest = .done outcome) :
      Step d l addressee s
        { s with jobs := s.jobs.set i { job with cleared := true }, counts := s.counts.add outcome }
  | asked {i : Nat} {job : Tracked δ} {r : Request δ} {next : r.Reply → Activity δ} {world : World δ}
      (hjob : s.jobs[i]? = some job) (hpending : job.cleared = false) (hrest : job.rest = .ask r next)
      (hworld : world.IsSound addressee) :
      Step d l addressee s
        { s with
          redis := (world.answer r s.redis).2
          jobs := s.jobs.set i
            { job with
              rest := next (world.answer r s.redis).1
              deeds := job.deeds ++ [⟨r, (world.answer r s.redis).1⟩] } ++ started d (timeRead job.deeds) r }
  | outside {command : Redis.Request} (hcommand : ¬ IsKeyOf l command.key) :
      Step d l addressee s { s with redis := (s.redis.answer command).2 }

theorem step_move (d : Dispatcher δ) {l : Limiter} {addressee : δ → Int} (s : Deliveries δ) {m : Move δ}
    (hm : m.IsSound l addressee) : Step d l addressee s (s.move d m) := by
  cases m with
  | spawn chat draft => exact .spawned hm
  | outside command => exact .outside hm
  | go i world =>
      simp only [move, go]
      cases hjob : s.jobs[i]? with
      | none => exact .stays
      | some job =>
          simp only
          by_cases hcleared : job.cleared
          · rw [if_pos hcleared]
            exact .stays
          · rw [if_neg hcleared]
            have hpending : job.cleared = false := Bool.eq_false_of_not_eq_true hcleared
            split
            next outcome hrest => exact .ended hjob hpending hrest
            next r next hrest => exact .asked hjob hpending hrest hm

/-- A sum over all jobs. -/
def total (f : Tracked δ → Nat) (s : Deliveries δ) : Nat := (s.jobs.map f).sum

end Deliveries

/-- How many times the jobs have done something of a kind. -/
def done (p : Deed δ → Bool) (job : Tracked δ) : Nat := job.deeds.countP p

section Store

variable {l : Limiter} {chat : Int} {redis : Redis.State} {command : Redis.Request}

/-- A command of a check takes the counter it is about one further, and changes no other. -/
theorem count_perform (h : IsOwn l chat command) (redis : Redis.State) (key : String) :
    (redis.perform command).2.count key = redis.count key + if command = .incr key then 1 else 0 := by
  cases command with
  | get k => cases h
  | set k text expiry => cases h
  | incr k =>
      by_cases hkey : key = k
      · subst hkey
        rw [if_pos rfl]
        exact Redis.State.count_incr_self redis key
      · rw [if_neg (by simp [Ne.symm hkey]), Int.add_zero]
        exact Redis.State.count_eq_of_cell? (Redis.State.cell?_incr_of_ne hkey)
  | expire k seconds =>
      rw [if_neg nofun, Int.add_zero]
      exact Redis.State.count_expire redis k key seconds
  | claim k expiry =>
      rw [if_neg nofun, Int.add_zero]
      by_cases hkey : key = k
      · subst hkey
        simp only [Redis.State.perform]
        cases hcell : redis.cell? key with
        | some cell => rfl
        | none => simp only [Redis.State.count, Redis.State.cell?_put_self, hcell]
      · exact Redis.State.count_eq_of_cell? (Redis.State.cell?_claim_of_ne hkey expiry)

/-- What is there stays there. -/
theorem isSome_perform (h : IsOwn l chat command) {key : String} (hkey : (redis.cell? key).isSome) :
    ((redis.perform command).2.cell? key).isSome := by
  by_cases hne : key = command.key
  · subst hne
    cases command with
    | get k => cases h
    | set k text expiry => cases h
    | incr k => simp only [Redis.State.perform, Redis.Request.key, Redis.State.cell?_put_self, Option.isSome_some]
    | expire k seconds => rw [Redis.State.isSome_cell?_expire]; exact hkey
    | claim k expiry => exact Redis.State.isSome_cell?_claim_self redis k expiry
  · rw [Redis.State.cell?_perform_of_ne command hne]
    exact hkey

/-- The attempts that are told a number within a limit are those that take the counter no further than that. -/
theorem countsWithin_answer (key : String) (limit : Int) :
    countsWithin (δ := δ) key limit ⟨.redis command, .ok (redis.perform command).1⟩ =
      decide (command = .incr key ∧ redis.count key + 1 ≤ limit) := by
  cases command with
  | incr k =>
      have hanswer : countsWithin (δ := δ) key limit ⟨.redis (.incr k), .ok (redis.perform (.incr k)).1⟩ =
          (decide (k = key) && decide (redis.count k + 1 ≤ limit)) := rfl
      rw [hanswer]
      by_cases hkey : k = key <;> simp [hkey]
  | _ => simp [countsWithin]

/-- The first to claim a key finds it free, and leaves it taken. -/
theorem claimsFirst_answer {key : String}
    (h : claimsFirst (δ := δ) key ⟨.redis command, .ok (redis.perform command).1⟩) :
    redis.cell? key = none ∧ ((redis.perform command).2.cell? key).isSome := by
  cases command with
  | claim k expiry =>
      have hboth := Bool.and_eq_true_iff.mp h
      obtain rfl : k = key := of_decide_eq_true hboth.1
      have hfirst : (redis.perform (.claim k expiry)).1 = true := hboth.2
      rw [Redis.State.perform_claim, Bool.not_eq_true', Option.isSome_eq_false_iff,
        Option.isNone_iff_eq_none] at hfirst
      exact ⟨hfirst, Redis.State.isSome_cell?_claim_self redis k expiry⟩
  | _ => cases h

end Store

/-- What the store knows about the jobs: it fails nothing, no counter is behind the attempts that were told a number
within the limit, and an announcement stands if an attempt was the first to claim it. -/
structure Ledger (l : Limiter) (s : Deliveries δ) : Prop where
  serves : s.redis.failing = []
  nonneg : ∀ t : Slot, t.window ∈ l.windows → 0 ≤ l.tally s.redis t
  counted : ∀ t : Slot, t.window ∈ l.windows →
    (s.total (done (countsWithin (l.slotKey t) t.window.limit)) : Int) ≤ max 0 (min (l.tally s.redis t) t.window.limit)
  claimed : ∀ t : Slot, t.window ∈ l.windows →
    s.total (done (claimsFirst (noticeKey (l.slotKey t)))) ≤ (l.announced s.redis t).toNat

section Steps

variable {d : Dispatcher δ} {l : Limiter} {addressee : δ → Int} {s : Deliveries δ} {i : Nat} {job job' : Tracked δ}
  {r : Request δ} {redis : Redis.State} {counts : Counts}

/-- A move changes a sum over all jobs by as much as the job that goes on, and by the jobs that are started. -/
theorem total_set (f : Tracked δ → Nat) (redis : Redis.State) (counts : Counts) (hjob : s.jobs[i]? = some job)
    (job' : Tracked δ) (new : List (Tracked δ)) :
    Deliveries.total f ⟨redis, s.jobs.set i job' ++ new, counts⟩ + f job = s.total f + f job' + (new.map f).sum := by
  have hset := sum_map_set f hjob job'
  simp only [Deliveries.total, List.map_append, List.sum_append]
  omega

/-- Clearing a job away leaves a sum as it is that takes no notice of it. -/
theorem total_cleared {f : Tracked δ → Nat} (hjob : s.jobs[i]? = some job)
    (hsame : f { job with cleared := true } = f job) :
    Deliveries.total f ⟨redis, s.jobs.set i { job with cleared := true }, counts⟩ = s.total f := by
  have hset := sum_map_set f hjob { job with cleared := true }
  rw [hsame] at hset
  exact Nat.add_right_cancel hset

theorem done_append (p : Deed δ → Bool) (deed : Deed δ) {rest : Activity δ} :
    done p { job with rest, deeds := job.deeds ++ [deed] } = done p job + if p deed then 1 else 0 := by
  simp only [done, List.countP_append, List.countP_singleton]

/-- Jobs that have only been started have done nothing. -/
theorem done_started (p : Deed δ → Bool) (d : Dispatcher δ) (time : Option Num) (r : Request δ) :
    ((Deliveries.started d time r).map (done p)).sum = 0 := by
  cases r <;> rfl

theorem total_done (p : Deed δ → Bool) (hjob : s.jobs[i]? = some job) (deed : Deed δ) (rest : Activity δ)
    (time : Option Num) :
    Deliveries.total (done p)
        ⟨redis, s.jobs.set i { job with rest, deeds := job.deeds ++ [deed] } ++ Deliveries.started d time r, counts⟩ =
      s.total (done p) + if p deed then 1 else 0 := by
  have htotal := total_set (done p) redis counts hjob
    { job with rest, deeds := job.deeds ++ [deed] } (Deliveries.started d time r)
  rw [done_started, done_append] at htotal
  omega

theorem answer_serving (h : redis.failing = []) (command : Redis.Request) :
    redis.answer command = (.ok (redis.perform command).1, (redis.perform command).2) := by
  unfold Redis.State.answer
  rw [h, if_neg List.not_mem_nil]

/-- A command of a check keeps the ledger. -/
theorem Ledger.perform (h : Ledger l s) {chat : Int} {command : Redis.Request} (hown : IsOwn l chat command)
    {next : Deliveries δ} (hredis : next.redis = (s.redis.perform command).2)
    (htotal : ∀ p, next.total (done p) =
      s.total (done p) + if p ⟨.redis command, .ok (s.redis.perform command).1⟩ then 1 else 0) : Ledger l next where
  serves := by
    rw [hredis, Limiter.failing_perform]
    exact h.serves
  nonneg := by
    intro t ht
    have hbefore := h.nonneg t ht
    rw [hredis, Limiter.tally, count_perform hown]
    unfold Limiter.tally at hbefore
    split <;> omega
  counted := by
    intro t ht
    have hbefore := h.counted t ht
    have hnonneg := h.nonneg t ht
    rw [hredis, htotal, countsWithin_answer, Limiter.tally, count_perform hown]
    unfold Limiter.tally at hbefore hnonneg
    by_cases hincr : command = .incr (l.slotKey t)
    · simp only [hincr, true_and, if_true, decide_eq_true_eq]
      split <;> omega
    · simpa [hincr] using hbefore
  claimed := by
    intro t ht
    have hbefore := h.claimed t ht
    rw [hredis, htotal, Limiter.announced]
    unfold Limiter.announced at hbefore
    split
    next hfirst =>
      obtain ⟨hfree, htaken⟩ := claimsFirst_answer hfirst
      rw [hfree] at hbefore
      rw [htaken]
      exact Nat.succ_le_succ hbefore
    · refine Nat.le_trans hbefore ?_
      cases hcell : (s.redis.cell? (noticeKey (l.slotKey t))).isSome with
      | false => exact Nat.zero_le _
      | true => rw [isSome_perform hown hcell]

/-- A move that leaves the keys of the limiter and what the jobs have done alone keeps the ledger. -/
theorem Ledger.congr (h : Ledger l s) {next : Deliveries δ} (hserves : next.redis.failing = [])
    (hcells : ∀ key, IsKeyOf l key → next.redis.cell? key = s.redis.cell? key)
    (htotal : ∀ t : Slot, t.window ∈ l.windows →
      next.total (done (countsWithin (l.slotKey t) t.window.limit)) =
        s.total (done (countsWithin (l.slotKey t) t.window.limit)) ∧
      next.total (done (claimsFirst (noticeKey (l.slotKey t)))) =
        s.total (done (claimsFirst (noticeKey (l.slotKey t))))) :
    Ledger l next where
  serves := hserves
  nonneg := by
    intro t ht
    have htally : l.tally next.redis t = l.tally s.redis t :=
      Redis.State.count_eq_of_cell? (hcells _ ⟨t, ht, Or.inl rfl⟩)
    rw [htally]
    exact h.nonneg t ht
  counted := by
    intro t ht
    have htally : l.tally next.redis t = l.tally s.redis t :=
      Redis.State.count_eq_of_cell? (hcells _ ⟨t, ht, Or.inl rfl⟩)
    rw [htally, (htotal t ht).1]
    exact h.counted t ht
  claimed := by
    intro t ht
    have hannounced : l.announced next.redis t = l.announced s.redis t := by
      rw [Limiter.announced, hcells _ ⟨t, ht, Or.inr rfl⟩]
      rfl
    rw [hannounced, (htotal t ht).2]
    exact h.claimed t ht

end Steps

end ChainAlerts.Dispatch
