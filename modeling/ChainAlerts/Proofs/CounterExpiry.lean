import Mathlib.Data.List.Induction
import ChainAlerts.Proofs.LimiterRuns
import ChainAlerts.Proofs.Tables

/-! When the keys of a limiter expire. An announcement is made together with its expiry. A counter is begun by one
command and given its expiry by the next, so a check that fails between the two leaves a counter without one; since the
expiry is set on a count of one only, no later check makes up for that, and the counter stays for good. A check that
does not fail leaves no such counter behind, and nothing else does. -/

namespace ChainAlerts

namespace Redis

theorem State.cell?_lapse (keys : List String) (s : State) (key : String) :
    (s.lapse keys).cell? key = if key ∈ keys ∧ s.expires key then none else s.cell? key := by
  split
  next hlapsed =>
    refine Assoc.get?_eq_none_iff.mpr fun hmem => ?_
    obtain ⟨entry, hentry, rfl⟩ := List.mem_map.mp hmem
    exact of_decide_eq_true (List.mem_filter.mp hentry).2 hlapsed
  next hstays => exact Assoc.get?_filter (fun _ => decide_eq_true hstays) s.cells

theorem State.cell?_expire_self {s : State} {key : String} {cell : Cell} (h : s.cell? key = some cell) (seconds : Int) :
    (s.perform (.expire key seconds)).2.cell? key = some { cell with expiry := some seconds } := by
  simp only [perform, h, cell?_put_self]

/-- A counter, if it is there at all, has counted something. -/
def Counts (cell : Option Cell) : Prop := ∀ c ∈ cell, ∃ n expiry, c = ⟨.count n, expiry⟩ ∧ 0 < n

/-- What may become of a counter in one check: nothing, it counts one more, or it is begun. It is begun without an
expiry only if something goes wrong. -/
inductive Treated (wrong : Prop) : Option Cell → Option Cell → Prop where
  | untouched (cell : Option Cell) : Treated wrong cell cell
  | counted {n : Int} (expiry : Option Int) (positive : 0 < n) :
      Treated wrong (some ⟨.count n, expiry⟩) (some ⟨.count (n + 1), expiry⟩)
  | begun (seconds : Int) : Treated wrong none (some ⟨.count 1, some seconds⟩)
  | forsaken (fault : wrong) : Treated wrong none (some ⟨.count 1, none⟩)

namespace Treated

variable {wrong wrong' : Prop} {cell cell' : Option Cell}

theorem mono (h : Treated wrong cell cell') (himp : wrong → wrong') : Treated wrong' cell cell' := by
  cases h with
  | untouched => exact .untouched cell
  | counted expiry positive => exact .counted expiry positive
  | begun seconds => exact .begun seconds
  | forsaken fault => exact .forsaken (himp fault)

/-- A counter that is there gets no expiry, and loses none. -/
theorem bare_iff (h : Treated wrong cell cell') (hcell : cell ≠ none) :
    (∃ value, cell' = some ⟨value, none⟩) ↔ ∃ value, cell = some ⟨value, none⟩ := by
  cases h with
  | untouched => exact Iff.rfl
  | @counted n expiry positive => cases expiry <;> simp
  | begun seconds => exact absurd rfl hcell
  | forsaken fault => exact absurd rfl hcell

theorem wrong_of_bare (h : Treated wrong none cell') (hbare : ∃ value, cell' = some ⟨value, none⟩) : wrong := by
  obtain ⟨value, rfl⟩ := hbare
  cases h with
  | forsaken fault => exact fault

theorem counts (h : Treated wrong cell cell') (hcounts : Counts cell) : Counts cell' := by
  cases h with
  | untouched => exact hcounts
  | @counted n expiry positive => exact fun c hc => ⟨n + 1, expiry, (Option.some.inj hc).symm, by omega⟩
  | begun seconds => exact fun c hc => ⟨1, some seconds, (Option.some.inj hc).symm, by decide⟩
  | forsaken fault => exact fun c hc => ⟨1, none, (Option.some.inj hc).symm, by decide⟩

end Treated

/-- A counter that is there counts one more and keeps its expiry; another one is begun. -/
theorem Counts.incr {s : State} {key : String} (h : Counts (s.cell? key)) :
    (s.count key = 0 ∧ s.cell? key = none ∧ (s.perform (.incr key)).2.cell? key = some ⟨.count 1, none⟩) ∨
      s.count key ≠ 0 ∧ ∀ wrong : Prop, Treated wrong (s.cell? key) ((s.perform (.incr key)).2.cell? key) := by
  have hcell : (s.perform (.incr key)).2.cell? key = some ⟨.count (s.count key + 1), (s.cell? key).bind (·.expiry)⟩ :=
    State.cell?_put_self _ _ _
  rw [hcell, State.count]
  cases hfound : s.cell? key with
  | none => exact .inl ⟨rfl, rfl, rfl⟩
  | some cell =>
      obtain ⟨n, expiry, rfl, hpositive⟩ := h cell hfound
      exact .inr ⟨Int.ne_of_gt hpositive, fun wrong => .counted expiry hpositive⟩

end Redis

namespace Limiter

open Redis (Treated Counts)

variable {l : Limiter} {chat seconds : Int} {w : Window} {ws rest : List Window} {redis redis' redis'' : Redis.State}
  {fate : Nat → Redis.Request → Redis.Fate} {t u : Slot}

/-- What can go wrong when the counter of a slot is begun: the answer to the count is lost, or its expiry is refused. -/
def Misses (l : Limiter) (fate : Nat → Redis.Request → Redis.Fate) (t : Slot) : Prop :=
  ∃ n, fate n (.incr (l.slotKey t)) = .lost ∨ fate n (.expire (l.slotKey t) t.window.seconds) = .refused

/-- Whether a check ends with a failure. -/
def raises : Verdict → Bool
  | .ok _ => false
  | .error _ => true

/-- The counters of a limiter count. -/
def KeepsCount (l : Limiter) (redis : Redis.State) : Prop :=
  ∀ t : Slot, t.window ∈ l.windows → Counts (redis.cell? (l.slotKey t))

/-- A change of the store that is confined to the counter and the announcement of one slot. -/
structure Confined (l : Limiter) (u : Slot) (redis redis' : Redis.State) : Prop where
  counters : ∀ t : Slot, t.window ∈ l.windows → t ≠ u → redis'.cell? (l.slotKey t) = redis.cell? (l.slotKey t)
  announcements : ∀ t : Slot, t.window ∈ l.windows →
    redis'.cell? (noticeKey (l.slotKey t)) = redis.cell? (noticeKey (l.slotKey t)) ∨
      ∃ expiry, redis'.cell? (noticeKey (l.slotKey t)) = some ⟨.text "1", some expiry⟩

namespace Confined

theorem refl (l : Limiter) (u : Slot) (redis : Redis.State) : Confined l u redis redis :=
  ⟨fun _ _ _ => rfl, fun _ _ => .inl rfl⟩

theorem trans (h : Confined l u redis redis') (h' : Confined l u redis' redis'') : Confined l u redis redis'' where
  counters t ht hne := (h'.counters t ht hne).trans (h.counters t ht hne)
  announcements t ht := by
    rcases h'.announcements t ht with hsame | hmade
    · rw [hsame]
      exact h.announcements t ht
    · exact .inr hmade

section Commands

variable (hl : l.WellMade) (hu : u.window ∈ l.windows)
include hl hu

theorem incr (redis : Redis.State) : Confined l u redis (redis.perform (.incr (l.slotKey u))).2 where
  counters _ ht hne := Redis.State.cell?_incr_of_ne (mt (hl.slotKey_inj ht hu).mp hne)
  announcements _ ht := .inl (Redis.State.cell?_incr_of_ne (hl.slotKey_ne_noticeKey hu ht).symm)

theorem expire (redis : Redis.State) (length : Int) :
    Confined l u redis (redis.perform (.expire (l.slotKey u) length)).2 where
  counters _ ht hne := Redis.State.cell?_expire_of_ne (mt (hl.slotKey_inj ht hu).mp hne) length
  announcements _ ht := .inl (Redis.State.cell?_expire_of_ne (hl.slotKey_ne_noticeKey hu ht).symm length)

theorem claim (redis : Redis.State) (length : Int) :
    Confined l u redis (redis.perform (.claim (noticeKey (l.slotKey u)) length)).2 where
  counters _ ht _ := Redis.State.cell?_claim_of_ne (hl.slotKey_ne_noticeKey ht hu) length
  announcements t ht := by
    by_cases hkey : noticeKey (l.slotKey t) = noticeKey (l.slotKey u)
    · rw [hkey]
      simp only [Redis.State.perform]
      cases hcell : redis.cell? (noticeKey (l.slotKey u)) with
      | none => exact .inr ⟨length, Redis.State.cell?_put_self _ _ _⟩
      | some cell => exact .inl hcell
    · exact .inl (Redis.State.cell?_claim_of_ne hkey length)

end Commands

end Confined

/-- What counting in some windows does to the keys of a limiter. A counter is begun without an expiry only if something
goes wrong and the check ends with it; the slots of other windows and times are left as they are. -/
structure Tended (l : Limiter) (fate : Nat → Redis.Request → Redis.Fate) (chat seconds : Int) (ws : List Window)
    (redis : Redis.State) (outcome : Verdict × (Nat × Redis.State)) : Prop where
  counters : ∀ t : Slot, t.window ∈ l.windows → Treated (raises outcome.1 ∧ l.Misses fate t)
    (redis.cell? (l.slotKey t)) (outcome.2.2.cell? (l.slotKey t))
  others : ∀ t : Slot, t.window ∈ l.windows → ¬(t.window ∈ ws ∧ t = slotAt chat seconds t.window) →
    outcome.2.2.cell? (l.slotKey t) = redis.cell? (l.slotKey t)
  announcements : ∀ t : Slot, t.window ∈ l.windows →
    outcome.2.2.cell? (noticeKey (l.slotKey t)) = redis.cell? (noticeKey (l.slotKey t)) ∨
      ∃ expiry, outcome.2.2.cell? (noticeKey (l.slotKey t)) = some ⟨.text "1", some expiry⟩

namespace Tended

/-- A check that ends in a window has touched the slot of that window at most. -/
theorem of_confined {verdict : Verdict} {n : Nat} (h : Confined l (slotAt chat seconds w) redis redis')
    (htreated : Treated (raises verdict ∧ l.Misses fate (slotAt chat seconds w))
      (redis.cell? (l.slotKey (slotAt chat seconds w))) (redis'.cell? (l.slotKey (slotAt chat seconds w)))) :
    Tended l fate chat seconds (w :: rest) redis (verdict, (n, redis')) where
  counters t ht := by
    by_cases heq : t = slotAt chat seconds w
    · rw [heq]
      exact htreated
    · rw [h.counters t ht heq]
      exact .untouched _
  others t ht hother := h.counters t ht fun heq =>
    hother ⟨heq ▸ List.mem_cons_self, heq.trans (congrArg (slotAt chat seconds) (congrArg Slot.window heq).symm)⟩
  announcements := h.announcements

/-- A window that nothing went wrong in leaves the slots of the others to the rest. -/
theorem cons {outcome : Verdict × (Nat × Redis.State)} (hw : w ∈ l.windows) (hfresh : w ∉ rest)
    (h : Confined l (slotAt chat seconds w) redis redis')
    (htreated : Treated False (redis.cell? (l.slotKey (slotAt chat seconds w)))
      (redis'.cell? (l.slotKey (slotAt chat seconds w))))
    (tail : Tended l fate chat seconds rest redis' outcome) : Tended l fate chat seconds (w :: rest) redis outcome where
  counters t ht := by
    by_cases heq : t = slotAt chat seconds w
    · subst heq
      rw [tail.others (slotAt chat seconds w) hw fun h => hfresh h.1]
      exact htreated.mono False.elim
    · rw [← h.counters t ht heq]
      exact tail.counters t ht
  others t ht hother := by
    have hne : t ≠ slotAt chat seconds w := fun heq =>
      hother ⟨heq ▸ List.mem_cons_self, heq.trans (congrArg (slotAt chat seconds) (congrArg Slot.window heq).symm)⟩
    rw [tail.others t ht fun h => hother ⟨List.mem_cons_of_mem w h.1, h.2⟩, h.counters t ht hne]
  announcements t ht := by
    rcases tail.announcements t ht with hsame | hmade
    · rw [hsame]
      exact h.announcements t ht
    · exact .inr hmade

end Tended

/-- A change that is confined to a slot, and counts there, leaves the counters counting. -/
theorem keepsCount_of_confined (h : Confined l u redis redis')
    (htreated : Treated False (redis.cell? (l.slotKey u)) (redis'.cell? (l.slotKey u)))
    (hcounts : l.KeepsCount redis) : l.KeepsCount redis' := by
  intro t ht
  by_cases heq : t = u
  · subst heq
    exact htreated.counts (hcounts t ht)
  · rw [h.counters t ht heq]
    exact hcounts t ht

section Check

variable (hl : l.WellMade)
include hl

/-- What follows the counting of an attempt in a window, from any state in which nothing has gone wrong. -/
theorem tended_judge (hw : w ∈ l.windows) (hfresh : w ∉ rest) (h : Confined l (slotAt chat seconds w) redis redis')
    (htreated : Treated False (redis.cell? (l.slotKey (slotAt chat seconds w)))
      (redis'.cell? (l.slotKey (slotAt chat seconds w))))
    (hcounts : l.KeepsCount redis) (n : Nat) (count : Int)
    (htail : ∀ (n : Nat) (redis' : Redis.State), l.KeepsCount redis' → Tended l fate chat seconds rest redis'
      ((l.countAll chat seconds rest).run (Redis.State.answerAmid fate) (n, redis'))) :
    Tended l fate chat seconds (w :: rest) redis
      ((if w.limit < count then
        attempt chat (.claim (noticeKey (l.slotKey (slotAt chat seconds w))) w.seconds)
          fun (claimed : Bool) => .done (.ok (some ⟨w, count, claimed⟩))
        else l.countAll chat seconds rest).run (Redis.State.answerAmid fate) (n, redis')) := by
  have hclaim := h.trans (.claim hl hw redis' w.seconds)
  have hclaimed : (redis'.perform (.claim (noticeKey (l.slotKey (slotAt chat seconds w))) w.seconds)).2.cell?
      (l.slotKey (slotAt chat seconds w)) = redis'.cell? (l.slotKey (slotAt chat seconds w)) :=
    Redis.State.cell?_claim_of_ne (hl.slotKey_ne_noticeKey hw hw) w.seconds
  split
  · rw [run_attempt]
    cases fate n (.claim (noticeKey (l.slotKey (slotAt chat seconds w))) w.seconds) with
    | served => exact .of_confined hclaim (hclaimed ▸ htreated.mono False.elim)
    | refused => exact .of_confined h (htreated.mono False.elim)
    | lost => exact .of_confined hclaim (hclaimed ▸ htreated.mono False.elim)
  · exact .cons hw hfresh h htreated (htail n redis' (keepsCount_of_confined h htreated hcounts))

/-- Counting an attempt in a window, and in the others if they tend to the keys. -/
theorem tended_count (hw : w ∈ l.windows) (hfresh : w ∉ rest) (n : Nat) (redis : Redis.State)
    (hcounts : l.KeepsCount redis)
    (htail : ∀ (n : Nat) (redis' : Redis.State), l.KeepsCount redis' → Tended l fate chat seconds rest redis'
      ((l.countAll chat seconds rest).run (Redis.State.answerAmid fate) (n, redis'))) :
    Tended l fate chat seconds (w :: rest) redis
      ((l.countAll chat seconds (w :: rest)).run (Redis.State.answerAmid fate) (n, redis)) := by
  have hseconds : w.seconds ≠ 0 := Int.ne_of_gt (hl.positive w hw)
  have hincr : Confined l (slotAt chat seconds w) redis _ := .incr hl hw redis
  rw [countAll, if_neg hseconds, ← slotKey_slotAt, countIn, run_attempt]
  cases hfate : fate n (.incr (l.slotKey (slotAt chat seconds w))) with
  | refused => exact .of_confined (.refl ..) (.untouched _)
  | lost =>
      refine .of_confined hincr ?_
      rcases (hcounts (slotAt chat seconds w) hw).incr with ⟨-, hnone, hbegun⟩ | ⟨-, htreated⟩
      · rw [hnone, hbegun]
        exact .forsaken ⟨rfl, n, .inl hfate⟩
      · exact htreated _
  | served =>
      have hcount : (redis.perform (.incr (l.slotKey (slotAt chat seconds w)))).1 =
          redis.count (l.slotKey (slotAt chat seconds w)) + 1 := rfl
      simp only [hcount]
      rcases (hcounts (slotAt chat seconds w) hw).incr with ⟨hzero, hnone, hbegun⟩ | ⟨hpositive, htreated⟩
      · have hexpired := Redis.State.cell?_expire_self hbegun w.seconds
        have hexpire := hincr.trans (.expire hl hw _ w.seconds)
        rw [if_pos (by omega), run_attempt]
        cases hfate : fate (n + 1) (.expire (l.slotKey (slotAt chat seconds w)) w.seconds) with
        | refused =>
            refine .of_confined hincr ?_
            rw [hnone, hbegun]
            exact .forsaken ⟨rfl, n + 1, .inr hfate⟩
        | lost =>
            refine .of_confined hexpire ?_
            rw [hnone, hexpired]
            exact .begun w.seconds
        | served =>
            refine tended_judge hl hw hfresh hexpire ?_ hcounts _ _ htail
            rw [hnone, hexpired]
            exact .begun w.seconds
      · rw [if_neg (by omega)]
        exact tended_judge hl hw hfresh hincr (htreated _) hcounts _ _ htail

/-- However the commands fare, counting an attempt in windows tends to the keys. -/
theorem tended_countAll (hnodup : ws.Nodup) (hws : ∀ w ∈ ws, w ∈ l.windows) (n : Nat) (redis : Redis.State)
    (hcounts : l.KeepsCount redis) :
    Tended l fate chat seconds ws redis
      ((l.countAll chat seconds ws).run (Redis.State.answerAmid fate) (n, redis)) := by
  induction ws generalizing n redis with
  | nil => exact ⟨fun _ _ => .untouched _, fun _ _ _ => rfl, fun _ _ => .inl rfl⟩
  | cons w rest ih =>
      obtain ⟨hfresh, hnodup⟩ := List.nodup_cons.mp hnodup
      have hrest : ∀ v ∈ rest, v ∈ l.windows := fun v hv => hws v (List.mem_cons_of_mem w hv)
      exact tended_count hl (hws w List.mem_cons_self) hfresh n redis hcounts (ih hnodup hrest)

/-- However its commands fare, a check tends to the keys. -/
theorem tended_checkAmid (c : Check) (redis : Redis.State)
    (hcounts : l.KeepsCount redis) :
    (∀ t : Slot, t.window ∈ l.windows → Treated (raises (l.checkAmid c redis).1 ∧ l.Misses c.fate t)
      (redis.cell? (l.slotKey t)) ((l.checkAmid c redis).2.cell? (l.slotKey t))) ∧
    ∀ t : Slot, t.window ∈ l.windows →
      (l.checkAmid c redis).2.cell? (noticeKey (l.slotKey t)) = redis.cell? (noticeKey (l.slotKey t)) ∨
        ∃ expiry, (l.checkAmid c redis).2.cell? (noticeKey (l.slotKey t)) = some ⟨.text "1", some expiry⟩ := by
  cases hnow : wholeSeconds c.now with
  | error f =>
      rw [checkAmid_of_error hnow]
      exact ⟨fun _ _ => .untouched _, fun _ _ => .inl rfl⟩
  | ok seconds =>
      have hall : Tended l c.fate c.chat seconds l.windows redis _ :=
        tended_countAll hl (List.Nodup.of_map _ hl.names) (fun w hw => hw) 0 redis hcounts
      simp only [checkAmid, check, hnow]
      split
      next hempty =>
        exact ⟨fun _ _ => .untouched _, fun _ _ => .inl rfl⟩
      · exact ⟨hall.counters, hall.announcements⟩

end Check

/-- A check, and the keys whose time runs out before it. -/
structure Turn where
  check : Check
  lapsed : List String := []

/-- Lets the time of keys run out and makes the check. -/
def take (l : Limiter) (redis : Redis.State) (turn : Turn) : Verdict × Redis.State :=
  l.checkAmid turn.check (redis.lapse turn.lapsed)

/-- The store after one turn after another. -/
def afterTurns (l : Limiter) (redis : Redis.State) (turns : List Turn) : Redis.State :=
  turns.foldl (fun redis turn => (l.take redis turn).2) redis

/-- Whether a key is there and will not go away by itself. -/
def Stays (redis : Redis.State) (key : String) : Prop := ∃ value, redis.cell? key = some ⟨value, none⟩

/-- A check that begins the counter of a slot and leaves it without an expiry. -/
structure Forsakes (l : Limiter) (redis : Redis.State) (turn : Turn) (t : Slot) : Prop where
  begins : (redis.lapse turn.lapsed).cell? (l.slotKey t) = none
  leaves : Stays (l.take redis turn).2 (l.slotKey t)

/-- What is so of the keys of a limiter after turns: counters count, announcements have an expiry, and a counter has
none exactly if a check has forsaken it. -/
structure Kept (l : Limiter) (redis : Redis.State) (turns : List Turn) : Prop where
  counts : l.KeepsCount (l.afterTurns redis turns)
  announcements : ∀ t : Slot, t.window ∈ l.windows → ¬Stays (l.afterTurns redis turns) (noticeKey (l.slotKey t))
  counters : ∀ t : Slot, t.window ∈ l.windows → (Stays (l.afterTurns redis turns) (l.slotKey t) ↔
    ∃ earlier turn, earlier ++ [turn] <+: turns ∧ l.Forsakes (l.afterTurns redis earlier) turn t)

theorem afterTurns_append (l : Limiter) (redis : Redis.State) (turns : List Turn) (turn : Turn) :
    l.afterTurns redis (turns ++ [turn]) = (l.take (l.afterTurns redis turns) turn).2 := by
  rw [afterTurns, List.foldl_append]
  rfl

theorem stays_lapse_iff (keys : List String) {key : String} : Stays (redis.lapse keys) key ↔ Stays redis key := by
  rw [Stays, Stays, Redis.State.cell?_lapse]
  split
  next hlapsed =>
    refine iff_of_false (fun ⟨_, h⟩ => nomatch h) fun ⟨value, h⟩ => ?_
    have hexpires := hlapsed.2
    rw [Redis.State.expires, h] at hexpires
    cases hexpires
  · exact Iff.rfl

theorem counts_lapse (keys : List String) {key : String} (h : Counts (redis.cell? key)) :
    Counts ((redis.lapse keys).cell? key) := by
  rw [Redis.State.cell?_lapse]
  split
  · exact fun c hc => nomatch hc
  · exact h

theorem Kept.append {turns : List Turn} (h : Kept l redis turns) (hl : l.WellMade) (turn : Turn) :
    Kept l redis (turns ++ [turn]) := by
  have hcounts : l.KeepsCount ((l.afterTurns redis turns).lapse turn.lapsed) := fun t ht =>
    counts_lapse _ (h.counts t ht)
  obtain ⟨htreated, hannouncements⟩ := tended_checkAmid hl turn.check _ hcounts
  refine ⟨fun t ht => ?_, fun t ht => ?_, fun t ht => ?_⟩
  · rw [afterTurns_append]
    exact (htreated t ht).counts (hcounts t ht)
  · rw [afterTurns_append]
    rintro ⟨value, hstays⟩
    rcases hannouncements t ht with hsame | ⟨expiry, hmade⟩
    · exact h.announcements t ht ((stays_lapse_iff turn.lapsed).mp ⟨value, hsame.symm.trans hstays⟩)
    · cases hmade.symm.trans hstays
  · rw [afterTurns_append]
    constructor
    · intro hstays
      by_cases hthere : ((l.afterTurns redis turns).lapse turn.lapsed).cell? (l.slotKey t) = none
      · exact ⟨turns, turn, List.prefix_rfl, hthere, hstays⟩
      · have hbefore := ((htreated t ht).bare_iff hthere).mp hstays
        obtain ⟨earlier, turn', hprefix, hforsakes⟩ := (h.counters t ht).mp ((stays_lapse_iff turn.lapsed).mp hbefore)
        exact ⟨earlier, turn', hprefix.trans (List.prefix_append _ _), hforsakes⟩
    · rintro ⟨earlier, turn', hprefix, hforsakes⟩
      rcases List.prefix_concat_iff.mp hprefix with heq | hprefix
      · obtain ⟨rfl, hturn⟩ := List.append_inj' heq rfl
        obtain rfl := List.singleton_inj.mp hturn
        exact hforsakes.leaves
      · have hbefore := (stays_lapse_iff turn.lapsed).mpr ((h.counters t ht).mpr ⟨earlier, turn', hprefix, hforsakes⟩)
        have hthere : ((l.afterTurns redis turns).lapse turn.lapsed).cell? (l.slotKey t) ≠ none := by
          obtain ⟨value, hcell⟩ := hbefore
          rw [hcell]
          exact Option.some_ne_none _
        exact ((htreated t ht).bare_iff hthere).mpr hbefore

theorem kept_afterTurns (hl : l.WellMade) (hredis : l.Fresh redis) (turns : List Turn) : Kept l redis turns := by
  induction turns using List.reverseRecOn with
  | nil =>
      refine ⟨fun t _ => ?_, fun t _ ⟨value, h⟩ => ?_, fun t _ => iff_of_false (fun ⟨value, h⟩ => ?_) ?_⟩
      · rw [afterTurns, List.foldl_nil, (hredis t).1]
        exact fun c hc => nomatch hc
      · cases (hredis t).2.symm.trans h
      · cases (hredis t).1.symm.trans h
      · rintro ⟨earlier, turn, hprefix, -⟩
        exact absurd (List.prefix_nil.mp hprefix) (List.append_ne_nil_of_right_ne_nil _ (List.cons_ne_nil _ _))
  | append_singleton turns turn ih => exact ih.append hl turn

/-- A check that forsakes a counter fails, and something has gone wrong with that counter. -/
theorem Forsakes.fails {turn : Turn} (h : l.Forsakes redis turn t) (hl : l.WellMade) (ht : t.window ∈ l.windows)
    (hcounts : l.KeepsCount redis) :
    Limiter.raises (l.take redis turn).1 ∧ l.Misses turn.check.fate t := by
  obtain ⟨htreated, -⟩ := tended_checkAmid hl turn.check _ fun t ht => counts_lapse turn.lapsed (hcounts t ht)
  have hwrong := htreated t ht
  rw [h.begins] at hwrong
  exact hwrong.wrong_of_bare h.leaves

/-- After every run of checks the last of which does not fail, an announcement that is there has an expiry, and so does
a counter, unless an earlier check has begun it and failed before it was given one: the answer to the count was lost,
or the expiry was refused. Such a counter gets none later on and never goes away. -/
theorem keys_expire_unless_forsaken (l : Limiter) (hl : l.WellMade) (redis : Redis.State) (hredis : l.Fresh redis)
    (turns : List Turn) (last : Turn) :
    let after := (l.take (l.afterTurns redis turns) last).2
    (∀ judgement, (l.take (l.afterTurns redis turns) last).1 = .ok judgement → ∀ t : Slot, t.window ∈ l.windows →
      ¬Stays after (noticeKey (l.slotKey t)) ∧
      (Stays after (l.slotKey t) →
        ∃ earlier turn, earlier ++ [turn] <+: turns ∧ l.Forsakes (l.afterTurns redis earlier) turn t)) ∧
    ∀ earlier turn (t : Slot), t.window ∈ l.windows → earlier ++ [turn] <+: turns ++ [last] →
      l.Forsakes (l.afterTurns redis earlier) turn t →
        raises (l.take (l.afterTurns redis earlier) turn).1 ∧ l.Misses turn.check.fate t ∧
          Stays after (l.slotKey t) := by
  intro after
  have hafter : after = l.afterTurns redis (turns ++ [last]) := (afterTurns_append l redis turns last).symm
  have hkept := kept_afterTurns hl hredis (turns ++ [last])
  have hraises : ∀ earlier turn (t : Slot), t.window ∈ l.windows → l.Forsakes (l.afterTurns redis earlier) turn t →
      raises (l.take (l.afterTurns redis earlier) turn).1 ∧ l.Misses turn.check.fate t := fun earlier turn t ht h =>
    h.fails hl ht (kept_afterTurns hl hredis earlier).counts
  refine ⟨fun judgement hjudgement t ht => ⟨hafter ▸ hkept.announcements t ht, fun hstays => ?_⟩,
    fun earlier turn t ht hprefix hforsakes => ?_⟩
  · obtain ⟨earlier, turn, hprefix, hforsakes⟩ := (hkept.counters t ht).mp (hafter ▸ hstays)
    refine ⟨earlier, turn, ?_, hforsakes⟩
    -- the last check has not failed, so it has not forsaken the counter
    refine (List.prefix_concat_iff.mp hprefix).resolve_left fun heq => ?_
    obtain ⟨rfl, hturn⟩ := List.append_inj' heq rfl
    obtain rfl := List.singleton_inj.mp hturn
    have hfailed := (hraises earlier turn t ht hforsakes).1
    rw [hjudgement] at hfailed
    cases hfailed
  · obtain ⟨hfailed, hmisses⟩ := hraises earlier turn t ht hforsakes
    exact ⟨hfailed, hmisses, hafter ▸ (hkept.counters t ht).mpr ⟨earlier, turn, hprefix, hforsakes⟩⟩

/-- Twenty attempts in five minutes. -/
def fiveMinutes : Limiter := { bot := 1, windows := [⟨"5m", 300, 20⟩] }

/-- Chat 1 in the five minutes from 900 seconds on. -/
def fourthBucket : Slot := ⟨1, ⟨"5m", 300, 20⟩, 3⟩

/-- A check whose second command is refused. -/
def refusedExpiry : Turn := { check := ⟨1, .int 1000, fun n _ => if n = 1 then .refused else .served⟩ }

def servedCheck : Turn := { check := ⟨1, .int 1001, fun _ _ => .served⟩ }

/-- A check that does not fail, and counts in a counter that has no expiry. -/
theorem counted_without_expiry :
    let before := fiveMinutes.afterTurns {} [refusedExpiry]
    (fiveMinutes.take before servedCheck).1 = .ok none ∧
      (fiveMinutes.take before servedCheck).2.cell? (fiveMinutes.slotKey fourthBucket) = some ⟨.count 2, none⟩ :=
  ⟨rfl, by decide +kernel⟩

theorem keys_expire_unless_forsaken_five_minutes :
    fiveMinutes.WellMade ∧ fiveMinutes.Fresh {} ∧
      ¬Stays (fiveMinutes.take (fiveMinutes.afterTurns {} []) servedCheck).2 (fiveMinutes.slotKey fourthBucket) ∧
      raises (fiveMinutes.take (fiveMinutes.afterTurns {} []) refusedExpiry).1 ∧
      Stays (fiveMinutes.take (fiveMinutes.afterTurns {} [refusedExpiry]) servedCheck).2
        (fiveMinutes.slotKey fourthBucket) := by
  have hl : fiveMinutes.WellMade := ⟨by decide, by decide, by decide⟩
  have hredis : fiveMinutes.Fresh {} := fun _ => ⟨rfl, rfl⟩
  have hwindow : fourthBucket.window ∈ fiveMinutes.windows := List.mem_singleton_self _
  have hforsakes : fiveMinutes.Forsakes (fiveMinutes.afterTurns {} []) refusedExpiry fourthBucket :=
    ⟨rfl, .count 1, by decide +kernel⟩
  have hserved := (keys_expire_unless_forsaken fiveMinutes hl {} hredis [] servedCheck).1 none rfl fourthBucket hwindow
  obtain ⟨hraises, -, hstays⟩ := (keys_expire_unless_forsaken fiveMinutes hl {} hredis [refusedExpiry] servedCheck).2 []
    refusedExpiry fourthBucket hwindow (List.prefix_append _ _) hforsakes
  refine ⟨hl, hredis, fun h => ?_, hraises, hstays⟩
  obtain ⟨earlier, turn, hprefix, -⟩ := hserved.2 h
  exact absurd (List.prefix_nil.mp hprefix) (List.append_ne_nil_of_right_ne_nil _ (List.cons_ne_nil _ _))

end Limiter

end ChainAlerts
