import ChainAlerts.Proofs.LimiterChecks

/-! Runs of a limiter's checks, for any chats and at any times, among commands that may fail. A run keeps the
checks that were made and how they ended. While no command fails, the counter of a slot is the number of checks
that reached it and its announcement stands for the rejections in it, so a check ends as the history says it
must. If commands fail, a counter is still never behind the attempts admitted in its slot, and an announcement
that was made is still never made again. -/

namespace ChainAlerts.Limiter

/-- A check to be made: of which chat, when, and what becomes of its commands. -/
structure Check where
  chat : Int
  now : Num
  fate : Nat → Redis.Request → Redis.Fate

structure Checked where
  chat : Int
  now : Num
  verdict : Verdict

/-- A check all of whose commands are served. -/
def Check.Served (c : Check) : Prop := ∀ n r, c.fate n r = .served

def checkAmid (l : Limiter) (c : Check) (redis : Redis.State) : Verdict × Redis.State :=
  let (verdict, _, redis') := (l.check c.chat c.now).run (Redis.State.answerAmid c.fate) (0, redis)
  (verdict, redis')

/-- The history and the store after one more check. -/
def afterCheck (l : Limiter) (run : List Checked × Redis.State) (c : Check) : List Checked × Redis.State :=
  let (verdict, redis) := l.checkAmid c run.2
  (run.1 ++ [⟨c.chat, c.now, verdict⟩], redis)

/-- The history and the store after checks made one after another. -/
def afterChecks (l : Limiter) (redis : Redis.State) (checks : List Check) : List Checked × Redis.State :=
  checks.foldl l.afterCheck ([], redis)

/-- A store in which a limiter has counted nothing so far. -/
def Fresh (l : Limiter) (redis : Redis.State) : Prop :=
  ∀ t : Slot, redis.cell? (l.slotKey t) = none ∧ redis.cell? (noticeKey (l.slotKey t)) = none

namespace Checked

/-- Whether a check is of a slot's chat and falls into its bucket. -/
def isIn (past : Checked) (t : Slot) : Bool :=
  past.chat = t.chat && (wholeSeconds past.now).toOption.map (·.fdiv t.window.seconds) = some t.bucket

def isRejectedBy (past : Checked) (w : Window) : Bool := rejecting past.verdict = some w

def isAdmitted (past : Checked) : Bool :=
  match past.verdict with
  | .ok none => true
  | _ => false

/-- Whether a check was rejected by a window and is to tell the chat so. -/
def tells (past : Checked) (w : Window) : Bool :=
  match past.verdict with
  | .ok (some e) => e.window = w && e.tell
  | _ => false

end Checked

/-- Whether a check was rejected by a window that is listed before a given one. -/
def rejectedBefore (l : Limiter) (past : Checked) (w : Window) : Bool :=
  (l.windows.takeWhile (· ≠ w)).any past.isRejectedBy

/-- How many checks of a history fall into a slot and were not rejected by a window listed before its own. -/
def seen (l : Limiter) (history : List Checked) (t : Slot) : Nat :=
  history.countP fun past => past.isIn t && !l.rejectedBefore past t.window

/-- Whether a check of a history was rejected in a slot. -/
def rejectedIn (history : List Checked) (t : Slot) : Bool :=
  history.any fun past => past.isIn t && past.isRejectedBy t.window

/-- How many checks of a history that fall into a slot were admitted. -/
def admittedIn (history : List Checked) (t : Slot) : Nat :=
  history.countP fun past => past.isIn t && past.isAdmitted

/-- How many checks of a history were rejected in a slot and are to tell the chat. -/
def toldIn (history : List Checked) (t : Slot) : Nat :=
  history.countP fun past => past.isIn t && past.tells t.window

/-- What a history says about the next attempt: the first window that has seen as many attempts as it admits
rejects it, and tells the chat if it is the first rejection in that slot. -/
def expected (l : Limiter) (history : List Checked) (chat seconds : Int) : Option LimitExceeded :=
  (l.windows.find? fun w => w.limit ≤ l.seen history (slotAt chat seconds w)).map fun w =>
    ⟨w, l.seen history (slotAt chat seconds w) + 1, !rejectedIn history (slotAt chat seconds w)⟩

/-- The store agrees with a history in which no command failed. -/
structure Exact (l : Limiter) (history : List Checked) (redis : Redis.State) : Prop where
  tally : ∀ t : Slot, t.window ∈ l.windows → l.tally redis t = l.seen history t
  announced : ∀ t : Slot, t.window ∈ l.windows → l.announced redis t = rejectedIn history t

/-- The store bounds what any history can have admitted and announced. -/
structure Bounded (l : Limiter) (history : List Checked) (redis : Redis.State) : Prop where
  admitted_le_tally : ∀ t : Slot, t.window ∈ l.windows → (admittedIn history t : Int) ≤ l.tally redis t
  admitted_le_limit : ∀ t : Slot, t.window ∈ l.windows → (admittedIn history t : Int) ≤ max 0 t.window.limit
  told_le_announced : ∀ t : Slot, t.window ∈ l.windows → toldIn history t ≤ (l.announced redis t).toNat

variable {l : Limiter} {redis redis' : Redis.State} {history : List Checked} {t : Slot} {chat seconds : Int}

theorem isIn_iff {past : Checked} (h : wholeSeconds past.now = .ok seconds) :
    past.isIn t ↔ t = slotAt past.chat seconds t.window := by
  obtain ⟨chat, w, bucket⟩ := t
  simp only [Checked.isIn, h, slotAt, Except.toOption, Option.map_some, Bool.and_eq_true, decide_eq_true_eq,
    Option.some.injEq, Slot.mk.injEq, true_and]
  exact and_congr eq_comm eq_comm

theorem isIn_eq_false {past : Checked} {f : Fault} (h : wholeSeconds past.now = .error f) :
    past.isIn t = false := by
  simp [Checked.isIn, h, Except.toOption]

/-- A check at a time in whole seconds goes one of the ways it can go. -/
theorem WellMade.checkAmid_course (hl : l.WellMade) (c : Check) {fails : Prop}
    (hfails : ∀ n r, c.fate n r = .refused ∨ c.fate n r = .lost → fails)
    (hnow : wholeSeconds c.now = .ok seconds)
    (redis : Redis.State) :
    ∃ counted claimed, Course fails (fun w => l.tally redis (slotAt c.chat seconds w))
        (fun w => l.announced redis (slotAt c.chat seconds w)) l.windows counted claimed
          (l.checkAmid c redis).1 ∧
      Advanced l c.chat seconds counted claimed redis (l.checkAmid c redis).2 := by
  have hall : Goes l fails c.chat seconds redis l.windows _ :=
    goes_countAll hl hfails (List.Nodup.of_map _ hl.names) (fun w hw => hw) 0 redis
  simp only [checkAmid, check, hnow]
  split
  next hempty =>
    rw [List.isEmpty_iff.mp hempty] at hall ⊢
    exact hall
  · exact hall

theorem failing_perform (r : Redis.Request) (s : Redis.State) : (s.perform r).2.failing = s.failing := by
  cases r with
  | get key => rfl
  | set key text expiry => rfl
  | incr key => rfl
  | claim key expiry =>
      simp only [Redis.State.perform]
      split <;> rfl
  | expire key seconds =>
      simp only [Redis.State.perform]
      split <;> rfl

/-- What becomes of commands in a store in which some of them fail. -/
def fateByName (failing : List Redis.Command) (_ : Nat) (r : Redis.Request) : Redis.Fate :=
  if r.command ∈ failing then .refused else .served

theorem run_fateByName {α : Type} (t : Counting α) (n : Nat) (redis : Redis.State) :
    t.run Redis.State.answer redis =
      let (a, _, redis') := t.run (Redis.State.answerAmid (fateByName redis.failing)) (n, redis)
      (a, redis') := by
  induction t generalizing n redis with
  | done a => rfl
  | ask r next ih =>
      by_cases hfails : r.command ∈ redis.failing
      · simpa [Task.run, Redis.State.answer, Redis.State.answerAmid, fateByName, hfails] using
          ih _ (n + 1) redis
      · have htail := ih (.ok (redis.perform r).1) (n + 1) (redis.perform r).2
        rw [failing_perform] at htail
        simpa [Task.run, Redis.State.answer, Redis.State.answerAmid, fateByName, hfails] using htail

/-- A check alone, in a store in which some commands fail, is one of the checks considered here. -/
theorem checkAlone_eq_checkAmid (l : Limiter) (chat : Int) (now : Num) (redis : Redis.State) :
    l.checkAlone chat now redis = l.checkAmid ⟨chat, now, fateByName redis.failing⟩ redis :=
  run_fateByName (l.check chat now) 0 redis

/-- A check at no time in whole seconds changes nothing, and is in no slot. -/
theorem checkAmid_of_error {c : Check} {f : Fault} (hnow : wholeSeconds c.now = .error f)
    (redis : Redis.State) :
    (l.checkAmid c redis).2 = redis := by
  simp only [checkAmid, check, hnow]
  split <;> rfl

/-- A check that was made counts in a slot's history as its windows have counted it. -/
theorem Course.mem_counted_iff {tally : Window → Int} {announced : Window → Bool}
    {counted claimed : List Window} {past : Checked}
    (course : Course False tally announced l.windows counted claimed past.verdict)
    (hl : l.WellMade) (ht : t.window ∈ l.windows) :
    t.window ∈ counted ↔ l.rejectedBefore past t.window = false := by
  rw [course.mem_counted (List.Nodup.of_map _ hl.names) ht, rejectedBefore, List.any_eq_false]
  refine ⟨fun hall v hv hrejected => ?_, fun hnone v hv hmem => ?_⟩
  · exact hall v (of_decide_eq_true hrejected) hv
  · exact hnone v hmem (decide_eq_true hv)

theorem seen_append (l : Limiter) (history : List Checked) (past : Checked) (t : Slot) :
    l.seen (history ++ [past]) t = l.seen history t +
      if past.isIn t && !l.rejectedBefore past t.window then 1 else 0 := by
  simp only [seen, List.countP_append, List.countP_singleton]

theorem rejectedIn_append (history : List Checked) (past : Checked) (t : Slot) :
    rejectedIn (history ++ [past]) t =
      (rejectedIn history t || (past.isIn t && past.isRejectedBy t.window)) := by
  simp [rejectedIn]

/-- A check whose commands are served keeps the store in agreement with the history. -/
theorem Exact.afterCheck (h : Exact l history redis) (hl : l.WellMade) {c : Check} (hc : c.Served) :
    Exact l (l.afterCheck (history, redis) c).1 (l.afterCheck (history, redis) c).2 := by
  let past : Checked := ⟨c.chat, c.now, (l.checkAmid c redis).1⟩
  have hhistory : (l.afterCheck (history, redis) c).1 = history ++ [past] := rfl
  have hredis : (l.afterCheck (history, redis) c).2 = (l.checkAmid c redis).2 := rfl
  rw [hhistory, hredis]
  cases hnow : wholeSeconds c.now with
  | error f =>
      have hin : ∀ t, past.isIn t = false := fun t => isIn_eq_false hnow
      rw [checkAmid_of_error hnow]
      refine ⟨fun t ht => ?_, fun t ht => ?_⟩
      · simp [seen_append, hin t, h.tally t ht]
      · simp [rejectedIn_append, hin t, h.announced t ht]
  | ok seconds =>
      have hserved : ∀ n r, c.fate n r = .refused ∨ c.fate n r = .lost → False := by
        simp [hc _ _]
      obtain ⟨counted, claimed, course, advanced⟩ := hl.checkAmid_course c hserved hnow redis
      have hin : ∀ t, past.isIn t = decide (t = slotAt c.chat seconds t.window) := by
        intro t
        rw [Bool.eq_iff_iff, isIn_iff hnow, decide_eq_true_eq]
      refine ⟨fun t ht => ?_, fun t ht => ?_⟩
      · have hcounted : t.window ∈ counted ↔ l.rejectedBefore past t.window = false :=
          course.mem_counted_iff hl ht
        rw [advanced.tally t ht, h.tally t ht, seen_append, hin t, Int.natCast_add]
        by_cases hslot : t = slotAt c.chat seconds t.window
        · cases hbefore : l.rejectedBefore past t.window <;> simp [eq_true hslot, hcounted, hbefore]
        · simp [eq_false hslot]
      · have hclaimed : t.window ∈ claimed ↔ past.isRejectedBy t.window := by
          rw [course.mem_claimed, Checked.isRejectedBy, decide_eq_true_eq]
        rw [advanced.announced t ht, h.announced t ht, rejectedIn_append, hin t]
        by_cases hslot : t = slotAt c.chat seconds t.window
        · simp [eq_true hslot, hclaimed]
        · simp [eq_false hslot]

/-- Where the store agrees with the history, a check whose commands are served ends as the history says. -/
theorem Exact.verdict_eq (h : Exact l history redis) (hl : l.WellMade) {c : Check} (hc : c.Served)
    (hnow : wholeSeconds c.now = .ok seconds) :
    (l.checkAmid c redis).1 = .ok (l.expected history c.chat seconds) := by
  have hserved : ∀ n r, c.fate n r = .refused ∨ c.fate n r = .lost → False := by
    simp [hc _ _]
  obtain ⟨counted, claimed, course, -⟩ := hl.checkAmid_course c hserved hnow redis
  have htally : ∀ w ∈ l.windows,
      l.tally redis (slotAt c.chat seconds w) = l.seen history (slotAt c.chat seconds w) ∧
      l.announced redis (slotAt c.chat seconds w) = rejectedIn history (slotAt c.chat seconds w) :=
    fun w hw => ⟨h.tally _ hw, h.announced _ hw⟩
  exact (course.congr htally).verdict_eq

theorem admittedIn_append (history : List Checked) (past : Checked) (t : Slot) :
    admittedIn (history ++ [past]) t =
      admittedIn history t + if past.isIn t && past.isAdmitted then 1 else 0 := by
  simp only [admittedIn, List.countP_append, List.countP_singleton]

theorem toldIn_append (history : List Checked) (past : Checked) (t : Slot) :
    toldIn (history ++ [past]) t = toldIn history t + if past.isIn t && past.tells t.window then 1 else 0 := by
  simp only [toldIn, List.countP_append, List.countP_singleton]

theorem isAdmitted_iff {past : Checked} : past.isAdmitted ↔ past.verdict = .ok none := by
  rw [Checked.isAdmitted]
  split <;> simp_all

theorem tells_iff {past : Checked} {w : Window} :
    past.tells w ↔ ∃ e, past.verdict = .ok (some e) ∧ e.window = w ∧ e.tell := by
  rw [Checked.tells]
  split <;> simp_all

section Verdicts

variable (past : Checked) {counted claimed : List Window} {fails : Prop} (hnow : wholeSeconds past.now = .ok seconds)
  (course : Course fails (fun w => l.tally redis (slotAt past.chat seconds w))
    (fun w => l.announced redis (slotAt past.chat seconds w)) l.windows counted claimed past.verdict)
  (advanced : Advanced l past.chat seconds counted claimed redis redis')
  (ht : t.window ∈ l.windows) (hslot : past.isIn t)
include hnow course advanced ht hslot

/-- A check that is admitted takes the counter of each of its slots one further, within the limit. -/
theorem tally_of_isAdmitted (hadmitted : past.isAdmitted) :
    l.tally redis' t = l.tally redis t + 1 ∧ l.tally redis t + 1 ≤ t.window.limit := by
  have heq : t = slotAt past.chat seconds t.window := (isIn_iff hnow).mp hslot
  rw [isAdmitted_iff.mp hadmitted] at course
  obtain ⟨rfl, hlimits⟩ := course.of_admitted
  have hlimit := hlimits t.window ht
  rw [← heq] at hlimit
  refine ⟨?_, hlimit⟩
  rw [advanced.tally t ht, if_pos ⟨ht, heq⟩]

/-- A check that is to tell the chat of its rejection has made an announcement that was still to be made. -/
theorem announced_of_tells (htells : past.tells t.window) :
    l.announced redis t = false ∧ l.announced redis' t = true := by
  have heq : t = slotAt past.chat seconds t.window := (isIn_iff hnow).mp hslot
  obtain ⟨e, hverdict, hwindow, htell⟩ := tells_iff.mp htells
  rw [hverdict] at course
  obtain ⟨hclaimed, hfirst⟩ := course.of_rejected
  rw [hwindow] at hclaimed hfirst
  rw [← heq, htell] at hfirst
  refine ⟨by simpa using hfirst.symm, ?_⟩
  rw [advanced.announced t ht, decide_eq_true ⟨hclaimed, heq⟩, Bool.or_true]

end Verdicts

/-- However the commands of a check fare, the store bounds the history that it adds to. -/
theorem Bounded.afterCheck (h : Bounded l history redis) (hl : l.WellMade) (c : Check) :
    Bounded l (l.afterCheck (history, redis) c).1 (l.afterCheck (history, redis) c).2 := by
  let past : Checked := ⟨c.chat, c.now, (l.checkAmid c redis).1⟩
  have hhistory : (l.afterCheck (history, redis) c).1 = history ++ [past] := rfl
  have hredis : (l.afterCheck (history, redis) c).2 = (l.checkAmid c redis).2 := rfl
  rw [hhistory, hredis]
  cases hnow : wholeSeconds c.now with
  | error f =>
      have hin : ∀ t, past.isIn t = false := fun t => isIn_eq_false hnow
      rw [checkAmid_of_error hnow]
      refine ⟨fun t ht => ?_, fun t ht => ?_, fun t ht => ?_⟩
      · simpa [admittedIn_append, hin t] using h.admitted_le_tally t ht
      · simpa [admittedIn_append, hin t] using h.admitted_le_limit t ht
      · simpa [toldIn_append, hin t] using h.told_le_announced t ht
  | ok seconds =>
      obtain ⟨counted, claimed, course, advanced⟩ := hl.checkAmid_course c (fun _ _ _ => trivial) hnow redis
      refine ⟨fun t ht => ?_, fun t ht => ?_, fun t ht => ?_⟩
      · have hbefore := h.admitted_le_tally t ht
        have hgrows := advanced.tally_le ht
        rw [admittedIn_append]
        split
        next hcase =>
          obtain ⟨hslot, hadmitted⟩ := Bool.and_eq_true_iff.mp hcase
          have hstep := (tally_of_isAdmitted past hnow course advanced ht hslot hadmitted).1
          omega
        · omega
      · have hbefore := h.admitted_le_tally t ht
        have hlimit := h.admitted_le_limit t ht
        rw [admittedIn_append]
        split
        next hcase =>
          obtain ⟨hslot, hadmitted⟩ := Bool.and_eq_true_iff.mp hcase
          have hstep := (tally_of_isAdmitted past hnow course advanced ht hslot hadmitted).2
          omega
        · omega
      · have hbefore := h.told_le_announced t ht
        have hgrows := advanced.announced_le ht
        rw [toldIn_append]
        split
        next hcase =>
          obtain ⟨hslot, htells⟩ := Bool.and_eq_true_iff.mp hcase
          obtain ⟨hfalse, htrue⟩ := announced_of_tells past hnow course advanced ht hslot htells
          rw [hfalse] at hbefore
          rw [htrue]
          exact Nat.succ_le_succ hbefore
        · omega

theorem Fresh.exact (h : l.Fresh redis) : Exact l [] redis where
  tally := by
    intro t ht
    rw [tally, Redis.State.count, (h t).1]
    rfl
  announced := by
    intro t ht
    rw [announced, (h t).2]
    rfl

theorem Fresh.bounded (h : l.Fresh redis) : Bounded l [] redis where
  admitted_le_tally := fun t ht => Int.le_of_eq (h.exact.tally t ht).symm
  admitted_le_limit := fun t _ => Int.le_max_left 0 t.window.limit
  told_le_announced := fun _ _ => Nat.zero_le _

/-- A run whose commands are all served keeps the store in agreement with the history. -/
theorem Exact.afterChecks (run : List Checked × Redis.State) (h : Exact l run.1 run.2) (hl : l.WellMade)
    {checks : List Check} (hchecks : ∀ c ∈ checks, c.Served) :
    Exact l (checks.foldl l.afterCheck run).1 (checks.foldl l.afterCheck run).2 := by
  induction checks generalizing run with
  | nil => exact h
  | cons c rest ih =>
      refine ih _ (h.afterCheck hl (hchecks c List.mem_cons_self)) fun other hother => ?_
      exact hchecks other (List.mem_cons_of_mem c hother)

theorem Bounded.afterChecks (run : List Checked × Redis.State) (h : Bounded l run.1 run.2) (hl : l.WellMade)
    (checks : List Check) : Bounded l (checks.foldl l.afterCheck run).1 (checks.foldl l.afterCheck run).2 := by
  induction checks generalizing run with
  | nil => exact h
  | cons c rest ih => exact ih _ (h.afterCheck hl c)

theorem expected_eq_none_iff : l.expected history chat seconds = none ↔
    ∀ w ∈ l.windows, (l.seen history (slotAt chat seconds w) : Int) < w.limit := by
  rw [expected, Option.map_eq_none_iff, List.find?_eq_none]
  refine forall₂_congr fun w hw => ?_
  rw [decide_eq_true_eq, Int.not_le]

/-- After every run of checks, one whose commands are served like those of the run before it ends as the history
says; it is admitted if no window has seen as many attempts as it admits. Whatever becomes of the commands of a
run, each window admits no more attempts of a chat in a bucket than its limit, and at most one is told of. -/
theorem checks_follow_history (l : Limiter) (hl : l.WellMade) (redis : Redis.State) (hredis : l.Fresh redis)
    (checks : List Check) :
    let (history, after) := l.afterChecks redis checks
    ((∀ c ∈ checks, c.Served) → ∀ next : Check, next.Served → ∀ seconds, wholeSeconds next.now = .ok seconds →
      (l.checkAmid next after).1 = .ok (l.expected history next.chat seconds) ∧
      (l.expected history next.chat seconds = none ↔
        ∀ w ∈ l.windows, (l.seen history (slotAt next.chat seconds w) : Int) < w.limit)) ∧
    ∀ t : Slot, t.window ∈ l.windows →
      (admittedIn history t : Int) ≤ max 0 t.window.limit ∧ toldIn history t ≤ 1 := by
  refine ⟨fun hchecks next hnext seconds hnow => ⟨?_, expected_eq_none_iff⟩, fun t ht => ⟨?_, ?_⟩⟩
  · have hexact : Exact l (l.afterChecks redis checks).1 (l.afterChecks redis checks).2 :=
      Exact.afterChecks ([], redis) hredis.exact hl hchecks
    exact hexact.verdict_eq hl hnext hnow
  · exact (Bounded.afterChecks ([], redis) hredis.bounded hl checks).admitted_le_limit t ht
  · have htold := (Bounded.afterChecks ([], redis) hredis.bounded hl checks).told_le_announced t ht
    exact Nat.le_trans htold (Bool.toNat_le _)

/-- Two windows, of which the longer one admits three attempts. -/
def shortAndLong : Limiter := { bot := 7, windows := [⟨"5m", 300, 2⟩, ⟨"1h", 3600, 3⟩] }

/-- Three attempts at once, and one in the next five minutes. -/
def burst : List Check := [1000, 1000, 1000, 1300].map fun now => ⟨1, .int now, fun _ _ => .served⟩

/-- Attempts whose commands are refused or get lost at several points, before and after the limit is reached. -/
def troubled : List Check := [⟨1, .int 1000, fun n _ => if n = 1 then .lost else .served⟩,
  ⟨1, .int 1000, fun n _ => if n = 1 then .refused else .served⟩,
  ⟨1, .int 1000, fun n _ => if n = 1 then .lost else .served⟩,
  ⟨1, .int 1000, fun _ _ => .served⟩, ⟨1, .int 1300, fun _ _ => .served⟩]

theorem shortAndLong_wellMade : shortAndLong.WellMade := ⟨by decide, by decide, by decide⟩

theorem checks_follow_history_burst :
    (shortAndLong.checkAmid ⟨1, .int 1301, fun _ _ => .served⟩ (shortAndLong.afterChecks {} burst).2).1 =
      .ok (some ⟨⟨"1h", 3600, 3⟩, 4, true⟩) ∧
    admittedIn (shortAndLong.afterChecks {} troubled).1 ⟨1, ⟨"1h", 3600, 3⟩, 0⟩ ≤ 3 := by
  have hburst : ∀ c ∈ burst, c.Served := by
    intro c hc
    obtain ⟨now, -, rfl⟩ := List.mem_map.mp hc
    exact fun _ _ => rfl
  have hnext := (checks_follow_history shortAndLong shortAndLong_wellMade {} (fun t => ⟨rfl, rfl⟩) burst).1
    hburst
    ⟨1, .int 1301, fun _ _ => .served⟩ (fun _ _ => rfl) 1301 rfl
  have hbounds := (checks_follow_history shortAndLong shortAndLong_wellMade {} (fun t => ⟨rfl, rfl⟩) troubled).2
    ⟨1, ⟨"1h", 3600, 3⟩, 0⟩ (by decide)
  refine ⟨?_, Int.ofNat_le.mp hbounds.1⟩
  have hexpected : shortAndLong.expected (shortAndLong.afterChecks {} burst).1 1 1301 =
      some ⟨⟨"1h", 3600, 3⟩, 4, true⟩ := by decide +kernel
  rw [← hexpected]
  exact hnext.1

end ChainAlerts.Limiter
