import ChainAlerts.Proofs.LimiterKeys

/-! One check of a limiter, among commands that may fail. A command is carried out and answered, or refused
without a change, or carried out though its answer is lost. However the commands fare, a check counts its
attempt in some of the first windows, claims at most the announcement of the last of these, and touches no
other counter; how it ends is read off where the counters stood before it. -/

namespace ChainAlerts

namespace Redis

/-- What becomes of a command. -/
inductive Fate where
  | served | refused | lost
  deriving DecidableEq, Repr

/-- Answers a command by its fate, which may depend on how many commands came before it. -/
def State.answerAmid (fate : Nat → Request → Fate) (r : Request) (s : Nat × State) : r.Reply × (Nat × State) :=
  match fate s.1 r with
  | .served => (.ok (s.2.perform r).1, (s.1 + 1, (s.2.perform r).2))
  | .refused => (.error .down, (s.1 + 1, s.2))
  | .lost => (.error .down, (s.1 + 1, (s.2.perform r).2))

end Redis

namespace Limiter

/-- What a check ends with. -/
abbrev Verdict := Except LimitFailure (Option LimitExceeded)

/-- The window that rejected an attempt, if one did. -/
def rejecting : Verdict → Option Window
  | .ok (some e) => some e.window
  | _ => none

/-- How counting an attempt in some windows goes, from where their counters and announcements stand: the
windows that count it, those whose announcement is claimed, and the end. Only if commands fail does it end
without a judgement. -/
inductive Course (fails : Prop) (tally : Window → Int) (announced : Window → Bool) :
    List Window → List Window → List Window → Verdict → Prop where
  | admitted : Course fails tally announced [] [] [] (.ok none)
  | passed {w : Window} {rest counted claimed : List Window} {verdict : Verdict}
      (within : tally w + 1 ≤ w.limit)
      (tail : Course fails tally announced rest counted claimed verdict) :
      Course fails tally announced (w :: rest) (w :: counted) claimed verdict
  | rejected {w : Window} {rest : List Window} (beyond : w.limit < tally w + 1) :
      Course fails tally announced (w :: rest) [w] [w] (.ok (some ⟨w, tally w + 1, !announced w⟩))
  | failed {w : Window} {rest counted claimed : List Window} {cause : LimitFailure} (fault : fails)
      (counts : counted ⊆ [w]) (claims : claimed ⊆ [w]) :
      Course fails tally announced (w :: rest) counted claimed (.error cause)

/-- The slot of a window that an attempt at a given second falls into. -/
def slotAt (chat seconds : Int) (w : Window) : Slot := ⟨chat, w, seconds.fdiv w.seconds⟩

theorem slotKey_slotAt (l : Limiter) (chat seconds : Int) (w : Window) :
    l.slotKey (slotAt chat seconds w) = l.key chat w (seconds.fdiv w.seconds) := rfl

/-- What an attempt leaves behind: its slots of the windows that counted it are one higher, the announcements
of its slots of the windows that claimed them are made, and everything else stands as before. -/
structure Advanced (l : Limiter) (chat seconds : Int) (counted claimed : List Window)
    (redis redis' : Redis.State) :
    Prop where
  tally : ∀ t : Slot, t.window ∈ l.windows → l.tally redis' t =
    l.tally redis t + if t.window ∈ counted ∧ t = slotAt chat seconds t.window then 1 else 0
  announced : ∀ t : Slot, t.window ∈ l.windows → l.announced redis' t =
    (l.announced redis t || decide (t.window ∈ claimed ∧ t = slotAt chat seconds t.window))

/-- A run over some windows went one of the ways it can go. -/
def Goes (l : Limiter) (fails : Prop) (chat seconds : Int) (redis : Redis.State) (ws : List Window)
    (outcome : Verdict × (Nat × Redis.State)) : Prop :=
  ∃ counted claimed, Course fails (fun w => l.tally redis (slotAt chat seconds w))
      (fun w => l.announced redis (slotAt chat seconds w)) ws counted claimed outcome.1 ∧
    Advanced l chat seconds counted claimed redis outcome.2.2

variable {l : Limiter} {chat seconds : Int} {w : Window} {ws rest counted claimed : List Window}
  {redis redis' : Redis.State} {fails : Prop} {fate : Nat → Redis.Request → Redis.Fate} {n : Nat}

namespace Course

variable {tally tally' : Window → Int} {announced announced' : Window → Bool} {verdict : Verdict}

theorem congr (h : Course fails tally announced ws counted claimed verdict)
    (hsame : ∀ w ∈ ws, tally w = tally' w ∧ announced w = announced' w) :
    Course fails tally' announced' ws counted claimed verdict := by
  induction h with
  | admitted => exact .admitted
  | @passed w rest counted claimed verdict within tail ih =>
      refine .passed ?_ (ih fun v hv => hsame v (List.mem_cons_of_mem w hv))
      rwa [← (hsame w List.mem_cons_self).1]
  | @rejected w rest beyond =>
      obtain ⟨htally, hannounced⟩ := hsame w List.mem_cons_self
      rw [htally] at beyond ⊢
      rw [hannounced]
      exact .rejected beyond
  | failed fault counts claims => exact .failed fault counts claims

theorem counted_subset (h : Course fails tally announced ws counted claimed verdict) : counted ⊆ ws := by
  induction h with
  | admitted => exact List.Subset.refl []
  | passed within tail ih => exact List.cons_subset_cons _ ih
  | rejected beyond => exact List.cons_subset_cons _ (List.nil_subset _)
  | failed fault counts claims => exact List.Subset.trans counts (List.cons_subset_cons _ (List.nil_subset _))

/-- An admitted attempt is counted in every window, within its limit. -/
theorem of_admitted (h : Course fails tally announced ws counted claimed (.ok none)) :
    counted = ws ∧ ∀ w ∈ ws, tally w + 1 ≤ w.limit := by
  generalize hverdict : (.ok none : Verdict) = verdict at h
  induction h with
  | admitted => exact ⟨rfl, fun w hw => absurd hw List.not_mem_nil⟩
  | @passed w rest counted claimed verdict within tail ih =>
      obtain ⟨rfl, hrest⟩ := ih hverdict
      exact ⟨rfl, List.forall_mem_cons.mpr ⟨within, hrest⟩⟩
  | rejected beyond => cases Except.ok.inj hverdict
  | failed fault counts claims => cases hverdict

/-- A rejected attempt claims the announcement of the window that rejects it, and may tell the chat if that
announcement was still to be made. -/
theorem of_rejected {e : LimitExceeded} (h : Course fails tally announced ws counted claimed (.ok (some e))) :
    e.window ∈ claimed ∧ e.tell = !announced e.window := by
  generalize hverdict : (.ok (some e) : Verdict) = verdict at h
  induction h with
  | admitted => cases Except.ok.inj hverdict
  | passed within tail ih => exact ih hverdict
  | rejected beyond =>
      obtain rfl := Option.some.inj (Except.ok.inj hverdict)
      exact ⟨List.mem_cons_self, rfl⟩
  | failed fault counts claims => cases hverdict

theorem rejecting_mem (h : Course fails tally announced ws counted claimed verdict)
    (hw : rejecting verdict = some w) :
    w ∈ ws := by
  induction h with
  | admitted => cases hw
  | passed within tail ih => exact List.mem_cons_of_mem _ (ih hw)
  | rejected beyond =>
      obtain rfl := Option.some.inj hw
      exact List.mem_cons_self
  | failed fault counts claims => cases hw

section Served

variable (h : Course False tally announced ws counted claimed verdict)
include h

/-- Where no command fails, the first window that is full rejects the attempt. -/
theorem verdict_eq : verdict = .ok ((ws.find? fun w => w.limit ≤ tally w).map fun w =>
    ⟨w, tally w + 1, !announced w⟩) := by
  induction h with
  | admitted => rfl
  | @passed w rest counted claimed verdict within tail ih =>
      have hw : ¬ w.limit ≤ tally w := by omega
      rw [ih, List.find?_cons_of_neg (by simpa using hw)]
  | @rejected w rest beyond =>
      have hw : w.limit ≤ tally w := by omega
      rw [List.find?_cons_of_pos (by simpa using hw)]
      rfl
  | failed fault counts claims => exact fault.elim

/-- Where no command fails, a window counts an attempt unless one listed before it rejects the attempt. -/
theorem mem_counted (hws : ws.Nodup) (hw : w ∈ ws) :
    w ∈ counted ↔ ∀ v ∈ rejecting verdict, v ∉ ws.takeWhile (· ≠ w) := by
  induction h with
  | admitted => cases hw
  | @passed w₀ rest counted claimed verdict within tail ih =>
      obtain ⟨hfresh, hrest⟩ := List.nodup_cons.mp hws
      by_cases heq : w₀ = w
      · simp [heq]
      · have hmem : w ∈ rest := (List.mem_cons.mp hw).resolve_left fun e => heq e.symm
        rw [List.mem_cons, or_iff_right fun e => heq e.symm, ih hrest hmem,
          List.takeWhile_cons_of_pos (by simpa using heq)]
        refine forall₂_congr fun v hv => not_congr ⟨List.mem_cons_of_mem w₀, fun hv' => ?_⟩
        -- the rejecting window is one of the rest, so it is not the first
        refine (List.mem_cons.mp hv').resolve_left ?_
        rintro rfl
        exact hfresh (tail.rejecting_mem hv)
  | @rejected w₀ rest beyond =>
      by_cases heq : w₀ = w
      · simp [heq]
      · have htake : (w₀ :: rest).takeWhile (· ≠ w) = w₀ :: rest.takeWhile (· ≠ w) :=
          List.takeWhile_cons_of_pos (by simpa using heq)
        rw [htake, List.mem_singleton]
        refine ⟨fun e => absurd e.symm heq, fun hall => ?_⟩
        exact absurd List.mem_cons_self (hall w₀ rfl)
  | failed fault counts claims => exact fault.elim

theorem mem_claimed : w ∈ claimed ↔ rejecting verdict = some w := by
  induction h with
  | admitted => simp [rejecting]
  | passed within tail ih => exact ih
  | @rejected w₀ rest beyond =>
      rw [List.mem_singleton, rejecting, Option.some.injEq]
      exact eq_comm
  | failed fault counts claims => exact fault.elim

end Served

end Course

namespace Advanced

theorem refl (l : Limiter) (chat seconds : Int) (redis : Redis.State) :
    Advanced l chat seconds [] [] redis redis where
  tally := by simp
  announced := by simp

/-- A window that does not count an attempt later on has its slot where the first part left it. -/
theorem trans {w : Window} {redis₁ redis₂ : Redis.State} (first : Advanced l chat seconds [w] [] redis redis₁)
    (second : Advanced l chat seconds counted claimed redis₁ redis₂) (hw : w ∉ counted) :
    Advanced l chat seconds (w :: counted) claimed redis redis₂ where
  tally := by
    intro t ht
    rw [second.tally t ht, first.tally t ht]
    by_cases htw : t.window = w
    · simp [htw, hw]
    · simp [htw]
  announced := by
    intro t ht
    rw [second.announced t ht, first.announced t ht]
    simp

theorem tally_le (h : Advanced l chat seconds counted claimed redis redis') {t : Slot}
    (ht : t.window ∈ l.windows) :
    l.tally redis t ≤ l.tally redis' t := by
  rw [h.tally t ht]
  split <;> omega

theorem announced_le (h : Advanced l chat seconds counted claimed redis redis') {t : Slot}
    (ht : t.window ∈ l.windows) :
    (l.announced redis t).toNat ≤ (l.announced redis' t).toNat := by
  rw [h.announced t ht]
  cases l.announced redis t with
  | false => exact Nat.zero_le _
  | true => exact Nat.le_refl _

theorem incr (hl : l.WellMade) (hw : w ∈ l.windows) (redis : Redis.State) :
    Advanced l chat seconds [w] [] redis (redis.perform (.incr (l.slotKey (slotAt chat seconds w)))).2 where
  tally := by
    intro t ht
    rw [hl.tally_incr redis ht hw]
    refine congrArg _ (if_congr ⟨?_, ?_⟩ rfl rfl)
    · rintro rfl
      exact ⟨List.mem_singleton_self w, rfl⟩
    · rintro ⟨hmem, heq⟩
      rwa [List.mem_singleton.mp hmem] at heq
  announced := by
    intro t ht
    rw [hl.announced_incr redis ht hw]
    simp

theorem expire (h : Advanced l chat seconds counted claimed redis redis') (key : String) (length : Int) :
    Advanced l chat seconds counted claimed redis (redis'.perform (.expire key length)).2 where
  tally := by
    intro t ht
    rw [← h.tally t ht]
    exact Redis.State.count_expire redis' key _ length
  announced := by
    intro t ht
    rw [← h.announced t ht]
    exact Redis.State.isSome_cell?_expire redis' key _ length

theorem claim (h : Advanced l chat seconds counted [] redis redis') (hl : l.WellMade) (hw : w ∈ l.windows)
    (length : Int) : Advanced l chat seconds counted [w] redis
      (redis'.perform (.claim (noticeKey (l.slotKey (slotAt chat seconds w))) length)).2 where
  tally := by
    intro t ht
    rw [hl.tally_claim redis' ht hw length, h.tally t ht]
  announced := by
    intro t ht
    rw [hl.announced_claim redis' ht hw length, h.announced t ht]
    by_cases htw : t.window = w
    · subst htw
      simp
    · have hne : t ≠ slotAt chat seconds w := fun heq => htw (congrArg Slot.window heq)
      simp [htw, hne]

end Advanced

/-- A request is answered, refused, or carried out in vain. -/
theorem run_attempt {α : Type} (chat : Int) (r : Redis.Request)
    (next : r.Result → Counting (Except LimitFailure α)) (n : Nat) (redis : Redis.State) :
    (attempt chat r next).run (Redis.State.answerAmid fate) (n, redis) =
      match fate n r with
      | .served => (next (redis.perform r).1).run (Redis.State.answerAmid fate) (n + 1, (redis.perform r).2)
      | .refused => (.error (.unavailable chat .down), (n + 1, redis))
      | .lost => (.error (.unavailable chat .down), (n + 1, (redis.perform r).2)) := by
  simp only [attempt, Task.run, Redis.State.answerAmid]
  cases fate n r <;> rfl

section Course

variable (hl : l.WellMade) (hfails : ∀ n r, fate n r = .refused ∨ fate n r = .lost → fails)

theorem Goes.failed (hfault : fails) (h : Advanced l chat seconds counted claimed redis redis')
    (hcounted : counted ⊆ [w]) (hclaimed : claimed ⊆ [w]) (cause : LimitFailure) :
    Goes l fails chat seconds redis (w :: rest) (.error cause, (n, redis')) :=
  ⟨counted, claimed, .failed hfault hcounted hclaimed, h⟩

/-- A window within its limit leaves the judgement to the rest, whose slots it does not touch. -/
theorem goes_within (hfresh : w ∉ rest) (hrest : ∀ v ∈ rest, v ∈ l.windows)
    (h : Advanced l chat seconds [w] [] redis redis')
    (hwithin : l.tally redis (slotAt chat seconds w) + 1 ≤ w.limit)
    {outcome : Verdict × (Nat × Redis.State)} (tail : Goes l fails chat seconds redis' rest outcome) :
    Goes l fails chat seconds redis (w :: rest) outcome := by
  obtain ⟨counted, claimed, course, advanced⟩ := tail
  have hsame : ∀ v ∈ rest, l.tally redis' (slotAt chat seconds v) = l.tally redis (slotAt chat seconds v) ∧
      l.announced redis' (slotAt chat seconds v) = l.announced redis (slotAt chat seconds v) := by
    intro v hv
    have hne : v ≠ w := fun heq => hfresh (heq ▸ hv)
    have htally := h.tally (slotAt chat seconds v) (hrest v hv)
    have hannounced := h.announced (slotAt chat seconds v) (hrest v hv)
    exact ⟨by simpa [slotAt, hne] using htally, by simpa using hannounced⟩
  refine ⟨w :: counted, claimed, .passed hwithin (course.congr hsame), h.trans advanced fun hmem => ?_⟩
  exact hfresh (course.counted_subset hmem)

include hl hfails

/-- A window over its limit claims its announcement, and that is the end of the check. -/
theorem goes_over (hw : w ∈ l.windows) (h : Advanced l chat seconds [w] [] redis redis')
    (hover : w.limit < l.tally redis (slotAt chat seconds w) + 1) :
    Goes l fails chat seconds redis (w :: rest)
      ((attempt chat (.claim (noticeKey (l.slotKey (slotAt chat seconds w))) w.seconds) fun (claimed : Bool) =>
        .done (.ok (some ⟨w, l.tally redis (slotAt chat seconds w) + 1, claimed⟩))).run
          (Redis.State.answerAmid fate) (n, redis')) := by
  rw [run_attempt]
  have hclaim := h.claim hl hw w.seconds
  cases hfate : fate n (.claim (noticeKey (l.slotKey (slotAt chat seconds w))) w.seconds) with
  | served =>
      refine ⟨[w], [w], ?_, hclaim⟩
      have hstands : l.announced redis' (slotAt chat seconds w) =
        l.announced redis (slotAt chat seconds w) := by
        simpa using h.announced (slotAt chat seconds w) hw
      have hresult : (redis'.perform (.claim (noticeKey (l.slotKey (slotAt chat seconds w))) w.seconds)).1 =
          !l.announced redis (slotAt chat seconds w) := by
        rw [← hstands]
        exact Redis.State.perform_claim _ _ _
      simp only [Task.run_done, hresult]
      exact .rejected hover
  | refused => exact .failed (hfails _ _ (Or.inl hfate)) h (List.Subset.refl _) (List.nil_subset _) _
  | lost => exact .failed (hfails _ _ (Or.inr hfate)) hclaim (List.Subset.refl _) (List.Subset.refl _) _

/-- However the commands fare, counting an attempt in windows goes one of the ways it can go. -/
theorem goes_countAll (hnodup : ws.Nodup) (hws : ∀ w ∈ ws, w ∈ l.windows) (n : Nat) (redis : Redis.State) :
    Goes l fails chat seconds redis ws
      ((l.countAll chat seconds ws).run (Redis.State.answerAmid fate) (n, redis)) := by
  induction ws generalizing n redis with
  | nil => exact ⟨[], [], .admitted, .refl l chat seconds redis⟩
  | cons w rest ih =>
      obtain ⟨hfresh, hnodup⟩ := List.nodup_cons.mp hnodup
      have hw := hws w List.mem_cons_self
      have hrest : ∀ v ∈ rest, v ∈ l.windows := fun v hv => hws v (List.mem_cons_of_mem w hv)
      have hseconds : w.seconds ≠ 0 := Int.ne_of_gt (hl.positive w hw)
      have hincr : Advanced l chat seconds [w] [] redis _ := .incr hl hw redis
      -- what follows the counting, from any state that it may leave
      have hjudge : ∀ (n : Nat) (redis' : Redis.State), Advanced l chat seconds [w] [] redis redis' →
          Goes l fails chat seconds redis (w :: rest)
            ((if w.limit < l.tally redis (slotAt chat seconds w) + 1 then
              attempt chat (.claim (noticeKey (l.slotKey (slotAt chat seconds w))) w.seconds)
                fun (claimed : Bool) =>
                  .done (.ok (some ⟨w, l.tally redis (slotAt chat seconds w) + 1, claimed⟩))
              else l.countAll chat seconds rest).run (Redis.State.answerAmid fate) (n, redis')) := by
        intro n redis' h
        split
        next hover => exact goes_over hl hfails hw h hover
        next hwithin => exact goes_within hfresh hrest h (by omega) (ih hnodup hrest n redis')
      rw [countAll, if_neg hseconds, ← slotKey_slotAt, countIn, run_attempt]
      cases hfate : fate n (.incr (l.slotKey (slotAt chat seconds w))) with
      | refused =>
          exact .failed (hfails _ _ (Or.inl hfate)) (.refl ..) (List.nil_subset _)
            (List.nil_subset _) _
      | lost => exact .failed (hfails _ _ (Or.inr hfate)) hincr (List.Subset.refl _) (List.nil_subset _) _
      | served =>
          have hcount : (redis.perform (.incr (l.slotKey (slotAt chat seconds w)))).1 =
              l.tally redis (slotAt chat seconds w) + 1 := rfl
          simp only [hcount]
          split
          next hfirst =>
            rw [run_attempt]
            cases hfate : fate (n + 1) (.expire (l.slotKey (slotAt chat seconds w)) w.seconds) with
            | refused =>
                exact .failed (hfails _ _ (Or.inl hfate)) hincr (List.Subset.refl _)
                  (List.nil_subset _) _
            | lost =>
                exact .failed (hfails _ _ (Or.inr hfate)) (hincr.expire _ _) (List.Subset.refl _)
                  (List.nil_subset _) _
            | served => exact hjudge _ _ (hincr.expire _ _)
          · exact hjudge _ _ hincr

end Course

end Limiter

end ChainAlerts
