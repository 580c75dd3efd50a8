import ChainAlerts.DeliveriesSideBySide
import ChainAlerts.Proofs.LimiterChecks

/-! What one job can have done. A delivery reads the time, counts its attempt in one window after the other, and then
has found itself over a limit or renders its draft and hands the notification over; a notice waits and is handed over.
Each stage fixes what the job has asked so far and how it can have ended, whatever the answers were. -/

namespace ChainAlerts.Dispatch

open Limiter (Slot slotAt noticeKey)

variable {δ : Type}

/-- An answer that a job may get where the store does not fail, the clock shows a time in seconds, and a draft is
rendered for the chat it is addressed to. -/
def Deed.IsSound (addressee : δ → Int) : Deed δ → Prop
  | ⟨.now, (time : Num)⟩ => ∃ seconds, Limiter.wholeSeconds time = .ok seconds
  | ⟨.redis _, answer⟩ => ∃ result, answer = .ok result
  | ⟨.render draft, (rendering : Rendering)⟩ => ∀ note, rendering = .ready note → note.chat = addressee draft
  | _ => True

/-- Whatever an activity is answered, what it has done and how it has ended satisfies `P` at every point. -/
def Always (sound : Deed δ → Prop) (P : List (Deed δ) → Option Outcome → Prop) :
    List (Deed δ) → Activity δ → Prop
  | past, .done outcome => P past (some outcome)
  | past, .ask r next =>
    P past none ∧ ∀ reply, sound ⟨r, reply⟩ → Always sound P (past ++ [⟨r, reply⟩]) (next reply)

/-- How an activity has ended, if it has. -/
def outcome? : Activity δ → Option Outcome
  | .done outcome => some outcome
  | .ask .. => none

theorem Always.now {sound : Deed δ → Prop} {P : List (Deed δ) → Option Outcome → Prop} {past : List (Deed δ)}
    {rest : Activity δ} (h : Always sound P past rest) : P past (outcome? rest) := by
  cases rest with
  | done outcome => exact h
  | ask r next => exact h.1

/-- A request about the counter of a slot of a chat. -/
def counted (l : Limiter) (t : Slot) (n : Int) : Deed δ := ⟨.redis (.incr (l.slotKey t)), .ok n⟩

def claimed (l : Limiter) (t : Slot) (first : Bool) : Deed δ :=
  ⟨.redis (.claim (noticeKey (l.slotKey t)) t.window.seconds), .ok first⟩

/-- What a check asks before it finds itself over a limit: the time, counters of its chat, and their expiry. -/
inductive IsCount (l : Limiter) (chat : Int) : Deed δ → Prop
  | read (time : Num) : IsCount l chat ⟨.now, time⟩
  | count {t : Slot} (n : Int) (hchat : t.chat = chat) (ht : t.window ∈ l.windows) : IsCount l chat (counted l t n)
  | keep {t : Slot} (hchat : t.chat = chat) (ht : t.window ∈ l.windows) (answer : Redis.Request.Reply _) :
      IsCount l chat ⟨.redis (.expire (l.slotKey t) t.window.seconds), answer⟩

/-- A delivery that counts its attempt and has passed some windows. -/
structure Counting (l : Limiter) (chat seconds : Int) (passed : List Window) (past : List (Deed δ)) : Prop where
  time : ∃ time, timeRead past = some time ∧ Limiter.wholeSeconds time = .ok seconds
  quiet : ∀ deed ∈ past, IsCount l chat deed
  within : ∀ w ∈ passed, ∃ n ≤ w.limit, counted l (slotAt chat seconds w) n ∈ past

/-- The stages of a delivery: what it has done, and how it has ended if it has. -/
inductive DeliveryStage (l : Limiter) (chat : Int) (draft : δ) : List (Deed δ) → Option Outcome → Prop
  | begun : DeliveryStage l chat draft [] none
  | counting {seconds : Int} {passed : List Window} {past : List (Deed δ)} (h : Counting l chat seconds passed past) :
      DeliveryStage l chat draft past none
  | limited {seconds : Int} {passed : List Window} {past : List (Deed δ)} (h : Counting l chat seconds passed past)
      {w : Window} (hw : w ∈ l.windows) (first : Bool) {ended : Option Outcome}
      (hended : ended = none ∨ ended = some .limited) :
      DeliveryStage l chat draft (past ++ [claimed l (slotAt chat seconds w) first]) ended
  | announced {seconds : Int} {passed : List Window} {past : List (Deed δ)} (h : Counting l chat seconds passed past)
      {e : LimitExceeded} (hw : e.window ∈ l.windows) :
      DeliveryStage l chat draft
        (past ++ [claimed l (slotAt chat seconds e.window) true] ++ [⟨.announce chat e, ()⟩]) (some .limited)
  | rendered {seconds : Int} {past : List (Deed δ)} (h : Counting l chat seconds l.windows past) (rendering : Rendering)
      {ended : Option Outcome} (hended : ended ∈ [none, some .sent, some .skipped, some .failed]) :
      DeliveryStage l chat draft (past ++ [⟨.render draft, rendering⟩]) ended
  | handed {seconds : Int} {past : List (Deed δ)} (h : Counting l chat seconds l.windows past) {note : Notification}
      (hnote : note.chat = chat) (verdict : Except SendError Unit) {outcome : Outcome}
      (hended : outcome = .sent ∨ outcome = .failed) :
      DeliveryStage l chat draft (past ++ [⟨.render draft, Rendering.ready note⟩] ++ [⟨.send note, verdict⟩])
        (some outcome)

/-- The stages of a notice. -/
inductive NoticeStage (chat : Int) : List (Deed δ) → Option Outcome → Prop
  | begun : NoticeStage chat [] none
  | waited (delay : Num) {ended : Option Outcome} (hended : ended = none ∨ ended = some .noticeLost) :
      NoticeStage chat [⟨.pause delay, ()⟩] ended
  | handed (delay : Num) {note : Notification} (hnote : note.chat = chat) (verdict : Except SendError Unit)
      {outcome : Outcome} (hended : outcome = .noticeSent ∨ outcome = .noticeLost) :
      NoticeStage chat [⟨.pause delay, ()⟩, ⟨.send note, verdict⟩] (some outcome)

section Stages

variable {d : Dispatcher δ} {l : Limiter} {addressee : δ → Int} {chat seconds : Int} {draft : δ}
  {past : List (Deed δ)} {passed : List Window}

theorem timeRead_append {time : Num} (h : timeRead past = some time) (deeds : List (Deed δ)) :
    timeRead (past ++ deeds) = some time := by
  unfold timeRead at h ⊢
  rw [List.findSome?_append, h]
  rfl

/-- Counting goes on with a deed that is part of it. -/
theorem Counting.append (h : Counting l chat seconds passed past) {deed : Deed δ} (hdeed : IsCount l chat deed) :
    Counting l chat seconds passed (past ++ [deed]) where
  time := by
    obtain ⟨time, htime, hseconds⟩ := h.time
    exact ⟨time, timeRead_append htime _, hseconds⟩
  quiet := by
    intro other hother
    rcases List.mem_append.mp hother with hmem | hmem
    · exact h.quiet other hmem
    · exact List.mem_singleton.mp hmem ▸ hdeed
  within := by
    intro w hw
    obtain ⟨n, hn, hmem⟩ := h.within w hw
    exact ⟨n, hn, List.mem_append_left _ hmem⟩

theorem Counting.pass (h : Counting l chat seconds passed past) {w : Window} {n : Int}
    (hmem : counted l (slotAt chat seconds w) n ∈ past) (hn : n ≤ w.limit) :
    Counting l chat seconds (w :: passed) past where
  time := h.time
  quiet := h.quiet
  within := List.forall_mem_cons.mpr ⟨⟨n, hn, hmem⟩, h.within⟩

theorem Counting.mono {passed' : List Window} (h : Counting l chat seconds passed past)
    (hsub : ∀ w ∈ passed', w ∈ passed) : Counting l chat seconds passed' past where
  time := h.time
  quiet := h.quiet
  within := fun w hw => h.within w (hsub w hw)

/-- A delivery that has passed every window renders its draft and hands the notification over. -/
theorem always_finish (h : Counting l chat seconds l.windows past) (hdraft : addressee draft = chat) :
    Always (Deed.IsSound addressee) (DeliveryStage l chat draft) past (d.finish draft) := by
  refine ⟨.counting h, fun rendering hsound => ?_⟩
  cases rendering with
  | ready note =>
      have hnote : note.chat = chat := (hsound note rfl).trans hdraft
      simp only [Dispatcher.hand]
      split
      · exact .rendered h _ (by simp)
      · refine ⟨.rendered h _ (by simp), fun verdict _ => ?_⟩
        cases verdict with
        | ok u => exact .handed h hnote _ (Or.inl rfl)
        | error e => exact .handed h hnote _ (Or.inr rfl)
  | nothing => exact .rendered h _ (by simp)
  | failed => exact .rendered h _ (by simp)

/-- A delivery that counts its attempt passes the windows that are left, or finds itself over the limit of one. -/
theorem always_countAll {after : Limiter.Verdict → Activity δ} {P : List (Deed δ) → Option Outcome → Prop}
    (hcounting : ∀ past passed, Counting l chat seconds passed past → P past none)
    (hadmitted : ∀ past, Counting l chat seconds l.windows past →
      Always (Deed.IsSound addressee) P past (after (.ok none)))
    (hrejected : ∀ past passed w n first, Counting l chat seconds passed past → w ∈ l.windows →
      Always (Deed.IsSound addressee) P (past ++ [claimed l (slotAt chat seconds w) first])
        (after (.ok (some ⟨w, n, first⟩))))
    (hseconds : ∀ w ∈ l.windows, w.seconds ≠ 0) {ws : List Window} (hws : ∀ w ∈ ws, w ∈ l.windows)
    (hall : ∀ w ∈ l.windows, w ∈ passed ∨ w ∈ ws) (h : Counting l chat seconds passed past) :
    Always (Deed.IsSound addressee) P past
      (((l.countAll chat seconds ws).lift Request.redis fun _ reply => reply).andThen after) := by
  induction ws generalizing passed past with
  | nil =>
      refine hadmitted past (h.mono fun w hw => ?_)
      exact (hall w hw).resolve_right List.not_mem_nil
  | cons w rest ih =>
      have hw : w ∈ l.windows := hws w List.mem_cons_self
      have hrest : ∀ v ∈ rest, v ∈ l.windows := fun v hv => hws v (List.mem_cons_of_mem w hv)
      have hleft : ∀ v ∈ l.windows, v ∈ w :: passed ∨ v ∈ rest := by
        intro v hv
        rcases hall v hv with hpassed | hmem
        · exact Or.inl (List.mem_cons_of_mem w hpassed)
        · rcases List.mem_cons.mp hmem with rfl | hrest
          · exact Or.inl List.mem_cons_self
          · exact Or.inr hrest
      -- what follows the counting in this window
      have hjudge : ∀ (n : Int) (past : List (Deed δ)), Counting l chat seconds passed past →
          counted l (slotAt chat seconds w) n ∈ past →
          Always (Deed.IsSound addressee) P past
            (((if w.limit < n then
              Limiter.attempt chat (.claim (noticeKey (l.slotKey (slotAt chat seconds w))) w.seconds)
                fun (first : Bool) => .done (.ok (some ⟨w, n, first⟩))
              else l.countAll chat seconds rest).lift Request.redis fun _ reply => reply).andThen after) := by
        intro n past h hmem
        split
        · refine ⟨hcounting past passed h, ?_⟩
          rintro reply ⟨first, rfl⟩
          exact hrejected past passed w n first h hw
        next hwithin => exact ih hrest hleft (h.pass hmem (Int.not_lt.mp hwithin))
      rw [Limiter.countAll, if_neg (hseconds w hw), ← Limiter.slotKey_slotAt, Limiter.countIn]
      refine ⟨hcounting past passed h, ?_⟩
      rintro reply ⟨n, rfl⟩
      have hcount : IsCount (δ := δ) l chat (counted l (slotAt chat seconds w) n) := .count n rfl hw
      have hmem : counted l (slotAt chat seconds w) n ∈ past ++ [counted l (slotAt chat seconds w) n] :=
        List.mem_append_right past (List.mem_singleton_self _)
      simp only
      split
      · refine ⟨hcounting _ passed (h.append hcount), ?_⟩
        rintro reply ⟨u, rfl⟩
        have hkept := (h.append hcount).append (.keep (t := slotAt chat seconds w) rfl hw (.ok u))
        exact hjudge n _ hkept (List.mem_append_left _ hmem)
      · exact hjudge n _ (h.append hcount) hmem

/-- Whatever a delivery is answered, it is at one of its stages. -/
theorem always_deliver (hl : d.limiter = some l) (hseconds : ∀ w ∈ l.windows, w.seconds ≠ 0)
    (hdraft : addressee draft = chat) :
    Always (Deed.IsSound addressee) (DeliveryStage l chat draft) [] (d.deliver chat draft) := by
  unfold Dispatcher.deliver
  rw [hl]
  refine ⟨.begun, ?_⟩
  rintro (time : Num) ⟨seconds, htime⟩
  have hread : Counting l chat seconds [] [(⟨.now, time⟩ : Deed δ)] := by
    refine ⟨⟨time, rfl, htime⟩, fun deed hdeed => ?_, fun w hw => absurd hw List.not_mem_nil⟩
    exact List.mem_singleton.mp hdeed ▸ .read time
  have hcheck : l.check chat time =
      if l.windows.isEmpty then .done (.ok none) else l.countAll chat seconds l.windows := by
    rw [Limiter.check, htime]
  simp only [hcheck, List.nil_append]
  split
  next hempty =>
    refine always_finish (hread.mono fun w hw => ?_) hdraft
    rw [List.isEmpty_iff.mp hempty] at hw
    exact hw
  · refine always_countAll ?_ ?_ ?_ hseconds (fun w hw => hw) (fun w hw => Or.inr hw) hread
    · exact fun past passed h => .counting h
    · exact fun past h => always_finish h hdraft
    · intro past passed w n first h hw
      cases first with
      | true => exact ⟨.limited h hw true (Or.inl rfl), fun reply _ => .announced (e := ⟨w, n, true⟩) h hw⟩
      | false => exact .limited h hw false (Or.inr rfl)

/-- Whatever a notice is answered, it is at one of its stages. -/
theorem always_announce (d : Dispatcher δ) (sound : Deed δ → Prop) (chat : Int) (e : LimitExceeded) :
    Always sound (NoticeStage chat) [] (d.announce chat e) := by
  refine ⟨.begun, fun _ _ => ?_⟩
  simp only
  split
  · exact .waited _ (Or.inr rfl)
  next hdry =>
    rw [Dispatcher.hand, if_neg hdry]
    refine ⟨.waited _ (Or.inl rfl), fun verdict _ => ?_⟩
    have hnote : ({ chat, text := Markdown.escape e.notice } : Notification).chat = chat := rfl
    cases verdict with
    | ok u => exact NoticeStage.handed d.noticeDelay hnote _ (Or.inl rfl)
    | error fault => exact NoticeStage.handed d.noticeDelay hnote _ (Or.inr rfl)

end Stages

/-- Whether a deed hands a notification to the chat service. -/
def isSend : Deed δ → Bool
  | ⟨.send _, _⟩ => true
  | _ => false

def isRender : Deed δ → Bool
  | ⟨.render _, _⟩ => true
  | _ => false

/-- Whether a deed claims an announcement, which an attempt does that is over a limit. -/
def isClaim : Deed δ → Bool
  | ⟨.redis (.claim ..), _⟩ => true
  | _ => false

/-- Whether a deed starts a notice to a chat about a window. -/
def announces (chat : Int) (w : Window) : Deed δ → Bool
  | ⟨.announce c e, _⟩ => c = chat && e.window = w
  | _ => false

/-- Whether a deed takes a counter one further, to no more than a limit. -/
def countsWithin (key : String) (limit : Int) : Deed δ → Bool
  | ⟨.redis (.incr k), .ok (n : Int)⟩ => k = key && n ≤ limit
  | _ => false

/-- Whether a deed is the first to claim a key. -/
def claimsFirst (key : String) : Deed δ → Bool
  | ⟨.redis (.claim k _), .ok (first : Bool)⟩ => k = key && first
  | _ => false

/-- The bucket of a window that a time falls into. -/
def bucketAt (w : Window) (time : Option Num) : Option Int :=
  time.bind fun time => (Limiter.wholeSeconds time).toOption.map (·.fdiv w.seconds)

/-- A command that a check of a chat may make. -/
def IsOwn (l : Limiter) (chat : Int) : Redis.Request → Prop
  | .incr key => ∃ t : Slot, t.chat = chat ∧ t.window ∈ l.windows ∧ key = l.slotKey t
  | .expire key _ => ∃ t : Slot, t.chat = chat ∧ t.window ∈ l.windows ∧ key = l.slotKey t
  | .claim key _ => ∃ t : Slot, t.chat = chat ∧ t.window ∈ l.windows ∧ key = noticeKey (l.slotKey t)
  | _ => False

/-- A deed keeps to a chat: its commands are about the chat's counters and announcements, and what it starts or hands
over is for the chat. -/
def Deed.KeepsTo (l : Limiter) (chat : Int) : Deed δ → Prop
  | ⟨.redis command, _⟩ => IsOwn l chat command
  | ⟨.announce c _, _⟩ => c = chat
  | ⟨.send note, _⟩ => note.chat = chat
  | _ => True

section Facts

variable {l : Limiter} {chat seconds : Int} {draft : δ} {past deeds : List (Deed δ)} {passed : List Window}
  {ended : Option Outcome} {t : Slot}

theorem Counting.countP_eq_zero (h : Counting l chat seconds passed past) {p : Deed δ → Bool}
    (hp : ∀ deed, IsCount l chat deed → p deed = false) : past.countP p = 0 :=
  List.countP_eq_zero.mpr fun deed hdeed => by simp [hp deed (h.quiet deed hdeed)]

theorem IsCount.isSend_eq {deed : Deed δ} (h : IsCount l chat deed) : isSend deed = false := by
  cases h <;> rfl

theorem IsCount.announces_eq {c : Int} {w : Window} {deed : Deed δ} (h : IsCount l chat deed) :
    announces c w deed = false := by
  cases h <;> rfl

/-- The slot of an attempt whose time falls into a bucket. -/
theorem Counting.slotAt_eq (h : Counting l chat seconds passed past) {more : List (Deed δ)} (hchat : t.chat = chat)
    (hbucket : bucketAt t.window (timeRead (past ++ more)) = some t.bucket) :
    slotAt chat seconds t.window = t := by
  obtain ⟨time, htime, hseconds⟩ := h.time
  rw [timeRead_append htime, bucketAt, Option.bind_some, hseconds] at hbucket
  obtain ⟨c, w, bucket⟩ := t
  obtain rfl : c = chat := hchat
  exact congrArg (Slot.mk c w) (Option.some.inj hbucket)

/-- An attempt that is handed over was counted in every window, within its limit. -/
theorem DeliveryStage.sends_le (h : DeliveryStage l chat draft deeds ended) (ht : t.window ∈ l.windows)
    (hchat : t.chat = chat) (hbucket : bucketAt t.window (timeRead deeds) = some t.bucket) :
    deeds.countP isSend ≤ deeds.countP (countsWithin (l.slotKey t) t.window.limit) := by
  cases h with
  | begun => exact Nat.le_refl 0
  | counting h => simp [h.countP_eq_zero fun _ => IsCount.isSend_eq]
  | limited h hw first hended => simp [h.countP_eq_zero fun _ => IsCount.isSend_eq, claimed, isSend]
  | announced h hw => simp [h.countP_eq_zero fun _ => IsCount.isSend_eq, claimed, isSend]
  | rendered h rendering hended => simp [h.countP_eq_zero fun _ => IsCount.isSend_eq, isSend]
  | @handed seconds past h note hnote verdict outcome hended =>
      rw [List.append_assoc] at hbucket
      obtain ⟨n, hn, hmem⟩ := h.within t.window ht
      rw [h.slotAt_eq hchat hbucket] at hmem
      have hcounted : 0 < past.countP (countsWithin (l.slotKey t) t.window.limit) :=
        List.countP_pos_iff.mpr ⟨_, hmem, by simp [countsWithin, counted, hn]⟩
      have hrender : ([⟨.render draft, Rendering.ready note⟩] : List (Deed δ)).countP isSend = 0 := rfl
      have hsend : ([⟨.send note, verdict⟩] : List (Deed δ)).countP isSend = 1 := rfl
      simp only [List.countP_append, h.countP_eq_zero fun _ => IsCount.isSend_eq, hrender, hsend]
      omega

/-- An attempt that starts a notice about a window was the first to claim its announcement. -/
theorem DeliveryStage.announces_le (h : DeliveryStage l chat draft deeds ended) (hchat : t.chat = chat)
    (hbucket : bucketAt t.window (timeRead deeds) = some t.bucket) :
    deeds.countP (announces t.chat t.window) ≤ deeds.countP (claimsFirst (noticeKey (l.slotKey t))) := by
  cases h with
  | begun => exact Nat.le_refl 0
  | counting h => simp [h.countP_eq_zero fun _ => IsCount.announces_eq]
  | limited h hw first hended => simp [h.countP_eq_zero fun _ => IsCount.announces_eq, claimed, announces]
  | @announced seconds passed past h e hw =>
      rw [List.append_assoc] at hbucket
      by_cases hwindow : e.window = t.window
      · rw [hwindow, h.slotAt_eq hchat hbucket]
        simp [h.countP_eq_zero fun _ => IsCount.announces_eq, claimed, announces, claimsFirst, hwindow, hchat]
      · simp [h.countP_eq_zero fun _ => IsCount.announces_eq, claimed, announces, hwindow]
  | rendered h rendering hended => simp [h.countP_eq_zero fun _ => IsCount.announces_eq, announces]
  | handed h hnote verdict hended => simp [h.countP_eq_zero fun _ => IsCount.announces_eq, announces]

/-- A delivery that has not read the time has done nothing. -/
theorem DeliveryStage.eq_nil (h : DeliveryStage l chat draft deeds ended) (htime : timeRead deeds = none) :
    deeds = [] := by
  have hread : ∀ {passed : List Window} {past more : List (Deed δ)} {seconds : Int},
      Counting l chat seconds passed past → timeRead (past ++ more) ≠ none := by
    intro passed past more seconds h
    obtain ⟨time, hpast, -⟩ := h.time
    rw [timeRead_append hpast]
    exact Option.some_ne_none time
  cases h with
  | begun => rfl
  | counting h => exact absurd htime (List.append_nil deeds ▸ hread h)
  | limited h hw first hended => exact absurd htime (hread h)
  | announced h hw =>
      rw [List.append_assoc] at htime
      exact absurd htime (hread h)
  | rendered h rendering hended => exact absurd htime (hread h)
  | handed h hnote verdict hended =>
      rw [List.append_assoc] at htime
      exact absurd htime (hread h)

theorem Counting.keepsTo (h : Counting l chat seconds passed past) : ∀ deed ∈ past, deed.KeepsTo l chat := by
  intro deed hdeed
  cases h.quiet deed hdeed with
  | read time => trivial
  | @count t n hchat ht => exact ⟨t, hchat, ht, rfl⟩
  | @keep t hchat ht answer => exact ⟨t, hchat, ht, rfl⟩

/-- A delivery keeps to its chat. -/
theorem DeliveryStage.keepsTo (h : DeliveryStage l chat draft deeds ended) : ∀ deed ∈ deeds, deed.KeepsTo l chat := by
  cases h with
  | begun => exact fun deed hdeed => absurd hdeed List.not_mem_nil
  | counting h => exact h.keepsTo
  | limited h hw first hended =>
      rw [List.forall_mem_append, List.forall_mem_singleton]
      exact ⟨h.keepsTo, _, rfl, hw, rfl⟩
  | announced h hw =>
      rw [List.forall_mem_append, List.forall_mem_append, List.forall_mem_singleton, List.forall_mem_singleton]
      exact ⟨⟨h.keepsTo, _, rfl, hw, rfl⟩, rfl⟩
  | rendered h rendering hended =>
      rw [List.forall_mem_append, List.forall_mem_singleton]
      exact ⟨h.keepsTo, trivial⟩
  | handed h hnote verdict hended =>
      rw [List.forall_mem_append, List.forall_mem_append, List.forall_mem_singleton, List.forall_mem_singleton]
      exact ⟨⟨h.keepsTo, trivial⟩, hnote⟩

/-- An attempt that is over a limit does not render. -/
theorem DeliveryStage.not_render (h : DeliveryStage l chat draft deeds ended)
    (hlimited : ended = some .limited ∨ deeds.any isClaim) : deeds.any isRender = false := by
  have hquiet : ∀ {passed : List Window} {past : List (Deed δ)} {seconds : Int} {p : Deed δ → Bool},
      Counting l chat seconds passed past → (∀ deed, IsCount l chat deed → p deed = false) → past.any p = false := by
    intro passed past seconds p h hp
    rw [List.any_eq_false]
    exact fun deed hdeed => by simp [hp deed (h.quiet deed hdeed)]
  have hrender : ∀ deed : Deed δ, IsCount l chat deed → isRender deed = false := fun deed h => by cases h <;> rfl
  have hclaim : ∀ deed : Deed δ, IsCount l chat deed → isClaim deed = false := fun deed h => by cases h <;> rfl
  cases h with
  | begun => rfl
  | counting h => exact hquiet h hrender
  | limited h hw first hended => simp [hquiet h hrender, claimed, isRender]
  | announced h hw => simp [hquiet h hrender, claimed, isRender]
  | rendered h rendering hended =>
      rcases hlimited with rfl | hany
      · simp at hended
      · simp [hquiet h hclaim, isClaim] at hany
  | handed h hnote verdict hended =>
      rcases hlimited with hlimited | hany
      · obtain rfl := Option.some.inj hlimited
        simp at hended
      · simp [hquiet h hclaim, isClaim] at hany

/-- A delivery ends in one of four ways. -/
theorem DeliveryStage.outcome_mem (h : DeliveryStage l chat draft deeds ended) {outcome : Outcome}
    (hended : ended = some outcome) : outcome ∈ [.sent, .limited, .skipped, .failed] := by
  subst hended
  cases h with
  | limited h hw first hended =>
      obtain rfl : outcome = .limited := Option.some.inj (hended.resolve_left nofun)
      decide
  | announced h hw => decide
  | rendered h rendering hended =>
      simp only [List.mem_cons, reduceCtorEq, Option.some.injEq, List.not_mem_nil, false_or, or_false] at hended ⊢
      tauto
  | handed h hnote verdict hended =>
      rcases hended with rfl | rfl <;> decide

theorem NoticeStage.sends_le (h : NoticeStage chat deeds ended) : deeds.countP isSend ≤ 1 := by
  cases h with
  | begun => exact Nat.zero_le 1
  | waited delay hended => exact Nat.zero_le 1
  | handed delay hnote verdict hended => exact Nat.le_refl 1

theorem NoticeStage.announces_eq (h : NoticeStage chat deeds ended) (c : Int) (w : Window) :
    deeds.countP (announces c w) = 0 := by
  cases h <;> rfl

theorem NoticeStage.not_render (h : NoticeStage chat deeds ended) : deeds.any isRender = false := by
  cases h <;> rfl

theorem NoticeStage.keepsTo (h : NoticeStage chat deeds ended) : ∀ deed ∈ deeds, deed.KeepsTo l chat := by
  cases h with
  | begun => exact fun deed hdeed => absurd hdeed List.not_mem_nil
  | waited delay hended => exact List.forall_mem_singleton.mpr trivial
  | handed delay hnote verdict hended =>
      exact List.forall_mem_cons.mpr ⟨trivial, List.forall_mem_singleton.mpr hnote⟩

theorem NoticeStage.outcome_mem (h : NoticeStage chat deeds ended) {outcome : Outcome}
    (hended : ended = some outcome) : outcome ∈ [.noticeSent, .noticeLost] := by
  subst hended
  cases h with
  | waited delay hended =>
      obtain rfl : outcome = .noticeLost := Option.some.inj (hended.resolve_left nofun)
      decide
  | handed delay hnote verdict hended => rcases hended with rfl | rfl <;> decide

end Facts

end ChainAlerts.Dispatch
