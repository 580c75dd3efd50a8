import ChainAlerts.Proofs.LimiterRuns
import ChainAlerts.Proofs.TasksSideBySide

/-! Several limiters on one shared store. Every key that a check uses starts with the mark, the bot and the chat, so
the checks of one bot and one chat use other keys than all other checks, and a command is answered from its own key
alone. However the commands of many checks interleave, those of one bot and one chat end as if no others were made. -/

namespace ChainAlerts

namespace Redis

/-- The key that a command is about. -/
def Request.key : Request → String
  | .get key | .set key _ _ | .claim key _ | .incr key | .expire key _ => key

/-- Two stores in which the same commands fail and the keys of a kind hold the same. -/
structure AgreeOn (keys : String → Prop) (s s' : State) : Prop where
  failing : s.failing = s'.failing
  cells : ∀ k, keys k → s.cell? k = s'.cell? k

namespace State

variable {s s' : State} {k : String} {keys : String → Prop}

theorem cell?_perform_of_ne (r : Request) (h : k ≠ r.key) : (s.perform r).2.cell? k = s.cell? k := by
  cases r with
  | get key => rfl
  | set key text expiry => exact cell?_put_of_ne h _
  | claim key expiry => exact cell?_claim_of_ne h expiry
  | incr key => exact cell?_incr_of_ne h
  | expire key seconds => exact cell?_expire_of_ne h seconds

/-- What a command does is read off its key. -/
theorem perform_congr (r : Request) (h : s.cell? r.key = s'.cell? r.key) :
    (s.perform r).1 = (s'.perform r).1 ∧ (s.perform r).2.cell? r.key = (s'.perform r).2.cell? r.key := by
  cases r with
  | get key =>
      simp only [Request.key] at h
      simp only [perform, Request.key, h, and_self]
  | set key text expiry => exact ⟨rfl, by simp only [perform, Request.key, cell?_put_self]⟩
  | claim key expiry =>
      simp only [Request.key] at h
      simp only [perform, Request.key, h]
      cases hcell : s'.cell? key with
      | none => exact ⟨rfl, by simp only [cell?_put_self]⟩
      | some cell => exact ⟨rfl, h⟩
  | incr key =>
      simp only [Request.key] at h
      have hcount : s.count key = s'.count key := count_eq_of_cell? h
      exact ⟨congrArg (· + 1) hcount, by simp only [perform, Request.key, cell?_put_self, hcount, h]⟩
  | expire key seconds =>
      simp only [Request.key] at h
      simp only [perform, Request.key, h]
      cases hcell : s'.cell? key with
      | none => exact ⟨trivial, h⟩
      | some cell => exact ⟨trivial, by simp only [cell?_put_self]⟩

theorem failing_answer (r : Request) (s : State) : (answer r s).2.failing = s.failing := by
  unfold answer
  split
  · rfl
  · exact Limiter.failing_perform r s

theorem cell?_answer_of_ne (r : Request) (h : k ≠ r.key) : (answer r s).2.cell? k = s.cell? k := by
  unfold answer
  split
  · rfl
  · exact cell?_perform_of_ne r h

/-- Commands on some keys are answered alike by stores that agree on them, and keep the agreement. -/
theorem seenBy_answer (keys : String → Prop) : Task.SeenBy answer (fun r => keys r.key) (AgreeOn keys) where
  reply_eq := by
    intro r s s' hr h
    unfold answer
    rw [h.failing]
    split
    · rfl
    · exact congrArg Except.ok (perform_congr r (h.cells _ hr)).1
  after := by
    intro r s s' hr h
    refine ⟨?_, fun k hk => ?_⟩
    · rw [failing_answer, failing_answer]
      exact h.failing
    · by_cases hkey : k = r.key
      · subst hkey
        unfold answer
        rw [h.failing]
        split
        · exact h.cells _ hk
        · exact (perform_congr r (h.cells _ hk)).2
      · rw [cell?_answer_of_ne r hkey, cell?_answer_of_ne r hkey]
        exact h.cells k hk

theorem unseen_answer (keys : String → Prop) : Task.Unseen answer (fun r => ¬ keys r.key) (AgreeOn keys) := by
  intro r s s' hr h
  refine ⟨(failing_answer r s).trans h.failing, fun k hk => ?_⟩
  have hne : k ≠ r.key := fun heq => hr (heq ▸ hk)
  exact (cell?_answer_of_ne r hne).trans (h.cells k hk)

end State

end Redis

namespace Limiter

/-- The keys of one bot and one chat, under a mark. -/
def OwnKey (mark : String) (pair : Int × Int) (key : String) : Prop :=
  ∃ rest, key.toList = mark.toList ++ ((Text.intText pair.1).toList ++
    ':' :: ((Text.intText pair.2).toList ++ ':' :: rest))

/-- A key belongs to one bot and one chat only. -/
theorem OwnKey.pair_eq {mark key : String} {pair pair' : Int × Int} (h : OwnKey mark pair key)
    (h' : OwnKey mark pair' key) : pair = pair' := by
  obtain ⟨rest, hkey⟩ := h
  obtain ⟨rest', hkey'⟩ := h'
  obtain ⟨hbot, htail⟩ := append_cons_inj (colon_not_mem_intText _) (colon_not_mem_intText _)
    (List.append_cancel_left (hkey.symm.trans hkey'))
  obtain ⟨hchat, -⟩ := append_cons_inj (colon_not_mem_intText _) (colon_not_mem_intText _) htail
  exact Prod.ext (Text.intText_injective (String.toList_inj.mp hbot))
    (Text.intText_injective (String.toList_inj.mp hchat))

/-- The parts of a counter's key, of which all but the mark have no colon in them. -/
theorem toList_slotKey_parts (l : Limiter) (t : Slot) :
    (l.slotKey t).toList = l.mark.toList ++ ((Text.intText l.bot).toList ++ ':' :: ((Text.intText t.chat).toList ++
      ':' :: (t.window.name.toList ++ ':' :: (Text.intText t.bucket).toList))) := by
  simp [toList_slotKey, List.append_assoc]

theorem toList_noticeKey_parts (l : Limiter) (t : Slot) :
    (noticeKey (l.slotKey t)).toList = l.mark.toList ++ ((Text.intText l.bot).toList ++
      ':' :: ((Text.intText t.chat).toList ++ ':' :: (t.window.name.toList ++
        ':' :: ((Text.intText t.bucket).toList ++ ":notice".toList)))) := by
  simp [toList_noticeKey, List.append_assoc]

theorem ownKey_slotKey (l : Limiter) (t : Slot) : OwnKey l.mark (l.bot, t.chat) (l.slotKey t) :=
  ⟨_, toList_slotKey_parts l t⟩

theorem ownKey_noticeKey (l : Limiter) (t : Slot) : OwnKey l.mark (l.bot, t.chat) (noticeKey (l.slotKey t)) :=
  ⟨_, toList_noticeKey_parts l t⟩

/-- No counter has the key of an announcement, be it of another limiter: what stands behind the last colon of a
counter's key is a number. -/
theorem slotKey_ne_noticeKey {l l' : Limiter} (hmark : l.mark = l'.mark) {t u : Slot}
    (ht : ':' ∉ t.window.name.toList) (hu : ':' ∉ u.window.name.toList) :
    l.slotKey t ≠ noticeKey (l'.slotKey u) := by
  intro h
  have hchars := congrArg String.toList h
  rw [toList_slotKey_parts, toList_noticeKey_parts, hmark] at hchars
  obtain ⟨-, hbot⟩ := append_cons_inj (colon_not_mem_intText _) (colon_not_mem_intText _)
    (List.append_cancel_left hchars)
  obtain ⟨-, hchat⟩ := append_cons_inj (colon_not_mem_intText _) (colon_not_mem_intText _) hbot
  obtain ⟨-, hbucket⟩ := append_cons_inj ht hu hchat
  have hcolon : ':' ∈ (Text.intText t.bucket).toList := by
    rw [hbucket]
    exact List.mem_append_right _ (by decide)
  exact colon_not_mem_intText _ hcolon

variable {l : Limiter} {chat : Int}

theorem asks_attempt {α : Type} {P : Redis.Request → Prop} {r : Redis.Request} (hr : P r)
    {next : r.Result → Counting (Except LimitFailure α)} (hnext : ∀ result, (next result).Asks P) :
    (attempt chat r next).Asks P := by
  refine ⟨hr, fun answer => ?_⟩
  cases answer with
  | ok result => exact hnext result
  | error cause => trivial

theorem asks_countIn {P : Redis.Request → Prop} {w : Window} {counter : String}
    (hkeys : ∀ r : Redis.Request, r.key = counter ∨ r.key = noticeKey counter → P r)
    {next : Counting (Except LimitFailure (Option LimitExceeded))} (hnext : next.Asks P) :
    (countIn chat w counter next).Asks P := by
  refine asks_attempt (hkeys _ (Or.inl rfl)) fun count => ?_
  have hjudge : (if w.limit < count then
      attempt chat (.claim (noticeKey counter) w.seconds) fun (claimed : Bool) =>
        .done (.ok (some ⟨w, count, claimed⟩))
    else next).Asks P := by
    split
    · exact asks_attempt (hkeys _ (Or.inr rfl)) fun _ => trivial
    · exact hnext
  simp only
  split
  · exact asks_attempt (hkeys _ (Or.inl rfl)) fun _ => hjudge
  · exact hjudge

/-- A check uses the keys of its bot and its chat only. -/
theorem asks_check (l : Limiter) (chat : Int) (now : Num) :
    (l.check chat now).Asks fun r => OwnKey l.mark (l.bot, chat) r.key := by
  have hall : ∀ (seconds : Int) (ws : List Window),
      (l.countAll chat seconds ws).Asks fun r => OwnKey l.mark (l.bot, chat) r.key := by
    intro seconds ws
    induction ws with
    | nil => trivial
    | cons w rest ih =>
        rw [countAll]
        split
        · trivial
        · rw [← slotKey_slotAt]
          refine asks_countIn (fun r hr => ?_) ih
          rcases hr with hr | hr
          · exact hr ▸ ownKey_slotKey l (slotAt chat seconds w)
          · exact hr ▸ ownKey_noticeKey l (slotAt chat seconds w)
  unfold check
  split
  · trivial
  · split
    next seconds hnow => exact hall seconds l.windows
    · trivial

/-- A check to be made by one of several limiters. -/
structure Inquiry where
  limiter : Limiter
  chat : Int
  now : Num

namespace Inquiry

/-- The bot and the chat whose quota a check is about. -/
def pair (q : Inquiry) : Int × Int := (q.limiter.bot, q.chat)

def task (q : Inquiry) : Counting Verdict := q.limiter.check q.chat q.now

/-- Checks that begin side by side on a shared store. -/
def begin (redis : Redis.State) (inquiries : List Inquiry) :
    Tasks Redis.Request Redis.Request.Reply Verdict Redis.State :=
  ⟨redis, inquiries.map task⟩

/-- Whether the check at a place is about the quota of a pair. -/
def isOf (inquiries : List Inquiry) (pair : Int × Int) (i : Nat) : Bool := (inquiries[i]?.map Inquiry.pair) = some pair

/-- Checks that are made one after the other, and how each of them ends. -/
def answered : List Inquiry → Redis.State → List (Inquiry × Verdict)
  | [], _ => []
  | q :: rest, redis =>
    let (verdict, redis) := q.limiter.checkAlone q.chat q.now redis
    (q, verdict) :: answered rest redis

variable {mark : String} {inquiries : List Inquiry} {redis redis' : Redis.State} {pair : Int × Int}

theorem asks_task {q : Inquiry} (h : q.limiter.mark = mark) : q.task.Asks fun r => OwnKey mark q.pair r.key :=
  h ▸ asks_check q.limiter q.chat q.now

theorem asks_task_of_ne {q : Inquiry} (h : q.limiter.mark = mark) (hpair : q.pair ≠ pair) :
    q.task.Asks fun r => ¬ OwnKey mark pair r.key := by
  refine (asks_task h).mono fun r hown => ?_
  intro hother
  exact hpair (hown.pair_eq hother)

theorem alike_begin (hmark : ∀ q ∈ inquiries, q.limiter.mark = mark) (redis : Redis.State) (pair : Int × Int) :
    Tasks.Alike (isOf inquiries pair) (fun r => OwnKey mark pair r.key) (fun r => ¬ OwnKey mark pair r.key)
      (Redis.AgreeOn (OwnKey mark pair)) (begin redis inquiries) (begin redis inquiries) := by
  have htask : ∀ (i : Nat) t, (begin redis inquiries).tasks[i]? = some t →
      ∃ q : Inquiry, inquiries[i]? = some q ∧ q.task = t := by
    intro i t ht
    rw [begin, List.getElem?_map] at ht
    exact Option.map_eq_some_iff.mp ht
  refine ⟨⟨rfl, fun _ _ => rfl⟩, fun _ _ => rfl, fun i t hi ht => ?_, fun i t hi ht => ?_⟩
  · obtain ⟨q, hq, rfl⟩ := htask i t ht
    have hpair : q.pair = pair := by simpa [isOf, hq] using hi
    exact hpair ▸ asks_task (hmark q (List.mem_of_getElem? hq))
  · obtain ⟨q, hq, rfl⟩ := htask i t ht
    have hpair : q.pair ≠ pair := by simpa [isOf, hq] using hi
    exact asks_task_of_ne (hmark q (List.mem_of_getElem? hq)) hpair

/-- Checks made one after the other: those of one pair end as if they were the only ones. -/
theorem answered_filter (hmark : ∀ q ∈ inquiries, q.limiter.mark = mark)
    (hsame : Redis.AgreeOn (OwnKey mark pair) redis redis') :
    (answered inquiries redis).filter (·.1.pair = pair) = answered (inquiries.filter (·.pair = pair)) redis' := by
  induction inquiries generalizing redis redis' with
  | nil => rfl
  | cons q rest ih =>
      obtain ⟨hq, hrest⟩ := List.forall_mem_cons.mp hmark
      by_cases hpair : q.pair = pair
      · obtain ⟨hverdict, hafter⟩ := (Redis.State.seenBy_answer (OwnKey mark pair)).run hsame (hpair ▸ asks_task hq)
        have hrest' := ih hrest hafter
        rw [List.filter_cons_of_pos (by simpa using hpair), answered, answered,
          List.filter_cons_of_pos (by simpa using hpair)]
        exact congrArg₂ List.cons (congrArg (Prod.mk q) hverdict) hrest'
      · have hafter := (Redis.State.unseen_answer (OwnKey mark pair)).run hsame (asks_task_of_ne hq hpair)
        rw [List.filter_cons_of_neg (by simpa using hpair), answered,
          List.filter_cons_of_neg (by simpa using hpair)]
        exact ih hrest hafter

end Inquiry

open Inquiry in
/-- Quotas of different bots and chats never mix. However the commands of checks by any limiters with one mark
interleave, and also if the checks are made one after the other, the checks of one bot and one chat end as they end
if no others are made. No counter has the key of an announcement. -/
theorem quotas_apart (mark : String) (inquiries : List Inquiry) (hmark : ∀ q ∈ inquiries, q.limiter.mark = mark)
    (hplain : ∀ q ∈ inquiries, ∀ w ∈ q.limiter.windows, ':' ∉ w.name.toList) (redis : Redis.State)
    (pair : Int × Int) :
    (∀ schedule i, isOf inquiries pair i →
      ((begin redis inquiries).run Redis.State.answer schedule).result? i =
        ((begin redis inquiries).run Redis.State.answer (schedule.filter (isOf inquiries pair))).result? i) ∧
    (answered inquiries redis).filter (·.1.pair = pair) = answered (inquiries.filter (·.pair = pair)) redis ∧
    ∀ p ∈ inquiries, ∀ v ∈ p.limiter.windows, ∀ q ∈ inquiries, ∀ w ∈ q.limiter.windows, ∀ chat chat' bucket bucket',
      p.limiter.key chat v bucket ≠ noticeKey (q.limiter.key chat' w bucket') := by
  refine ⟨fun schedule i hi => ?_, answered_filter hmark ⟨rfl, fun _ _ => rfl⟩, ?_⟩
  · have halike := (alike_begin hmark redis pair).run (Redis.State.seenBy_answer _) (Redis.State.unseen_answer _)
      schedule
    exact Tasks.result?_congr (halike.same i hi)
  · intro p hp v hv q hq w hw chat chat' bucket bucket'
    have hsame : p.limiter.mark = q.limiter.mark := (hmark p hp).trans (hmark q hq).symm
    exact slotKey_ne_noticeKey hsame (t := ⟨chat, v, bucket⟩) (u := ⟨chat', w, bucket'⟩) (hplain p hp v hv)
      (hplain q hq w hw)

/-- Bot 7 checks a chat twice and another one once, and bot 8 checks the first chat once. -/
def mingled : List Inquiry :=
  let windows : List Window := [⟨"5m", 300, 1⟩]
  [⟨⟨7, windows, "limit:"⟩, -5, .int 1000⟩, ⟨⟨8, windows, "limit:"⟩, -5, .int 1000⟩,
    ⟨⟨7, windows, "limit:"⟩, 5, .int 1000⟩, ⟨⟨7, windows, "limit:"⟩, -5, .int 1001⟩]

theorem quotas_apart_mingled :
    let together := (Inquiry.begin {} mingled).run Redis.State.answer [0, 1, 1, 3, 2, 0, 3, 2]
    let alone := (Inquiry.begin {} mingled).run Redis.State.answer [0, 3, 0, 3]
    together.result? 3 = alone.result? 3 ∧ (alone.result? 3).map rejecting = some (some ⟨"5m", 300, 1⟩) ∧
      (together.result? 1).map rejecting = some none := by
  obtain ⟨hschedule, -, -⟩ := quotas_apart "limit:" mingled (by decide) (by decide) {} (7, -5)
  exact ⟨hschedule [0, 1, 1, 3, 2, 0, 3, 2] 3 (by decide), by decide +kernel, by decide +kernel⟩

end Limiter

end ChainAlerts
