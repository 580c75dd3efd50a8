import Mathlib.Data.List.Nodup
import ChainAlerts.RateLimit
import ChainAlerts.Proofs.IntegerText

/-! The keys of a limiter. The parts of a key are numbers and the name of a window, none of which has a colon
in it, so a key tells the chat, the window and the bucket it counts for, and the key of an announcement is
never the key of a counter. A command on one of these keys therefore acts on one counter or one announcement
and leaves all others as they are. -/

namespace ChainAlerts

namespace Redis.State

variable {s : State} {key k : String}

@[simp] theorem cell?_put_self (s : State) (key : String) (cell : Cell) :
    (s.put key cell).cell? key = some cell :=
  Assoc.get?_put_self key cell s.cells

theorem cell?_put_of_ne (h : k ≠ key) (cell : Cell) : (s.put key cell).cell? k = s.cell? k :=
  Assoc.get?_put_of_ne h cell s.cells

theorem count_eq_of_cell? {s' : State} (h : s'.cell? k = s.cell? k) : s'.count k = s.count k := by
  rw [count, count, h]

theorem count_incr_self (s : State) (key : String) : (s.perform (.incr key)).2.count key = s.count key + 1 := by
  simp only [perform, count, cell?_put_self]

theorem cell?_incr_of_ne (h : k ≠ key) : (s.perform (.incr key)).2.cell? k = s.cell? k := cell?_put_of_ne h _

theorem cell?_expire_of_ne (h : k ≠ key) (seconds : Int) :
    (s.perform (.expire key seconds)).2.cell? k = s.cell? k := by
  simp only [perform]
  split
  · exact cell?_put_of_ne h _
  · rfl

/-- An expiry changes no count, and neither adds nor removes a key. -/
theorem count_expire (s : State) (key k : String) (seconds : Int) :
    (s.perform (.expire key seconds)).2.count k = s.count k := by
  by_cases h : k = key
  · subst h
    simp only [perform]
    split
    next cell hcell =>
      obtain ⟨value, expiry⟩ := cell
      simp only [count, cell?_put_self, hcell]
      cases value <;> rfl
    · rfl
  · exact count_eq_of_cell? (cell?_expire_of_ne h seconds)

theorem isSome_cell?_expire (s : State) (key k : String) (seconds : Int) :
    ((s.perform (.expire key seconds)).2.cell? k).isSome = (s.cell? k).isSome := by
  by_cases h : k = key
  · subst h
    simp only [perform]
    split
    next cell hcell => simp [hcell]
    · rfl
  · rw [cell?_expire_of_ne h]

theorem perform_claim (s : State) (key : String) (expiry : Int) :
    (s.perform (.claim key expiry)).1 = !(s.cell? key).isSome := by
  simp only [perform]
  cases s.cell? key <;> rfl

theorem isSome_cell?_claim_self (s : State) (key : String) (expiry : Int) :
    ((s.perform (.claim key expiry)).2.cell? key).isSome := by
  cases h : s.cell? key <;> simp [perform, h]

theorem cell?_claim_of_ne (h : k ≠ key) (expiry : Int) :
    (s.perform (.claim key expiry)).2.cell? k = s.cell? k := by
  simp only [perform]
  split
  · rfl
  · exact cell?_put_of_ne h _

end Redis.State

namespace Limiter

/-- What one counter is for: the attempts to notify a chat that fall into one bucket of a window. -/
structure Slot where
  chat : Int
  window : Window
  bucket : Int
  deriving DecidableEq, Repr

/-- Windows that have a length, and whose names differ and have no colon in them. -/
structure WellMade (l : Limiter) : Prop where
  positive : ∀ w ∈ l.windows, 0 < w.seconds
  names : (l.windows.map (·.name)).Nodup
  plain : ∀ w ∈ l.windows, ':' ∉ w.name.toList

def slotKey (l : Limiter) (t : Slot) : String := l.key t.chat t.window t.bucket

/-- The number that a slot's counter has reached. -/
def tally (l : Limiter) (redis : Redis.State) (t : Slot) : Int := redis.count (l.slotKey t)

/-- Whether the announcement of a slot has been claimed. -/
def announced (l : Limiter) (redis : Redis.State) (t : Slot) : Bool :=
  (redis.cell? (noticeKey (l.slotKey t))).isSome

variable {l : Limiter} {t u : Slot}

theorem append_cons_inj {a : Char} {front front' back back' : List Char} (h : a ∉ front) (h' : a ∉ front')
    (heq : front ++ a :: back = front' ++ a :: back') : front = front' ∧ back = back' := by
  induction front generalizing front' with
  | nil =>
      cases front' with
      | nil => exact ⟨rfl, (List.cons.inj heq).2⟩
      | cons c rest => exact absurd ((List.cons.inj heq).1 ▸ List.mem_cons_self) h'
  | cons c rest ih =>
      cases front' with
      | nil => exact absurd ((List.cons.inj heq).1 ▸ List.mem_cons_self) h
      | cons d rest' =>
          obtain ⟨rfl, hrest⟩ := List.cons.inj heq
          obtain ⟨rfl, hback⟩ := ih (fun hmem => h (List.mem_cons_of_mem c hmem))
            (fun hmem => h' (List.mem_cons_of_mem c hmem)) hrest
          exact ⟨rfl, hback⟩

theorem colon_not_mem_intText (n : Int) : ':' ∉ (Text.intText n).toList := by
  intro h
  rcases Text.mem_intText h with h | h <;> exact absurd h (by decide)

/-- The part of a key behind the mark and the bot. -/
theorem toList_slotKey (l : Limiter) (t : Slot) :
    (l.slotKey t).toList = (l.mark ++ Text.intText l.bot ++ ":").toList ++ ((Text.intText t.chat).toList ++
      ':' :: (t.window.name.toList ++ ':' :: (Text.intText t.bucket).toList)) := by
  simp [slotKey, key, List.append_assoc]

theorem toList_noticeKey (l : Limiter) (t : Slot) :
    (noticeKey (l.slotKey t)).toList = (l.mark ++ Text.intText l.bot ++ ":").toList ++
      ((Text.intText t.chat).toList ++
      ':' :: (t.window.name.toList ++ ':' :: ((Text.intText t.bucket).toList ++ ":notice".toList))) := by
  simp [noticeKey, toList_slotKey, List.append_assoc]

theorem WellMade.window_eq (hl : l.WellMade) {v w : Window} (hv : v ∈ l.windows) (hw : w ∈ l.windows)
    (h : v.name.toList = w.name.toList) : v = w :=
  List.inj_on_of_nodup_map hl.names hv hw (String.toList_inj.mp h)

theorem WellMade.slotKey_inj (hl : l.WellMade) (ht : t.window ∈ l.windows) (hu : u.window ∈ l.windows) :
    l.slotKey t = l.slotKey u ↔ t = u := by
  refine ⟨fun h => ?_, fun h => h ▸ rfl⟩
  have hchars := congrArg String.toList h
  rw [toList_slotKey, toList_slotKey] at hchars
  obtain ⟨hchat, hrest⟩ := append_cons_inj (colon_not_mem_intText _) (colon_not_mem_intText _)
    (List.append_cancel_left hchars)
  obtain ⟨hname, hbucket⟩ := append_cons_inj (hl.plain _ ht) (hl.plain _ hu) hrest
  obtain ⟨chat, window, bucket⟩ := t
  obtain ⟨chat', window', bucket'⟩ := u
  obtain rfl : chat = chat' := Text.intText_injective (String.toList_inj.mp hchat)
  obtain rfl : window = window' := hl.window_eq ht hu hname
  obtain rfl : bucket = bucket' := Text.intText_injective (String.toList_inj.mp hbucket)
  rfl

theorem noticeKey_injective {c c' : String} (h : noticeKey c = noticeKey c') : c = c' := by
  have hchars := congrArg String.toList h
  simp only [noticeKey, String.toList_append] at hchars
  exact String.toList_inj.mp (List.append_cancel_right hchars)

/-- No counter has the key of an announcement: what stands behind its last colon would be a number. -/
theorem WellMade.slotKey_ne_noticeKey (hl : l.WellMade) (ht : t.window ∈ l.windows)
    (hu : u.window ∈ l.windows) :
    l.slotKey t ≠ noticeKey (l.slotKey u) := by
  intro h
  have hchars := congrArg String.toList h
  rw [toList_slotKey, toList_noticeKey] at hchars
  obtain ⟨-, hrest⟩ := append_cons_inj (colon_not_mem_intText _) (colon_not_mem_intText _)
    (List.append_cancel_left hchars)
  obtain ⟨-, hbucket⟩ := append_cons_inj (hl.plain _ ht) (hl.plain _ hu) hrest
  have hcolon : ':' ∈ (Text.intText t.bucket).toList := by
    rw [hbucket]
    exact List.mem_append_right _ (by decide)
  exact colon_not_mem_intText _ hcolon

section Commands

variable (hl : l.WellMade) (redis : Redis.State) (ht : t.window ∈ l.windows) (hu : u.window ∈ l.windows)
include hl ht hu

theorem WellMade.tally_incr : l.tally (redis.perform (.incr (l.slotKey u))).2 t =
    l.tally redis t + if t = u then 1 else 0 := by
  by_cases h : t = u
  · subst h
    rw [if_pos rfl]
    exact Redis.State.count_incr_self _ _
  · rw [if_neg h, Int.add_zero]
    refine Redis.State.count_eq_of_cell? (Redis.State.cell?_incr_of_ne ?_)
    exact mt (hl.slotKey_inj ht hu).mp h

theorem WellMade.announced_incr :
    l.announced (redis.perform (.incr (l.slotKey u))).2 t = l.announced redis t := by
  rw [announced, Redis.State.cell?_incr_of_ne (hl.slotKey_ne_noticeKey hu ht).symm]
  rfl

theorem WellMade.tally_claim (seconds : Int) :
    l.tally (redis.perform (.claim (noticeKey (l.slotKey u)) seconds)).2 t = l.tally redis t :=
  Redis.State.count_eq_of_cell? (Redis.State.cell?_claim_of_ne (hl.slotKey_ne_noticeKey ht hu) seconds)

theorem WellMade.announced_claim (seconds : Int) :
    l.announced (redis.perform (.claim (noticeKey (l.slotKey u)) seconds)).2 t =
      (l.announced redis t || decide (t = u)) := by
  by_cases h : t = u
  · subst h
    simp [announced, Redis.State.isSome_cell?_claim_self]
  · have hkey : noticeKey (l.slotKey t) ≠ noticeKey (l.slotKey u) := by
      intro heq
      exact h ((hl.slotKey_inj ht hu).mp (noticeKey_injective heq))
    rw [announced, Redis.State.cell?_claim_of_ne hkey, decide_eq_false h, Bool.or_false]
    rfl

end Commands

end Limiter

end ChainAlerts
