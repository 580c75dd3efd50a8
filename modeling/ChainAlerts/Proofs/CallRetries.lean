import ChainAlerts.Proofs.DoubledDelays
import ChainAlerts.Proofs.ViewCache

/-! How often a call is tried. After a failure on the way, which a bad status and a time-out are as well, the call waits
and asks again, unless that was the last attempt; any other answer ends it at once. So the number of requests, the waits
between them and the outcome are told by the first answer that is no such failure. They are shown on a trace of what the
call does, for any answers to come, and a call to a node does the same. -/

namespace ChainAlerts

namespace WebResponse

/-- Whether an answer is a failure on the way, after which a call may be tried again. -/
def isTransient : WebResponse → Bool
  | .failed _ | .timedOut _ => true
  | _ => false

/-- What a failure on the way says. -/
def complaint? : WebResponse → Option String
  | .failed cause | .timedOut cause => some cause
  | _ => none

end WebResponse

namespace ViewCall

/-- What a call does on its way: it asks, or waits before it asks again. -/
inductive Act where
  | request
  | sleep (delay : Num)
  deriving DecidableEq

/-- How often was asked. -/
def requests (acts : List Act) : Nat := acts.count .request

/-- How long was waited. -/
def sleeps (acts : List Act) : List Num :=
  acts.filterMap fun
    | .request => none
    | .sleep delay => some delay

/-- Asks for the next answer of a script. -/
def askScript (script : Nat → WebResponse) (acts : List Act) : WebResponse × List Act :=
  (script (requests acts), acts ++ [.request])

def sleepFor (delay : Num) (acts : List Act) : List Act := acts ++ [.sleep delay]

/-- A number of requests with a wait between any two, which is twice as long each time. -/
def tries (delay : Num) : Nat → List Act
  | 0 => []
  | 1 => [.request]
  | m + 2 => .request :: .sleep delay :: tries delay.twice (m + 1)

@[simp] theorem requests_append (acts acts' : List Act) : requests (acts ++ acts') = requests acts + requests acts' :=
  List.count_append

@[simp] theorem sleeps_append (acts acts' : List Act) : sleeps (acts ++ acts') = sleeps acts ++ sleeps acts' :=
  List.filterMap_append

theorem requests_tries (delay : Num) (m : Nat) : requests (tries delay m) = m := by
  induction delay, m using tries.induct with
  | case1 delay => rfl
  | case2 delay => rfl
  | case3 delay m ih =>
      calc requests (tries delay (m + 2)) = requests (tries delay.twice (m + 1)) + 1 := List.count_cons_self
        _ = m + 2 := by rw [ih]

/-- The waits start with the first delay, and each is twice the one before. -/
theorem sleeps_tries (delay : Num) (m : Nat) :
    sleeps (tries delay m) = (List.range (m - 1)).map fun k => Num.twice^[k] delay := by
  induction delay, m using tries.induct with
  | case1 delay => rfl
  | case2 delay => rfl
  | case3 delay m ih =>
      have hshift : ((List.range m).map fun k => Num.twice^[k] delay.twice) =
          ((List.range m).map Nat.succ).map fun k => Num.twice^[k] delay := by
        rw [List.map_map]
        rfl
      calc sleeps (tries delay (m + 2)) = delay :: sleeps (tries delay.twice (m + 1)) := rfl
        _ = (List.range (m + 1)).map fun k => Num.twice^[k] delay := by
          rw [ih, Nat.add_sub_cancel, hshift, List.range_succ_eq_map, List.map_cons]
          rfl

theorem getLast?_tries (delay : Num) (m : Nat) (wait : Num) : (tries delay m).getLast? ≠ some (.sleep wait) := by
  induction delay, m using tries.induct with
  | case1 delay => exact nofun
  | case2 delay => exact nofun
  | case3 delay m ih =>
      have hne : tries delay.twice (m + 1) ≠ [] := by
        intro hnil
        have hcount := requests_tries delay.twice (m + 1)
        rw [hnil] at hcount
        cases hcount
      rwa [tries, List.getLast?_cons_cons, List.getLast?_cons_of_ne_nil hne]

section Script

variable {script : Nat → WebResponse} {delay : Num} {last : Option String} {acts : List Act} {n : Nat}

/-- One attempt: an answer that is no failure on the way ends the call. -/
theorem retry_of_not_transient (h : ¬(script (requests acts)).isTransient) :
    retry (askScript script) sleepFor (n + 1) delay last acts =
      (settled (script (requests acts)) none 1, acts ++ [.request]) := by
  rw [retry, askScript]
  cases hresponse : script (requests acts) with
  | failed cause => exact absurd (by rw [hresponse]; rfl) h
  | timedOut cause => exact absurd (by rw [hresponse]; rfl) h
  | crashed cause => rfl
  | text body => rfl
  | value body => rfl

/-- One attempt: a failure on the way ends the call if it was the last attempt. -/
theorem retry_of_transient (h : (script (requests acts)).isTransient) :
    retry (askScript script) sleepFor (n + 1) delay last acts =
      if n = 0 then (.error (.call (.exhausted (script (requests acts)).complaint?)), acts ++ [.request])
      else retry (askScript script) sleepFor n delay.twice (script (requests acts)).complaint?
        (acts ++ [.request, .sleep delay]) := by
  have hacts : sleepFor delay (acts ++ [.request]) = acts ++ [.request, .sleep delay] := List.append_assoc _ _ _
  rw [retry, askScript]
  cases hresponse : script (requests acts) with
  | failed cause => simp only [hacts, WebResponse.complaint?]
  | timedOut cause => simp only [hacts, WebResponse.complaint?]
  | crashed cause => exact absurd h (by rw [hresponse]; exact Bool.false_ne_true)
  | text body => exact absurd h (by rw [hresponse]; exact Bool.false_ne_true)
  | value body => exact absurd h (by rw [hresponse]; exact Bool.false_ne_true)

/-- The first answer that is no failure on the way ends the call, if it is asked for. -/
theorem retry_settles {i : Nat} (hi : i < n) (hbefore : ∀ j < i, (script (requests acts + j)).isTransient)
    (hthere : ¬(script (requests acts + i)).isTransient) :
    retry (askScript script) sleepFor n delay last acts =
      (settled (script (requests acts + i)) none 1, acts ++ tries delay (i + 1)) := by
  induction i generalizing n delay last acts with
  | zero =>
      obtain ⟨left, rfl⟩ := Nat.exists_eq_add_one_of_ne_zero (Nat.ne_of_gt hi)
      exact retry_of_not_transient hthere
  | succ i ih =>
      obtain ⟨left, rfl⟩ := Nat.exists_eq_add_one_of_ne_zero (Nat.ne_of_gt (Nat.zero_lt_of_lt hi))
      have hasked : ∀ j, requests (acts ++ [.request, .sleep delay]) + j = requests acts + (j + 1) := fun j => by
        rw [requests_append, Nat.add_assoc, Nat.add_comm j 1]
        rfl
      rw [retry_of_transient (hbefore 0 (Nat.succ_pos i)), if_neg (by omega), ih (by omega)]
      · rw [hasked, tries, List.append_assoc]
        rfl
      · exact fun j hj => (hasked j).symm ▸ hbefore (j + 1) (by omega)
      · exact (hasked i).symm ▸ hthere

/-- If every attempt fails on the way, the call fails with what the last one said. -/
theorem retry_exhausts (hall : ∀ j < n, (script (requests acts + j)).isTransient) :
    retry (askScript script) sleepFor n delay last acts =
      (.error (.call (.exhausted (if n = 0 then last else (script (requests acts + (n - 1))).complaint?))),
        acts ++ tries delay n) := by
  induction n generalizing delay last acts with
  | zero => rw [retry, tries, List.append_nil, if_pos rfl]
  | succ left ih =>
      have hasked : ∀ j, requests (acts ++ [.request, .sleep delay]) + j = requests acts + (j + 1) := fun j => by
        rw [requests_append, Nat.add_assoc, Nat.add_comm j 1]
        rfl
      rw [retry_of_transient (hall 0 (Nat.succ_pos left)), if_neg (Nat.succ_ne_zero left)]
      cases left with
      | zero => rfl
      | succ left =>
          rw [if_neg (Nat.succ_ne_zero left), ih fun j hj => (hasked j).symm ▸ hall (j + 1) (by omega),
            if_neg (Nat.succ_ne_zero left), hasked, tries, List.append_assoc]
          rfl

end Script

/-- What ends a call at once is no giving up. -/
theorem settled_ne_call {response : WebResponse} (h : ¬response.isTransient) (e : CallError) :
    settled response none 1 ≠ .error (.call e) := by
  cases response with
  | failed cause => exact absurd rfl h
  | timedOut cause => exact absurd rfl h
  | crashed cause => exact nofun
  | text body =>
      rw [settled]
      cases Json.decode body <;> exact nofun
  | value body => exact nofun

theorem exists_first_settling {script : Nat → WebResponse} {n : Nat} (h : ¬∀ j < n, (script j).isTransient) :
    ∃ i < n, (∀ j < i, (script j).isTransient) ∧ ¬(script i).isTransient := by
  induction n with
  | zero => exact absurd (fun j hj => absurd hj (Nat.not_lt_zero j)) h
  | succ n ih =>
      by_cases hbefore : ∀ j < n, (script j).isTransient
      · refine ⟨n, n.lt_succ_self, hbefore, fun hlast => h fun j hj => ?_⟩
        rcases Nat.lt_succ_iff_lt_or_eq.mp hj with hlt | rfl
        · exact hbefore j hlt
        · exact hlast
      · obtain ⟨i, hi, hfirst⟩ := ih hbefore
        exact ⟨i, Nat.lt_succ_of_lt hi, hfirst⟩

/-- A call makes as many attempts as it may, up to the first answer that is no failure on the way. It waits between any
two of them, each time twice as long, and not after the last. That answer is what the call comes to: its value, or at
once the complaint that it cannot be read. The call gives up exactly if every attempt fails on the way, with what the
last one said. -/
theorem retry_discipline (n : Nat) (r : Num) (script : Nat → WebResponse) :
    let run := retry (askScript script) sleepFor n r none []
    (∀ i, (∀ j < i, (script j).isTransient) → ¬(script i).isTransient →
      requests run.2 = min n (i + 1) ∧ (i < n → run.1 = settled (script i) none 1)) ∧
    ((∀ j < n, (script j).isTransient) → requests run.2 = n ∧
      run.1 = .error (.call (.exhausted (if n = 0 then none else (script (n - 1)).complaint?)))) ∧
    ((∃ e, run.1 = .error (.call e)) ↔ ∀ j < n, (script j).isTransient) ∧
    run.2 = tries r (requests run.2) ∧ (∀ delay, run.2.getLast? ≠ some (.sleep delay)) ∧
    sleeps run.2 = (List.range (requests run.2 - 1)).map (fun k => Num.twice^[k] r) ∧
    (r.isProper → (sleeps run.2).map Num.rank = (List.range (requests run.2 - 1)).map r.scaled) := by
  intro run
  have hstart : ∀ j, requests [] + j = j := Nat.zero_add
  have hgives : (∀ j < n, (script j).isTransient) →
      run = (.error (.call (.exhausted (if n = 0 then none else (script (n - 1)).complaint?))), tries r n) :=
    fun hall => (retry_exhausts fun j hj => (hstart j).symm ▸ hall j hj).trans (by rw [hstart]; rfl)
  have hends : ∀ i < n, (∀ j < i, (script j).isTransient) → ¬(script i).isTransient →
      run = (settled (script i) none 1, tries r (i + 1)) := fun i hi hbefore hthere =>
    (retry_settles hi (fun j hj => (hstart j).symm ▸ hbefore j hj) ((hstart i).symm ▸ hthere)).trans
      (by rw [hstart]; rfl)
  -- how many attempts are made, and so all that is done
  have htries : ∃ m, run.2 = tries r m := by
    by_cases hall : ∀ j < n, (script j).isTransient
    · exact ⟨n, congrArg Prod.snd (hgives hall)⟩
    · obtain ⟨i, hi, hbefore, hthere⟩ := exists_first_settling hall
      exact ⟨i + 1, congrArg Prod.snd (hends i hi hbefore hthere)⟩
  have hacts : run.2 = tries r (requests run.2) := by
    obtain ⟨m, hm⟩ := htries
    rw [hm, requests_tries]
  have hsleeps : sleeps run.2 = (List.range (requests run.2 - 1)).map fun k => Num.twice^[k] r := by
    rw [← sleeps_tries, ← hacts]
  refine ⟨fun i hbefore hthere => ?_, fun hall => ?_, ⟨fun ⟨e, he⟩ => ?_, fun hall => ?_⟩, hacts, fun delay => ?_,
    hsleeps, fun hr => ?_⟩
  · by_cases hi : i < n
    · rw [hends i hi hbefore hthere, requests_tries]
      exact ⟨by omega, fun _ => rfl⟩
    · rw [hgives fun j hj => hbefore j (by omega), requests_tries]
      exact ⟨by omega, fun hlt => absurd hlt hi⟩
  · rw [hgives hall, requests_tries]
    exact ⟨rfl, rfl⟩
  · by_contra hall
    obtain ⟨i, hi, hbefore, hthere⟩ := exists_first_settling hall
    rw [hends i hi hbefore hthere] at he
    exact settled_ne_call hthere e he
  · rw [hgives hall]
    exact ⟨_, rfl⟩
  · rw [hacts]
    exact getLast?_tries r _ delay
  · rw [hsleeps, List.map_map]
    exact List.map_congr_left fun k _ => Num.rank_iterate_twice hr k

example : (retry (askScript fun _ => .failed "") sleepFor 3 (.int 1) none []).2 =
    [.request, .sleep (.int 1), .request, .sleep (.int 2), .request] := rfl

/-- Calls that are answered alike and wait alike come to the same. -/
theorem retry_simulates {σ τ : Type} {send : σ → WebResponse × σ} {pause : Num → σ → σ} {send' : τ → WebResponse × τ}
    {pause' : Num → τ → τ} {R : σ → τ → Prop}
    (hsend : ∀ s t, R s t → (send s).1 = (send' t).1 ∧ R (send s).2 (send' t).2)
    (hpause : ∀ delay s t, R s t → R (pause delay s) (pause' delay t)) (n : Nat) (delay : Num) (last : Option String)
    {s : σ} {t : τ} (h : R s t) :
    (retry send pause n delay last s).1 = (retry send' pause' n delay last t).1 ∧
      R (retry send pause n delay last s).2 (retry send' pause' n delay last t).2 := by
  induction n generalizing delay last s t with
  | zero => exact ⟨rfl, h⟩
  | succ left ih =>
      obtain ⟨hresponse, hkept⟩ := hsend s t h
      rw [retry, retry]
      generalize send s = sent at hresponse hkept
      generalize send' t = sent' at hresponse hkept
      obtain ⟨given, s'⟩ := sent
      obtain ⟨given', t'⟩ := sent'
      obtain rfl : given = given' := hresponse
      have hagain : ∀ cause, ∀ failure : Except Failure Json,
          (if left = 0 then (failure, s') else retry send pause left delay.twice (some cause) (pause delay s')).1 =
            (if left = 0 then (failure, t') else retry send' pause' left delay.twice (some cause) (pause' delay t')).1 ∧
          R (if left = 0 then (failure, s') else retry send pause left delay.twice (some cause) (pause delay s')).2
            (if left = 0 then (failure, t')
              else retry send' pause' left delay.twice (some cause) (pause' delay t')).2 := by
        intro cause failure
        split
        · exact ⟨rfl, hkept⟩
        · exact ih delay.twice (some cause) (hpause delay s' t' hkept)
      cases given with
      | failed cause => exact hagain cause _
      | timedOut cause => exact hagain cause _
      | crashed cause => exact ⟨rfl, hkept⟩
      | text body => exact ⟨rfl, hkept⟩
      | value body => exact ⟨rfl, hkept⟩

/-- The answers that a queue gives, and nothing else after them. -/
def queued (web : Web) (j : Nat) : WebResponse := (web.queue[j]?).getD (.failed "no response scripted")

/-- A network on which a request was made again and again. -/
def played (request : WebRequest) (net : Net) (acts : List Act) : Net :=
  { net with web := { net.web with
      queue := net.web.queue.drop (requests acts)
      requests := net.web.requests ++ List.replicate (requests acts) request
      pauses := net.web.pauses ++ sleeps acts } }

theorem ask_played {net : Net} (hviews : net.web.views = none) (url contract method encoded : String)
    (acts : List Act) :
    Net.ask (.view url contract method encoded) (played (.view url contract method encoded) net acts) =
      (queued net.web (requests acts),
        played (.view url contract method encoded) net (askScript (queued net.web) acts).2) := by
  have hnext : net.web.queue.drop (requests acts) =
      (net.web.queue[requests acts]?).toList ++ net.web.queue.drop (requests acts + 1) :=
    List.drop_eq_getElem?_toList_append
  have hrequest : requests (acts ++ [Act.request]) = requests acts + 1 := requests_append acts _
  have hsleeps : sleeps (acts ++ [Act.request]) = sleeps acts := (sleeps_append acts _).trans (List.append_nil _)
  simp only [Net.ask, played, Web.answer, hviews, Web.next, askScript, hrequest, hsleeps, List.replicate_succ',
    List.append_assoc, queued]
  rw [hnext]
  cases hqueue : net.web.queue[requests acts]? with
  | none =>
      have hend : net.web.queue.drop (requests acts + 1) = [] := by
        rw [List.drop_eq_nil_iff]
        exact Nat.le_succ_of_le (List.getElem?_eq_none_iff.mp hqueue)
      simp only [hend, Option.toList, List.append_nil, Option.getD_none]
  | some response => rfl

theorem pause_played (delay : Num) (request : WebRequest) (net : Net) (acts : List Act) :
    Net.pause delay (played request net acts) = played request net (sleepFor delay acts) := by
  have hrequests : requests (acts ++ [Act.sleep delay]) = requests acts := requests_append acts _
  have hsleeps : sleeps (acts ++ [Act.sleep delay]) = sleeps acts ++ [delay] := sleeps_append acts _
  rw [Net.pause, sleepFor]
  simp only [played, hrequests, hsleeps, List.append_assoc]

theorem played_nil (request : WebRequest) (net : Net) : played request net [] = net := by
  simp [played, requests, sleeps]

/-- A call to a node whose answers come from a queue makes its attempts on the script that the queue is. -/
theorem fresh_retries (c : Client) {net : Net} (hviews : net.web.views = none) (contract method : String)
    (arguments : Json) :
    let run := retry (askScript (queued net.web)) sleepFor c.attempts.toNat c.delay none []
    (c.fresh contract method arguments).run net =
      (run.1 >>= result contract method,
        played (.view c.url contract method (encodeArguments arguments)) net run.2) := by
  intro run
  generalize hrequest : WebRequest.view c.url contract method (encodeArguments arguments) = request
  have hsend : ∀ (s : Net) (acts : List Act), s = played request net acts →
      (Net.ask request s).1 = (askScript (queued net.web) acts).1 ∧
        (Net.ask request s).2 = played request net (askScript (queued net.web) acts).2 := by
    rintro s acts rfl
    rw [← hrequest, ask_played hviews]
    exact ⟨rfl, rfl⟩
  have hpause : ∀ delay (s : Net) acts, s = played request net acts →
      Net.pause delay s = played request net (sleepFor delay acts) := by
    rintro delay s acts rfl
    exact pause_played delay request net acts
  obtain ⟨houtcome, hplayed⟩ :=
    retry_simulates hsend hpause c.attempts.toNat c.delay none (played_nil request net).symm
  change ((retry (Net.ask _) Net.pause c.attempts.toNat c.delay none net).1 >>= _, _) = _
  rw [hrequest, houtcome, hplayed]

end ViewCall

end ChainAlerts
