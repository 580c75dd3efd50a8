import ChainAlerts.Proofs.DoubledDelays
import ChainAlerts.Proofs.MessageBatches

/-! How a stream that is not stopped connects again. Each failed attempt and each dropped connection is followed by one
wait and counted once. The wait starts over with a connection that stands, whose drop is the first failure after it; a
connection on which the events could not be asked for does not count as one. So the wait after a failure is the first
delay, doubled for every failure since the start or since that connection, or the maximum if that is less. Every message
that arrives meanwhile is taken once and in order, as long as none of them breaks a connection off. -/

namespace ChainAlerts.EventStream

/-- What may arrive on a connection before it drops. -/
inductive Arrival where
  | text (s : String)
  | binary
  | timeOut
  | clock (now : Num)

def Arrival.frame : Arrival → Frame
  | .text s => .text s
  | .binary => .binary
  | .timeOut => .timeOut
  | .clock now => .clock now

def Arrival.text? : Arrival → Option String
  | .text s => some s
  | _ => none

/-- What comes of an attempt to connect while nobody stops the stream: there is no connection, or none on which the
events can be asked for, or one that is dropped later. -/
inductive Outcome where
  | refused (cause : String)
  | unsubscribed (arrivals : List Arrival)
  | dropped (arrivals : List Arrival)

namespace Outcome

def connection : Outcome → Connection
  | .refused cause => .refused cause
  | .unsubscribed arrivals => .opened (arrivals.map Arrival.frame) false
  | .dropped arrivals => .opened (arrivals.map Arrival.frame ++ [.close]) true

/-- Whether the connection stands. -/
def connects : Outcome → Bool
  | .dropped _ => true
  | _ => false

/-- The texts that arrive. -/
def texts : Outcome → List String
  | .dropped arrivals => arrivals.filterMap Arrival.text?
  | _ => []

/-- How many attempts have failed since the start or since the last connection, whose drop is one of them. The outcomes
are given with the latest first. -/
def streak : List Outcome → Nat
  | [] => 0
  | o :: earlier => if o.connects then 1 else streak earlier + 1

end Outcome

/-- Whether a text is a list, which makes it a message. -/
def isMessage (text : String) : Bool :=
  match Json.decode text with
  | .ok (.arr _) => true
  | _ => false

/-- Whether a text is taken to its end: the age of each of its events can be computed, if it can be read and is a
list. -/
def isTaken (text : String) : Bool :=
  match Json.decode text with
  | .ok (.arr items) => (eventsAmong items).all isDatable
  | .ok _ | .error (.badJson _) => true
  | .error _ => false

variable {σ : Type}

/-- A callback that does what it likes, but leaves the stream and its connections alone. It tells whether it succeeded
and what time it is then. -/
abbrev Bystander (σ : Type) : Type := Json → Run σ → Bool × Num × σ

def Bystander.callback (onEvent : Bystander σ) : Callback (Wire σ) := fun event r =>
  let (succeeded, now, outside) := onEvent event r
  (succeeded, (r.1, { r.2 with now, outside }))

/-- The network with a list of the events that a callback was given. -/
def noting (calls : List Json) (wire : Wire σ) : Wire (List Json × σ) := { wire with outside := (calls, wire.outside) }

/-- A bystander that keeps a list of the events it was given. -/
def Bystander.noting (onEvent : Bystander σ) : Bystander (List Json × σ) := fun event r =>
  let (succeeded, now, outside) := onEvent event (r.1, { r.2 with outside := r.2.outside.2 })
  (succeeded, now, (r.2.outside.1 ++ [event], outside))

section Elsewhere

/-! A message is taken alike by callbacks that act alike on states of different kinds. -/

variable {τ : Type} {onEvent : Callback σ} {onEvent' : Callback τ} {f : σ → τ}
  (h : ∀ event stream s, onEvent' event (stream, f s) =
    ((onEvent event (stream, s)).1, (onEvent event (stream, s)).2.1, f (onEvent event (stream, s)).2.2))

include h

theorem handle_map (now : Num) (event : Json) (stream : EventStream) (s : σ) :
    handle now onEvent' event (stream, f s) =
      ((handle now onEvent event (stream, s)).1, (handle now onEvent event (stream, s)).2.1,
        f (handle now onEvent event (stream, s)).2.2) := by
  unfold handle
  simp only
  cases isStale (stream.count fun c => { c with events := c.events + 1 }) now event with
  | error fault => rfl
  | ok stale =>
      simp only [h]
      generalize onEvent event _ = answer
      obtain ⟨_ | _, stream', s'⟩ := answer <;> rfl

theorem handleAll_map (now : Num) (items : List Json) (stream : EventStream) (s : σ) :
    handleAll now onEvent' items (stream, f s) =
      ((handleAll now onEvent items (stream, s)).1, (handleAll now onEvent items (stream, s)).2.1,
        f (handleAll now onEvent items (stream, s)).2.2) := by
  induction items generalizing stream s with
  | nil => rfl
  | cons item rest ih =>
      cases item with
      | obj fields =>
          rw [handleAll, handleAll, handle_map h]
          generalize handle now onEvent (.obj fields) (stream, s) = answer
          obtain ⟨_ | fault, stream', s'⟩ := answer
          · exact ih stream' s'
          · rfl
      | _ => exact ih stream s

theorem receive_map (now : Num) (text : String) (stream : EventStream) (s : σ) :
    receive now onEvent' text (stream, f s) =
      ((receive now onEvent text (stream, s)).1, (receive now onEvent text (stream, s)).2.1,
        f (receive now onEvent text (stream, s)).2.2) := by
  unfold receive
  cases Json.decode text with
  | error fault => cases fault <;> rfl
  | ok value =>
      cases value with
      | arr items => exact handleAll_map h now items _ s
      | _ => rfl

end Elsewhere

section Keeping

/-! What keeps through the values of a message: what the counts of events and the callback keep. -/

variable {onEvent : Callback σ} {P : EventStream × σ → Prop}
  (hcount : ∀ s change, (∀ c : StreamStats, (change c).reconnects = c.reconnects ∧ (change c).messages = c.messages) →
    P s → P (s.1.count change, s.2))
  (hevent : ∀ event s, P s → P (onEvent event s).2)

include hcount hevent

theorem handle_keeps (now : Num) (event : Json) (s : EventStream × σ) (h : P s) : P (handle now onEvent event s).2 := by
  have hbegun := hcount s (fun c => { c with events := c.events + 1 }) (fun c => ⟨rfl, rfl⟩) h
  unfold handle
  simp only
  generalize s.1.count (fun c => { c with events := c.events + 1 }) = begun at hbegun
  cases isStale begun now event with
  | error fault => exact hbegun
  | ok stale =>
      have hchecked : P (if stale then begun.count fun c => { c with staleEvents := c.staleEvents + 1 } else begun,
          s.2) := by
        cases stale with
        | true => exact hcount _ (fun c => { c with staleEvents := c.staleEvents + 1 }) (fun c => ⟨rfl, rfl⟩) hbegun
        | false => exact hbegun
      have hcalled := hevent event _ hchecked
      simp only
      generalize onEvent event _ = answer at hcalled
      obtain ⟨_ | _, s'⟩ := answer
      · exact hcount s' (fun c => { c with callbackErrors := c.callbackErrors + 1 }) (fun c => ⟨rfl, rfl⟩) hcalled
      · exact hcalled

theorem handleAll_keeps (now : Num) (items : List Json) (s : EventStream × σ) (h : P s) :
    P (handleAll now onEvent items s).2 := by
  induction items generalizing s with
  | nil => exact h
  | cons item rest ih =>
      cases item with
      | obj fields =>
          have hfirst := handle_keeps hcount hevent now (.obj fields) s h
          rw [handleAll]
          generalize handle now onEvent (.obj fields) s = answer at hfirst
          obtain ⟨_ | fault, s'⟩ := answer
          · exact ih s' hfirst
          · exact hfirst
      | _ => exact ih s h

end Keeping

/-- What a stream does not touch while it takes what arrives. -/
structure Steady (r r' : Run σ) : Prop where
  running : r'.1.running = r.1.running
  firstDelay : r'.1.firstDelay = r.1.firstDelay
  maxDelay : r'.1.maxDelay = r.1.maxDelay
  reconnects : r'.1.stats.reconnects = r.1.stats.reconnects
  connections : r'.2.connections = r.2.connections
  pauses : r'.2.pauses = r.2.pauses

namespace Steady

variable {r r' r'' : Run σ}

theorem refl (r : Run σ) : Steady r r := ⟨rfl, rfl, rfl, rfl, rfl, rfl⟩

theorem trans (h : Steady r r') (h' : Steady r' r'') : Steady r r'' where
  running := h'.running.trans h.running
  firstDelay := h'.firstDelay.trans h.firstDelay
  maxDelay := h'.maxDelay.trans h.maxDelay
  reconnects := h'.reconnects.trans h.reconnects
  connections := h'.connections.trans h.connections
  pauses := h'.pauses.trans h.pauses

end Steady

/-- What texts leave behind: a steady stream and, if each is taken to its end, one count of each message and the list of
their events. -/
structure Heard (texts : List String) (r r' : Run (List Json × σ)) : Prop extends Steady r r' where
  messages : (∀ text ∈ texts, isTaken text) →
    r'.1.stats.messages = r.1.stats.messages + texts.countP isMessage
  events : (∀ text ∈ texts, isTaken text) → r'.2.outside.1 = r.2.outside.1 ++ texts.flatMap eventsOf

namespace Heard

variable {texts texts' : List String} {r r' r'' : Run (List Json × σ)}

theorem refl (r : Run (List Json × σ)) : Heard [] r r := ⟨.refl r, fun _ => rfl, fun _ => (List.append_nil _).symm⟩

theorem trans (h : Heard texts r r') (h' : Heard texts' r' r'') : Heard (texts ++ texts') r r'' where
  toSteady := h.toSteady.trans h'.toSteady
  messages htaken := by
    obtain ⟨hfirst, hrest⟩ := List.forall_mem_append.mp htaken
    rw [h'.messages hrest, h.messages hfirst, List.countP_append, Nat.add_assoc]
  events htaken := by
    obtain ⟨hfirst, hrest⟩ := List.forall_mem_append.mp htaken
    rw [h'.events hrest, h.events hfirst, List.flatMap_append, List.append_assoc]

/-- Nothing is said of texts one of which breaks off. -/
theorem of_broken (h : Steady r r') {text : String} (hmem : text ∈ texts) (hbroken : ¬isTaken text) :
    Heard texts r r' :=
  ⟨h, fun htaken => absurd (htaken text hmem) hbroken, fun htaken => absurd (htaken text hmem) hbroken⟩

end Heard

theorem countP_singleton_isMessage (text : String) :
    [text].countP isMessage = match Json.decode text with
      | .ok (.arr _) => 1
      | _ => 0 := by
  rw [List.countP_singleton, isMessage]
  cases Json.decode text with
  | error fault => rfl
  | ok value => cases value <;> rfl

theorem receive_steady (onEvent : Bystander σ) (now : Num) (text : String) (r : Run σ) :
    Steady r (receive now onEvent.callback text r).2 ∧
      (receive now onEvent.callback text r).2.1.stats.messages = r.1.stats.messages + [text].countP isMessage := by
  have hkeeps : ∀ (items : List Json) (r' : Run σ) (taken : Nat),
      Steady r r' ∧ r'.1.stats.messages = taken →
      Steady r (handleAll now onEvent.callback items r').2 ∧
        (handleAll now onEvent.callback items r').2.1.stats.messages = taken := by
    intro items r' taken
    refine handleAll_keeps (P := fun s => Steady r s ∧ s.1.stats.messages = taken) ?_ ?_ now items r'
    · exact fun s change hchange hs =>
        ⟨hs.1.trans ⟨rfl, rfl, rfl, (hchange _).1, rfl, rfl⟩, (hchange _).2.trans hs.2⟩
    · exact fun event s hs => ⟨hs.1.trans ⟨rfl, rfl, rfl, rfl, rfl, rfl⟩, hs.2⟩
  rw [countP_singleton_isMessage]
  unfold receive
  cases Json.decode text with
  | error fault => cases fault <;> exact ⟨.refl r, rfl⟩
  | ok value =>
      cases value with
      | arr items => exact hkeeps items _ _ ⟨⟨rfl, rfl, rfl, rfl, rfl, rfl⟩, rfl⟩
      | _ => exact ⟨.refl r, rfl⟩

/-- Whether a text is taken to its end is decided by the text alone, and if it is then all of its events are handed
over. -/
theorem receive_recording (onEvent : Callback σ) (now : Num) (text : String) (stream : EventStream) (calls : List Json)
    (outside : σ) :
    let out := receive now (recording onEvent) text (stream, calls, outside)
    (out.1 = none ↔ isTaken text) ∧ (isTaken text → out.2.2.1 = calls ++ eventsOf text) := by
  unfold receive isTaken eventsOf
  cases Json.decode text with
  | error fault => cases fault <;> simp
  | ok value =>
      cases value with
      | arr items =>
          obtain ⟨hseen, hfault⟩ := handleAll_recording now onEvent items
            (stream.count fun c => { c with messages := c.messages + 1, lastMessage := some now }) calls outside
          simp only [hseen, hfault]
          refine ⟨?_, fun hall => ?_⟩
          · split
            next hall => exact iff_of_true rfl hall
            next hbroken => exact iff_of_false nofun hbroken
          · rw [List.takeWhile_eq_self_iff.mpr (List.all_eq_true.mp hall)]
      | _ => simp

/-- One text: it is taken to its end or breaks off. -/
theorem receive_noting (onEvent : Bystander σ) (now : Num) (text : String) (r : Run (List Json × σ)) :
    let out := receive now onEvent.noting.callback text r
    (out.1 = none ↔ isTaken text) ∧ Heard [text] r out.2 := by
  obtain ⟨stream, wire⟩ := r
  obtain ⟨hsteady, hmessages⟩ := receive_steady onEvent.noting now text (stream, wire)
  obtain ⟨hfault, hseen⟩ := receive_recording onEvent.callback now text stream wire.outside.1
    { wire with outside := wire.outside.2 }
  have halike : ∀ event stream (s : List Json × Wire σ),
      onEvent.noting.callback event (stream, EventStream.noting s.1 s.2) =
        ((recording onEvent.callback event (stream, s)).1, (recording onEvent.callback event (stream, s)).2.1,
          EventStream.noting (recording onEvent.callback event (stream, s)).2.2.1
            (recording onEvent.callback event (stream, s)).2.2.2) := fun event stream s => rfl
  have hsame : receive now onEvent.noting.callback text (stream, wire) = _ :=
    receive_map halike now text stream (wire.outside.1, { wire with outside := wire.outside.2 })
  refine ⟨?_, hsteady, fun _ => hmessages, fun htaken => ?_⟩
  · rw [hsame]
    exact hfault
  · rw [hsame, List.flatMap_singleton]
    exact hseen (htaken text (List.mem_singleton_self text))

/-- A connection that is dropped: what arrives before is taken, and then it fails, if it has not failed before. -/
theorem listen_dropped (onEvent : Bystander σ) (arrivals : List Arrival) (r : Run (List Json × σ))
    (hrunning : r.1.running) :
    let out := listen onEvent.noting.callback (arrivals.map Arrival.frame ++ [.close]) r
    out.1.isSome ∧ Heard (arrivals.filterMap Arrival.text?) r out.2 := by
  have hgoes : ¬(!r.1.running) = true := by rw [hrunning]; exact Bool.false_ne_true
  induction arrivals generalizing r with
  | nil =>
      simp only [List.map_nil, List.nil_append, listen, if_neg hgoes]
      exact ⟨rfl, .refl r⟩
  | cons arrival rest ih =>
      simp only [List.map_cons, List.cons_append, listen, if_neg hgoes]
      cases arrival with
      | text s =>
          obtain ⟨htaken, hheard⟩ := receive_noting onEvent r.2.now s r
          simp only [Arrival.frame, List.filterMap_cons, Arrival.text?]
          generalize receive r.2.now onEvent.noting.callback s r = answer at htaken hheard
          obtain ⟨_ | fault, r'⟩ := answer
          · have hrunning' : r'.1.running := hheard.running.trans hrunning
            obtain ⟨hfails, hrest⟩ := ih r' hrunning' (by rw [hrunning']; exact Bool.false_ne_true)
            exact ⟨hfails, hheard.trans hrest⟩
          · exact ⟨rfl, .of_broken hheard.toSteady List.mem_cons_self fun h => nomatch htaken.mpr h⟩
      | binary => exact ih r hrunning hgoes
      | timeOut => exact ih r hrunning hgoes
      | clock now =>
          obtain ⟨hfails, hrest⟩ := ih (r.1, { r.2 with now }) hrunning hgoes
          exact ⟨hfails, (Heard.refl r).trans ⟨⟨hrest.running, hrest.firstDelay, hrest.maxDelay, hrest.reconnects,
            hrest.connections, hrest.pauses⟩, hrest.messages, hrest.events⟩⟩

/-- The wait after an outcome, if the delay would be the given one without a connection. -/
def Outcome.wait (o : Outcome) (delay : Num) (r : Run σ) : Num := if o.connects then r.1.firstDelay else delay

/-- One attempt of a running stream and what follows from it: it is waited once, and the next delay is twice as long. -/
structure Retried (o : Outcome) (delay : Num) (r : Run (List Json × σ)) (out : Num × Run (List Json × σ)) : Prop where
  next : out.1 = Num.least r.1.maxDelay (o.wait delay r).twice
  running : out.2.1.running
  firstDelay : out.2.1.firstDelay = r.1.firstDelay
  maxDelay : out.2.1.maxDelay = r.1.maxDelay
  reconnects : out.2.1.stats.reconnects = r.1.stats.reconnects + 1
  connections : out.2.2.connections = r.2.connections.tail
  pauses : out.2.2.pauses = r.2.pauses ++ [o.wait delay r]
  messages : (∀ text ∈ o.texts, isTaken text) →
    out.2.1.stats.messages = r.1.stats.messages + o.texts.countP isMessage
  events : (∀ text ∈ o.texts, isTaken text) → out.2.2.outside.1 = r.2.outside.1 ++ o.texts.flatMap eventsOf

@[simp] theorem enter_running (s : EventStream) (state : ConnectionState) : (s.enter state).running = s.running := by
  unfold enter
  split <;> rfl

@[simp] theorem enter_firstDelay (s : EventStream) (state : ConnectionState) :
    (s.enter state).firstDelay = s.firstDelay := by
  unfold enter
  split <;> rfl

@[simp] theorem enter_maxDelay (s : EventStream) (state : ConnectionState) : (s.enter state).maxDelay = s.maxDelay := by
  unfold enter
  split <;> rfl

@[simp] theorem enter_stats (s : EventStream) (state : ConnectionState) : (s.enter state).stats = s.stats := by
  unfold enter
  split <;> rfl

/-- What a failure leads to once the texts of an outcome are taken. -/
theorem recover_retried {o : Outcome} {delay : Num} {r r' : Run (List Json × σ)} (failure : StreamFailure)
    (hrunning : r.1.running)
    (hheard : Heard o.texts { r with 2 := { r.2 with connections := r.2.connections.tail } } r') :
    Retried o delay r (recover failure (o.wait delay r) r') := by
  have hgoes : ¬(!r'.1.running) = true := by rw [hheard.running, hrunning]; exact Bool.false_ne_true
  rw [recover, if_neg hgoes]
  refine ⟨by rw [hheard.maxDelay], ?_, ?_, ?_, ?_, hheard.connections, ?_, fun htaken => ?_, hheard.events⟩
  · exact (enter_running _ _).trans (hheard.running.trans hrunning)
  · exact (enter_firstDelay _ _).trans hheard.firstDelay
  · exact (enter_maxDelay _ _).trans hheard.maxDelay
  · exact (congrArg StreamStats.reconnects (enter_stats _ _)).trans (congrArg (· + 1) hheard.reconnects)
  · exact congrArg (· ++ [o.wait delay r]) hheard.pauses
  · exact (congrArg StreamStats.messages (enter_stats _ _)).trans (hheard.messages htaken)

theorem attempt_retried (onEvent : Bystander σ) (o : Outcome) (delay : Num) (r : Run (List Json × σ))
    (hrunning : r.1.running) {rest : List Connection} (hconnections : r.2.connections = o.connection :: rest) :
    Retried o delay r (attempt onEvent.noting.callback delay r) := by
  have htail : r.2.connections.tail = rest := by rw [hconnections, List.tail_cons]
  cases o with
  | refused cause =>
      rw [attempt, connect]
      simp only [hconnections, Outcome.connection]
      refine recover_retried _ hrunning ⟨⟨?_, ?_, ?_, ?_, ?_, ?_⟩, fun _ => ?_, fun _ => ?_⟩
      all_goals simp [count, htail, Outcome.texts]
  | unsubscribed arrivals =>
      rw [attempt, connect]
      simp only [hconnections, Outcome.connection]
      refine recover_retried _ hrunning ⟨⟨?_, ?_, ?_, ?_, ?_, ?_⟩, fun _ => ?_, fun _ => ?_⟩
      all_goals simp [htail, Outcome.texts]
  | dropped arrivals =>
      rw [attempt, connect]
      simp only [hconnections, Outcome.connection, if_true]
      generalize hstands : (({ ((r.1.enter .connecting).enter .connected).count fun c =>
        { c with connectedSince := some r.2.now } with hasSocket := true } : EventStream), ({ r.2 with
          connections := rest, connects := r.2.connects + 1, greetings := r.2.greetings + 1 } : Wire _)) = stands
      have hbegun : Heard [] { r with 2 := { r.2 with connections := r.2.connections.tail } } stands := by
        subst hstands
        refine ⟨⟨?_, ?_, ?_, ?_, ?_, ?_⟩, fun _ => ?_, fun _ => ?_⟩
        all_goals simp [count, htail]
      obtain ⟨hfails, hheard⟩ := listen_dropped onEvent arrivals stands (hbegun.running.trans hrunning)
      have hheard := hbegun.trans hheard
      generalize listen onEvent.noting.callback (arrivals.map Arrival.frame ++ [.close]) stands = answer
        at hfails hheard
      obtain ⟨_ | failure, r'⟩ := answer
      · cases hfails
      · have hretried : Retried (.dropped arrivals) delay r (recover failure _ r') :=
          recover_retried failure hrunning hheard
        simp only [Outcome.wait, Outcome.connects, if_true] at hretried ⊢
        rw [hheard.firstDelay]
        exact hretried

theorem Outcome.wait_eq_backoff (o : Outcome) (earlier : List Outcome) (r : Run σ) :
    o.wait (Num.backoff r.1.maxDelay r.1.firstDelay (streak earlier)) r =
      Num.backoff r.1.maxDelay r.1.firstDelay (streak (o :: earlier) - 1) := by
  rw [wait, streak]
  split <;> rfl

theorem Outcome.streak_pos (o : Outcome) (earlier : List Outcome) : 0 < streak (o :: earlier) := by
  rw [streak]
  split
  · exact Nat.one_pos
  · exact Nat.succ_pos _

theorem closeSocket_eq (r : Run σ) :
    closeSocket r = (r.1, { r.2 with closes := if r.1.hasSocket then r.2.closes + 1 else r.2.closes }) := by
  unfold closeSocket
  split <;> rfl

theorem dropSocket_steady (r : Run σ) : Steady r (dropSocket r) ∧ (dropSocket r).1.stats = r.1.stats ∧
    (dropSocket r).2.outside = r.2.outside := by
  rw [dropSocket, closeSocket_eq]
  exact ⟨⟨rfl, rfl, rfl, rfl, rfl, rfl⟩, rfl, rfl⟩

/-- The attempt that finds no connection left ends the stream, and nothing else comes of it. -/
theorem attempt_none (callback : Callback (Wire σ)) (delay : Num) {r : Run σ} (hconnections : r.2.connections = []) :
    let out := (dropSocket (attempt callback delay r).2)
    out.1.running = false ∧ out.2.pauses = r.2.pauses ∧ out.1.stats.reconnects = r.1.stats.reconnects ∧
      out.1.stats.messages = r.1.stats.messages ∧ out.2.outside = r.2.outside := by
  obtain ⟨hsteady, hstats, houtside⟩ := dropSocket_steady (attempt callback delay r).2
  have hended : (attempt callback delay r).2 =
      ((stop (r.1.enter .connecting, { r.2 with connects := r.2.connects + 1 })).1.count
        fun c => { c with lastError := some "script ended" },
        (stop (r.1.enter .connecting, { r.2 with connects := r.2.connects + 1 })).2) := by
    rw [attempt, connect]
    simp only [hconnections, stop, closeSocket_eq]
    rfl
  rw [stop, closeSocket_eq] at hended
  refine ⟨hsteady.running.trans ?_, hsteady.pauses.trans ?_, hsteady.reconnects.trans ?_,
    (congrArg StreamStats.messages hstats).trans ?_, houtside.trans ?_⟩
  all_goals simp [hended, count]

/-- What a running stream has waited, counted and taken when all connections of a script have failed. -/
structure RanOut (script earlier : List Outcome) (r out : Run (List Json × σ)) : Prop where
  pauses : out.2.pauses = r.2.pauses ++ (List.range script.length).map fun i =>
    Num.backoff r.1.maxDelay r.1.firstDelay (Outcome.streak ((script.take (i + 1)).reverse ++ earlier) - 1)
  reconnects : out.1.stats.reconnects = r.1.stats.reconnects + script.length
  messages : (∀ text ∈ script.flatMap Outcome.texts, isTaken text) →
    out.1.stats.messages = r.1.stats.messages + (script.flatMap Outcome.texts).countP isMessage
  events : (∀ text ∈ script.flatMap Outcome.texts, isTaken text) →
    out.2.outside.1 = r.2.outside.1 ++ (script.flatMap Outcome.texts).flatMap eventsOf

theorem RanOut.cons {o : Outcome} {rest earlier : List Outcome} {delay : Num} {r r' out : Run (List Json × σ)}
    (hfirst : Retried o (Num.backoff r.1.maxDelay r.1.firstDelay (Outcome.streak earlier)) r (delay, r'))
    (hrest : RanOut rest (o :: earlier) (dropSocket r') out) : RanOut (o :: rest) earlier r out := by
  obtain ⟨hsteady, hstats, houtside⟩ := dropSocket_steady r'
  have hmaximum := hsteady.maxDelay.trans hfirst.maxDelay
  have hdelay := hsteady.firstDelay.trans hfirst.firstDelay
  refine ⟨?_, ?_, fun htaken => ?_, fun htaken => ?_⟩
  · rw [hrest.pauses, hsteady.pauses, hfirst.pauses, hmaximum, hdelay, Outcome.wait_eq_backoff, List.append_assoc,
      List.length_cons, List.range_succ_eq_map, List.map_cons, List.map_map]
    refine congrArg (r.2.pauses ++ ·) (congrArg (_ :: ·) (List.map_congr_left fun i _ => ?_))
    simp only [Function.comp_apply, List.take_succ_cons, List.reverse_cons, List.append_assoc, List.singleton_append]
  · rw [hrest.reconnects, hsteady.reconnects, hfirst.reconnects, List.length_cons]
    omega
  · rw [List.flatMap_cons] at htaken ⊢
    obtain ⟨hhere, hlater⟩ := List.forall_mem_append.mp htaken
    rw [hrest.messages hlater, hstats, hfirst.messages hhere, List.countP_append, Nat.add_assoc]
  · rw [List.flatMap_cons] at htaken ⊢
    obtain ⟨hhere, hlater⟩ := List.forall_mem_append.mp htaken
    rw [hrest.events hlater, houtside, hfirst.events hhere, List.flatMap_append, List.append_assoc]

theorem loop_ranOut (onEvent : Bystander σ) (script earlier : List Outcome) {fuel : Nat}
    (hfuel : script.length + 2 ≤ fuel) (r : Run (List Json × σ)) (hrunning : r.1.running)
    (hconnections : r.2.connections = script.map Outcome.connection) :
    RanOut script earlier r (loop (fun _ => onEvent.noting.callback) fuel
      (Num.backoff r.1.maxDelay r.1.firstDelay (Outcome.streak earlier)) r) := by
  have hgoes : ¬(!r.1.running) = true := by rw [hrunning]; exact Bool.false_ne_true
  induction script generalizing earlier fuel r with
  | nil =>
      obtain ⟨left, rfl⟩ : ∃ left, fuel = left + 2 := ⟨fuel - 2, by simp only [List.length_nil] at hfuel; omega⟩
      obtain ⟨hstopped, hpauses, hreconnects, hmessages, houtside⟩ :=
        attempt_none onEvent.noting.callback (Num.backoff r.1.maxDelay r.1.firstDelay (Outcome.streak earlier))
          hconnections
      rw [loop, if_neg hgoes]
      simp only [loop, hstopped, Bool.not_false, if_true]
      exact ⟨hpauses.trans (List.append_nil _).symm, hreconnects, fun _ => hmessages,
        fun _ => (congrArg Prod.fst houtside).trans (List.append_nil _).symm⟩
  | cons o rest ih =>
      obtain ⟨left, rfl⟩ : ∃ left, fuel = left + 1 := ⟨fuel - 1, by omega⟩
      have hretried := attempt_retried onEvent o (Num.backoff r.1.maxDelay r.1.firstDelay (Outcome.streak earlier)) r
        hrunning (hconnections.trans (List.map_cons ..))
      rw [loop, if_neg hgoes]
      generalize attempt onEvent.noting.callback _ r = out at hretried
      obtain ⟨delay, r'⟩ := out
      obtain ⟨hsteady, -, -⟩ := dropSocket_steady r'
      have hrunning' : (dropSocket r').1.running := hsteady.running.trans hretried.running
      have hconnections' : (dropSocket r').2.connections = rest.map Outcome.connection := by
        rw [hsteady.connections, hretried.connections, hconnections, List.map_cons, List.tail_cons]
      have hnext : delay = Num.least r.1.maxDelay (o.wait _ r).twice := hretried.next
      have hdelay : delay = Num.backoff (dropSocket r').1.maxDelay (dropSocket r').1.firstDelay
          (Outcome.streak (o :: earlier)) := by
        rw [hsteady.maxDelay, hretried.maxDelay, hsteady.firstDelay, hretried.firstDelay, hnext,
          Outcome.wait_eq_backoff, ← Num.backoff_succ, Nat.sub_add_cancel (Outcome.streak_pos o earlier)]
      simp only [hdelay]
      exact .cons hretried (ih (o :: earlier) (by simpa using hfuel) (dropSocket r') hrunning' hconnections'
        (by rw [hrunning']; exact Bool.false_ne_true))

theorem start_ranOut (onEvent : Bystander σ) (script : List Outcome) (s : EventStream) (wire : Wire (List Json × σ)) :
    RanOut script [] (s, wire)
      (start (fun _ => onEvent.noting.callback) (s, { wire with connections := script.map Outcome.connection })) := by
  have hfuel : script.length + 2 ≤ (script.map Outcome.connection).length + 2 := by rw [List.length_map]
  obtain ⟨hpauses, hreconnects, hmessages, hevents⟩ := loop_ranOut onEvent script [] hfuel
    ({ s with running := true }, { wire with connections := script.map Outcome.connection }) rfl rfl
  exact ⟨hpauses, (congrArg StreamStats.reconnects (enter_stats _ _)).trans hreconnects,
    fun htaken => (congrArg StreamStats.messages (enter_stats _ _)).trans (hmessages htaken), hevents⟩

/-- A stream that nobody stops waits once after every outcome, and counts each wait as a reconnection. The wait is the
first delay times a power of two, as many times doubled as there were failures before since the start or since the last
connection, whose drop counts as one; but no more than the maximum. If no message breaks a connection off, each text
that arrives is taken once and in order. -/
theorem start_backs_off (onEvent : Bystander σ) (script : List Outcome) (s : EventStream) (wire : Wire (List Json × σ))
    (hfirst : s.firstDelay.isProper) (hmaximum : s.maxDelay.isProper) (hle : ¬s.maxDelay.lt s.firstDelay) :
    let out := start (fun _ => onEvent.noting.callback) (s, { wire with connections := script.map Outcome.connection })
    let texts := script.flatMap Outcome.texts
    ∃ waits : List Num, out.2.pauses = wire.pauses ++ waits ∧ waits.length = script.length ∧
      out.1.stats.reconnects = s.stats.reconnects + waits.length ∧
      (∀ i (hi : i < waits.length),
        let k := Outcome.streak (script.take (i + 1)).reverse
        1 ≤ k ∧ waits[i].rank = min s.maxDelay.rank (s.firstDelay.scaled (k - 1)) ∧
          waits[i].rank ≤ s.maxDelay.rank ∧ (0 ≤ s.firstDelay.rank → s.firstDelay.rank ≤ waits[i].rank) ∧
          ∀ q : ℚ, 0 ≤ q → s.firstDelay.rank = ((q : WithTop ℚ) : WithBot (WithTop ℚ)) →
            s.maxDelay.rank ≤ ((Double.limit : WithTop ℚ) : WithBot (WithTop ℚ)) →
            waits[i].rank = min s.maxDelay.rank (((q * 2 ^ (k - 1) : ℚ) : WithTop ℚ) : WithBot (WithTop ℚ))) ∧
      ((∀ text ∈ texts, ∀ now r, (receive now onEvent.noting.callback text r).1 = none) →
        out.2.outside.1 = wire.outside.1 ++ texts.flatMap eventsOf ∧
          out.1.stats.messages = s.stats.messages + texts.countP isMessage) := by
  intro out texts
  have hbelow : s.firstDelay.rank ≤ s.maxDelay.rank := by
    rw [Num.lt_iff_rank hmaximum hfirst] at hle
    exact not_lt.mp hle
  obtain ⟨hpauses, hreconnects, hmessages, hevents⟩ := start_ranOut onEvent script s wire
  refine ⟨_, hpauses, by rw [List.length_map, List.length_range], ?_, fun i hi => ?_, fun hquiet => ?_⟩
  · rw [List.length_map, List.length_range]
    exact hreconnects
  · rw [List.length_map, List.length_range] at hi
    intro k
    have hpositive : 1 ≤ k := by
      have hne : (script.take (i + 1)).reverse ≠ [] := by simpa using List.ne_nil_of_length_pos (Nat.zero_lt_of_lt hi)
      obtain ⟨o, earlier, hlatest⟩ := List.exists_cons_of_ne_nil hne
      exact (Outcome.streak_pos o earlier).trans_eq (congrArg Outcome.streak hlatest).symm
    have hwait : (Num.backoff s.maxDelay s.firstDelay (k - 1)).rank =
        min s.maxDelay.rank (s.firstDelay.scaled (k - 1)) :=
      Num.rank_backoff hmaximum hfirst hbelow (k - 1)
    simp only [List.getElem_map, List.getElem_range, List.append_nil]
    refine ⟨hpositive, hwait, hwait.le.trans (min_le_left _ _), fun hnonneg => ?_, fun q hq hrank hlimit => ?_⟩
    · exact (le_min hbelow (Num.rank_le_scaled hfirst hnonneg (k - 1))).trans hwait.ge
    · exact hwait.trans (Num.min_scaled hlimit hq hrank hfirst (k - 1))
  · have htaken : ∀ text ∈ texts, isTaken text := fun text hmem =>
      (receive_noting onEvent (.int 0) text (s, wire)).1.mp (hquiet text hmem (.int 0) (s, wire))
    exact ⟨hevents htaken, hmessages htaken⟩

/-- A bystander that only looks on. -/
def onlooker : Bystander Unit := fun _ r => (true, r.2.now, ())

example : (start (fun _ => onlooker.callback) ({ url := "", maxDelay := .int 3 }, { outside := (), connections :=
    [Outcome.refused "", .unsubscribed [], .refused "", .dropped [], .refused ""].map Outcome.connection })).2.pauses =
      [.int 1, .int 2, .int 3, .int 1, .int 2] := by decide

/-- A stream that waits half a minute at most. -/
def patientStream : EventStream := { url := "", maxDelay := .float (.ofInt 30) }

/-- A connection on which one message arrives, between two that are refused. -/
def droppedOnce : List Outcome := [.refused "", .dropped [.text "[\x7b\x7d]", .binary], .refused ""]

theorem start_backs_off_after_drop :
    patientStream.firstDelay.isProper ∧ patientStream.maxDelay.isProper ∧
      ¬patientStream.maxDelay.lt patientStream.firstDelay ∧
      ∃ waits : List Num,
        (start (fun _ => onlooker.noting.callback) (patientStream,
          { connections := droppedOnce.map Outcome.connection, outside := ([], ()) })).2.pauses = waits ∧
        (∃ h : 2 < waits.length, waits[2].rank = min patientStream.maxDelay.rank (patientStream.firstDelay.scaled 1)) ∧
        (start (fun _ => onlooker.noting.callback) (patientStream,
          { connections := droppedOnce.map Outcome.connection, outside := ([], ()) })).2.outside.1.length = 1 := by
  have hfirst : patientStream.firstDelay.isProper := rfl
  have hmaximum : patientStream.maxDelay.isProper := by decide
  have hle : ¬patientStream.maxDelay.lt patientStream.firstDelay := by decide
  obtain ⟨waits, hpauses, hlength, -, hwaits, htaken⟩ := start_backs_off onlooker droppedOnce patientStream
    { connections := [], outside := ([], ()) } hfirst hmaximum hle
  have hthird : 2 < waits.length := by rw [hlength]; decide
  have hevents : (eventsOf "[\x7b\x7d]").length = 1 := by decide +kernel
  have hquiet : ∀ text ∈ droppedOnce.flatMap Outcome.texts, ∀ now r,
      (receive now onlooker.noting.callback text r).1 = none := by
    intro text hmem now r
    obtain rfl : text = "[\x7b\x7d]" := List.mem_singleton.mp hmem
    exact (receive_noting onlooker now _ r).1.mpr (by decide +kernel)
  refine ⟨hfirst, hmaximum, hle, waits, hpauses, ⟨hthird, (hwaits 2 hthird).2.1⟩, ?_⟩
  rw [(htaken hquiet).1]
  exact hevents

end ChainAlerts.EventStream
