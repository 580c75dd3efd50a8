import ChainAlerts.EventStream
import ChainAlerts.Proofs.DoubleOverflow
import ChainAlerts.Proofs.JsonReading

/-! What becomes of a message. Its objects are the events: the callback is given each of them once and in order, and
whether it succeeds makes no difference to the others. Two things break a message off. An integer in it may have too
many digits to be read, and then it has no events at all; or the time of an event may be so large that its age is
beyond the largest floating-point number, and then only the events before that one have been handed over. -/

namespace ChainAlerts.EventStream

/-- The events among the values of a message. -/
def eventsAmong : List Json → List Json
  | [] => []
  | .obj fields :: rest => .obj fields :: eventsAmong rest
  | _ :: rest => eventsAmong rest

/-- The events of a message. What is no JSON, or no list, has none. -/
def eventsOf (text : String) : List Json :=
  match Json.decode text with
  | .ok (.arr items) => eventsAmong items
  | _ => []

/-- The time of an event in nanoseconds, where it can be read. -/
def timeOf? (event : Json) : Option Int :=
  match event.fieldOrNull "block_timestamp_nanosec" with
  | .ok time => if time.isNull then none else time.integerOfText.toOption
  | .error _ => none

/-- Whether the age of an event can be computed. An event without a readable time has none to compute. -/
def isDatable (event : Json) : Bool :=
  match timeOf? event with
  | some n => n.natAbs < Double.overflowBound * nanoseconds.natAbs
  | none => true

/-- No integer in a text has too many digits to be read. -/
def HasReadableIntegers (text : String) : Prop := ∀ n, Json.parse text ≠ .error (.tooManyDigits n)

variable {σ : Type}

/-- A callback that keeps a list of the events it was given, and else does what another one does. -/
def recording (onEvent : Callback σ) : Callback (List Json × σ) := fun event s =>
  let answer := onEvent event (s.1, s.2.2)
  (answer.1, (answer.2.1, (s.2.1 ++ [event], answer.2.2)))

theorem isStale_obj (s : EventStream) (now : Num) (fields : List (String × Json)) :
    s.isStale now (.obj fields) = match timeOf? (.obj fields) with
      | none => .ok false
      | some n => match Double.ofQuotient? n nanoseconds with
        | none => .error .quotientTooLarge
        | some seconds => .ok (s.staleAfter.lt (.float (now.toDouble.sub seconds))) := by
  have hfield : (Json.obj fields).fieldOrNull "block_timestamp_nanosec" =
      .ok ((Assoc.get? "block_timestamp_nanosec" fields).getD .null) := rfl
  rw [isStale, timeOf?, hfield, except_ok_bind]
  simp only
  split
  · rfl
  · cases ((Assoc.get? "block_timestamp_nanosec" fields).getD .null).integerOfText <;> rfl

/-- An event's age can be told unless its time is too large. -/
theorem isStale_spec (s : EventStream) (now : Num) (fields : List (String × Json)) :
    if isDatable (.obj fields) then ∃ stale, s.isStale now (.obj fields) = .ok stale
    else s.isStale now (.obj fields) = .error .quotientTooLarge := by
  rw [isStale_obj, isDatable]
  cases timeOf? (.obj fields) with
  | none => exact ⟨false, rfl⟩
  | some n =>
      have hsize := Double.isSome_ofQuotient?_iff n (b := nanoseconds) (by decide)
      simp only [decide_eq_true_eq, ← hsize]
      cases Double.ofQuotient? n nanoseconds with
      | none => rfl
      | some seconds => exact ⟨_, rfl⟩

/-- One event: it is handed over unless its age cannot be computed, whatever becomes of it there. -/
theorem handle_recording (now : Num) (onEvent : Callback σ) (fields : List (String × Json)) (stream : EventStream)
    (calls : List Json) (outside : σ) :
    let alone := handle now onEvent (.obj fields) (stream, outside)
    handle now (recording onEvent) (.obj fields) (stream, calls, outside) =
        (alone.1, alone.2.1, calls ++ [Json.obj fields].takeWhile isDatable, alone.2.2) ∧
      alone.1 = if isDatable (.obj fields) then none else some .quotientTooLarge := by
  have hstale := isStale_spec (stream.count fun c => { c with events := c.events + 1 }) now fields
  unfold handle
  by_cases hdatable : isDatable (.obj fields)
  · rw [if_pos hdatable] at hstale
    obtain ⟨stale, hstale⟩ := hstale
    rw [if_pos hdatable, List.takeWhile_cons_of_pos hdatable]
    simp only [hstale, recording]
    generalize onEvent (.obj fields) _ = answer
    obtain ⟨_ | _, stream', outside'⟩ := answer <;> exact ⟨rfl, rfl⟩
  · rw [if_neg hdatable] at hstale
    rw [if_neg hdatable, List.takeWhile_cons_of_neg hdatable, List.append_nil]
    simp only [hstale, and_self]

/-- The values of a message: the events are handed over up to the first whose age cannot be computed. -/
theorem handleAll_recording (now : Num) (onEvent : Callback σ) (items : List Json) (stream : EventStream)
    (calls : List Json) (outside : σ) :
    let alone := handleAll now onEvent items (stream, outside)
    handleAll now (recording onEvent) items (stream, calls, outside) =
        (alone.1, alone.2.1, calls ++ (eventsAmong items).takeWhile isDatable, alone.2.2) ∧
      alone.1 = if (eventsAmong items).all isDatable then none else some .quotientTooLarge := by
  induction items generalizing stream calls outside with
  | nil => exact ⟨by rw [eventsAmong, List.takeWhile_nil, List.append_nil]; rfl, rfl⟩
  | cons item rest ih =>
      cases item with
      | obj fields =>
          obtain ⟨hone, hfault⟩ := handle_recording now onEvent fields stream calls outside
          rw [handleAll, handleAll, hone, eventsAmong]
          generalize handle now onEvent (.obj fields) (stream, outside) = answer at hfault
          obtain ⟨fault, stream', outside'⟩ := answer
          simp only at hfault ⊢
          by_cases hdatable : isDatable (.obj fields)
          · rw [if_pos hdatable] at hfault
            subst hfault
            rw [List.takeWhile_cons_of_pos hdatable, List.takeWhile_cons_of_pos hdatable, List.takeWhile_nil,
              List.all_cons, hdatable, Bool.true_and, List.append_cons calls _ (List.takeWhile _ _)]
            exact ih stream' (calls ++ [.obj fields]) outside'
          · rw [if_neg hdatable] at hfault
            subst hfault
            rw [List.takeWhile_cons_of_neg hdatable, List.takeWhile_cons_of_neg hdatable, List.all_cons,
              Bool.eq_false_of_not_eq_true hdatable]
            exact ⟨rfl, rfl⟩
      | _ => exact ih stream calls outside

/-- A message is taken to its end exactly if its integers can be read and the age of each of its events can be
computed. The callback has then been given all of its events once and in order; else those before the first whose age
cannot be computed. Neither depends on what the callback does. -/
theorem receive_hands_over (now : Num) (onEvent : Callback σ) (text : String) (stream : EventStream)
    (calls : List Json) (outside : σ) :
    let alone := receive now onEvent text (stream, outside)
    receive now (recording onEvent) text (stream, calls, outside) =
        (alone.1, alone.2.1, calls ++ (eventsOf text).takeWhile isDatable, alone.2.2) ∧
      (alone.1 = none ↔ HasReadableIntegers text ∧ ∀ event ∈ eventsOf text, isDatable event) := by
  have hnone : ∀ event ∈ ([] : List Json), isDatable event := fun event hmem => absurd hmem List.not_mem_nil
  unfold receive eventsOf HasReadableIntegers Json.decode
  cases Json.parse text with
  | ok value =>
      have hreadable : ∀ n, Except.ok value ≠ Except.error (Json.ParseError.tooManyDigits n) := nofun
      cases value with
      | arr items =>
          obtain ⟨hseen, hfault⟩ := handleAll_recording now onEvent items
            (stream.count fun c => { c with messages := c.messages + 1, lastMessage := some now }) calls outside
          refine ⟨hseen, ?_⟩
          simp only [hfault, hreadable, ne_eq, not_false_eq_true, implies_true, true_and, ← List.all_eq_true]
          split
          next hall => exact iff_of_true rfl hall
          next hbroken => exact iff_of_false nofun hbroken
      | _ => exact ⟨by rw [List.takeWhile_nil, List.append_nil], iff_of_true rfl ⟨hreadable, hnone⟩⟩
  | error e =>
      cases e with
      | tooManyDigits n =>
          exact ⟨by rw [List.takeWhile_nil, List.append_nil], iff_of_false nofun fun h => h.1 n rfl⟩
      | «at» complaint position =>
          exact ⟨by rw [List.takeWhile_nil, List.append_nil], iff_of_true rfl ⟨nofun, hnone⟩⟩

/-- A message whose first event has too large a time: none of its events is handed over. -/
theorem receive_of_first_too_late {text : String} {fields : List (String × Json)} {rest : List Json}
    (htext : Json.parse text = .ok (.arr (.obj fields :: rest))) {n : Int} (htime : timeOf? (.obj fields) = some n)
    (hlarge : Double.overflowBound * nanoseconds.natAbs ≤ n.natAbs) (now : Num) (onEvent : Callback σ)
    (stream : EventStream) (calls : List Json) (outside : σ) :
    let seen := receive now (recording onEvent) text (stream, calls, outside)
    eventsOf text = .obj fields :: eventsAmong rest ∧ seen.1 = some .quotientTooLarge ∧ seen.2.2.1 = calls := by
  have hdatable : isDatable (.obj fields) = false := by
    rw [isDatable, htime]
    exact decide_eq_false (Nat.not_lt.mpr hlarge)
  have hdecode : Json.decode text = .ok (.arr (.obj fields :: rest)) := by rw [Json.decode, htext]
  obtain ⟨hseen, hfault⟩ := handleAll_recording now onEvent (.obj fields :: rest)
    (stream.count fun c => { c with messages := c.messages + 1, lastMessage := some now }) calls outside
  rw [eventsAmong, List.takeWhile_cons_of_neg (Bool.eq_false_iff.mp hdatable), List.append_nil] at hseen
  rw [eventsAmong, List.all_cons, hdatable] at hfault
  unfold receive eventsOf
  rw [hdecode]
  simp only [hseen, and_true]
  exact ⟨rfl, hfault⟩

/-- Reading a text that is given by its characters. -/
theorem parse_ofList (cs : List Char) :
    Json.parse (String.ofList cs) =
      if cs.head? = some (Char.ofNat 0xfeff) then .error (.at .byteOrderMark 0)
      else (Json.readValue (cs.length + 1) (Json.Cursor.skipSpace ⟨cs, 0⟩)).bind fun (value, cur) =>
        if cur.skipSpace.rest.isEmpty then .ok value else .error (.at .extraData cur.skipSpace.position) := by
  rw [Json.parse, String.toList_ofList]
  rfl

/-- The time of an event that is written as a text of digits. -/
theorem timeOf?_text {n : Int} (h : Integer.isWritable n) :
    timeOf? (.obj [("block_timestamp_nanosec", .str (Text.intText n))]) = some n := by
  have hfield : (Json.obj [("block_timestamp_nanosec", .str (Text.intText n))]).fieldOrNull
      "block_timestamp_nanosec" = .ok (.str (Text.intText n)) := rfl
  have hread : (Json.str (Text.intText n)).integerOfText = .ok n := by
    rw [Json.integerOfText, Json.readInteger, Json.text, Integer.parse_intText h]
    rfl
  simp only [timeOf?, hfield, hread, Json.isNull]
  rfl

/-- A time of 319 digits. -/
def farTime : Int := 10 ^ 318

def farChars : List Char :=
  "[\x7b\"block_timestamp_nanosec\": \"1".toList ++ List.replicate 318 '0' ++ "\"\x7d, \x7b\x7d]".toList

/-- A message of an event at that time and of one without a time. -/
def farMessage : String := String.ofList farChars

/-- Whether a message was read as an event that has a time and nothing else, and an empty one. -/
def isTimedThenEmpty (time : String) : Except Json.ParseError Json → Bool
  | .ok (.arr [.obj [(key, .str text)], .obj []]) => key == "block_timestamp_nanosec" && text == time
  | _ => false

theorem eq_of_isTimedThenEmpty {time : String} {result : Except Json.ParseError Json}
    (h : isTimedThenEmpty time result) :
    result = .ok (.arr [.obj [("block_timestamp_nanosec", .str time)], .obj []]) := by
  unfold isTimedThenEmpty at h
  split at h
  next key text =>
    obtain ⟨hkey, htext⟩ := Bool.and_eq_true_iff.mp h
    rw [eq_of_beq hkey, eq_of_beq htext]
  · cases h

theorem parse_farMessage :
    Json.parse farMessage =
      .ok (.arr [.obj [("block_timestamp_nanosec", .str (Text.intText farTime))], .obj []]) := by
  apply eq_of_isTimedThenEmpty
  rewrite [show Json.parse farMessage = _ from parse_ofList farChars]
  decide +kernel

/-- The message has two events and breaks off at the first: neither is handed over. -/
theorem farMessage_breaks_off :
    let seen := receive (.int 0) (recording fun _ s => (true, s)) farMessage ({ url := "" }, [], ())
    (eventsOf farMessage).length = 2 ∧ seen.1 = some .quotientTooLarge ∧ seen.2.2.1 = [] := by
  have hwritable : Integer.isWritable farTime := Integer.isWritable_iff.mpr (by decide +kernel)
  obtain ⟨hevents, hseen⟩ := receive_of_first_too_late parse_farMessage (timeOf?_text hwritable) (by decide +kernel)
    (.int 0) (fun _ s => (true, s)) { url := "" } [] ()
  exact ⟨congrArg List.length hevents, hseen⟩

end ChainAlerts.EventStream
