import ChainAlerts.Proofs.BotTurns
import ChainAlerts.Proofs.EditRequests
import ChainAlerts.Proofs.FilterPredicates
import ChainAlerts.Proofs.Listings

/-! The calls on lists of filters, and a table of lists that is kept in memory. A call appends to the list of a chat,
removes from it or replaces in it, or is refused and changes nothing. The rows of a store are the written lists of the
table, and each call keeps that. -/

namespace ChainAlerts

/-- What a chat may ask about its list. -/
inductive FilterCall (filter : Type) where
  | add (f : filter)
  | remove (position : Int)
  | replace (position : Int) (f : filter)

inductive FilterAnswer (filter : Type) where
  | stored (filters : List filter)
  | removed (f : filter)

/-- The lists of all chats of all bots. -/
abbrev FilterTable (filter : Type) : Type := Int → Int → Option (List filter)

variable {log filter : Type} {kind : LogKind log filter}

def FilterTable.set (bot chat : Int) (filters : List filter) (t : FilterTable filter) : FilterTable filter :=
  fun otherBot otherChat => if otherBot = bot ∧ otherChat = chat then some filters else t otherBot otherChat

theorem FilterTable.set_self (bot chat : Int) (filters : List filter) (t : FilterTable filter) :
    t.set bot chat filters bot chat = some filters := if_pos ⟨rfl, rfl⟩

theorem FilterTable.set_of_ne {bot chat otherBot otherChat : Int} (h : ¬(otherBot = bot ∧ otherChat = chat))
    (filters : List filter) (t : FilterTable filter) :
    t.set bot chat filters otherBot otherChat = t otherBot otherChat :=
  if_neg h

theorem FilterTable.set_eq_self {bot chat : Int} {filters : List filter} {t : FilterTable filter}
    (h : t bot chat = some filters) : t.set bot chat filters = t := by
  funext otherBot otherChat
  by_cases hsame : otherBot = bot ∧ otherChat = chat
  · rw [hsame.1, hsame.2, set_self, h]
  · exact set_of_ne hsame filters t

namespace FilterCall

/-- A call of a bot. -/
def attempt (kind : LogKind log filter) (bot chat : Int) : FilterCall filter → FilterLists.Attempt (FilterAnswer filter)
  | add f => (FilterLists.add kind bot chat f).map (Except.map .stored)
  | remove position => (FilterLists.remove kind bot chat position).map (Except.map .removed)
  | replace position f => (FilterLists.replace kind bot chat position f).map (Except.map .stored)

/-- What a call answers and makes of a chat's list, if it is not refused. -/
def effect? (kind : LogKind log filter) (current : Option (List filter)) :
    FilterCall filter → Option (FilterAnswer filter × List filter)
  | add f =>
    if (kind.check f).isOk then some (.stored (current.getD [] ++ [f]), current.getD [] ++ [f]) else none
  | remove position =>
    if 0 ≤ position ∧ position < FilterLists.positionBound then
      current.bind fun filters =>
        filters[position.toNat]?.map fun f => (.removed f, filters.eraseIdx position.toNat)
    else none
  | replace position f =>
    if 0 ≤ position ∧ position < FilterLists.positionBound ∧ (kind.check f).isOk then
      current.bind fun filters =>
        if position.toNat < filters.length then
          some (.stored (filters.set position.toNat f), filters.set position.toNat f)
        else none
    else none

/-- What a call of a bot answers and makes of a chat's list. A number that is no key has no list. -/
def taken? (kind : LogKind log filter) (bot chat : Int) (call : FilterCall filter) (t : FilterTable filter) :
    Option (FilterAnswer filter × List filter) :=
  if Database.fits bot ∧ Database.fits chat then call.effect? kind (t bot chat) else none

/-- What a call makes of the table. -/
def after (kind : LogKind log filter) (bot chat : Int) (call : FilterCall filter) (t : FilterTable filter) :
    FilterTable filter :=
  match call.taken? kind bot chat t with
  | some (_, filters) => t.set bot chat filters
  | none => t

/-- A filter that is given with a call is as its type has it. -/
def Typed (m : kind.Meaning) : FilterCall filter → Prop
  | add f | replace _ f => m.Typed f
  | remove _ => True

end FilterCall

/-- Two lists of filters are written alike only if they are the same. -/
theorem LogKind.alike_writeFilters (m : kind.Meaning) {filters others : List filter} (h : ∀ f ∈ filters, m.Typed f)
    (h' : ∀ f ∈ others, m.Typed f) :
    (kind.writeFilters filters).alike (kind.writeFilters others) ↔ filters = others := by
  have hitems := Json.alike_arr fun f hf g hg => m.alike_iff (h f hf) (h' g hg)
  simp [LogKind.writeFilters, Json.alike_obj, Assoc.keys, hitems]

namespace FilterLists

open Store

variable {m : kind.Meaning} {bot chat : Int} {t : FilterTable filter} {db : Database} {shelf : Shelf}

/-- What the row of a chat reads as. -/
def listOf (kind : LogKind log filter) (bot chat : Int) (db : Database) : Except StoreFailure (Option (List filter)) :=
  (store kind bot).record? chat (db.get (store kind bot).codec.collection (store kind bot).bot chat)

theorem run_put {filters : List filter} {database : Database}
    (hput : shelf.database.put kind.collection bot chat (kind.writeFilters filters) = .ok database) :
    (store kind bot).runAlone ((store kind bot).put chat filters) shelf = (.ok (), { shelf with database }) := by
  have hanswer : answer (store kind bot).codec.collection (store kind bot).bot
      (.write chat (kind.writeFilters filters)) shelf = (.ok (), { shelf with database }) := answer_write_ok hput
  have hencode : (store kind bot).codec.encode filters = .ok (kind.writeFilters filters) := rfl
  rw [runAlone, Store.put, hencode]
  simp only [Task.run, hanswer]
  rfl

/-- An edit alone, step by step. -/
theorem run_edit {α : Type} (default : Option (List filter))
    (change : List filter → Except FilterError (List filter × α)) (shelf : Shelf) :
    (store kind bot).runAlone (edit kind bot chat default change) shelf =
      match listOf kind bot chat shelf.database with
      | .error cause => (.error (.store cause), shelf)
      | .ok found =>
        match found.or default with
        | none => (.error (.noRecord chat), shelf)
        | some current =>
          match change current with
          | .error cause => (.error cause, shelf)
          | .ok (updated, extra) =>
            match (store kind bot).runAlone ((store kind bot).put chat updated) shelf with
            | (.error cause, shelf') => (.error (.store cause), shelf')
            | (.ok _, shelf') => (.ok (updated, extra), shelf') := by
  have hedit := Store.run_edit (store kind bot) chat default change shelf
  rw [← listOf] at hedit
  rw [runAlone] at hedit ⊢
  rw [edit, Task.run_ifOk, Task.run_map, hedit]
  cases listOf kind bot chat shelf.database with
  | error cause => rfl
  | ok found =>
      simp only
      cases found.or default with
      | none => rfl
      | some current =>
          simp only
          cases change current with
          | error cause => rfl
          | ok result =>
              obtain ⟨updated, extra⟩ := result
              simp only
              cases (store kind bot).runAlone ((store kind bot).put chat updated) shelf with
              | mk outcome shelf' => cases outcome <;> rfl

theorem runAlone_map {α β : Type} (attempt : Attempt α) (f : α → β) (shelf : Shelf) :
    (store kind bot).runAlone (attempt.map (Except.map f)) shelf =
      ((store kind bot).runAlone attempt shelf).map (Except.map f) id := by
  rw [runAlone, Task.run_map]
  rfl

/-- The filters that can be stored. -/
def Storable (m : kind.Meaning) (f : filter) : Prop := m.Typed f ∧ kind.check f = .ok ()

/-- The rows of a store that works are the written lists of a table, each filter of which can be stored. -/
structure Stored (m : kind.Meaning) (t : FilterTable filter) (db : Database) : Prop where
  works : db.failure = none
  hasTable : db.hasSchema
  ascending : ∀ bot, (db.records kind.collection bot).Ascending
  rows : ∀ bot chat, Records.get? chat (db.records kind.collection bot) = (t bot chat).map kind.writeFilters
  storable : ∀ bot chat filters, t bot chat = some filters → ∀ f ∈ filters, Storable m f

namespace Stored

theorem read (h : Stored m t db) {filters : List filter} (hlist : t bot chat = some filters) :
    kind.readFilters (kind.writeFilters filters) = .ok filters :=
  LogKind.readFilters_writeFilters fun f hf => m.read_write (h.storable bot chat filters hlist f hf).1

theorem listOf_eq (h : Stored m t db) (hbot : Database.fits bot) (hchat : Database.fits chat) :
    listOf kind bot chat db = .ok (t bot chat) := by
  have hserves : db.Serves bot := ⟨h.works, h.hasTable, hbot⟩
  have hget : db.get (store kind bot).codec.collection (store kind bot).bot chat =
      .ok ((t bot chat).map kind.writeFilters) := by
    change db.get kind.collection bot chat = _
    rw [Database.get, hserves.begin, ← h.rows]
    simp [hchat]
  rw [listOf, hget]
  cases hlist : t bot chat with
  | none => rfl
  | some filters =>
      have hdecode : (store kind bot).codec.decode (kind.writeFilters filters) = .ok filters := h.read hlist
      simp only [Option.map_some, record?, Store.decode, hdecode]
      rfl

theorem listOf_of_not_fits (h : Stored m t db) (hunfit : ¬(Database.fits bot ∧ Database.fits chat)) :
    listOf kind bot chat db = .error (.fault .rowKeyTooLarge) := by
  have hbegin : db.begin [bot, chat] = .error (.fault .rowKeyTooLarge) := by
    simp only [Database.begin, h.works, h.hasTable, List.all_cons, List.all_nil, Bool.and_true, Bool.and_eq_true]
    rw [if_neg hunfit]
    rfl
  have hget : db.get (store kind bot).codec.collection (store kind bot).bot chat =
      .error (.fault .rowKeyTooLarge) := by
    change db.get kind.collection bot chat = _
    rw [Database.get, hbegin]
    rfl
  rw [listOf, hget]
  rfl

/-- The list of a chat as it is stored. -/
theorem get (h : Stored m t shelf.database) (hbot : Database.fits bot) (hchat : Database.fits chat) :
    (store kind bot).runAlone (FilterLists.get kind bot chat) shelf = (.ok (t bot chat), shelf) := by
  rw [runAlone, FilterLists.get, Task.run_map]
  simp only [Store.get, Task.run, answer]
  rw [← listOf, h.listOf_eq hbot hchat]
  rfl

/-- Another row for one chat is another list in the table. -/
theorem withRow (h : Stored m t db) (bot chat : Int) {filters : List filter}
    (hfilters : ∀ f ∈ filters, Storable m f) :
    Stored m (t.set bot chat filters) (db.withRecords kind.collection bot
      ((db.records kind.collection bot).put chat (kind.writeFilters filters))) where
  works := h.works
  hasTable := h.hasTable
  ascending := by
    intro other
    by_cases hother : other = bot
    · rw [hother, Database.records_withRecords]
      exact (h.ascending bot).put
    · rw [Database.records_withRecords_of_ne fun heq => hother heq.2]
      exact h.ascending other
  rows := by
    intro other otherChat
    by_cases hother : other = bot
    · rw [hother, Database.records_withRecords]
      by_cases hsame : otherChat = chat
      · rw [hsame, Records.get?_put_self, FilterTable.set_self]
        rfl
      · rw [Records.get?_put_of_ne hsame, FilterTable.set_of_ne fun heq => hsame heq.2]
        exact h.rows bot otherChat
    · rw [Database.records_withRecords_of_ne fun heq => hother heq.2, FilterTable.set_of_ne fun heq => hother heq.1]
      exact h.rows other otherChat
  storable := by
    intro other otherChat others hlist
    by_cases hsame : other = bot ∧ otherChat = chat
    · rw [hsame.1, hsame.2, FilterTable.set_self] at hlist
      exact Option.some.inj hlist ▸ hfilters
    · rw [FilterTable.set_of_ne hsame] at hlist
      exact h.storable other otherChat others hlist

theorem put (h : Stored m t db) (hbot : Database.fits bot) (hchat : Database.fits chat) {filters : List filter}
    (hfilters : ∀ f ∈ filters, Storable m f) :
    ∃ db', db.put kind.collection bot chat (kind.writeFilters filters) = .ok db' ∧
      Stored m (t.set bot chat filters) db' := by
  have hbegin : db.begin [bot, chat] = .ok () := by
    rw [Database.Serves.begin ⟨h.works, h.hasTable, hbot⟩]
    simp [hchat]
  have hput : db.put kind.collection bot chat (kind.writeFilters filters) = .ok (
      if Database.isStored (db.records kind.collection bot) chat (kind.writeFilters filters) then db
      else db.withRecords kind.collection bot
        ((db.records kind.collection bot).put chat (kind.writeFilters filters))) := Database.put_obj hbegin
  by_cases hstored : Database.isStored (db.records kind.collection bot) chat (kind.writeFilters filters)
  · -- what is stored says the same, so that it is the same list
    have hsame : t bot chat = some filters := by
      rw [Database.isStored, h.rows] at hstored
      cases hlist : t bot chat with
      | none =>
          rw [hlist] at hstored
          cases hstored
      | some old =>
          rw [hlist] at hstored
          have hold : ∀ f ∈ old, m.Typed f := fun f hf => (h.storable bot chat old hlist f hf).1
          rw [(LogKind.alike_writeFilters m (fun f hf => (hfilters f hf).1) hold).mp hstored]
    refine ⟨db, hput.trans (by rw [if_pos hstored]), ?_⟩
    rw [FilterTable.set_eq_self hsame]
    exact h
  · exact ⟨_, hput.trans (by rw [if_neg hstored]), h.withRow bot chat hfilters⟩

end Stored

theorem except_toOption_map {ε α β : Type} (f : α → β) (x : Except ε α) : (x.map f).toOption = x.toOption.map f := by
  cases x <;> rfl

theorem toOption_removeAt (position : Int) (filters : List filter) : (removeAt position filters).toOption =
    if position < positionBound then filters[position.toNat]?.map fun f => (filters.eraseIdx position.toNat, f)
    else none := by
  rw [removeAt]
  by_cases hbound : positionBound ≤ position
  · rw [if_pos hbound, if_neg (Int.not_lt.mpr hbound)]
    rfl
  · rw [if_neg hbound, if_pos (Int.not_le.mp hbound)]
    cases filters with
    | nil => rfl
    | cons first rest =>
        rw [if_neg (by simp)]
        cases (first :: rest)[position.toNat]? <;> rfl

theorem toOption_replaceAt (position : Int) (f : filter) (filters : List filter) :
    (replaceAt position f filters).toOption =
      if position < positionBound ∧ position.toNat < filters.length then some (filters.set position.toNat f)
      else none := by
  rw [replaceAt]
  by_cases hbound : positionBound ≤ position
  · rw [if_pos hbound, if_neg fun hin => Int.not_lt.mpr hbound hin.1]
    rfl
  · rw [if_neg hbound]
    by_cases hin : position.toNat < filters.length
    · rw [if_pos hin, if_pos ⟨Int.not_le.mp hbound, hin⟩]
      rfl
    · rw [if_neg hin, if_neg fun h => hin h.2]
      rfl

theorem mem_of_removeAt {position : Int} {filters : List filter} {r : List filter × filter}
    (h : removeAt position filters = .ok r) {g : filter} (hg : g ∈ r.1) : g ∈ filters := by
  have hremoved := toOption_removeAt position filters
  rw [h] at hremoved
  split at hremoved
  · obtain ⟨f, -, hr⟩ := Option.map_eq_some_iff.mp hremoved.symm
    rw [← hr] at hg
    exact List.mem_of_mem_eraseIdx hg
  · cases hremoved

theorem mem_of_replaceAt {position : Int} {f : filter} {filters updated : List filter}
    (h : replaceAt position f filters = .ok updated) {g : filter} (hg : g ∈ updated) : g ∈ filters ∨ g = f := by
  have hreplaced := toOption_replaceAt position f filters
  rw [h] at hreplaced
  split at hreplaced
  · rw [Option.some.inj hreplaced] at hg
    exact List.mem_or_eq_of_mem_set hg
  · cases hreplaced

/-- What an edit makes of a list, if there is one to start from and the change does not refuse it. -/
def changed? {α : Type} (default : Option (List filter)) (change : List filter → Except FilterError (List filter × α))
    (current : Option (List filter)) : Option (List filter × α) :=
  (current.or default).bind fun filters => (change filters).toOption

/-- What calls are: refusals, and edits that do to a list what the call does. -/
inductive Form (m : kind.Meaning) (bot chat : Int) (call : FilterCall filter) :
    Attempt (FilterAnswer filter) → Prop where
  | refusal (cause : FilterError) (effect : ∀ current, call.effect? kind current = none) :
    Form m bot chat call (.done (.error cause))
  | edit {α β : Type} (default : Option (List filter)) (change : List filter → Except FilterError (List filter × α))
    (pick : List filter × α → β) (answer : β → FilterAnswer filter) (empty : ∀ filters ∈ default, filters = [])
    (effect : ∀ current, call.effect? kind current =
      (changed? default change current).map fun r => (answer (pick r), r.1))
    (keeps : ∀ filters r, change filters = .ok r → (∀ f ∈ filters, Storable m f) → ∀ f ∈ r.1, Storable m f) :
    Form m bot chat call (((FilterLists.edit kind bot chat default change).map (Except.map pick)).map
      (Except.map answer))

theorem form_add {f : filter} (hf : m.Typed f) :
    Form m bot chat (.add f) ((FilterCall.add f).attempt kind bot chat) := by
  rw [FilterCall.attempt, FilterLists.add]
  cases hcheck : kind.check f with
  | error cause =>
      refine .refusal _ fun current => ?_
      rw [FilterCall.effect?, hcheck]
      rfl
  | ok u =>
      refine .edit (some []) (fun fs => .ok (fs ++ [f], ())) (·.1) .stored (by simp) ?_ ?_
      · intro current
        rw [FilterCall.effect?, hcheck]
        cases current <;> rfl
      · intro filters r hr hstorable g hg
        obtain rfl := Except.ok.inj hr
        rcases List.mem_append.mp hg with hold | hnew
        · exact hstorable g hold
        · exact List.mem_singleton.mp hnew ▸ ⟨hf, hcheck⟩

theorem form_remove (position : Int) :
    Form m bot chat (.remove position) ((FilterCall.remove position).attempt kind bot chat) := by
  rw [FilterCall.attempt, FilterLists.remove, checkPosition]
  by_cases hnegative : position < 0
  · rw [if_pos hnegative]
    exact .refusal _ fun _ => if_neg fun hin => Int.not_lt.mpr hin.1 hnegative
  · rw [if_neg hnegative]
    refine .edit none (removeAt position) (·.2) .removed (by simp) ?_ ?_
    · intro current
      simp only [FilterCall.effect?, changed?, toOption_removeAt, Int.not_lt.mp hnegative, true_and, Option.or_none]
      cases current <;> by_cases hbound : position < positionBound <;> simp [hbound, Function.comp_def]
    · exact fun filters r hr hstorable g hg => hstorable g (mem_of_removeAt hr hg)

theorem form_replace (position : Int) {f : filter} (hf : m.Typed f) :
    Form m bot chat (.replace position f) ((FilterCall.replace position f).attempt kind bot chat) := by
  rw [FilterCall.attempt, FilterLists.replace, checkPosition]
  by_cases hnegative : position < 0
  · rw [if_pos hnegative]
    exact .refusal _ fun _ => if_neg fun hin => Int.not_lt.mpr hin.1 hnegative
  · rw [if_neg hnegative]
    cases hcheck : kind.check f with
    | error cause =>
        refine .refusal _ fun current => ?_
        rw [FilterCall.effect?, hcheck]
        exact if_neg fun hin => Bool.false_ne_true hin.2.2
    | ok u =>
        refine .edit none (fun fs => (replaceAt position f fs).map fun fs => (fs, ())) (·.1) .stored (by simp) ?_ ?_
        · intro current
          have hchecked : (kind.check f).isOk = true := by
            rw [hcheck]
            rfl
          simp only [FilterCall.effect?, changed?, except_toOption_map, toOption_replaceAt, Int.not_lt.mp hnegative,
            hchecked, true_and, and_true, Option.or_none]
          cases current <;> by_cases hbound : position < positionBound <;> simp [hbound]
        · intro filters r hr hstorable g hg
          obtain ⟨updated, hreplaced, rfl⟩ := except_map_eq_ok.mp hr
          rcases mem_of_replaceAt hreplaced hg with hold | rfl
          · exact hstorable g hold
          · exact ⟨hf, hcheck⟩

theorem form_attempt (bot chat : Int) {call : FilterCall filter} (htyped : call.Typed m) :
    Form m bot chat call (call.attempt kind bot chat) := by
  cases call with
  | add f => exact form_add htyped
  | remove position => exact form_remove position
  | replace position f => exact form_replace position htyped

/-- What a call comes to that runs alone: it is refused and changes nothing, or it answers what the table says and its
list is stored. -/
inductive Outcome (m : kind.Meaning) (t : FilterTable filter) (bot chat : Int) (call : FilterCall filter)
    (shelf : Shelf) : Except FilterError (FilterAnswer filter) × Shelf → Prop where
  | refused (cause : FilterError) (taken : call.taken? kind bot chat t = none) :
    Outcome m t bot chat call shelf (.error cause, shelf)
  | answered {answer : FilterAnswer filter} {filters : List filter} {database : Database}
    (taken : call.taken? kind bot chat t = some (answer, filters))
    (stored : Stored m (t.set bot chat filters) database) :
    Outcome m t bot chat call shelf (.ok answer, { shelf with database })

namespace Stored

/-- An edit writes what the change makes of the list, if it does not refuse it. -/
theorem run_change {α : Type} (h : Stored m t shelf.database) (hbot : Database.fits bot) (hchat : Database.fits chat)
    {default : Option (List filter)} (hempty : ∀ filters ∈ default, filters = [])
    {change : List filter → Except FilterError (List filter × α)}
    (hkeeps : ∀ filters r, change filters = .ok r → (∀ f ∈ filters, Storable m f) → ∀ f ∈ r.1, Storable m f) :
    match changed? default change (t bot chat) with
    | none => ∃ cause, (store kind bot).runAlone (edit kind bot chat default change) shelf = (.error cause, shelf)
    | some r => ∃ database, Stored m (t.set bot chat r.1) database ∧
        (store kind bot).runAlone (edit kind bot chat default change) shelf = (.ok r, { shelf with database }) := by
  rw [run_edit, h.listOf_eq hbot hchat, changed?]
  simp only
  cases hcurrent : (t bot chat).or default with
  | none => exact ⟨_, rfl⟩
  | some current =>
      simp only [Option.bind_some]
      cases hresult : change current with
      | error cause => exact ⟨_, rfl⟩
      | ok r =>
          have hcurrently : ∀ f ∈ current, Storable m f := by
            rcases Option.or_eq_some_iff.mp hcurrent with hlist | ⟨-, hdefault⟩
            · exact h.storable bot chat current hlist
            · simp [hempty current hdefault]
          obtain ⟨database, hput, hstored⟩ := h.put hbot hchat (hkeeps current r hresult hcurrently)
          refine ⟨database, hstored, ?_⟩
          simp only [run_put hput]

/-- Each call comes to what the table says. -/
theorem call_outcome (h : Stored m t shelf.database) (bot chat : Int) {call : FilterCall filter}
    (htyped : call.Typed m) :
    Outcome m t bot chat call shelf ((store kind bot).runAlone (call.attempt kind bot chat) shelf) := by
  have hform := form_attempt bot chat htyped
  generalize call.attempt kind bot chat = attempt at hform
  cases hform with
  | refusal cause hcall =>
      refine .refused cause ?_
      rw [FilterCall.taken?, hcall, ite_self]
  | edit default change pick answer hempty hcall hkeeps =>
      rw [runAlone_map, runAlone_map]
      by_cases hfits : Database.fits bot ∧ Database.fits chat
      · have hrun := h.run_change hfits.1 hfits.2 hempty hkeeps
        have htaken : call.taken? kind bot chat t = (changed? default change (t bot chat)).map fun r =>
            (answer (pick r), r.1) := (if_pos hfits).trans (hcall _)
        cases hchanged : changed? default change (t bot chat) with
        | none =>
            rw [hchanged] at hrun htaken
            obtain ⟨cause, hrun⟩ := hrun
            rw [hrun]
            exact .refused cause htaken
        | some r =>
            rw [hchanged] at hrun htaken
            obtain ⟨database, hstored, hrun⟩ := hrun
            rw [hrun]
            exact .answered htaken hstored
      · rw [run_edit, h.listOf_of_not_fits hfits]
        exact .refused _ (if_neg hfits)

end Stored

end FilterLists

end ChainAlerts
