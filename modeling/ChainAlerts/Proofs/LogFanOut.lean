import Mathlib.Data.List.Sort
import ChainAlerts.LogAlerts
import ChainAlerts.Proofs.FilterCalls

/-! Who hears of a log. It is handed to the lists bot by bot, and for each bot in ascending order of the chats. Every
filter of a list that the log meets starts a delivery of its own. A list with a filter that cannot be tried ends the
handling: nothing is started for its chat and for the lists behind it. -/

namespace ChainAlerts

variable {log filter : Type} {kind : LogKind log filter} {m : kind.Meaning} {entry : log} {fault : Option Fault}
  {spawns : List Spawn}

/-- Filters cannot be matched with a log exactly if one of them cannot be tried on it. -/
theorem LogKind.matching_fails_iff (m : kind.Meaning) (entry : log) (filters : List filter) :
    (∃ fault, kind.matching filters entry = .error fault) ↔ ∃ f ∈ filters, m.Stumbles f entry := by
  have hacc : ∀ acc, (∃ fault, List.filterAuxM (kind.accepts · entry) filters acc = .error fault) ↔
      ∃ f ∈ filters, m.Stumbles f entry := by
    induction filters with
    | nil => simp [List.filterAuxM, pure, Except.pure]
    | cons f rest ih =>
        intro acc
        rw [List.filterAuxM, List.exists_mem_cons_iff, ← m.stumbles_iff]
        cases kind.accepts f entry with
        | error fault => exact iff_of_true ⟨fault, rfl⟩ (Or.inl ⟨fault, rfl⟩)
        | ok b =>
            rw [except_ok_bind, ih]
            simp
  rw [matching, List.filterM, ← hacc []]
  cases List.filterAuxM (kind.accepts · entry) filters [] with
  | error fault => exact iff_of_true ⟨fault, rfl⟩ ⟨fault, rfl⟩
  | ok found => exact iff_of_false (by simp [pure, Except.pure]) (by simp)

/-- Filters that can be stored and tried on a log are matched with it if it meets them. -/
theorem LogKind.matching_eq (m : kind.Meaning) {filters : List filter} (h : ∀ f ∈ filters, FilterLists.Storable m f)
    (htried : ∀ f ∈ filters, ¬m.Stumbles f entry) :
    kind.matching filters entry = .ok (filters.filter (m.Meets · entry)) := by
  have hacc : ∀ acc, List.filterAuxM (kind.accepts · entry) filters acc =
      .ok ((filters.filter (m.Meets · entry)).reverse ++ acc) := by
    induction filters with
    | nil => exact fun acc => rfl
    | cons f rest ih =>
        intro acc
        obtain ⟨⟨-, hcheck⟩, hrest⟩ := List.forall_mem_cons.mp h
        obtain ⟨hfirst, hothers⟩ := List.forall_mem_cons.mp htried
        rw [List.filterAuxM, m.accepts_eq hcheck hfirst, except_ok_bind, ih hrest hothers]
        by_cases hmeets : m.Meets f entry <;> simp [hmeets]
  rw [matching, List.filterM, hacc, except_ok_bind, List.append_nil, List.reverse_reverse]
  rfl

/-- A list of filters with the bot and the chat that have it. -/
structure Listed (filter : Type) where
  bot : Int
  chat : Int
  filters : List filter

namespace Listed

/-- A list that a log cannot be handed to. -/
def Stumbles (m : kind.Meaning) (entry : log) (l : Listed filter) : Prop := ∃ f ∈ l.filters, m.Stumbles f entry

/-- The deliveries of a log to a chat: one for each filter that the log meets. -/
def notices (m : kind.Meaning) (entry : log) (l : Listed filter) : List Spawn :=
  (l.filters.filter (m.Meets · entry)).map fun _ => ⟨l.bot, l.chat, .ready (kind.notification l.chat entry)⟩

end Listed

/-- What handing a log to lists in order comes to: all of them are served, or those before the first that the log cannot
be handed to. -/
inductive Served (m : kind.Meaning) (entry : log) : List (Listed filter) → Option Fault → List Spawn → Prop where
  | all {ls : List (Listed filter)} (tried : ∀ l ∈ ls, ¬l.Stumbles m entry) :
    Served m entry ls none (ls.flatMap (·.notices m entry))
  | upTo {ls rest : List (Listed filter)} {l : Listed filter} (tried : ∀ l ∈ ls, ¬l.Stumbles m entry)
    (stumbles : l.Stumbles m entry) (fault : Fault) :
    Served m entry (ls ++ l :: rest) (some fault) (ls.flatMap (·.notices m entry))

namespace Served

variable {ls others : List (Listed filter)}

/-- Lists that are all served, before others. -/
theorem before (h : Served m entry others fault spawns) (hls : ∀ l ∈ ls, ¬l.Stumbles m entry) :
    Served m entry (ls ++ others) fault (ls.flatMap (·.notices m entry) ++ spawns) := by
  have htried : ∀ {more : List (Listed filter)}, (∀ l ∈ more, ¬l.Stumbles m entry) →
      ∀ l ∈ ls ++ more, ¬l.Stumbles m entry := fun hmore => List.forall_mem_append.mpr ⟨hls, hmore⟩
  cases h with
  | all hothers =>
      rw [← List.flatMap_append]
      exact .all (htried hothers)
  | upTo hothers hstumbles cause =>
      rw [← List.flatMap_append, ← List.append_assoc]
      exact .upTo (htried hothers) hstumbles cause

/-- The lists after one that ends the handling are not served. -/
theorem append {cause : Fault} (h : Served m entry ls (some cause) spawns) (others : List (Listed filter)) :
    Served m entry (ls ++ others) (some cause) spawns := by
  cases h with
  | upTo htried hstumbles =>
      rw [List.append_assoc, List.cons_append]
      exact .upTo htried hstumbles cause

/-- Without a fault all lists are served. -/
theorem of_none (h : Served m entry ls none spawns) :
    (∀ l ∈ ls, ¬l.Stumbles m entry) ∧ spawns = ls.flatMap (·.notices m entry) := by
  cases h with
  | all htried => exact ⟨htried, rfl⟩

/-- If no filter stumbles, all lists are served. -/
theorem eq_all (h : Served m entry ls fault spawns) (htried : ∀ l ∈ ls, ¬l.Stumbles m entry) :
    fault = none ∧ spawns = ls.flatMap (·.notices m entry) := by
  cases h with
  | all => exact ⟨rfl, rfl⟩
  | upTo _ hstumbles => exact absurd hstumbles (htried _ (by simp))

/-- If the log cannot be handed to the first list, nothing is started. -/
theorem eq_nil {l : Listed filter} (h : Served m entry (l :: others) fault spawns) (hstumbles : l.Stumbles m entry) :
    (∃ cause, fault = some cause) ∧ spawns = [] := by
  generalize hls : l :: others = ls at h
  cases h with
  | all htried => exact absurd hstumbles (htried l (hls ▸ List.mem_cons_self))
  | @upTo before _ _ htried _ cause =>
      cases before with
      | nil => exact ⟨⟨cause, rfl⟩, rfl⟩
      | cons first rest =>
          obtain ⟨rfl, -⟩ := List.cons.inj hls
          exact absurd hstumbles (htried l List.mem_cons_self)

end Served

/-- The lists of a table in the order in which a log is handed to them. -/
inductive FilterTable.InOrder (t : FilterTable filter) : List Int → List (Listed filter) → Prop where
  | nil : InOrder t [] []
  | cons {bot : Int} {bots : List Int} {entries : List (Int × List filter)} {rest : List (Listed filter)}
    (ascending : entries.Pairwise (·.1 < ·.1))
    (complete : ∀ chat filters, (chat, filters) ∈ entries ↔ t bot chat = some filters) (others : InOrder t bots rest) :
    InOrder t (bot :: bots) (entries.map (fun e => ⟨bot, e.1, e.2⟩) ++ rest)

/-- There is one such order. -/
theorem FilterTable.InOrder.unique {t : FilterTable filter} {bots : List Int} {ls others : List (Listed filter)}
    (h : t.InOrder bots ls) (h' : t.InOrder bots others) : ls = others := by
  induction h generalizing others with
  | nil =>
      cases h' with
      | nil => rfl
  | cons hascending hcomplete _ ih =>
      cases h' with
      | cons hascending' hcomplete' hothers' =>
          have hsame := hascending.eq_of_mem_iff hascending' fun e =>
            (hcomplete e.1 e.2).trans (hcomplete' e.1 e.2).symm
          rw [hsame, ih hothers']

/-- What is handed out is what the table lists. -/
theorem FilterTable.InOrder.listed {t : FilterTable filter} {bots : List Int} {ls : List (Listed filter)}
    (h : t.InOrder bots ls) {l : Listed filter} (hl : l ∈ ls) : t l.bot l.chat = some l.filters := by
  induction h with
  | nil => cases hl
  | cons hascending hcomplete _ ih =>
      rcases List.mem_append.mp hl with hl | hl
      · obtain ⟨e, he, rfl⟩ := List.mem_map.mp hl
        exact (hcomplete e.1 e.2).mp he
      · exact ih hl

namespace LogAlerts

open FilterLists

variable {t : FilterTable filter} {db : Database} {bot : Int}

/-- The lists of a bot are those of the table, in ascending order of the chats. -/
theorem lists_of_stored (h : Stored m t db) (hbot : Database.fits bot) :
    ∃ entries, lists kind bot db = .ok entries ∧ entries.Pairwise (·.1 < ·.1) ∧
      ∀ chat filters, (chat, filters) ∈ entries ↔ t bot chat = some filters := by
  let s := store kind bot
  have hlist : db.list s.codec.collection bot = .ok (db.records kind.collection bot) := by
    have hserves : db.Serves bot := ⟨h.works, h.hasTable, hbot⟩
    rw [Database.list, hserves.begin]
    rfl
  have hrow : ∀ chat payload, (chat, payload) ∈ db.records kind.collection bot ↔
      ∃ filters, t bot chat = some filters ∧ kind.writeFilters filters = payload := by
    intro chat payload
    rw [← (h.ascending bot).get?_eq_some_iff, h.rows, Option.map_eq_some_iff]
  have hread : ∀ {chat filters}, t bot chat = some filters →
      s.decode chat (kind.writeFilters filters) = .ok filters := by
    intro chat filters hfilters
    have hdecode : s.codec.decode (kind.writeFilters filters) = .ok filters := h.read hfilters
    rw [Store.decode, hdecode]
  have hreadable : ∀ row ∈ db.records kind.collection bot, ∃ r, s.decode row.1 row.2 = .ok r := by
    intro row hmem
    obtain ⟨filters, hfilters, hpayload⟩ := (hrow row.1 row.2).mp hmem
    exact ⟨filters, hpayload ▸ hread hfilters⟩
  obtain ⟨entries, hentries⟩ := s.exists_records_iff.mpr hreadable
  refine ⟨entries, ?_, ?_, fun chat filters => ?_⟩
  · rw [lists, hlist]
    exact hentries
  · have hchats : (db.records kind.collection bot).map (·.1) = entries.map (·.1) := by
      have hpairs := (s.forall₂_records hentries).imp fun _ _ hpair => hpair.1.symm
      rw [← List.forall₂_eq_eq_eq, List.forall₂_map_left_iff, List.forall₂_map_right_iff]
      exact hpairs
    have hascending := List.pairwise_map.mpr (h.ascending bot)
    rw [hchats] at hascending
    exact List.pairwise_map.mp hascending
  · rw [s.mem_records hentries]
    constructor
    · rintro ⟨payload, hmem, hdecoded⟩
      obtain ⟨stored, hstored, rfl⟩ := (hrow chat payload).mp hmem
      rw [hread hstored] at hdecoded
      rw [hstored, Except.ok.inj hdecoded]
    · intro hfilters
      exact ⟨_, (hrow chat _).mpr ⟨filters, hfilters, rfl⟩, hread hfilters⟩

theorem served_spawnsForAll {entries : List (Int × List filter)}
    (h : ∀ e ∈ entries, ∀ f ∈ e.2, Storable m f) :
    Served m entry (entries.map fun e => ⟨bot, e.1, e.2⟩) (spawnsForAll kind bot entry entries).2
      (spawnsForAll kind bot entry entries).1 := by
  induction entries with
  | nil => exact .all (by simp)
  | cons e rest ih =>
      obtain ⟨hfirst, hrest⟩ := List.forall_mem_cons.mp h
      rw [spawnsForAll, spawnsFor]
      by_cases hstumbles : Listed.Stumbles m entry ⟨bot, e.1, e.2⟩
      · have hnone : ∀ l ∈ ([] : List (Listed filter)), ¬l.Stumbles m entry := by simp
        obtain ⟨fault, hmatching⟩ := (kind.matching_fails_iff m entry e.2).mpr hstumbles
        rw [hmatching]
        exact .upTo hnone hstumbles fault
      · have hfirst' : ∀ l ∈ [(⟨bot, e.1, e.2⟩ : Listed filter)], ¬l.Stumbles m entry := by
          simpa using hstumbles
        have hmatching := kind.matching_eq m hfirst fun f hf hs => hstumbles ⟨f, hf, hs⟩
        have hserved := (ih hrest).before hfirst'
        rw [List.flatMap_singleton] at hserved
        rw [hmatching]
        exact hserved

/-- Handing a log to bots serves their lists, and each delivery that is started is counted. -/
theorem served_handleFor (h : Stored m t db) {bots : List Int} (hbots : ∀ bot ∈ bots, Database.fits bot)
    (l : LogAlerts) :
    ∃ ls fault spawns, t.InOrder bots ls ∧ Served m entry ls fault spawns ∧
      handleFor kind db entry bots l = ((fault, spawns), { l with dispatched := l.dispatched + spawns.length }) := by
  induction bots generalizing l with
  | nil => exact ⟨[], none, [], .nil, .all (by simp), rfl⟩
  | cons bot rest ih =>
      obtain ⟨hfirst, hrest⟩ := List.forall_mem_cons.mp hbots
      obtain ⟨entries, hlists, hascending, hcomplete⟩ := lists_of_stored h hfirst
      have hserved : Served m entry (entries.map fun e => ⟨bot, e.1, e.2⟩) (spawnsForAll kind bot entry entries).2
          (spawnsForAll kind bot entry entries).1 :=
        served_spawnsForAll fun e he => h.storable bot e.1 e.2 ((hcomplete e.1 e.2).mp he)
      rw [handleFor, hlists]
      simp only
      generalize spawnsForAll kind bot entry entries = own at hserved
      obtain ⟨own, fault⟩ := own
      obtain ⟨others, fault', more, hinOrder, hothers, hrun⟩ :=
        ih hrest { l with dispatched := l.dispatched + own.length }
      cases fault with
      | some cause => exact ⟨_, some cause, own, .cons hascending hcomplete hinOrder, hserved.append others, rfl⟩
      | none =>
          refine ⟨_, fault', own ++ more, .cons hascending hcomplete hinOrder, ?_, ?_⟩
          · obtain ⟨htried, rfl⟩ := hserved.of_none
            exact hothers.before htried
          · simp only [hrun, List.length_append, Nat.add_assoc]

/-- One more log, and deliveries that were started for it. -/
def counted (spawns : List Spawn) (l : LogAlerts) : LogAlerts :=
  { l with events := l.events + 1, dispatched := l.dispatched + spawns.length }

theorem served_handle (h : Stored m t db) {l : LogAlerts} (hbots : ∀ bot ∈ l.bots, Database.fits bot) :
    ∃ ls fault spawns, t.InOrder l.bots ls ∧ Served m entry ls fault spawns ∧
      handle kind db entry l = ((fault, spawns), l.counted spawns) :=
  served_handleFor h hbots { l with events := l.events + 1 }

end LogAlerts

end ChainAlerts
