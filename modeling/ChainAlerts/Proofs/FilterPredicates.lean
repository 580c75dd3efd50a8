import Mathlib.Data.List.Infix
import Mathlib.Tactic.MkIffOfInductiveProp
import ChainAlerts.Proofs.DecimalText
import ChainAlerts.Proofs.RecordCodecs
import ChainAlerts.Proofs.WrittenRecords

/-! What a filter asks for. Each predicate that is set is a condition on the log by itself, and a filter accepts the
logs that meet all of them, whatever the scheme by which versions are numbered. There are two reasons for which a filter
cannot be tried on a log: the predicate on a part of a line is no text, or the scheme fails on the version of an event
for another reason than that it is none. If none of the predicates that are tested before fails, the trial does. -/

namespace ChainAlerts

/-- What a test comes to: it fails exactly under one condition, and else it tells whether another one holds. -/
structure Decides (test : Except Fault Bool) (fails holds : Prop) : Prop where
  error_iff : (∃ fault, test = .error fault) ↔ fails
  holds_iff : ∀ {b}, test = .ok b → (b ↔ holds)

namespace Decides

variable {test next : Except Fault Bool} {fails fails' holds holds' : Prop}

theorem ok {b : Bool} (h : b ↔ holds) : Decides (.ok b) False holds where
  error_iff := by simp
  holds_iff := by
    intro b' hb
    obtain rfl := Except.ok.inj hb
    exact h

theorem error (fault : Fault) (h : fails) : Decides (.error fault) fails holds where
  error_iff := by simp [h]
  holds_iff := nofun

theorem congr (h : Decides test fails holds) (hfails : fails ↔ fails') (hholds : holds ↔ holds') :
    Decides test fails' holds' :=
  ⟨h.error_iff.trans hfails, fun hb => (h.holds_iff hb).trans hholds⟩

/-- Of two tests the second is made if the first holds. -/
theorem and (h : Decides test fails holds) (hnext : Decides next fails' holds') :
    Decides (test >>= fun b => if !b then .ok false else next) (fails ∨ holds ∧ fails') (holds ∧ holds') := by
  cases htest : test with
  | error fault => exact .error fault (Or.inl (h.error_iff.mp ⟨fault, htest⟩))
  | ok b =>
      have hnot : ¬fails := by
        rw [← h.error_iff, htest]
        simp
      have hb := h.holds_iff htest
      cases b with
      | false =>
          have hholds : ¬holds := fun hh => Bool.false_ne_true (hb.mpr hh)
          exact (ok (b := false) (by simp [hholds])).congr (by simp [hnot, hholds]) Iff.rfl
      | true =>
          have hholds : holds := hb.mp rfl
          exact hnext.congr (by simp [hnot, hholds]) (by simp [hholds])

theorem eq_ok [Decidable holds] (h : Decides test fails holds) (hnot : ¬fails) : test = .ok (decide holds) := by
  cases htest : test with
  | error fault => exact absurd (h.error_iff.mp ⟨fault, htest⟩) hnot
  | ok b =>
      have hb := h.holds_iff htest
      by_cases hh : holds <;> simp_all

end Decides

namespace LogFilter

/-- A predicate as it is given: unset, or a text. -/
def IsPredicate (wanted : Json) : Prop := wanted = .null ∨ ∃ s, wanted = .str s

/-- A predicate that is unset, or a text for which a condition holds. -/
def Holds (wanted : Json) (test : String → Prop) : Prop := wanted = .null ∨ ∃ s, wanted = .str s ∧ test s

@[simp] theorem holds_null {test : String → Prop} : Holds .null test := Or.inl rfl

@[simp] theorem holds_str {s : String} {test : String → Prop} : Holds (.str s) test ↔ test s := by
  simp [Holds]

instance {wanted : Json} {test : String → Prop} [DecidablePred test] : Decidable (Holds wanted test) :=
  match wanted with
  | .null => isTrue holds_null
  | .str s => decidable_of_iff (test s) holds_str.symm
  | .bool _ | .int _ | .float _ | .arr _ | .obj _ => isFalse (by simp [Holds])

theorem admits_iff {wanted : Json} {s : String} : admits wanted s ↔ Holds wanted (s = ·) := by
  cases wanted with
  | str t => simp [admits, Json.isNull, Json.isText, @eq_comm _ s t]
  | _ => simp [admits, Json.isNull, Json.isText, Holds]

theorem admitsNetwork_iff {wanted : Option Bool} {testnet : Bool} :
    admitsNetwork wanted testnet ↔ ∀ b ∈ wanted, testnet = b := by
  cases wanted with
  | none => simp [admitsNetwork]
  | some b => simp [admitsNetwork, @eq_comm _ testnet b]

theorem decides_partAdmits (test : List Char → List Char → Bool) (notText : Json.Kind → Fault) (wanted : Json)
    (s : String) : Decides (partAdmits test notText wanted s) (¬IsPredicate wanted)
      (Holds wanted fun part => test part.toList s.toList) := by
  cases wanted with
  | null => exact (Decides.ok (by simp)).congr (by simp [IsPredicate]) Iff.rfl
  | str t => exact (Decides.ok (by simp)).congr (by simp [IsPredicate]) Iff.rfl
  | _ => exact .error _ (by simp [IsPredicate])

theorem alike_predicate {a b : Json} (ha : IsPredicate a) (hb : IsPredicate b) : a.alike b ↔ a = b := by
  rcases ha with rfl | ⟨s, rfl⟩ <;> rcases hb with rfl | ⟨t, rfl⟩ <;>
    simp [Json.alike, Json.alikePlain, Json.numeric?]

theorem alike_network {a b : Option Bool} : (writeNetwork a).alike (writeNetwork b) ↔ a = b := by
  cases a with
  | none => cases b <;> simp [writeNetwork, Json.alike, Json.alikePlain, Json.numeric?]
  | some a =>
      cases b with
      | none => simp [writeNetwork, Json.alike, Json.alikePlain, Json.numeric?]
      | some b => simp only [writeNetwork, Json.alike_bool, Option.some.injEq]

end LogFilter

theorem Text.occursIn_iff {part cs : List Char} : Text.occursIn part cs ↔ part <:+: cs := by
  induction cs with
  | nil => simp [occursIn]
  | cons c rest ih => simp [occursIn, ih, List.infix_cons_iff]

open LogFilter

namespace TextFilter

/-- A filter whose predicates are unset or texts. -/
structure Typed (f : TextFilter) : Prop where
  predecessor : IsPredicate f.predecessor
  exact : IsPredicate f.exact
  startsWith : IsPredicate f.startsWith
  endsWith : IsPredicate f.endsWith
  holds : IsPredicate f.holds

/-- What a filter asks of a logged line: every predicate that is set. -/
@[mk_iff]
structure Meets (f : TextFilter) (log : TextLog) : Prop where
  account : log.account = f.account
  network : ∀ b ∈ f.testnet, log.testnet = b
  predecessor : Holds f.predecessor (log.predecessor = ·)
  exact : Holds f.exact (log.line = ·)
  startsWith : Holds f.startsWith (·.toList <+: log.line.toList)
  endsWith : Holds f.endsWith (·.toList <:+ log.line.toList)
  holds : Holds f.holds (·.toList <:+: log.line.toList)

instance (f : TextFilter) (log : TextLog) : Decidable (f.Meets log) := decidable_of_iff _ (meets_iff f log).symm

/-- A line on which a filter cannot be tried: nothing that is tested before rules the line out, and the next predicate,
on a part of the line, is no text. -/
structure Stumbles (f : TextFilter) (log : TextLog) : Prop where
  account : log.account = f.account
  network : ∀ b ∈ f.testnet, log.testnet = b
  predecessor : Holds f.predecessor (log.predecessor = ·)
  exact : Holds f.exact (log.line = ·)
  part : ¬IsPredicate f.startsWith ∨ Holds f.startsWith (·.toList <+: log.line.toList) ∧
    (¬IsPredicate f.endsWith ∨ Holds f.endsWith (·.toList <:+ log.line.toList) ∧ ¬IsPredicate f.holds)

theorem Typed.not_stumbles {f : TextFilter} (h : f.Typed) (log : TextLog) : ¬f.Stumbles log := by
  intro hs
  rcases hs.part with hstarts | ⟨-, hends | ⟨-, hholds⟩⟩
  · exact hstarts h.startsWith
  · exact hends h.endsWith
  · exact hholds h.holds

/-- The predicates on the line as a whole, which are tested first. -/
def first (f : TextFilter) (log : TextLog) : Bool :=
  log.account == f.account && admitsNetwork f.testnet log.testnet && admits f.predecessor log.predecessor &&
    admits f.exact log.line

theorem first_iff (f : TextFilter) (log : TextLog) :
    f.first log ↔ ((log.account = f.account ∧ ∀ b ∈ f.testnet, log.testnet = b) ∧
      Holds f.predecessor (log.predecessor = ·)) ∧ Holds f.exact (log.line = ·) := by
  simp only [first, Bool.and_eq_true, beq_iff_eq, admitsNetwork_iff, admits_iff]

theorem decides_accepts (f : TextFilter) (log : TextLog) : Decides (f.accepts log) (f.Stumbles log) (f.Meets log) := by
  have hstarts := decides_partAdmits List.isPrefixOf .startNotText f.startsWith log.line
  have hends := decides_partAdmits List.isSuffixOf .endNotText f.endsWith log.line
  have hholds := decides_partAdmits Text.occursIn .partNotText f.holds log.line
  simp only [List.isPrefixOf_iff_prefix, List.isSuffixOf_iff_suffix, Text.occursIn_iff] at hstarts hends hholds
  refine ((Decides.ok (f.first_iff log)).and (hstarts.and (hends.and hholds))).congr ?_ ?_
  · constructor
    · rintro (hnever | ⟨⟨⟨⟨haccount, hnetwork⟩, hpredecessor⟩, hexact⟩, hpart⟩)
      · exact hnever.elim
      · exact ⟨haccount, hnetwork, hpredecessor, hexact, hpart⟩
    · rintro ⟨haccount, hnetwork, hpredecessor, hexact, hpart⟩
      exact Or.inr ⟨⟨⟨⟨haccount, hnetwork⟩, hpredecessor⟩, hexact⟩, hpart⟩
  · constructor
    · rintro ⟨⟨⟨⟨haccount, hnetwork⟩, hpredecessor⟩, hexact⟩, hstart, hend, hpart⟩
      exact ⟨haccount, hnetwork, hpredecessor, hexact, hstart, hend, hpart⟩
    · rintro ⟨haccount, hnetwork, hpredecessor, hexact, hstart, hend, hpart⟩
      exact ⟨⟨⟨⟨haccount, hnetwork⟩, hpredecessor⟩, hexact⟩, hstart, hend, hpart⟩

theorem alike_iff {f g : TextFilter} (hf : f.Typed) (hg : g.Typed) : f.toJson.alike g.toJson ↔ f = g := by
  have hpredecessor := alike_predicate hf.predecessor hg.predecessor
  have hexact := alike_predicate hf.exact hg.exact
  have hstartsWith := alike_predicate hf.startsWith hg.startsWith
  have hendsWith := alike_predicate hf.endsWith hg.endsWith
  have hholds := alike_predicate hf.holds hg.holds
  rw [toJson, toJson, Json.alike_obj (by rfl) (by simp [Assoc.keys])]
  simp only [List.forall₂_cons, List.forall₂_nil_right_iff, Json.alike_str, hpredecessor, hexact, hstartsWith,
    hendsWith, hholds, alike_network, and_true]
  cases f
  cases g
  simp only [mk.injEq]

end TextFilter

namespace VersionScheme

variable (versions : VersionScheme)

/-- A version that can be read and that specifiers contain. -/
def Admits (specifiers version : String) : Prop :=
  versions.version version = .ok () ∧ versions.contains specifiers version = .ok true

/-- A version of which it cannot be said whether specifiers contain it, though not because the text denotes none. -/
def Fails (specifiers version : String) : Prop :=
  ∃ fault, versions.version version = .error (.fault fault) ∨
    versions.version version = .ok () ∧ versions.contains specifiers version = .error (.fault fault)

instance {ε α : Type} [DecidableEq α] (x : Except ε α) (a : α) : Decidable (x = .ok a) :=
  match x with
  | .ok b => decidable_of_iff (b = a) (by simp)
  | .error _ => isFalse (by simp)

instance (specifiers version : String) : Decidable (versions.Admits specifiers version) := by
  unfold Admits
  infer_instance

theorem decides_acceptsText (r : Requirement) (version : String) :
    Decides (r.acceptsText version versions) (versions.Fails r.specifiers version)
      (versions.Admits r.specifiers version) := by
  rw [Requirement.acceptsText]
  cases hversion : versions.version version with
  | error cause =>
      cases cause with
      | malformed =>
          exact (Decides.ok (b := false) (by simp [Admits, hversion])).congr (by simp [Fails, hversion]) Iff.rfl
      | fault f => exact .error f (by simp [Fails, hversion])
  | ok _ =>
      cases hcontains : versions.contains r.specifiers version with
      | ok b =>
          exact (Decides.ok (b := b) (by simp [Admits, hversion, hcontains])).congr
            (by simp [Fails, hversion, hcontains]) Iff.rfl
      | error cause =>
          cases cause with
          | malformed =>
              exact (Decides.ok (b := false) (by simp [Admits, hversion, hcontains])).congr
                (by simp [Fails, hversion, hcontains]) Iff.rfl
          | fault f => exact .error f (by simp [Fails, hversion, hcontains])

end VersionScheme

namespace StructuredFilter

variable {versions : VersionScheme}

/-- A filter whose predicates are unset or texts, and whose requirement is what its text denotes. -/
structure Typed (versions : VersionScheme) (f : StructuredFilter) : Prop where
  account : IsPredicate f.account
  predecessor : IsPredicate f.predecessor
  standard : IsPredicate f.standard
  event : IsPredicate f.event
  proper : f.Proper versions

/-- What a filter asks of a structured event: every predicate that is set. -/
@[mk_iff]
structure Meets (versions : VersionScheme) (f : StructuredFilter) (log : StructuredLog) : Prop where
  network : ∀ b ∈ f.testnet, log.testnet = b
  account : Holds f.account (log.account = ·)
  predecessor : Holds f.predecessor (log.predecessor = ·)
  standard : Holds f.standard (log.standard = ·)
  version : ∀ r ∈ f.version, versions.Admits r.specifiers log.version
  event : Holds f.event (log.event = ·)

instance (f : StructuredFilter) (log : StructuredLog) : Decidable (f.Meets versions log) :=
  decidable_of_iff _ (meets_iff versions f log).symm

/-- An event on which a filter cannot be tried: nothing that is tested before rules the event out, and it cannot be said
whether the event's version meets the requirement. -/
structure Stumbles (versions : VersionScheme) (f : StructuredFilter) (log : StructuredLog) : Prop where
  network : ∀ b ∈ f.testnet, log.testnet = b
  account : Holds f.account (log.account = ·)
  predecessor : Holds f.predecessor (log.predecessor = ·)
  standard : Holds f.standard (log.standard = ·)
  version : ∃ r ∈ f.version, versions.Fails r.specifiers log.version

/-- The first predicates, which rule an event out before its version is read. -/
def first (f : StructuredFilter) (log : StructuredLog) : Bool :=
  admitsNetwork f.testnet log.testnet && admits f.account log.account && admits f.predecessor log.predecessor &&
    admits f.standard log.standard

theorem first_iff (f : StructuredFilter) (log : StructuredLog) :
    f.first log ↔ (((∀ b ∈ f.testnet, log.testnet = b) ∧ Holds f.account (log.account = ·)) ∧
      Holds f.predecessor (log.predecessor = ·)) ∧ Holds f.standard (log.standard = ·) := by
  simp only [first, Bool.and_eq_true, admitsNetwork_iff, admits_iff]

/-- The predicate on the version of an event. -/
def admitsVersion (f : StructuredFilter) (version : String) (versions : VersionScheme) : Except Fault Bool :=
  match f.version with
  | none => .ok true
  | some requirement => requirement.acceptsText version versions

theorem decides_admitsVersion (f : StructuredFilter) (version : String) :
    Decides (f.admitsVersion version versions) (∃ r ∈ f.version, versions.Fails r.specifiers version)
      (∀ r ∈ f.version, versions.Admits r.specifiers version) := by
  rw [admitsVersion]
  cases f.version with
  | none => exact (Decides.ok (by simp)).congr (by simp) Iff.rfl
  | some r => exact (versions.decides_acceptsText r version).congr (by simp) (by simp)

theorem accepts_eq {f : StructuredFilter} (hset : f.isEmpty = false) (log : StructuredLog) :
    f.accepts log versions = if !f.first log then .ok false else
      (f.admitsVersion log.version versions).bind fun admitted =>
        if !admitted then .ok false else .ok (admits f.event log.event) := by
  rw [accepts, hset, admitsVersion]
  have hlast : ∀ test : Except Fault Bool, (test.bind fun admitted => .ok (admitted && admits f.event log.event)) =
      test.bind fun admitted => if !admitted then .ok false else .ok (admits f.event log.event) := by
    intro test
    cases test with
    | error fault => rfl
    | ok b => cases b <;> rfl
  cases f.version with
  | none => exact congrArg (fun last => if !f.first log then .ok false else last) (hlast (.ok true))
  | some r => exact congrArg (fun last => if !f.first log then .ok false else last) (hlast _)

theorem decides_accepts {f : StructuredFilter} (hset : f.isEmpty = false) (log : StructuredLog) :
    Decides (f.accepts log versions) (f.Stumbles versions log) (f.Meets versions log) := by
  rw [accepts_eq hset]
  refine ((Decides.ok (f.first_iff log)).and
    ((f.decides_admitsVersion log.version).and (Decides.ok admits_iff))).congr ?_ ?_
  · constructor
    · rintro (hnever | ⟨⟨⟨⟨hnetwork, haccount⟩, hpredecessor⟩, hstandard⟩, hversion | ⟨-, hnever⟩⟩)
      · exact hnever.elim
      · exact ⟨hnetwork, haccount, hpredecessor, hstandard, hversion⟩
      · exact hnever.elim
    · rintro ⟨hnetwork, haccount, hpredecessor, hstandard, hversion⟩
      exact Or.inr ⟨⟨⟨⟨hnetwork, haccount⟩, hpredecessor⟩, hstandard⟩, Or.inl hversion⟩
  · constructor
    · rintro ⟨⟨⟨⟨hnetwork, haccount⟩, hpredecessor⟩, hstandard⟩, hversion, hevent⟩
      exact ⟨hnetwork, haccount, hpredecessor, hstandard, hversion, hevent⟩
    · rintro ⟨hnetwork, haccount, hpredecessor, hstandard, hversion, hevent⟩
      exact ⟨⟨⟨⟨hnetwork, haccount⟩, hpredecessor⟩, hstandard⟩, hversion, hevent⟩

/-- A filter that is not set can be tried on every event, and accepts none. -/
theorem accepts_of_isEmpty {f : StructuredFilter} (h : f.isEmpty) (log : StructuredLog) :
    f.accepts log versions = .ok false ∧ ¬f.Stumbles versions log := by
  refine ⟨by rw [accepts, h]; rfl, fun hs => ?_⟩
  obtain ⟨r, hr, -⟩ := hs.version
  simp only [isEmpty, Bool.and_eq_true, Option.isNone_iff_eq_none] at h
  rw [h.1.2] at hr
  cases hr

theorem alike_iff {f g : StructuredFilter} (hf : f.Typed versions) (hg : g.Typed versions) :
    f.toJson.alike g.toJson ↔ f = g := by
  have haccount := alike_predicate hf.account hg.account
  have hpredecessor := alike_predicate hf.predecessor hg.predecessor
  have hstandard := alike_predicate hf.standard hg.standard
  have hevent := alike_predicate hf.event hg.event
  have hversion : (Json.ofText? (f.version.map (·.text))).alike (Json.ofText? (g.version.map (·.text))) ↔
      f.version = g.version := by
    cases hrequirement : f.version with
    | none => cases g.version <;> simp [Json.ofText?, Json.alike, Json.alikePlain, Json.numeric?]
    | some r =>
        cases hother : g.version with
        | none => simp [Json.ofText?, Json.alike, Json.alikePlain, Json.numeric?]
        | some r' =>
            have hread := hf.proper r hrequirement
            have hread' := hg.proper r' hother
            simp only [Option.map_some, Json.ofText?, Json.alike_str, Option.some.injEq]
            refine ⟨fun htext => ?_, congrArg _⟩
            rw [htext, hread'] at hread
            exact (Except.ok.inj hread).symm
  rw [toJson, toJson, Json.alike_obj (by rfl) (by simp [Assoc.keys])]
  simp only [List.forall₂_cons, List.forall₂_nil_right_iff, haccount, hpredecessor, hstandard, hversion, hevent,
    alike_network, and_true]
  cases f
  cases g
  simp only [mk.injEq]

end StructuredFilter

/-! What filters mean, for each kind of log. -/

/-- Which filters of a kind can be stored, which logs meet them, and on which logs they cannot be tried. -/
structure LogKind.Meaning {log filter : Type} (kind : LogKind log filter) where
  Typed : filter → Prop
  Meets : filter → log → Prop
  Stumbles : filter → log → Prop
  meetsDecidable : ∀ f entry, Decidable (Meets f entry)
  read_write : ∀ {f}, Typed f → kind.read (kind.write f) = .ok f
  alike_iff : ∀ {f g}, Typed f → Typed g → ((kind.write f).alike (kind.write g) ↔ f = g)
  stumbles_iff : ∀ f entry, (∃ fault, kind.accepts f entry = .error fault) ↔ Stumbles f entry
  accepts_eq : ∀ {f entry}, kind.check f = .ok () → ¬Stumbles f entry →
    kind.accepts f entry = .ok (decide (Meets f entry))

attribute [instance] LogKind.Meaning.meetsDecidable

/-- Filters on lines can be tried if their predicates are texts. -/
def LogKind.lineMeaning : LogKind.text.Meaning where
  Typed := TextFilter.Typed
  Meets := TextFilter.Meets
  Stumbles := TextFilter.Stumbles
  meetsDecidable := fun _ _ => inferInstance
  read_write := fun {f} _ => f.ofJson_toJson
  alike_iff := TextFilter.alike_iff
  stumbles_iff := fun f entry => (f.decides_accepts entry).error_iff
  accepts_eq := fun {f entry} _ => (f.decides_accepts entry).eq_ok

namespace StructuredFilter

variable {versions : VersionScheme}

theorem check_eq_ok_iff {f : StructuredFilter} : f.check = .ok () ↔ f.isEmpty = false := by
  rw [check]
  cases f.isEmpty <;> simp

theorem stumbles_iff (f : StructuredFilter) (log : StructuredLog) :
    (∃ fault, f.accepts log versions = .error fault) ↔ f.Stumbles versions log := by
  cases hset : f.isEmpty with
  | false => exact (decides_accepts hset log).error_iff
  | true =>
      have hnever : f.accepts log versions = .ok false ∧ ¬f.Stumbles versions log := accepts_of_isEmpty hset log
      rw [hnever.1]
      exact iff_of_false (by simp) hnever.2

end StructuredFilter

/-- Filters on events can be tried on events whose versions the scheme can tell from those that are asked for. -/
def LogKind.eventMeaning (versions : VersionScheme) : (LogKind.structured versions).Meaning where
  Typed := StructuredFilter.Typed versions
  Meets := StructuredFilter.Meets versions
  Stumbles := StructuredFilter.Stumbles versions
  meetsDecidable := fun _ _ => inferInstance
  read_write := fun {f} hf => f.ofJson_toJson hf.proper
  alike_iff := StructuredFilter.alike_iff
  stumbles_iff := StructuredFilter.stumbles_iff
  accepts_eq := fun hcheck => (StructuredFilter.decides_accepts (StructuredFilter.check_eq_ok_iff.mp hcheck) _).eq_ok

/-! Versions that are one number. -/

namespace Version

open Text Decimal

variable {cs : List Char}

theorem charIsDigit_of_isDigit {c : Char} (h : isDigit c) : c.isDigit := by
  simpa [isDigit, Char.isDigit, Char.le_def] using h

theorem span_isDigit (h : ∀ c ∈ cs, isDigit c) : cs.span isDigit = (cs, []) := by
  rw [List.span_eq_takeWhile_dropWhile, List.takeWhile_eq_self_iff.mpr h, List.dropWhile_eq_nil_iff.mpr h]

theorem digitRuns_digits (h : ∀ c ∈ cs, isDigit c) : digitRuns cs = [cs.length] := by
  have hwhole : cs.splitOnP (!isDigit ·) = [cs] := by
    refine List.splitOnP_eq_singleton fun c hc => ?_
    simp [h c hc]
  rw [digitRuns, hwhole]
  rfl

theorem readRelease_digits (hne : cs ≠ []) (h : ∀ c ∈ cs, isDigit c) (fuel : Nat) :
    readRelease (fuel + 1) cs = some ([numberOf cs], []) := by
  rw [readRelease, span_isDigit h]
  simp [hne]

theorem readBase_digits (hne : cs ≠ []) (h : ∀ c ∈ cs, isDigit c) :
    readBase cs = some ({ release := [numberOf cs] }, []) := by
  have hepoch : readEpoch cs = (0, cs) := by
    rw [readEpoch, span_isDigit h]
    cases cs <;> rfl
  have hbegin : ∀ rest, cs = 'v' :: rest → False := by
    rintro rest rfl
    exact absurd (h 'v' List.mem_cons_self) (by decide)
  simp only [readBase, hepoch, readRelease_digits hne h]
  rfl

/-- A run of digits is a version unless it is too long. -/
theorem parse_digits (hne : cs ≠ []) (h : ∀ c ∈ cs, isDigit c) : parse (String.ofList cs) =
    if Integer.maxDigits < cs.length then .error (.tooLong cs.length) else .ok { release := [numberOf cs] } := by
  have hplain : ∀ c ∈ cs, IsPlain c := fun c hc => isPlain_of_isDigit (charIsDigit_of_isDigit (h c hc))
  have hreverse : ∀ c ∈ cs.reverse, IsPlain c := fun c hc => hplain c (List.mem_reverse.mp hc)
  have hread : (stripChars (String.ofList cs).toList).map Char.toLower = cs := by
    rw [String.toList_ofList, stripChars, dropTrailing, dropWhile_isBlank_plain hplain,
      dropWhile_isBlank_plain hreverse, List.reverse_reverse]
    refine List.map_congr_left (fun c hc => toLower_of_isDigit (charIsDigit_of_isDigit (h c hc))) |>.trans ?_
    exact List.map_id cs
  have hstages : readStages { release := [numberOf cs] } [] = ({ release := [numberOf cs] }, []) := rfl
  rw [parse, hread, digitRuns_digits h]
  simp only [readBase_digits hne h, Option.bind_eq_bind, Option.bind_some, hstages, readLabels]
  by_cases hlong : Integer.maxDigits < cs.length <;> simp [hlong]

theorem parse_digits_of_long (h : ∀ c ∈ cs, isDigit c) (hlong : Integer.maxDigits < cs.length) :
    parse (String.ofList cs) = .error (.tooLong cs.length) :=
  (parse_digits (List.ne_nil_of_length_pos (Nat.zero_lt_of_lt hlong)) h).trans (if_pos hlong)

end Version

end ChainAlerts
