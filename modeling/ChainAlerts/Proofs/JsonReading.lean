import ChainAlerts.Json.Reading
import ChainAlerts.Proofs.DecimalText
import ChainAlerts.Proofs.DoubleBounds
import ChainAlerts.Proofs.Tables

/-! Reading values out of JSON. What was written as the text of a number is read as that number, lists are
read element by element, and an integer that is read from a document has few enough digits to be written
again: a document holds no longer ones, and its floating-point numbers have their bounds. -/

namespace ChainAlerts

@[simp] theorem except_ok_bind {ε α β : Type} (a : α) (f : α → Except ε β) : (Except.ok a >>= f) = f a := rfl

@[simp] theorem except_pure {ε α : Type} (a : α) : (pure a : Except ε α) = .ok a := rfl

theorem except_bind_eq_ok {ε α β : Type} {x : Except ε α} {f : α → Except ε β} {b : β} :
    x >>= f = .ok b ↔ ∃ a, x = .ok a ∧ f a = .ok b := by
  constructor
  · intro h
    cases x with
    | ok a => exact ⟨a, rfl, h⟩
    | error e => cases h
  · rintro ⟨a, rfl, h⟩
    exact h

theorem except_map_eq_ok {ε α β : Type} {x : Except ε α} {f : α → β} {b : β} :
    f <$> x = .ok b ↔ ∃ a, x = .ok a ∧ f a = b := by
  constructor
  · intro h
    cases x with
    | ok a => exact ⟨a, rfl, Except.ok.inj h⟩
    | error e => cases h
  · rintro ⟨a, rfl, rfl⟩
    rfl

theorem except_mapError_eq_ok {ε δ α : Type} {f : ε → δ} {x : Except ε α} {a : α} :
    x.mapError f = .ok a ↔ x = .ok a := by
  cases x <;> simp [Except.mapError]

theorem run_bind_eq {σ α β : Type} {x : StateM σ α} {s s' : σ} {a : α} (h : x.run s = (a, s'))
    (f : α → StateM σ β) : (x >>= f).run s = (f a).run s' := by
  rw [StateT.run_bind, h]
  rfl

/-- A list whose elements are each read back from their written form is read back from its own. -/
theorem mapM_map_eq_ok {ε α β : Type} {write : α → β} {read : β → Except ε α} {xs : List α}
    (h : ∀ x ∈ xs, read (write x) = .ok x) : (xs.map write).mapM read = .ok xs := by
  induction xs with
  | nil => rfl
  | cons x xs ih =>
      have htail := ih fun y hy => h y (List.mem_cons_of_mem x hy)
      rw [List.map_cons, List.mapM_cons, h x List.mem_cons_self, htail]
      rfl

/-- Every element of a list that was read was read from an element of what it was read from. -/
theorem exists_of_mem_mapM {ε α β : Type} {read : α → Except ε β} {xs : List α} {ys : List β}
    (h : xs.mapM read = .ok ys) : ∀ y ∈ ys, ∃ x ∈ xs, read x = .ok y := by
  induction xs generalizing ys with
  | nil =>
      obtain rfl : [] = ys := Except.ok.inj h
      simp
  | cons x xs ih =>
      rw [List.mapM_cons] at h
      obtain ⟨y, hy, h⟩ := except_bind_eq_ok.mp h
      obtain ⟨rest, hrest, h⟩ := except_bind_eq_ok.mp h
      obtain rfl : y :: rest = ys := Except.ok.inj h
      intro z hz
      rcases List.mem_cons.mp hz with rfl | hz
      · exact ⟨x, List.mem_cons_self, hy⟩
      · obtain ⟨w, hw, hread⟩ := ih hrest z hz
        exact ⟨w, List.mem_cons_of_mem x hw, hread⟩

namespace Json

mutual

/-- A value as it comes out of a JSON text: its integers have no more digits than a text may hold, and its
floating-point numbers are within the format. -/
def isDocument : Json → Bool
  | .int n => Integer.isWritable n
  | .float x => x.isBinary64
  | .arr items => areDocuments items
  | .obj fields => haveDocuments fields
  | _ => true

def areDocuments : List Json → Bool
  | [] => true
  | x :: rest => x.isDocument && areDocuments rest

def haveDocuments : List (String × Json) → Bool
  | [] => true
  | (_, v) :: rest => v.isDocument && haveDocuments rest

end

theorem areDocuments_iff {items : List Json} : areDocuments items ↔ ∀ v ∈ items, v.isDocument := by
  induction items with
  | nil => simp [areDocuments]
  | cons x rest ih => rw [areDocuments, Bool.and_eq_true, ih, List.forall_mem_cons]

theorem haveDocuments_iff {fields : List (String × Json)} :
    haveDocuments fields ↔ ∀ entry ∈ fields, entry.2.isDocument := by
  induction fields with
  | nil => simp [haveDocuments]
  | cons entry rest ih => rw [haveDocuments, Bool.and_eq_true, ih, List.forall_mem_cons]

variable {v w : Json}

@[simp] theorem field?_obj {key : String} {fields : List (String × Json)} :
    (Json.obj fields).field? key = .ok (Assoc.get? key fields) := rfl

@[simp] theorem field_obj_self {key : String} {fields : List (String × Json)} :
    (Json.obj ((key, v) :: fields)).field key = .ok v := by
  rw [field, Assoc.get?_cons_self]

@[simp] theorem field_obj_of_ne {key k : String} {fields : List (String × Json)} (h : k ≠ key) :
    (Json.obj ((k, v) :: fields)).field key = (Json.obj fields).field key := by
  rw [field, field, Assoc.get?_cons_of_ne h]

theorem fieldOrNull_obj {key : String} {fields : List (String × Json)} :
    (Json.obj fields).fieldOrNull key = .ok ((Assoc.get? key fields).getD .null) := rfl

theorem isDocument_of_field {key : String} (hv : v.isDocument) (h : v.field key = .ok w) : w.isDocument := by
  cases v with
  | obj fields =>
      rw [field] at h
      split at h
      next found hfound =>
        obtain rfl := Except.ok.inj h
        exact haveDocuments_iff.mp hv _ (Assoc.mem_of_get? hfound)
      · cases h
  | _ => cases h

theorem isDocument_of_field? {key : String} (hv : v.isDocument) (h : v.field? key = .ok (some w)) :
    w.isDocument := by
  cases v with
  | obj fields => exact haveDocuments_iff.mp hv _ (Assoc.mem_of_get? (Except.ok.inj h))
  | _ => cases h

theorem isDocument_of_entries {fields : List (String × Json)} (hv : v.isDocument) (h : v.entries = .ok fields) :
    ∀ entry ∈ fields, entry.2.isDocument := by
  cases v with
  | obj fs =>
      obtain rfl := Except.ok.inj h
      exact haveDocuments_iff.mp hv
  | _ => cases h

/-- The text of an integer that can be written is read as that integer. -/
theorem integer_intText {n : Int} (h : Integer.isWritable n) : (Json.str (Text.intText n)).integer = .ok n := by
  rw [integer, readInteger, Integer.parse_intText h]
  rfl

theorem isWritable_of_readInteger {s : String} {n : Int} (h : readInteger s = .ok n) :
    Integer.isWritable n := by
  rw [readInteger] at h
  cases hparse : Integer.parse s with
  | ok m =>
      rw [hparse] at h
      obtain rfl := Except.ok.inj h
      exact Integer.isWritable_of_parse hparse
  | error e =>
      rw [hparse] at h
      cases h

/-- Every integer that is read from a document can be written as a text. -/
theorem isWritable_of_integer {n : Int} (hv : v.isDocument) (h : v.integer = .ok n) : Integer.isWritable n := by
  cases v with
  | bool b =>
      obtain rfl := Except.ok.inj h
      cases b <;> decide
  | int m =>
      obtain rfl := Except.ok.inj h
      exact hv
  | float x =>
      rw [integer, truncateDouble.eq_def] at h
      split at h
      next s m e =>
        obtain rfl := Except.ok.inj h
        exact Double.isWritable_truncate (x := .finite s m e) hv rfl
      · cases h
      · cases h
  | str s => exact isWritable_of_readInteger h
  | _ => cases h

/-- The text of a decimal number within the bounds is read as that number. -/
theorem decimal_text {d : Decimal} (h : d.inRange) : (Json.str d.text).decimal = .ok d := by
  rw [decimal, text, Decimal.parse_text h]
  rfl

theorem inRange_of_decimal {d : Decimal} (h : v.decimal = .ok d) : d.inRange := by
  rw [decimal] at h
  cases hparse : Decimal.parse v.text with
  | ok d' =>
      rw [hparse] at h
      obtain rfl := Except.ok.inj h
      exact Decimal.inRange_of_parse hparse
  | error e =>
      rw [hparse] at h
      cases h

end Json

end ChainAlerts
