import ChainAlerts.Proofs.TokenMoves

/-! When two records are written alike. A payload that says the same as another may differ from it in the order of
its fields only, and the one place where a record's own order is kept in the order of fields is that of its tokens.
So the payloads of two records say the same exactly if the records agree up to the order of their tokens. -/

namespace ChainAlerts

theorem Num.same_int {m n : Int} : (Num.int m).same (.int n) ↔ m = n := by
  simp only [Num.same, Num.isNan, Num.lt, Bool.not_false, Bool.true_and, Bool.and_eq_true, Bool.not_eq_true',
    decide_eq_false_iff_not]
  omega

namespace Json

theorem alike_str {s t : String} : (Json.str s).alike (.str t) ↔ s = t := by
  simp [alike, alikePlain]

theorem alike_bool {a b : Bool} : (Json.bool a).alike (.bool b) ↔ a = b := by
  cases a <;> cases b <;> decide

theorem alike_int {m n : Int} : (Json.int m).alike (.int n) ↔ m = n := by
  simp only [alike, alikePlain, numeric?]
  exact Num.same_int

/-- Lists say the same if their elements do, one after the other. -/
theorem alike_arr {α : Type} {write : α → Json} {xs ys : List α}
    (h : ∀ x ∈ xs, ∀ y ∈ ys, (write x).alike (write y) ↔ x = y) :
    (Json.arr (xs.map write)).alike (.arr (ys.map write)) ↔ xs = ys := by
  rw [alike]
  induction xs generalizing ys with
  | nil => cases ys <;> simp [alikeItems]
  | cons x xs ih =>
      cases ys with
      | nil => simp [alikeItems]
      | cons y ys =>
          have hhead := h x List.mem_cons_self y List.mem_cons_self
          have htail := ih fun v hv w hw => h v (List.mem_cons_of_mem x hv) w (List.mem_cons_of_mem y hw)
          rw [List.map_cons, List.map_cons, alikeItems, Bool.and_eq_true, hhead, htail, List.cons.injEq]

/-- Objects with the same fields in the same order say the same if the values of the fields do. -/
theorem alike_obj {fields others : List (String × Json)} (hkeys : Assoc.keys fields = Assoc.keys others)
    (hnodup : (Assoc.keys others).Nodup) :
    (Json.obj fields).alike (.obj others) ↔ List.Forall₂ (fun field other => field.2.alike other.2) fields others := by
  have hlength : fields.length = others.length := by simpa [Assoc.keys] using congrArg List.length hkeys
  rw [alike, Bool.and_eq_true, beq_iff_eq, and_iff_right hlength, alikeFields_iff]
  -- each field is looked up among all of the others
  have hpart : ∀ fields part : List (String × Json), Assoc.keys fields = Assoc.keys part → part ⊆ others →
      ((∀ field ∈ fields, ∃ w, Assoc.get? field.1 others = some w ∧ field.2.alike w) ↔
        List.Forall₂ (fun field other => field.2.alike other.2) fields part) := by
    intro fields
    induction fields with
    | nil =>
        intro part hkeys _
        obtain rfl : part = [] := List.map_eq_nil_iff.mp hkeys.symm
        simp
    | cons field rest ih =>
        intro part hkeys hpart
        cases part with
        | nil => cases hkeys
        | cons other part =>
            obtain ⟨hkey, hrest⟩ := List.cons.inj hkeys
            obtain ⟨hother, hpart⟩ := List.cons_subset.mp hpart
            have hkey : field.1 = other.1 := hkey
            have hget : Assoc.get? field.1 others = some other.2 := hkey ▸ Assoc.get?_of_mem hnodup hother
            simp only [List.forall_mem_cons, List.forall₂_cons, hget, Option.some.injEq, exists_eq_left',
              ih part hrest hpart]
  exact hpart fields others hkeys (List.Subset.refl _)

theorem not_alike_obj {fields others : List (String × Json)} (h : fields.length ≠ others.length) :
    (Json.obj fields).alike (.obj others) = false := by
  simp [alike, h]

end Json

theorem Button.alike_iff {a b : Button} : a.toJson.alike b.toJson ↔ a = b := by
  cases a
  cases b
  simp [toJson, Json.alike_obj, Assoc.keys, Json.alike_str]

theorem Media.alike_iff {a b : Media} : a.toJson.alike b.toJson ↔ a = b := by
  have hname : ∀ kind kind' : MediaKind, kind.name = kind'.name ↔ kind = kind' := by
    intro kind kind'
    cases kind <;> cases kind' <;> decide
  cases a
  cases b
  simp [toJson, Json.alike_obj, Assoc.keys, Json.alike_str, hname]

theorem Currency.name_inj {a b : Currency} : a.name = b.name ↔ a = b := by
  cases a <;> cases b <;> decide

theorem Decimal.text_inj {a b : Decimal} (ha : a.inRange) (hb : b.inRange) : a.text = b.text ↔ a = b := by
  refine ⟨fun h => ?_, congrArg _⟩
  have hread : (Json.str a.text).decimal = .ok b := by rw [h, Json.decimal_text hb]
  exact Except.ok.inj ((Json.decimal_text ha).symm.trans hread)

theorem MinAmount.alike_iff {a b : MinAmount} (ha : a.isProper) (hb : b.isProper) :
    a.toJson.alike b.toJson ↔ a = b := by
  have hraw : ∀ m n : Int, Text.intText m = Text.intText n ↔ m = n :=
    fun m n => ⟨Text.intText_injective, congrArg _⟩
  cases a <;> cases b <;> simp only [isProper] at ha hb <;>
    simp [toJson, Json.alike_obj, Assoc.keys, Json.alike_str, Decimal.text_inj, *]

theorem Attachment.alike_iff {a b : Attachment} (ha : a.threshold.inRange) (hb : b.threshold.inRange) :
    a.toJson.alike b.toJson ↔ a = b := by
  have htext := Decimal.text_inj ha hb
  cases a
  cases b
  simp [toJson, Json.alike_obj, Assoc.keys, Json.alike_str, Media.alike_iff, htext]

theorem Component.alike_iff {a b : Component} (ha : a.isProper) (hb : b.isProper) :
    a.toJson.alike b.toJson ↔ a = b := by
  cases a <;> cases b <;> simp only [isProper] at ha hb <;>
    simp [toJson, Json.alike_obj, Json.not_alike_obj, Assoc.keys, Json.alike_str, Json.alike_int, Decimal.text_inj, *]

theorem Subscription.alike_iff {a b : Subscription} (ha : a.Proper) (hb : b.Proper) :
    a.toJson.alike b.toJson ↔ a = b := by
  have hminAmount := MinAmount.alike_iff ha.minAmount hb.minAmount
  have hattachments : (Json.arr (a.attachments.map Attachment.toJson)).alike
      (.arr (b.attachments.map Attachment.toJson)) ↔ a.attachments = b.attachments :=
    Json.alike_arr fun x hx y hy => Attachment.alike_iff (ha.thresholds x hx) (hb.thresholds y hy)
  have hcomponents : (Json.arr (a.components.map Component.toJson)).alike
      (.arr (b.components.map Component.toJson)) ↔ a.components = b.components :=
    Json.alike_arr fun x hx y hy => Component.alike_iff (ha.components x hx) (hb.components y hy)
  have hbuttons : ∀ xs ys : List Button,
      (Json.arr (xs.map Button.toJson)).alike (.arr (ys.map Button.toJson)) ↔ xs = ys :=
    fun xs ys => Json.alike_arr fun _ _ _ _ => Button.alike_iff
  have hrows : (Json.arr (a.buttons.map fun row => .arr (row.map Button.toJson))).alike
      (.arr (b.buttons.map fun row => .arr (row.map Button.toJson))) ↔ a.buttons = b.buttons :=
    Json.alike_arr fun xs _ ys _ => hbuttons xs ys
  rw [toJson, toJson, Json.alike_obj (by rfl) (by simp [Assoc.keys])]
  simp only [List.forall₂_cons, List.forall₂_nil_right_iff, Json.alike_bool, Json.alike_str, Currency.name_inj,
    hminAmount, hattachments, hcomponents, hbuttons, hrows, and_true]
  cases a
  cases b
  simp only [mk.injEq]

namespace Subscriber

/-- Two records are written alike exactly if they agree up to the order of their tokens. -/
theorem alike_iff {r s : Subscriber} (hr : r.WellFormed) (hs : s.WellFormed) :
    r.toJson.alike s.toJson ↔ r.enabled = s.enabled ∧ r.tokens.Perm s.tokens := by
  rw [toJson, toJson, Json.alike_obj (by rfl) (by simp [Assoc.keys]), Assoc.ofPairs_of_nodup (nodup_written hr),
    Assoc.ofPairs_of_nodup (nodup_written hs)]
  simp only [List.forall₂_cons, List.forall₂_nil_right_iff, Json.alike_bool, and_true]
  refine and_congr_right fun _ => ⟨fun halike => ?_, fun hperm => ?_⟩
  · obtain ⟨others, heq, hkeys, hfields⟩ := Json.keys_of_alike halike (nodup_written hr)
    obtain rfl := Json.obj.inj heq
    have hsubset : r.tokens ⊆ s.tokens := by
      rintro ⟨token, settings⟩ hentry
      obtain ⟨w, hw, hvalue⟩ := hfields _ (List.mem_map_of_mem (f := writeEntry) hentry)
      obtain ⟨⟨token', settings'⟩, hother, hwritten⟩ := List.mem_map.mp (Assoc.mem_of_get? hw)
      obtain ⟨hkey, rfl⟩ := Prod.mk.inj hwritten
      obtain rfl : token' = token := Token.key_injective (parse_key_of_mem hs hother) (parse_key_of_mem hr hentry) hkey
      obtain rfl : settings = settings' :=
        (Subscription.alike_iff (hr.proper _ hentry).2 (hs.proper _ hother).2).mp hvalue
      exact hother
    have hlength : r.tokens.length = s.tokens.length := by simpa [Assoc.keys] using hkeys.length_eq
    exact (List.subperm_of_subset hr.tokens.of_map hsubset).perm_of_length_le hlength.ge
  · rw [Json.alike, Bool.and_eq_true, beq_iff_eq, Json.alikeFields_iff]
    refine ⟨by simpa using hperm.length_eq, fun field hfield => ?_⟩
    obtain ⟨entry, hentry, rfl⟩ := List.mem_map.mp hfield
    have hmem : writeEntry entry ∈ s.tokens.map writeEntry := List.mem_map_of_mem (hperm.mem_iff.mp hentry)
    have hproper := (hr.proper entry hentry).2
    exact ⟨entry.2.toJson, Assoc.get?_of_mem (nodup_written hs) hmem, (Subscription.alike_iff hproper hproper).mpr rfl⟩

end Subscriber

end ChainAlerts
