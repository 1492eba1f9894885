import FormTemplate.Proofs.Document.Noted
import FormTemplate.Proofs.Document.Rows

/-!
# Rows from submission to blob

A list for a repeater goes through a save in one piece. It is cut to the limit, each row keeps the keys that are fields of
the repeater, each value is brought into the form of its field, checked and cleaned, and the list is encoded. What is read
back are these rows with their values repaired. What is noted of the list are the failures of the checks, row after row and
within a row in the order of the keys, each under the number of the row and the key.

* `Repeater.failures` : the failures of the checks on rows, said without the state of a save;
* `Repeater.notedItems_eq` : a save notes these;
* `Repeater.keys_row` : the keys of a stored row;
* `rebuild_rows` : what a save makes of a list for a repeater.
-/

set_option autoImplicit false

namespace FormTemplate

variable {schema : Schema} {r : Repeater} {items : List Item} {submitted : Dict Submission} {submission : Submission}

/-! ## Failures -/

/-- The failure of the check on one value of row `i`, under the number of the row and the key. -/
def Repeater.failure? (r : Repeater) (i : Nat) (key raw : String) : Option Mismatch :=
  match (r.field? key).map fun f => validate f (normalize f.dataType raw) with
  | some (.error m) => some ⟨r.slug ++ "." ++ i.repr ++ "." ++ key, m.message⟩
  | _ => none

/-- The failures of the checks on rows, in the order of the rows and of the keys of each row. -/
def Repeater.failures (r : Repeater) (rows : List Item) : List Mismatch :=
  rows.zipIdx.flatMap fun p => p.1.entries.filterMap fun e => r.failure? p.2 e.1 e.2

theorem Repeater.notedEntries_eq (r : Repeater) (i : Nat) (entries : List (String × String)) :
    r.notedEntries i entries = entries.filterMap fun e => r.failure? i e.1 e.2 := by
  induction entries with
  | nil => rfl
  | cons e rest ih =>
    rw [Repeater.notedEntries] at ih ⊢
    rw [List.flatMap_cons, List.filterMap_cons, ih, Repeater.failure?]
    cases hf : r.field? e.1 with
    | none => rfl
    | some f =>
      simp only [Option.map_some, Option.getD_some, Field.faults]
      cases validate f (normalize f.dataType e.2) <;> rfl

/-- **What a save notes of rows are the failures of the checks.** -/
theorem Repeater.notedItems_eq (r : Repeater) (rows : List Item) : r.notedItems 0 rows = r.failures rows := by
  have hfrom : ∀ i, r.notedItems i rows =
      (rows.zipIdx i).flatMap fun p => p.1.entries.filterMap fun e => r.failure? p.2 e.1 e.2 := by
    induction rows with
    | nil => exact fun _ => rfl
    | cons item rest ih =>
      intro i
      rw [Repeater.notedItems, List.zipIdx_cons, List.flatMap_cons, r.notedEntries_eq, ih]
  exact hfrom 0

/-! ## Keys and values -/

/-- **A row has those keys of the submitted row that the repeater declares**, in their order. -/
theorem Repeater.keys_row (r : Repeater) (item : Item) :
    (r.row item).keys = item.keys.filter fun key => (r.field? key).isSome := by
  refine Dict.keys_eq_filter fun key => ?_
  rw [r.get?_row]
  cases r.field? key <;> simp

/-- Each value of a row is normalized, cleaned for its kind and repaired. -/
theorem Repeater.get?_row_of_field? {item : Item} {key raw : String} {f : Field} (hf : r.field? key = some f)
    (hraw : item.get? key = some raw) (options : CodecOptions) :
    ∃ text, sanitizeValue f.kind.valueKind (normalize f.dataType raw) options = .ok text ∧
      (r.row item).get? key = some (Items.repair text) := by
  refine ⟨f.cleaned raw, sanitizeValue_valueKind options f raw, ?_⟩
  rw [r.get?_row, hf, hraw]
  rfl

/-! ## Saving -/

/-- What a save notes of a list for a repeater stands in one piece among its mismatches. -/
theorem Schema.WellFormed.noted_rows (h : schema.WellFormed) (hr : r ∈ schema.repeaters)
    (hsubmitted : submitted.get? r.slug = some submission) (hitems : submission.list = .ok items)
    (options : CodecOptions) :
    ∃ before after, schema.noted options submitted =
        before ++ r.failures (Items.truncate options.maxItems items) ++ after ∧
      ∀ m ∈ before ++ after, m.topSlug ≠ r.slug := by
  have hn : (⟨r.slug, r.noted options⟩ : Noting) ∈ schema.notings options :=
    List.mem_append_right _ (List.mem_map.mpr ⟨r, hr, rfl⟩)
  obtain ⟨before, after, hsplit, -, hother⟩ := h.noted_split hn submitted
  refine ⟨before, after, ?_, hother⟩
  rw [hsplit, hsubmitted, ← r.notedItems_eq]
  simp only [Repeater.noted, hitems]

/-- **Rows from submission to blob.** Whatever a checked schema says beside a repeater, whatever was stored and whatever the
limit is: a save with a list of items for the repeater succeeds and stores one text for it. The text reads back as the first
items up to the limit. The row of an item has those keys of the item that the repeater declares, and under each of them the
submitted value normalized and cleaned under the kind and the data type of its field, and repaired. Of the mismatches of
the save those about the repeater stand together, and they are the failures of the checks on the normalized values. -/
theorem rebuild_rows (hcheck : schema.check = .ok ()) (hr : r ∈ schema.repeaters)
    (hsubmitted : submitted.get? r.slug = some submission) (hitems : submission.list = .ok items)
    (previous : Dict FieldValue) (options : CodecOptions) :
    ∃ out text rows, rebuild schema submitted previous options = .ok out ∧
      (∀ v, v ∈ out.values ∧ v.slug = r.slug ↔ v = ⟨r.slug, .array, text⟩) ∧
      Items.decode text = .ok rows ∧ rows.length = min items.length options.maxItems ∧
      (∀ (i : Nat) (row item : Item), rows[i]? = some row → items[i]? = some item →
        row.keys = item.keys.filter (fun key => (r.field? key).isSome) ∧
        ∀ key f raw, r.field? key = some f → item.get? key = some raw →
          ∃ stored, sanitizeValue f.kind.valueKind (normalize f.dataType raw) options = .ok stored ∧
            row.get? key = some (Items.repair stored)) ∧
      ∃ before after, out.mismatches = before ++ r.failures (items.take options.maxItems) ++ after ∧
        ∀ m ∈ before ++ after, m.topSlug ≠ r.slug := by
  have hschema := Schema.check_eq_ok_iff.mp hcheck
  obtain ⟨out, hout, hnoted⟩ := rebuild_noted schema submitted previous options
  obtain ⟨before, after, hsplit, hother⟩ := hschema.noted_rows hr hsubmitted hitems options
  have hstored := hschema.mem_values_iff_of_repeater hr hout
  rw [hsubmitted] at hstored
  refine ⟨out, _, _, hout, hstored, r.decode_stored options _ hitems, ?_, ?_, before, after, hnoted.trans hsplit, hother⟩
  · rw [List.length_map, Items.truncate, List.length_take, Nat.min_comm]
  · intro i row item hrow hitem
    rw [List.getElem?_map, Items.truncate, List.getElem?_take] at hrow
    split at hrow
    · rw [hitem] at hrow
      obtain rfl := Option.some.inj hrow
      exact ⟨r.keys_row item, fun key f raw hf hraw => Repeater.get?_row_of_field? hf hraw options⟩
    · cases hrow

/-- Order lines with a rich text and an amount of one or more. -/
def orderLines : Repeater :=
  ⟨"lines", "Lines", .tableRow, [⟨"content", "Content", .html, .text, {}, {}, {}⟩,
    ⟨"qty", "Qty", .number, .number, {}, { minimum := some "1" }, {}⟩]⟩

/-- An order with such lines. -/
def orderSchema : Schema := ⟨Schema.currentVersion, [], [orderLines], ⟨.docx, "order", .epoch⟩⟩

/-- Three lines: one with an amount of zero and a key that is no field, one with a bare code unit. -/
def submittedLines : List Item :=
  [Dict.ofList [("bogus", "x"), ("content", "<style>p</style><b>ok</b>"), ("qty", " 0 ")],
    Dict.ofList [("content", "u0041")], Dict.ofList [("qty", "many")]]

/-- Two of the lines are stored, and the failure of the first is noted under its number and key. -/
theorem rebuild_rows_order :
    orderSchema.check = .ok () ∧ orderLines ∈ orderSchema.repeaters ∧
      (Dict.ofList [("lines", Submission.items submittedLines)]).get? orderLines.slug = some (.items submittedLines) ∧
      (Submission.items submittedLines).list = .ok submittedLines ∧
      ∃ out text rows, rebuild orderSchema (Dict.ofList [("lines", .items submittedLines)]) .empty { maxItems := 2 } =
          .ok out ∧ ⟨"lines", .array, text⟩ ∈ out.values ∧ Items.decode text = .ok rows ∧ rows.length = 2 ∧
        ⟨"lines.0.qty", "Qty must be at least 1"⟩ ∈ out.mismatches := by
  have hcheck : orderSchema.check = .ok () := rfl
  have hr : orderLines ∈ orderSchema.repeaters := List.mem_cons_self
  have hsubmitted : (Dict.ofList [("lines", Submission.items submittedLines)]).get? orderLines.slug =
      some (.items submittedLines) := by decide +kernel
  obtain ⟨out, text, rows, hout, hstored, hrows, hlength, -, before, after, hmismatches, -⟩ :=
    rebuild_rows hcheck hr hsubmitted rfl .empty { maxItems := 2 }
  have hfailures : orderLines.failures (submittedLines.take 2) = [⟨"lines.0.qty", "Qty must be at least 1"⟩] := by
    decide +kernel
  refine ⟨hcheck, hr, hsubmitted, rfl, out, text, rows, hout, ((hstored _).mpr rfl).1, hrows, hlength, ?_⟩
  rw [hmismatches, hfailures]
  exact List.mem_append_left _ (List.mem_append_right _ List.mem_cons_self)

end FormTemplate
