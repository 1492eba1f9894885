import FormTemplate.Proofs.Document.Rows
import FormTemplate.Proofs.Markup.Clean
import FormTemplate.Proofs.Text.Trim

/-!
# Stored rows submitted again

An editor reads the stored list of a repeater and submits it with the next save. Then every value of every row is
repaired once more, because a list is repaired whenever it is read, and cleaned once more. Repair, trimming and
stripping shorten every text that they change, so a value comes through exactly if it has nothing left for them to
change. Cleaning leaves nothing of its own kind, but repair can: a bare code unit can stand for a letter or a digit of
another one, and such a value changes with each save until no code unit is left.

* `Field.cleaned_repair_eq_self_iff` : the values that come through;
* `Repeater.cleanedItems_eq_self_iff` : the rows that come through;
* `rebuild_resubmitted` : what a save stores when a stored list is submitted again;
* `not_resubmitted_nestedRun` : a list that changes.
-/

set_option autoImplicit false

namespace FormTemplate

variable {schema : Schema} {r : Repeater} {f : Field} {items rows : List Item} {submitted : Dict Submission}
variable {text raw : String}

/-! ## Values -/

theorem length_normalize_le (type : DataType) (raw : String) :
    (normalize type raw).toList.length ≤ raw.toList.length := by
  cases type with
  | number | date => exact Text.length_trim_le raw
  | text | boolean => exact Nat.le_refl _

theorem normalize_eq_self_of_length {type : DataType} (h : (normalize type raw).toList.length = raw.toList.length) :
    normalize type raw = raw := by
  cases type with
  | number | date => exact Text.trim_eq_self_of_length h
  | text | boolean => rfl

theorem Field.length_cleaned_le (f : Field) (raw : String) :
    (f.cleaned raw).toList.length ≤ (normalize f.dataType raw).toList.length := by
  unfold Field.cleaned
  split
  · exact Markup.length_strip_le _
  · exact Nat.le_refl _

/-- A clean text in the form of its data type is stored as it is. -/
theorem Field.cleaned_eq_self (hnormal : normalize f.dataType text = text)
    (hclean : f.kind.valueKind = .rich → ¬Markup.HasUnsafeTag text.toList) : f.cleaned text = text := by
  unfold Field.cleaned
  rw [hnormal]
  split
  · rename_i hrich
    exact Markup.strip_eq_self (hclean hrich)
  · rfl

/-- **A stored value comes through reading and cleaning exactly if it holds no bare code unit and is in the form of its
data type.** No step lengthens a text, so a text that comes through keeps its length in every step. -/
theorem Field.cleaned_repair_eq_self_iff (hclean : f.kind.valueKind = .rich → ¬Markup.HasUnsafeTag text.toList) :
    f.cleaned (Items.repair text) = text ↔ ¬Items.HasBareRun text.toList ∧ normalize f.dataType text = text := by
  constructor
  · intro h
    have hcleaned := f.length_cleaned_le (Items.repair text)
    have hnormal := length_normalize_le f.dataType (Items.repair text)
    have hrepair := Items.length_repair_le text
    rw [h] at hcleaned
    have hbare : ¬Items.HasBareRun text.toList := Items.not_hasBareRun_of_length (by omega)
    rw [Items.repair_eq_self hbare] at hcleaned hnormal
    exact ⟨hbare, normalize_eq_self_of_length (by omega)⟩
  · rintro ⟨hbare, hnormal⟩
    rw [Items.repair_eq_self hbare]
    exact Field.cleaned_eq_self hnormal hclean

/-! ## Rows -/

/-- A row comes through if all its values belong to declared fields and come through. -/
theorem Repeater.cleanedEntries_eq_self_iff (r : Repeater) (row : Item) :
    Dict.ofList (r.cleanedEntries (row.mapValues fun _ v => Items.repair v).entries) = row ↔
      ∀ key text, row.get? key = some text →
        ∃ f, r.field? key = some f ∧ f.cleaned (Items.repair text) = text := by
  have hget : ∀ key, (Dict.ofList (r.cleanedEntries (row.mapValues fun _ v => Items.repair v).entries)).get? key =
      (r.field? key).bind fun f => (row.get? key).map fun v => f.cleaned (Items.repair v) := by
    intro key
    rw [r.get?_cleanedEntries, Dict.get?_mapValues]
    cases row.get? key <;> rfl
  constructor
  · intro h key text htext
    have hkey := hget key
    rw [h, htext] at hkey
    obtain ⟨f, hf, hsame⟩ := Option.bind_eq_some_iff.mp hkey.symm
    exact ⟨f, hf, Option.some.inj hsame⟩
  · intro h
    refine Dict.ext_get? fun key => ?_
    rw [hget]
    cases hrow : row.get? key with
    | none => cases r.field? key <;> rfl
    | some text =>
      obtain ⟨f, hf, hsame⟩ := h key text hrow
      rw [hf]
      exact congrArg some hsame

/-- **Rows come through if each of them does.** -/
theorem Repeater.cleanedItems_eq_self_iff (r : Repeater) (rows : List Item) :
    r.cleanedItems (rows.map (·.mapValues fun _ v => Items.repair v)) = rows ↔
      ∀ row ∈ rows, ∀ key text, row.get? key = some text →
        ∃ f, r.field? key = some f ∧ f.cleaned (Items.repair text) = text := by
  rw [Repeater.cleanedItems, List.map_map]
  constructor
  · intro h row hrow
    have hrows := List.map_inj_left.mp (h.trans (List.map_id rows).symm) row hrow
    exact (r.cleanedEntries_eq_self_iff row).mp hrows
  · intro h
    refine (List.map_congr_left fun row hrow => ?_).trans (List.map_id rows)
    exact (r.cleanedEntries_eq_self_iff row).mpr (h row hrow)

/-! ## The second save -/

/-- What a well-formed schema stores for a repeater is the only value under its slug. -/
theorem mem_values_repeater_iff (hschema : schema.WellFormed) (hr : r ∈ schema.repeaters)
    (submitted : Dict Submission) (previous : Dict FieldValue) (options : CodecOptions) :
    ∃ out, rebuild schema submitted previous options = .ok out ∧ ∀ text,
      (⟨r.slug, .array, text⟩ ∈ out.values ↔
        r.stored options (submitted.get? r.slug) (previous.get? r.slug) = text) := by
  obtain ⟨d, mismatches, hout, -⟩ := rebuild_ok schema submitted previous options
  refine ⟨_, hout, fun text => ?_⟩
  have hvalue := hschema.mem_values_iff_of_repeater hr hout ⟨r.slug, .array, text⟩
  rw [and_iff_left rfl] at hvalue
  rw [hvalue]
  simp [eq_comm]

/-- A text for a repeater is stored as the list of its items, cut to the limit and cleaned. -/
theorem Repeater.stored_text {p : String} (r : Repeater) (options : CodecOptions) (hp : Items.decode p = .ok items)
    (previous : Option FieldValue) :
    r.stored options (some (.text p)) previous =
      Items.encode (r.cleanedItems (Items.truncate options.maxItems items)) := by
  have hlist : (Submission.text p).list = .ok items := hp
  simp only [Repeater.stored, hlist]

/-- A stored list of rows within the limit is stored again exactly if its rows come through. -/
theorem Repeater.stored_encode_eq_iff (r : Repeater) (options : CodecOptions) (hrows : rows.length ≤ options.maxItems)
    (previous : Option FieldValue) :
    r.stored options (some (.text (Items.encode rows))) previous = Items.encode rows ↔
      ∀ row ∈ rows, ∀ key text, row.get? key = some text →
        ∃ f, r.field? key = some f ∧ f.cleaned (Items.repair text) = text := by
  have hlength : (rows.map (·.mapValues fun _ v => Items.repair v)).length ≤ options.maxItems := by
    rwa [List.length_map]
  rw [r.stored_text options (Items.decode_encode rows), Items.truncate, List.take_of_length_le hlength,
    ← r.cleanedItems_eq_self_iff]
  exact ⟨fun h => Items.encode_injective h, fun h => congrArg Items.encode h⟩

/-- **What a save stores when a stored list is submitted again.** A text that is accepted for a repeater is stored as a
list of rows. If no rich text of the rows holds an unsafe tag, then submitting the list stores it again exactly if each
value of each row is free of bare code units and in the form of its data type; it does not matter what else is
submitted or stored. -/
theorem rebuild_resubmitted (hcheck : schema.check = .ok ()) (hr : r ∈ schema.repeaters) {p : String}
    (hp : Items.decode p = .ok items) (hsubmitted : submitted.get? r.slug = some (.text p))
    (previous : Dict FieldValue) (options : CodecOptions) :
    ∃ out rows, rebuild schema submitted previous options = .ok out ∧
      rows = r.cleanedItems (Items.truncate options.maxItems items) ∧
      ⟨r.slug, .array, Items.encode rows⟩ ∈ out.values ∧
      ((∀ row ∈ rows, ∀ key f text, r.field? key = some f → row.get? key = some text → f.kind.valueKind = .rich →
          ¬Markup.HasUnsafeTag text.toList) →
        ∀ (submitted' : Dict Submission) (previous' : Dict FieldValue),
          submitted'.get? r.slug = some (.text (Items.encode rows)) →
            ∃ out', rebuild schema submitted' previous' options = .ok out' ∧
              (⟨r.slug, .array, Items.encode rows⟩ ∈ out'.values ↔
                ∀ row ∈ rows, ∀ key text, row.get? key = some text →
                  ∃ f, r.field? key = some f ∧ ¬Items.HasBareRun text.toList ∧ normalize f.dataType text = text)) := by
  have hschema := Schema.check_eq_ok_iff.mp hcheck
  obtain ⟨out, hout, hvalue⟩ := mem_values_repeater_iff hschema hr submitted previous options
  refine ⟨out, r.cleanedItems (Items.truncate options.maxItems items), hout, rfl, ?_, ?_⟩
  · rw [hvalue, hsubmitted]
    exact r.stored_text options hp _
  · intro hclean submitted' previous' hagain
    obtain ⟨out', hout', hvalue'⟩ := mem_values_repeater_iff hschema hr submitted' previous' options
    have hlength : (r.cleanedItems (Items.truncate options.maxItems items)).length ≤ options.maxItems := by
      rw [Repeater.cleanedItems, List.length_map]
      exact List.length_take_le _ _
    refine ⟨out', hout', ?_⟩
    rw [hvalue', hagain, r.stored_encode_eq_iff options hlength]
    have hvalues : ∀ row ∈ r.cleanedItems (Items.truncate options.maxItems items), ∀ key f text,
        row.get? key = some text → (r.field? key = some f ∧ f.cleaned (Items.repair text) = text ↔
          r.field? key = some f ∧ ¬Items.HasBareRun text.toList ∧ normalize f.dataType text = text) :=
      fun row hrow key f text htext => and_congr_right fun hf =>
        Field.cleaned_repair_eq_self_iff (hclean row hrow key f text hf htext)
    exact forall₂_congr fun row hrow => forall₂_congr fun key text => forall_congr' fun htext =>
      exists_congr fun f => hvalues row hrow key f text htext

theorem eq_ok_of_toOption {α : Type} {x : Except ItemsError α} {a : α} (h : x.toOption = some a) : x = .ok a := by
  cases x with
  | error e => cases h
  | ok b => rw [Option.some.inj h]

/-- Rows with a line of text and a rich text each. -/
def mixedRows : Repeater :=
  ⟨"rows", "Rows", .freeBlock, [⟨"a", "A", .text, .text, {}, {}, {}⟩, ⟨"body", "Body", .html, .text, {}, {}, {}⟩]⟩

/-- A letter with such rows. -/
def mixedLetter : Schema := ⟨Schema.currentVersion, [], [mixedRows], ⟨.docx, "letter", .epoch⟩⟩

/-- A text submitted for the rows. -/
def submittedRows (p : String) : Dict Submission := Dict.ofList [("rows", .text p)]

/-- A row with a code unit behind a backslash, a rich text with an element to strip and a key that is not declared. -/
def mixedList : String :=
  "[\x7b\"a\":\" \\\\u003C u12\",\"body\":\"<b>t</b><style>s</style>\",\"c\":1\x7d]"

/-- What is stored of that row is stored again. -/
theorem rebuild_resubmitted_mixedList :
    mixedLetter.check = .ok () ∧ mixedRows ∈ mixedLetter.repeaters ∧
      Items.decode mixedList =
        .ok [Dict.ofList [("a", " \\u003C u12"), ("body", "<b>t</b><style>s</style>"), ("c", "1")]] ∧
      ∃ out out' text, rebuild mixedLetter (submittedRows mixedList) .empty {} = .ok out ∧
        ⟨"rows", .array, text⟩ ∈ out.values ∧ rebuild mixedLetter (submittedRows text) .empty {} = .ok out' ∧
        ⟨"rows", .array, text⟩ ∈ out'.values := by
  have hcheck : mixedLetter.check = .ok () := rfl
  have hr : mixedRows ∈ mixedLetter.repeaters := List.mem_cons_self
  have hp : Items.decode mixedList =
      .ok [Dict.ofList [("a", " \\u003C u12"), ("body", "<b>t</b><style>s</style>"), ("c", "1")]] :=
    eq_ok_of_toOption (by decide +kernel)
  have hsubmitted : (submittedRows mixedList).get? mixedRows.slug = some (.text mixedList) := by decide +kernel
  obtain ⟨out, rows, hout, hrows, hmem, hagain⟩ := rebuild_resubmitted hcheck hr hp hsubmitted .empty {}
  have hclean : ∀ row ∈ rows, ∀ e ∈ row.entries, ¬Markup.HasUnsafeTag e.2.toList := by
    rw [hrows]
    decide +kernel
  have hsettled : ∀ row ∈ rows, ∀ e ∈ row.entries, ¬Items.HasBareRun e.2.toList ∧
      ∃ f ∈ mixedRows.field? e.1, normalize f.dataType e.2 = e.2 := by
    rw [hrows]
    decide +kernel
  obtain ⟨out', hout', hiff⟩ := hagain
    (fun row hrow key _ text _ htext _ => hclean row hrow (key, text) (Dict.get?_eq_some_iff.mp htext))
    (submittedRows (Items.encode rows)) .empty (by rfl)
  refine ⟨hcheck, hr, hp, out, out', Items.encode rows, hout, hmem, hout', hiff.mpr ?_⟩
  intro row hrow key text htext
  obtain ⟨hbare, f, hf, hnormal⟩ := hsettled row hrow (key, text) (Dict.get?_eq_some_iff.mp htext)
  exact ⟨f, hf, hbare, hnormal⟩

/-- The text of a row with a line of text. -/
def lineRow (line : String) : String := "[\x7b\"a\":\"" ++ line ++ "\"\x7d]"

/-- **A bare code unit can stand for the letter of another one**, and then a stored list changes when it is submitted
again. -/
theorem not_resubmitted_nestedRun :
    ¬∀ (schema : Schema) (r : Repeater) (p : String) (items : List Item) (options : CodecOptions) (out : Rebuilt)
      (text : String), schema.check = .ok () → r ∈ schema.repeaters → Items.decode p = .ok items →
        rebuild schema (Dict.ofList [(r.slug, .text p)]) .empty options = .ok out →
          ⟨r.slug, .array, text⟩ ∈ out.values →
            ∃ out', rebuild schema (Dict.ofList [(r.slug, .text text)]) .empty options = .ok out' ∧
              ⟨r.slug, .array, text⟩ ∈ out'.values := by
  intro hall
  have hp : Items.decode (lineRow "u0075003C") = .ok [Dict.ofList [("a", "u003C")]] :=
    eq_ok_of_toOption (by decide +kernel)
  have hfirst : (rebuild mixedLetter (submittedRows (lineRow "u0075003C")) .empty {}).toOption.map (·.values) =
      some [⟨"rows", .array, lineRow "u003C"⟩] := by decide +kernel
  have hsecond : (rebuild mixedLetter (submittedRows (lineRow "u003C")) .empty {}).toOption.map (·.values) =
      some [⟨"rows", .array, lineRow "\\u003C"⟩] := by decide +kernel
  obtain ⟨out, hout, hvalues⟩ := Option.map_eq_some_iff.mp hfirst
  obtain ⟨out', hout', hmem⟩ := hall mixedLetter mixedRows _ _ {} out _ rfl List.mem_cons_self hp
    (eq_ok_of_toOption hout) (hvalues ▸ List.mem_cons_self)
  have hagain : rebuild mixedLetter (submittedRows (lineRow "u003C")) .empty {} = .ok out' := hout'
  rw [hagain] at hsecond
  have hchanged : out'.values = [⟨"rows", .array, lineRow "\\u003C"⟩] := Option.some.inj hsecond
  rw [hchanged, List.mem_singleton] at hmem
  exact absurd (congrArg FieldValue.value hmem) (by decide)

end FormTemplate
