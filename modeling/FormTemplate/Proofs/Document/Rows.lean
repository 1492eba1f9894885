import FormTemplate.Proofs.Document.Rebuild
import FormTemplate.Proofs.Items.Repair
import FormTemplate.Proofs.Items.RoundTrip
import FormTemplate.Proofs.Markup.Strip

/-!
# Submitted rows read back

The rows of a repeater are cut to the limit, cleaned value by value and encoded. Reading them repairs every value, and
it does so after the cleaning. So what is read back for a nested field is its cleaned value repaired, and that can be
markup which the cleaned value was not: a bare code unit passes the cleaning as plain text and turns into a bracket
when it is read.

* `Repeater.row`, `Repeater.get?_row` : what a submitted row is read back as;
* `Repeater.decode_stored` : what the stored text of a submission is read back as;
* `rebuild_nestedMarkup` : markup of a nested field is safe when read back, if it is safe when it is stored and holds
  no bare code unit;
* `hasUnsafeTag_row_bareRun` : with a bare code unit it can be unsafe.
-/

set_option autoImplicit false

namespace FormTemplate

variable {schema : Schema} {r : Repeater} {f : Field} {items : List Item} {submitted : Dict Submission}
variable {submission : Submission}

/-! ## Rows -/

/-- What a submitted row is read back as. -/
def Repeater.row (r : Repeater) (item : Item) : Item :=
  (Dict.ofList (r.cleanedEntries item.entries)).mapValues fun _ v => Items.repair v

theorem Repeater.lookup_cleanedEntries (r : Repeater) (key : String) (entries : List (String × String)) :
    Dict.lookup key (r.cleanedEntries entries) =
      (r.field? key).bind fun f => (Dict.lookup key entries).map f.cleaned := by
  induction entries with
  | nil => cases r.field? key <;> rfl
  | cons e rest ih =>
    rw [Repeater.cleanedEntries] at ih ⊢
    rw [List.filterMap_cons, Dict.lookup]
    by_cases hkey : e.1 = key
    · subst hkey
      cases hf : r.field? e.1 with
      | none => simpa [hf] using ih
      | some f => simp [Dict.lookup]
    · cases hf : r.field? e.1 with
      | none => simpa [hkey] using ih
      | some f => simpa [Dict.lookup, hkey] using ih

/-- What is stored of an item are the keys that the repeater declares, each with its value cleaned. -/
theorem Repeater.get?_cleanedEntries (r : Repeater) (item : Item) (key : String) :
    (Dict.ofList (r.cleanedEntries item.entries)).get? key =
      (r.field? key).bind fun f => (item.get? key).map f.cleaned := by
  have hreverse : (r.cleanedEntries item.entries).reverse = r.cleanedEntries item.entries.reverse := by
    rw [Repeater.cleanedEntries, Repeater.cleanedEntries, List.filterMap_reverse]
  rw [Dict.get?_ofList, hreverse, r.lookup_cleanedEntries, Dict.lookup_reverse item.sorted]
  rfl

/-- **The keys of a row are those that the repeater declares**, each with its value cleaned and then repaired. -/
theorem Repeater.get?_row (r : Repeater) (item : Item) (key : String) :
    (r.row item).get? key = (r.field? key).bind fun f => (item.get? key).map fun x => Items.repair (f.cleaned x) := by
  rw [Repeater.row, Dict.get?_mapValues, r.get?_cleanedEntries]
  cases r.field? key with
  | none => rfl
  | some f => cases item.get? key <;> rfl

/-- **The stored text of a submission reads back as its rows within the limit.** -/
theorem Repeater.decode_stored (r : Repeater) (options : CodecOptions) (previous : Option FieldValue)
    (hitems : submission.list = .ok items) :
    Items.decode (r.stored options (some submission) previous) =
      .ok ((Items.truncate options.maxItems items).map r.row) := by
  rw [Repeater.stored, hitems]
  show Items.decode (Items.encode _) = _
  rw [Items.decode_encode, Repeater.cleanedItems, List.map_map]
  rfl

/-- A save stores a text for each repeater of its schema. -/
theorem mem_values_of_mem_repeaters (hr : r ∈ schema.repeaters) (submitted : Dict Submission)
    (previous : Dict FieldValue) (options : CodecOptions) :
    ∃ out, rebuild schema submitted previous options = .ok out ∧
      ⟨r.slug, .array, r.stored options (submitted.get? r.slug) (previous.get? r.slug)⟩ ∈ out.values := by
  obtain ⟨d, mismatches, hout, -⟩ := rebuild_ok schema submitted previous options
  refine ⟨_, hout, ?_⟩
  exact List.mem_append_left _ (List.mem_append_right _ (List.mem_map.mpr ⟨r, hr, rfl⟩))

/-- A save of a well-formed schema stores one value under the slug of a repeater. -/
theorem Schema.WellFormed.mem_values_iff_of_repeater (h : schema.WellFormed) (hr : r ∈ schema.repeaters)
    {previous : Dict FieldValue} {options : CodecOptions} {out : Rebuilt}
    (hout : rebuild schema submitted previous options = .ok out) (v : FieldValue) :
    v ∈ out.values ∧ v.slug = r.slug ↔
      v = ⟨r.slug, .array, r.stored options (submitted.get? r.slug) (previous.get? r.slug)⟩ := by
  obtain ⟨_, hspec, hvalues⟩ := rebuild_spec h submitted previous options
  cases hspec.symm.trans hout
  have hfield := h.field?_repeater hr
  have hrole := h.repeater?_eq_some_iff.mpr ⟨hr, rfl⟩
  rw [hvalues]
  constructor
  · obtain ⟨slug, kind, text⟩ := v
    rintro ⟨⟨hkind, htext⟩, hslug⟩
    dsimp only at hkind htext hslug
    subst hslug
    rw [Schema.storedText?_of_repeater hfield hrole] at htext
    rw [Schema.kindOf, hfield, hrole] at hkind
    rw [hkind, ← Option.some.inj htext]
    rfl
  · rintro rfl
    refine ⟨⟨?_, Schema.storedText?_of_repeater hfield hrole options _ _⟩, rfl⟩
    rw [Schema.kindOf, hfield, hrole]
    rfl

/-! ## Markup in rows -/

theorem Field.cleaned_of_html (hf : f.kind = .html) (raw : String) :
    f.cleaned raw = Markup.strip (normalize f.dataType raw) := by
  rw [Field.cleaned, hf]
  rfl

/-- **Markup of a nested field is read back as its stripped text repaired.** So it has no unsafe tag if the stripped
text has none and holds no bare code unit. -/
theorem rebuild_nestedMarkup (hr : r ∈ schema.repeaters) (hf : r.field? f.slug = some f) (hhtml : f.kind = .html)
    (hsubmitted : submitted.get? r.slug = some submission) (hitems : submission.list = .ok items)
    (previous : Dict FieldValue) (options : CodecOptions) :
    ∃ out text rows, rebuild schema submitted previous options = .ok out ∧ ⟨r.slug, .array, text⟩ ∈ out.values ∧
      Items.decode text = .ok rows ∧ rows.length = (Items.truncate options.maxItems items).length ∧
      ∀ (i : Nat) (item : Item) (x : String), (Items.truncate options.maxItems items)[i]? = some item →
        item.get? f.slug = some x →
          ∃ row, rows[i]? = some row ∧ row.get? f.slug = some (Items.repair (Markup.strip (normalize f.dataType x))) ∧
            (¬Markup.HasUnsafeTag (Markup.strip (normalize f.dataType x)).toList →
              ¬Items.HasBareRun (Markup.strip (normalize f.dataType x)).toList →
              ¬Markup.HasUnsafeTag (Items.repair (Markup.strip (normalize f.dataType x))).toList) := by
  obtain ⟨out, hout, hmem⟩ := mem_values_of_mem_repeaters hr submitted previous options
  rw [hsubmitted] at hmem
  refine ⟨out, _, _, hout, hmem, r.decode_stored options _ hitems, List.length_map _, ?_⟩
  intro i item x hitem hx
  refine ⟨r.row item, by rw [List.getElem?_map, hitem]; rfl, ?_, ?_⟩
  · rw [r.get?_row, hf, hx, Option.bind_some, Option.map_some, Field.cleaned_of_html hhtml]
  · intro hsafe hbare
    rwa [Items.repair_eq_self hbare]

/-- A rich text as a nested field. -/
def bodyField : Field := ⟨"body", "Body", .html, .text, {}, {}, {}⟩

/-- Rows with a rich text each. -/
def bodyRows : Repeater := ⟨"rows", "Rows", .freeBlock, [bodyField]⟩

/-- A letter with such rows. -/
def bodyLetter : Schema := ⟨Schema.currentVersion, [], [bodyRows], ⟨.docx, "letter", .epoch⟩⟩

/-- One row with a rich text. -/
def bodyItem (body : String) : Item := Dict.ofList [("body", body)]

/-- A submission of one row. -/
def submittedBody (body : String) : Dict Submission := Dict.ofList [("rows", .items [bodyItem body])]

/-- A paragraph with a script is stored and read back without the script. -/
theorem rebuild_nestedMarkup_paragraph :
    bodyRows ∈ bodyLetter.repeaters ∧ bodyRows.field? bodyField.slug = some bodyField ∧ bodyField.kind = .html ∧
      (submittedBody "<p>u</p><script>a</script>").get? bodyRows.slug =
        some (.items [bodyItem "<p>u</p><script>a</script>"]) ∧
      (Submission.items [bodyItem "<p>u</p><script>a</script>"]).list =
        .ok [bodyItem "<p>u</p><script>a</script>"] ∧
      ∃ out text rows row body, rebuild bodyLetter (submittedBody "<p>u</p><script>a</script>") .empty {} = .ok out ∧
        ⟨"rows", .array, text⟩ ∈ out.values ∧ Items.decode text = .ok rows ∧ rows[0]? = some row ∧
        row.get? "body" = some body ∧ ¬Markup.HasUnsafeTag body.toList := by
  have hr : bodyRows ∈ bodyLetter.repeaters := List.mem_cons_self
  have hf : bodyRows.field? bodyField.slug = some bodyField := by decide +kernel
  have hsubmitted : (submittedBody "<p>u</p><script>a</script>").get? bodyRows.slug =
      some (.items [bodyItem "<p>u</p><script>a</script>"]) := by decide +kernel
  obtain ⟨out, text, rows, hout, hmem, hrows, -, hread⟩ := rebuild_nestedMarkup hr hf rfl hsubmitted rfl .empty {}
  obtain ⟨row, hrow, hbody, hsafe⟩ := hread 0 (bodyItem "<p>u</p><script>a</script>") "<p>u</p><script>a</script>"
    rfl (by decide +kernel)
  have hstripped : ¬Markup.HasUnsafeTag (Markup.strip (normalize .text "<p>u</p><script>a</script>")).toList := by
    decide +kernel
  have hbare : ¬Items.HasBareRun (Markup.strip (normalize .text "<p>u</p><script>a</script>")).toList := by
    decide +kernel
  exact ⟨hr, hf, rfl, hsubmitted, rfl, out, text, rows, row, _, hout, hmem, hrows, hrow, hbody, hsafe hstripped hbare⟩

/-- **A bare code unit passes the cleaning and is read back as a bracket.** -/
theorem hasUnsafeTag_row_bareRun :
    ¬Markup.HasUnsafeTag (Markup.strip "u003Cscriptu003E").toList ∧
      ∃ out text rows row body, rebuild bodyLetter (submittedBody "u003Cscriptu003E") .empty {} = .ok out ∧
        ⟨"rows", .array, text⟩ ∈ out.values ∧ Items.decode text = .ok rows ∧ row ∈ rows ∧
        row.get? "body" = some body ∧ Markup.HasUnsafeTag body.toList := by
  have hr : bodyRows ∈ bodyLetter.repeaters := List.mem_cons_self
  obtain ⟨out, hout, hmem⟩ := mem_values_of_mem_repeaters hr (submittedBody "u003Cscriptu003E") .empty {}
  have hsubmitted : (submittedBody "u003Cscriptu003E").get? bodyRows.slug =
      some (.items [bodyItem "u003Cscriptu003E"]) := by decide +kernel
  rw [hsubmitted] at hmem
  have hrow : (bodyRows.row (bodyItem "u003Cscriptu003E")).get? "body" = some "<script>" := by decide +kernel
  refine ⟨by decide +kernel, out, _, _, _, _, hout, hmem, bodyRows.decode_stored {} _ rfl, List.mem_cons_self, hrow, ?_⟩
  decide +kernel

end FormTemplate
