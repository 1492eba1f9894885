import FormTemplate.Proofs.Document.Save

/-!
# Runs of saves

A document is saved again and again, each time from the blob of the save before, and its template may change
between saves: a slug may be a field in one save, a repeater in the next and undeclared in a third. What is
stored under a slug goes through all of this unchanged as long as nobody submits anything under it. Only its kind
follows the schema.

* `runSaves` : saves in a row, with the values of each;
* `Saves.get?_decode_of_not_submitted` : one save keeps what is not submitted;
* `get?_runSaves` : a whole run does.
-/

set_option autoImplicit false

namespace FormTemplate

/-- What a save is given besides the stored blob. -/
structure SaveInput where
  schema : Schema
  submitted : Dict Submission
  options : CodecOptions := {}

/-- Saves in a row, each from the blob that the one before wrote. The result is the last blob and the values of
every save. -/
def runSaves : List SaveInput → String → Except ItemsError (String × List Rebuilt)
  | [], blob => .ok (blob, [])
  | s :: rest, blob => do
    let r ← rebuild s.schema s.submitted (Blob.decode blob) s.options
    let d ← saveDocument s.schema s.submitted (some blob) s.options
    let (final, outcomes) ← runSaves rest d.blob
    return (final, r :: outcomes)

variable {s : SaveInput} {rest earlier saves : List SaveInput} {blob final slug : String}
variable {outcomes : List Rebuilt} {v : FieldValue}

/-- A run does its first save and goes on from what that save wrote. -/
theorem runSaves_cons (hcheck : s.schema.check = .ok ()) (rest : List SaveInput) (blob : String) :
    ∃ r d, Saves s.schema s.submitted (some blob) s.options r d ∧
      runSaves (s :: rest) blob = (runSaves rest d.blob).map fun o => (o.1, r :: o.2) := by
  obtain ⟨r, d, h⟩ := saveDocument_spec hcheck s.submitted (some blob) s.options
  have hr : rebuild s.schema s.submitted (Blob.decode blob) s.options = .ok r := h.rebuilt
  refine ⟨r, d, h, ?_⟩
  rw [runSaves, hr, h.saved]
  show (runSaves rest d.blob >>= fun o => Except.ok (o.1, r :: o.2)) = _
  cases runSaves rest d.blob <;> rfl

/-- A run over checked schemas succeeds. -/
theorem runSaves_ok (hcheck : ∀ s ∈ saves, s.schema.check = .ok ()) (blob : String) :
    ∃ final outcomes, runSaves saves blob = .ok (final, outcomes) := by
  induction saves generalizing blob with
  | nil => exact ⟨blob, [], rfl⟩
  | cons s rest ih =>
    obtain ⟨r, d, _, hrun⟩ := runSaves_cons (hcheck s List.mem_cons_self) rest blob
    obtain ⟨final, outcomes, h⟩ := ih (fun t ht => hcheck t (List.mem_cons_of_mem _ ht)) d.blob
    exact ⟨final, r :: outcomes, by rw [hrun, h]; rfl⟩

/-! ## What is not submitted -/

/-- Without a submission, what was stored is stored again, whatever the schema says of the slug. -/
theorem Schema.storedText?_of_not_submitted (schema : Schema) (options : CodecOptions) (slug : String)
    (v : FieldValue) : schema.storedText? options slug none (some v) = some v.value := by
  rcases schema.role slug with ⟨f, hf⟩ | ⟨hf, r, hr⟩ | ⟨hf, hr⟩
  · exact Schema.storedText?_of_field hf options none (some v)
  · exact Schema.storedText?_of_repeater hf hr options none (some v)
  · exact Schema.storedText?_of_undeclared hf hr options none (some v)

/-- **A save of plain values keeps what is not submitted,** with the kind that its schema gives the slug. -/
theorem Saves.get?_decode_of_not_submitted {schema : Schema} {submitted : Dict Submission}
    {previousBlob : Option String} {options : CodecOptions} {r : Rebuilt} {d : SavedDocument}
    (h : Saves schema submitted previousBlob options r d)
    (hplain : ∀ w ∈ r.values, Blob.IsPlain w.value.toList) (hslug : submitted.get? slug = none)
    (hstored : (valuesBefore previousBlob).get? slug = some v) :
    (Blob.decode d.blob).get? slug = some ⟨slug, schema.kindOf slug, v.value⟩ := by
  rw [h.get?_decode_of_isPlain hplain, hslug, hstored, schema.storedText?_of_not_submitted]
  rfl

/-- What is stored goes through a run. The kind is that of the last save, which is why the run is taken apart at
its end: on the way the induction changes the stored kind and keeps the stored text. -/
theorem get?_decode_of_runSaves {last : SaveInput} (hcheck : ∀ s ∈ earlier ++ [last], s.schema.check = .ok ())
    (hslug : ∀ s ∈ earlier ++ [last], s.submitted.get? slug = none)
    (hstored : (Blob.decode blob).get? slug = some v)
    (hrun : runSaves (earlier ++ [last]) blob = .ok (final, outcomes))
    (hplain : ∀ r ∈ outcomes, ∀ w ∈ r.values, Blob.IsPlain w.value.toList) :
    (Blob.decode final).get? slug = some ⟨slug, last.schema.kindOf slug, v.value⟩ := by
  induction earlier generalizing blob v outcomes with
  | nil =>
    obtain ⟨r, d, h, hcons⟩ := runSaves_cons (hcheck last List.mem_cons_self) [] blob
    cases hcons.symm.trans hrun
    exact h.get?_decode_of_not_submitted (hplain r List.mem_cons_self) (hslug last List.mem_cons_self) hstored
  | cons s rest ih =>
    rw [List.cons_append] at hcheck hslug hrun
    obtain ⟨r, d, h, hcons⟩ := runSaves_cons (hcheck s List.mem_cons_self) (rest ++ [last]) blob
    rw [hcons] at hrun
    cases hrest : runSaves (rest ++ [last]) d.blob with
    | error e => rw [hrest] at hrun; cases hrun
    | ok o =>
      rw [hrest] at hrun
      cases hrun
      have hstep := h.get?_decode_of_not_submitted (hplain r List.mem_cons_self)
        (hslug s List.mem_cons_self) hstored
      have hfinal := ih (fun t ht => hcheck t (List.mem_cons_of_mem _ ht))
        (fun t ht => hslug t (List.mem_cons_of_mem _ ht)) hstep hrest
        fun r hr => hplain r (List.mem_cons_of_mem _ hr)
      exact hfinal

/-- **What is stored under a slug goes through a run unchanged** if no save submits anything under the slug and
all values of all saves are plain. Its kind is the one that the last schema gives the slug. -/
theorem get?_runSaves {last : SaveInput} (hcheck : ∀ s ∈ earlier ++ [last], s.schema.check = .ok ())
    (hslug : ∀ s ∈ earlier ++ [last], s.submitted.get? slug = none)
    (hstored : (Blob.decode blob).get? slug = some v) :
    ∃ final outcomes, runSaves (earlier ++ [last]) blob = .ok (final, outcomes) ∧
      ((∀ r ∈ outcomes, ∀ w ∈ r.values, Blob.IsPlain w.value.toList) →
        (Blob.decode final).get? slug = some ⟨slug, last.schema.kindOf slug, v.value⟩) := by
  obtain ⟨final, outcomes, hrun⟩ := runSaves_ok hcheck blob
  exact ⟨final, outcomes, hrun, get?_decode_of_runSaves hcheck hslug hstored hrun⟩

/-- A schema with the given fields and repeaters. -/
def letterSchema (fields : List Field) (repeaters : List Repeater) : Schema :=
  ⟨Schema.currentVersion, fields, repeaters, ⟨.docx, "letter", .epoch⟩⟩

/-- Two saves of a letter that do not submit its motto, a repeater in the first and undeclared in the second. -/
def mottoForgotten : List SaveInput :=
  [⟨letterSchema [] [⟨"motto", "Motto", .freeBlock, []⟩], .empty, {}⟩,
    ⟨letterSchema [] [], .empty, {}⟩]

/-- A last save of the letter, in which the motto is a field of several lines. -/
def mottoDeclared : SaveInput :=
  ⟨letterSchema [⟨"motto", "Motto", .textarea, .text, {}, {}, {}⟩] [],
    Dict.ofList [("Motto", .text "<!-- /field -->")], {}⟩

/-- A motto that begins and ends with a line break and holds the end of a comment. -/
def mottoBlob : String := "<!-- field slug=\"motto\" type=\"single\" -->\n\n--> \n\n<!-- /field -->"

/-- The motto goes through the roles of repeater, undeclared slug and field. -/
theorem get?_runSaves_motto :
    (∀ s ∈ mottoForgotten ++ [mottoDeclared], s.schema.check = .ok ()) ∧
      (∀ s ∈ mottoForgotten ++ [mottoDeclared], s.submitted.get? "motto" = none) ∧
      (Blob.decode mottoBlob).get? "motto" = some ⟨"motto", .single, "\n--> \n"⟩ ∧
      ∃ final outcomes, runSaves (mottoForgotten ++ [mottoDeclared]) mottoBlob = .ok (final, outcomes) ∧
        (∀ r ∈ outcomes, ∀ w ∈ r.values, Blob.IsPlain w.value.toList) ∧
        (Blob.decode final).get? "motto" = some ⟨"motto", .textarea, "\n--> \n"⟩ := by
  have hcheck : ∀ s ∈ mottoForgotten ++ [mottoDeclared], s.schema.check = .ok () := by
    simp only [mottoForgotten, List.cons_append, List.nil_append, List.forall_mem_cons]
    exact ⟨rfl, rfl, rfl, by simp⟩
  have hslug : ∀ s ∈ mottoForgotten ++ [mottoDeclared], s.submitted.get? "motto" = none := by decide +kernel
  have hstored : (Blob.decode mottoBlob).get? "motto" = some ⟨"motto", .single, "\n--> \n"⟩ := by
    decide +kernel
  obtain ⟨final, outcomes, hrun, hread⟩ := get?_runSaves hcheck hslug hstored
  have hall : ((runSaves (mottoForgotten ++ [mottoDeclared]) mottoBlob).toOption.all fun o =>
      o.2.all fun r => r.values.all fun w => decide (Blob.IsPlain w.value.toList)) = true := by decide +kernel
  have hplain : ∀ r ∈ outcomes, ∀ w ∈ r.values, Blob.IsPlain w.value.toList := by
    rw [hrun] at hall
    simpa [Except.toOption] using hall
  exact ⟨hcheck, hslug, hstored, final, outcomes, hrun, hplain, hread hplain⟩

end FormTemplate
