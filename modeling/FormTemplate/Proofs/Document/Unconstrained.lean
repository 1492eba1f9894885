import FormTemplate.Proofs.Document.Noted
import Mathlib.Data.List.Forall2

/-!
# Constraints only report

A save checks values in the middle of cleaning them, so it has to be said that the checks leave the values alone. A
schema whose fields have lost their constraints stores the same values and keeps the same unknown slugs. It notes less:
each of its mismatches is found, in order and under its slug, among those of the schema with constraints. The message is
the same too, unless the value is longer than its field allows: the length is looked at before shape and type, and the
first fault is the one that is noted.

* `Schema.unconstrained` : a schema without the constraints of its fields;
* `Mismatch.Restates` : a mismatch stands under the slug of another, for the same reason or because of the length;
* `Repeater.stored_unconstrained` : constraints do not reach what is stored;
* `Schema.noted_unconstrained` : what is noted without constraints is noted with them;
* `rebuild_unconstrained` : the two saves compared.
-/

set_option autoImplicit false

namespace FormTemplate

open List (SublistForall₂)

/-! ## Without constraints -/

/-- A field that asks nothing of its values beyond its kind and its data type. -/
def Field.unconstrained (f : Field) : Field := { f with constraints := {} }

/-- A repeater without the constraints of its fields. -/
def Repeater.unconstrained (r : Repeater) : Repeater := { r with fields := r.fields.map Field.unconstrained }

/-- A schema without the constraints of its fields, those of repeaters included. -/
def Schema.unconstrained (s : Schema) : Schema :=
  { s with fields := s.fields.map Field.unconstrained, repeaters := s.repeaters.map Repeater.unconstrained }

/-- The fields of a schema, those of repeaters included. -/
def Schema.everyField (s : Schema) : List Field := s.fields ++ s.repeaters.flatMap (·.fields)

/-- A mismatch stands under the slug of another and has its message, or the one for a value that is longer than one of
the fields allows. -/
structure Mismatch.Restates (fields : List Field) (m n : Mismatch) : Prop where
  slug : n.slug = m.slug
  message : n.message = m.message ∨
    ∃ f ∈ fields, ∃ value, (f.lengthFault? value).map (·.message) = some n.message

variable {f : Field} {fields : List Field} {m : Mismatch}

theorem Mismatch.Restates.refl (m : Mismatch) : Mismatch.Restates fields m m := ⟨rfl, .inl rfl⟩

/-! ## Values -/

theorem Repeater.field?_unconstrained (r : Repeater) (slug : String) :
    r.unconstrained.field? slug = (r.field? slug).map Field.unconstrained := by
  unfold Repeater.field? Repeater.unconstrained
  rw [List.find?_map]
  rfl

theorem Repeater.cleanedEntries_unconstrained (r : Repeater) (entries : List (String × String)) :
    r.unconstrained.cleanedEntries entries = r.cleanedEntries entries := by
  unfold Repeater.cleanedEntries
  refine List.filterMap_congr fun e _ => ?_
  rw [Repeater.field?_unconstrained, Option.map_map]
  rfl

/-- **What a repeater stores does not depend on the constraints of its fields.** -/
theorem Repeater.stored_unconstrained (r : Repeater) : r.unconstrained.stored = r.stored := by
  funext options submitted previous
  have hitems : ∀ items, r.unconstrained.cleanedItems items = r.cleanedItems items := by
    intro items
    unfold Repeater.cleanedItems
    exact List.map_congr_left fun item _ => by rw [Repeater.cleanedEntries_unconstrained]
  unfold Repeater.stored
  simp only [hitems]

theorem Schema.containsSlug_unconstrained (s : Schema) (slug : String) :
    s.unconstrained.containsSlug slug = s.containsSlug slug := by
  unfold Schema.containsSlug Schema.field? Schema.repeater? Schema.unconstrained
  rw [List.find?_map, List.find?_map, Option.isSome_map, Option.isSome_map]
  rfl

/-- **Constraints change neither the values of a save nor what is unknown to it.** -/
theorem Schema.rebuild_unconstrained_values (schema : Schema) (submitted : Dict Submission)
    (previous : Dict FieldValue) (options : CodecOptions) {r r' : Rebuilt}
    (hr : rebuild schema submitted previous options = .ok r)
    (hr' : rebuild schema.unconstrained submitted previous options = .ok r') :
    r'.values = r.values ∧ r'.unknown = r.unknown := by
  obtain ⟨d, _, hd, hget⟩ := rebuild_ok schema submitted previous options
  obtain ⟨d', _, hd', hget'⟩ := rebuild_ok schema.unconstrained submitted previous options
  cases hd.symm.trans hr
  cases hd'.symm.trans hr'
  have hunknown : d' = d := by
    refine Dict.ext_get? fun slug => ?_
    rw [hget, hget', Schema.containsSlug_unconstrained]
  refine ⟨?_, by rw [hunknown]⟩
  simp only [hunknown, Schema.unconstrained, List.map_map]
  congr 2
  refine List.map_congr_left fun r _ => ?_
  simp only [Function.comp, Repeater.stored_unconstrained]
  rfl

/-! ## What is noted -/

/-- Without constraints shape and type are left to look at. -/
theorem Field.validate_unconstrained (f : Field) (value : String) :
    validate f.unconstrained value =
      if Text.isBlankText value then .ok ()
      else
        match (f.shapeFault? value).or (f.typeFault? value) with
        | some m => .error m
        | none => .ok () := by
  have hlength : f.unconstrained.lengthFault? value = none := rfl
  have hshape : f.unconstrained.shapeFault? value = f.shapeFault? value := rfl
  have htype : f.unconstrained.typeFault? value = f.typeFault? value := rfl
  have hpattern : f.unconstrained.patternFault? (f.unconstrained.pattern {}).1 value = none := rfl
  have hbounds : f.unconstrained.boundsFault? value = none := by
    unfold Field.boundsFault?
    cases comparable? f.unconstrained.dataType value <;> rfl
  unfold validate validateWith
  rw [hlength, hshape, htype, Option.none_or]
  split
  · rfl
  · cases (f.shapeFault? value).or (f.typeFault? value) with
    | some m => rfl
    | none => simp only [hpattern, hbounds, Option.none_or]

/-- A value that is faulty without constraints is faulty with them, and only its length comes first. -/
theorem Field.exists_fault_of_unconstrained {value : String} (h : validate f.unconstrained value = .error m) :
    ∃ n, validate f value = .error n ∧ (n = m ∨ f.lengthFault? value = some n) := by
  rw [Field.validate_unconstrained] at h
  unfold validate validateWith
  split at h
  · cases h
  · rename_i hblank
    rw [if_neg hblank]
    split at h
    · rename_i hfault
      cases h
      cases hlength : f.lengthFault? value with
      | none =>
        rw [Option.none_or, hfault]
        exact ⟨m, rfl, .inl rfl⟩
      | some n => exact ⟨n, rfl, .inr rfl⟩
    · cases h

/-- What is noted of a text without constraints is noted with them. -/
theorem Field.faults_unconstrained (hf : f ∈ fields) (label raw : String) :
    SublistForall₂ (Mismatch.Restates fields) (f.unconstrained.faults label raw) (f.faults label raw) := by
  unfold Field.faults
  cases hfree : validate f.unconstrained (normalize f.unconstrained.dataType raw) with
  | ok _ => exact .nil
  | error m =>
    obtain ⟨n, hn, hcause⟩ := Field.exists_fault_of_unconstrained hfree
    have hn' : validate f (normalize f.dataType raw) = .error n := hn
    rw [hn']
    refine .cons ⟨rfl, ?_⟩ .nil
    rcases hcause with rfl | hlength
    · exact .inl rfl
    · exact .inr ⟨f, hf, _, by rw [hlength]; rfl⟩

/-- Of two faults the length is the one that is noted. -/
example :
    let f : Field := ⟨"mail", "Mail", .email, .text, {}, { length := some 2 }, {}⟩
    f.faults "mail" "abc" = [⟨"mail", "Mail must be at most 2 characters"⟩] ∧
      f.unconstrained.faults "mail" "abc" = [⟨"mail", "Mail must be an email address"⟩] := by decide +kernel

/-! ## Runs -/

section Append

variable {α β ι : Type} {R : α → β → Prop}

theorem sublistForall₂_append {l₁ l₂ : List α} {k₁ k₂ : List β} (h₁ : SublistForall₂ R l₁ k₁)
    (h₂ : SublistForall₂ R l₂ k₂) : SublistForall₂ R (l₁ ++ l₂) (k₁ ++ k₂) := by
  obtain ⟨j₁, hj₁, hsub₁⟩ := List.sublistForall₂_iff.mp h₁
  obtain ⟨j₂, hj₂, hsub₂⟩ := List.sublistForall₂_iff.mp h₂
  exact List.sublistForall₂_iff.mpr ⟨j₁ ++ j₂, List.rel_append hj₁ hj₂, hsub₁.append hsub₂⟩

theorem sublistForall₂_flatMap {l : List ι} {f : ι → List α} {g : ι → List β}
    (h : ∀ i ∈ l, SublistForall₂ R (f i) (g i)) : SublistForall₂ R (l.flatMap f) (l.flatMap g) := by
  induction l with
  | nil => exact .nil
  | cons i rest ih =>
    rw [List.flatMap_cons, List.flatMap_cons]
    exact sublistForall₂_append (h i List.mem_cons_self) (ih fun j hj => h j (List.mem_cons_of_mem _ hj))

theorem exists_of_mem_sublistForall₂ {l : List α} {k : List β} (h : SublistForall₂ R l k) {a : α} (ha : a ∈ l) :
    ∃ b ∈ k, R a b := by
  induction h with
  | nil => cases ha
  | cons hab _ ih =>
    rcases List.mem_cons.mp ha with rfl | ha
    · exact ⟨_, List.mem_cons_self, hab⟩
    · obtain ⟨b, hb, hR⟩ := ih ha
      exact ⟨b, List.mem_cons_of_mem _ hb, hR⟩
  | cons_right _ ih =>
    obtain ⟨b, hb, hR⟩ := ih ha
    exact ⟨b, List.mem_cons_of_mem _ hb, hR⟩

end Append

theorem Field.noted_unconstrained (hf : f ∈ fields) (s : Option Submission) :
    SublistForall₂ (Mismatch.Restates fields) (f.unconstrained.noted s) (f.noted s) := by
  cases s with
  | none => exact .nil
  | some submission =>
    cases submission with
    | items l => exact .cons (.refl _) .nil
    | text raw => exact Field.faults_unconstrained hf f.slug raw

section Repeaters

variable {r : Repeater}

theorem Repeater.notedEntries_unconstrained (hr : ∀ f ∈ r.fields, f ∈ fields) (index : Nat)
    (entries : List (String × String)) :
    SublistForall₂ (Mismatch.Restates fields) (r.unconstrained.notedEntries index entries)
      (r.notedEntries index entries) := by
  refine sublistForall₂_flatMap fun e _ => ?_
  rw [Repeater.field?_unconstrained]
  cases hf : r.field? e.1 with
  | none => exact .nil
  | some f => exact Field.faults_unconstrained (hr f (List.mem_of_find?_eq_some hf)) _ e.2

theorem Repeater.notedItems_unconstrained (hr : ∀ f ∈ r.fields, f ∈ fields) (index : Nat) (items : List Item) :
    SublistForall₂ (Mismatch.Restates fields) (r.unconstrained.notedItems index items)
      (r.notedItems index items) := by
  induction items generalizing index with
  | nil => exact .nil
  | cons item rest ih =>
    exact sublistForall₂_append (Repeater.notedEntries_unconstrained hr index item.entries) (ih (index + 1))

theorem Repeater.noted_unconstrained (hr : ∀ f ∈ r.fields, f ∈ fields) (options : CodecOptions)
    (s : Option Submission) :
    SublistForall₂ (Mismatch.Restates fields) (r.unconstrained.noted options s) (r.noted options s) := by
  unfold Repeater.noted
  cases s with
  | none => exact .nil
  | some submission =>
    cases hl : submission.list with
    | error e => simpa only [hl] using .cons (.refl _) .nil
    | ok items => simpa only [hl] using Repeater.notedItems_unconstrained hr 0 _

end Repeaters

/-- **What is noted without constraints is noted with them**, in order and under the same slugs. -/
theorem Schema.noted_unconstrained (schema : Schema) (options : CodecOptions) (submitted : Dict Submission) :
    SublistForall₂ (Mismatch.Restates schema.everyField) (schema.unconstrained.noted options submitted)
      (schema.noted options submitted) := by
  unfold Schema.noted Schema.notings Schema.unconstrained
  rw [List.flatMap_append, List.flatMap_append]
  refine sublistForall₂_append ?_ ?_
  · rw [List.flatMap_map, List.flatMap_map, List.flatMap_map]
    exact sublistForall₂_flatMap fun f hf => Field.noted_unconstrained (List.mem_append_left _ hf) _
  · rw [List.flatMap_map, List.flatMap_map, List.flatMap_map]
    refine sublistForall₂_flatMap fun r hr => Repeater.noted_unconstrained (fun f hf => ?_) options _
    exact List.mem_append_right _ (List.mem_flatMap.mpr ⟨r, hr, hf⟩)

/-- **Validation never changes what is stored.** A save of any schema and the save of the schema without constraints
both succeed, with the same values and the same unknown slugs. Every mismatch of the latter occurs in the former under
the same slug, and so in order; the messages differ only where a value is too long. -/
theorem rebuild_unconstrained (schema : Schema) (submitted : Dict Submission) (previous : Dict FieldValue)
    (options : CodecOptions) :
    ∃ r r', rebuild schema submitted previous options = .ok r ∧
      rebuild schema.unconstrained submitted previous options = .ok r' ∧
      r'.values = r.values ∧ r'.unknown = r.unknown ∧
      (∀ m ∈ r'.mismatches, ∃ n ∈ r.mismatches, n.slug = m.slug) ∧
      SublistForall₂ (Mismatch.Restates schema.everyField) r'.mismatches r.mismatches := by
  obtain ⟨r, hr, hnoted⟩ := rebuild_noted schema submitted previous options
  obtain ⟨r', hr', hnoted'⟩ := rebuild_noted schema.unconstrained submitted previous options
  obtain ⟨hvalues, hunknown⟩ := schema.rebuild_unconstrained_values submitted previous options hr hr'
  have hrestates := schema.noted_unconstrained options submitted
  rw [← hnoted, ← hnoted'] at hrestates
  refine ⟨r, r', hr, hr', hvalues, hunknown, fun m hm => ?_, hrestates⟩
  obtain ⟨n, hn, hmn⟩ := exists_of_mem_sublistForall₂ hrestates hm
  exact ⟨n, hn, hmn.slug⟩

end FormTemplate
