import FormTemplate.Schema

/-!
# Checked schemas

A schema passes its check exactly if every name space holds proper slugs only and none of them twice. In such a
schema a slug names one thing.

* `check_eq_ok_iff` : what the check accepts;
* `WellFormed.field?_eq_some_iff`, `WellFormed.repeater?_eq_some_iff` : looking a slug up finds the field or the
  repeater that bears it;
* `WellFormed.field?_repeater` : no field shares its slug with a repeater;
* `onUnlessUsed`, `unlessUsed` : an addition is refused, and changes nothing, if its slug is used in the scope, and for
  no other reason.
-/

set_option autoImplicit false

namespace FormTemplate.Schema

/-! ## Name spaces -/

/-- Slugs of one name space: all proper, none twice. -/
structure ProperSlugs (slugs : List String) : Prop where
  isValid : ∀ slug ∈ slugs, Slug.isValid slug = true
  nodup : slugs.Nodup

theorem checkSlugs_eq_ok_iff {seen slugs : List String} :
    checkSlugs seen slugs = .ok () ↔ ProperSlugs slugs ∧ ∀ slug ∈ slugs, slug ∉ seen := by
  induction slugs generalizing seen with
  | nil => exact ⟨fun _ => ⟨⟨by simp, .nil⟩, by simp⟩, fun _ => rfl⟩
  | cons slug rest ih =>
    simp only [checkSlugs]
    by_cases hvalid : Slug.isValid slug = true
    · by_cases hseen : slug ∈ seen
      · simp [hvalid, hseen]
      · rw [hvalid, if_neg (by simp), if_neg (by simpa using hseen), ih]
        constructor
        · rintro ⟨⟨hv, hn⟩, hs⟩
          refine ⟨⟨by simpa [hvalid] using hv, List.nodup_cons.mpr ⟨?_, hn⟩⟩, ?_⟩
          · intro hm
            exact hs slug hm List.mem_cons_self
          · intro s hm
            rcases List.mem_cons.mp hm with rfl | hm
            · exact hseen
            · exact fun hms => hs s hm (List.mem_cons_of_mem _ hms)
        · rintro ⟨⟨hv, hn⟩, hs⟩
          obtain ⟨hnew, hn⟩ := List.nodup_cons.mp hn
          refine ⟨⟨fun s hm => hv s (List.mem_cons_of_mem _ hm), hn⟩, ?_⟩
          intro s hm hms
          rcases List.mem_cons.mp hms with rfl | hms
          · exact hnew hm
          · exact hs s (List.mem_cons_of_mem _ hm) hms
    · rw [if_pos (by simpa using hvalid)]
      constructor
      · intro h
        cases h
      · rintro ⟨⟨hv, _⟩, _⟩
        exact absurd (hv slug List.mem_cons_self) hvalid

theorem checkSlugs_nil_eq_ok_iff {slugs : List String} : checkSlugs [] slugs = .ok () ↔ ProperSlugs slugs := by
  rw [checkSlugs_eq_ok_iff]
  exact ⟨fun h => h.1, fun h => ⟨h, by simp⟩⟩

/-! ## The check -/

/-- The rules of the name spaces of a schema. -/
structure WellFormed (s : Schema) : Prop where
  top : ProperSlugs s.topSlugs
  nested : ∀ r ∈ s.repeaters, ProperSlugs (r.fields.map (·.slug))

theorem checkRepeaters_eq_ok_iff {repeaters : List Repeater} :
    checkRepeaters repeaters = .ok () ↔ ∀ r ∈ repeaters, ProperSlugs (r.fields.map (·.slug)) := by
  induction repeaters with
  | nil => exact ⟨fun _ => by simp, fun _ => rfl⟩
  | cons r rest ih =>
    simp only [checkRepeaters, List.forall_mem_cons]
    rw [← checkSlugs_nil_eq_ok_iff, ← ih]
    cases checkSlugs [] (r.fields.map (·.slug)) with
    | error e => simp
    | ok u => simp

/-- **The check accepts exactly the schemas whose name spaces follow the rules.** -/
theorem check_eq_ok_iff {s : Schema} : s.check = .ok () ↔ s.WellFormed := by
  have hsplit : s.check = .ok () ↔ checkSlugs [] s.topSlugs = .ok () ∧ checkRepeaters s.repeaters = .ok () := by
    unfold check
    cases checkSlugs [] s.topSlugs with
    | error e => simp
    | ok u => simp
  rw [hsplit, checkSlugs_nil_eq_ok_iff, checkRepeaters_eq_ok_iff]
  exact ⟨fun h => ⟨h.1, h.2⟩, fun h => ⟨h.top, h.nested⟩⟩

/-! ## Looking slugs up -/

theorem containsSlug_iff {s : Schema} {slug : String} : s.containsSlug slug = true ↔ slug ∈ s.topSlugs := by
  simp [containsSlug, field?, repeater?, topSlugs]

/-- Where no two members share a key, the first member with a key is the only one. -/
theorem find?_key_eq_some_iff {α : Type} {key : α → String} {l : List α} (hl : (l.map key).Nodup) {k : String}
    {x : α} : l.find? (key · == k) = some x ↔ x ∈ l ∧ key x = k := by
  constructor
  · intro h
    exact ⟨List.mem_of_find?_eq_some h, by simpa using List.find?_some h⟩
  · rintro ⟨hx, rfl⟩
    induction l with
    | nil => cases hx
    | cons y r ih =>
      rw [List.map_cons, List.nodup_cons] at hl
      rw [List.find?_cons]
      rcases List.mem_cons.mp hx with rfl | hx
      · simp
      · have hne : (key y == key x) = false := by
          rw [beq_eq_false_iff_ne]
          intro heq
          exact hl.1 (heq ▸ List.mem_map_of_mem hx)
        rw [hne]
        exact ih hl.2 hx

namespace WellFormed

variable {s : Schema} {slug : String} {f : Field} {r : Repeater}

theorem field?_eq_some_iff (h : s.WellFormed) : s.field? slug = some f ↔ f ∈ s.fields ∧ f.slug = slug :=
  find?_key_eq_some_iff (List.nodup_append.mp h.top.nodup).1

theorem repeater?_eq_some_iff (h : s.WellFormed) :
    s.repeater? slug = some r ↔ r ∈ s.repeaters ∧ r.slug = slug :=
  find?_key_eq_some_iff (List.nodup_append.mp h.top.nodup).2.1

/-- No field shares its slug with a repeater. -/
theorem field?_repeater (h : s.WellFormed) (hr : r ∈ s.repeaters) : s.field? r.slug = none := by
  cases hf : s.field? r.slug with
  | none => rfl
  | some f =>
    obtain ⟨hmem, hslug⟩ := h.field?_eq_some_iff.mp hf
    have hdisjoint := (List.nodup_append.mp h.top.nodup).2.2
    exact absurd hslug (hdisjoint _ (List.mem_map_of_mem hmem) _ (List.mem_map_of_mem hr))

/-- A declared slug is proper. -/
theorem isValid_of_containsSlug (h : s.WellFormed) (hs : s.containsSlug slug = true) :
    Slug.isValid slug = true := by
  rw [containsSlug, Bool.or_eq_true, Option.isSome_iff_exists, Option.isSome_iff_exists] at hs
  rcases hs with ⟨f, hf⟩ | ⟨r, hr⟩
  · obtain ⟨hmem, rfl⟩ := h.field?_eq_some_iff.mp hf
    exact h.top.isValid _ (List.mem_append_left _ (List.mem_map_of_mem hmem))
  · obtain ⟨hmem, rfl⟩ := h.repeater?_eq_some_iff.mp hr
    exact h.top.isValid _ (List.mem_append_right _ (List.mem_map_of_mem hmem))

end WellFormed

end FormTemplate.Schema

namespace FormTemplate

theorem Repeater.isSome_field? {r : Repeater} {slug : String} :
    (r.field? slug).isSome = true ↔ slug ∈ r.fields.map (·.slug) := by
  simp [Repeater.field?]

/-! ## Additions -/

/-- A call in place that looks a slug up and then changes the value, if it is not used. -/
theorem InPlace.on_of_check {σ : Type} (used : σ → Bool) (slug : String) (change : σ → σ) (a : σ) :
    InPlace.on (do
        if used (← get) then throw (.duplicateSlug slug)
        modify change) a =
      if used a then (.error (.duplicateSlug slug), a) else (.ok (), change a) := by
  -- The call reads the value first, so it goes on as the case for this value.
  show InPlace.on (if used a then throw (.duplicateSlug slug) else modify change) a = _
  split
  · rfl
  · rfl

/-- What a call under a slug gives and leaves: it is refused and changes nothing if the slug is used in its scope. -/
def onUnlessUsed {σ : Type} (slug : String) (scope : List String) (a changed : σ) : Except SchemaError Unit × σ :=
  if slug ∈ scope then (.error (.duplicateSlug slug), a) else (.ok (), changed)

/-- The outcome of an addition under a slug: refused if the slug is used in its scope. -/
def unlessUsed {α : Type} (slug : String) (scope : List String) (added : α) : Except SchemaError α :=
  if slug ∈ scope then .error (.duplicateSlug slug) else .ok added

section

variable {σ : Type} {slug : String} {scope : List String} {a changed : σ} {call : InPlace σ Unit}

theorem InPlace.result_of_on (h : call.on a = onUnlessUsed slug scope a changed) :
    call.result a = unlessUsed slug scope changed := by
  rw [InPlace.result, h, onUnlessUsed, unlessUsed]
  split <;> rfl

/-- What holds of a value, and of the changed one where the slug is new, holds of what the call leaves. -/
theorem onUnlessUsed_keeps {keeps : σ → Prop} (h : keeps a) (hchanged : slug ∉ scope → keeps changed) :
    keeps (onUnlessUsed slug scope a changed).2 := by
  unfold onUnlessUsed
  split
  · exact h
  · rename_i hnew
    exact hchanged hnew

/-- **A refused call leaves the value as it was.** -/
theorem onUnlessUsed_refused {e : SchemaError} (h : (onUnlessUsed slug scope a changed).1 = .error e) :
    (onUnlessUsed slug scope a changed).2 = a := by
  unfold onUnlessUsed at h ⊢
  split at h
  · rename_i hused
    rw [if_pos hused]
  · cases h

end

theorem Repeater.push_on (r : Repeater) (f : Field) :
    (Repeater.push f).on r =
      onUnlessUsed f.slug (r.fields.map (·.slug)) r { r with fields := r.fields ++ [f] } :=
  (InPlace.on_of_check _ _ _ r).trans
    (ite_congr (propext Repeater.isSome_field?) (fun _ => rfl) fun _ => rfl)

theorem Schema.pushField_on (s : Schema) (f : Field) :
    (Schema.pushField f).on s = onUnlessUsed f.slug s.topSlugs s { s with fields := s.fields ++ [f] } :=
  (InPlace.on_of_check _ _ _ s).trans
    (ite_congr (propext Schema.containsSlug_iff) (fun _ => rfl) fun _ => rfl)

theorem Schema.pushRepeater_on (s : Schema) (r : Repeater) :
    (Schema.pushRepeater r).on s = onUnlessUsed r.slug s.topSlugs s { s with repeaters := s.repeaters ++ [r] } :=
  (InPlace.on_of_check _ _ _ s).trans
    (ite_congr (propext Schema.containsSlug_iff) (fun _ => rfl) fun _ => rfl)

theorem Repeater.pushField_eq (r : Repeater) (f : Field) :
    r.pushField f = unlessUsed f.slug (r.fields.map (·.slug)) { r with fields := r.fields ++ [f] } :=
  InPlace.result_of_on (r.push_on f)

theorem Schema.addField_eq (s : Schema) (f : Field) :
    s.addField f = unlessUsed f.slug s.topSlugs { s with fields := s.fields ++ [f] } :=
  InPlace.result_of_on (s.pushField_on f)

theorem Schema.addRepeater_eq (s : Schema) (r : Repeater) :
    s.addRepeater r = unlessUsed r.slug s.topSlugs { s with repeaters := s.repeaters ++ [r] } :=
  InPlace.result_of_on (s.pushRepeater_on r)

end FormTemplate
