import FormTemplate.Proofs.Schema.Check

/-!
# Schemas under construction

A schema is made by calls, one after the other: fields are made, pushed into repeaters and added to the schema, and a
repeater is added when it is filled, or earlier and again. Each addition looks its slug up in the list of its scope,
while the check of a finished schema goes through all slugs and remembers those it has seen. Both keep the same rules, so
whatever calls were made, the schema passes its check.

* `Construction.run` : a schema and its repeaters after a list of calls;
* `Construction.Sound.step` : each call keeps the rules of the name spaces;
* `Construction.step_of_refused` : a call that is refused changes nothing;
* `Construction.run_check` : every run gives a schema that passes its check, and what passes is what keeps the rules.
-/

set_option autoImplicit false

namespace FormTemplate

open Schema (ProperSlugs)

/-! ## Calls -/

/-- A field that was made by `Field.new`. Its slug is the one it was made with, all else may have been set since. -/
structure MadeField extends Field where
  made : ∃ kind f, Field.new slug kind = .ok f

/-- A schema under construction, and the repeaters that are filled beside it. -/
structure Construction where
  schema : Schema
  repeaters : List Repeater := []
  deriving DecidableEq

namespace Construction

/-- A call. Repeaters are told apart by the order in which they were made. -/
inductive Call where
  /-- Makes another repeater. -/
  | newRepeater (slug : String) (block : BlockStyle)
  /-- Pushes a field into a repeater. -/
  | pushField (position : Nat) (f : MadeField)
  /-- Adds a field to the schema. -/
  | addField (f : MadeField)
  /-- Adds a repeater to the schema, as it is by now. -/
  | addRepeater (position : Nat)

/-- What a call gives, and the construction that it leaves. Nothing happens at a position without a repeater. -/
def attempt (c : Construction) : Call → Except SchemaError Unit × Construction
  | .newRepeater slug block =>
    match Repeater.new slug block with
    | .ok r => (.ok (), { c with repeaters := c.repeaters ++ [r] })
    | .error e => (.error e, c)
  | .pushField position f =>
    match c.repeaters[position]? with
    | none => (.ok (), c)
    | some r =>
      let (outcome, r) := (Repeater.push f.toField).on r
      (outcome, { c with repeaters := c.repeaters.set position r })
  | .addField f =>
    let (outcome, s) := (Schema.pushField f.toField).on c.schema
    (outcome, { c with schema := s })
  | .addRepeater position =>
    match c.repeaters[position]? with
    | none => (.ok (), c)
    | some r =>
      let (outcome, s) := (Schema.pushRepeater r).on c.schema
      (outcome, { c with schema := s })

/-- The construction after a call, whatever the call gives. -/
def step (c : Construction) (call : Call) : Construction := (c.attempt call).2

/-- The construction after calls that start from an empty schema. -/
def run (source : SchemaMeta) (calls : List Call) : Construction := calls.foldl step { schema := Schema.new source }

end Construction

/-! ## What each addition keeps -/

theorem MadeField.isValid (f : MadeField) : Slug.isValid f.slug = true := by
  obtain ⟨kind, g, hg⟩ := f.made
  unfold Field.new at hg
  split at hg
  · assumption
  · cases hg

/-- A proper slug that is new to a name space may stand anywhere in it. -/
theorem Schema.ProperSlugs.insert {before after : List String} {slug : String} (h : ProperSlugs (before ++ after))
    (hvalid : Slug.isValid slug = true) (hnew : slug ∉ before ++ after) : ProperSlugs (before ++ slug :: after) := by
  have hperm : (before ++ slug :: after).Perm (slug :: (before ++ after)) := List.perm_middle
  constructor
  · intro s hs
    rcases List.mem_cons.mp (hperm.mem_iff.mp hs) with rfl | hs
    · exact hvalid
    · exact h.isValid s hs
  · exact hperm.nodup_iff.mpr (List.nodup_cons.mpr ⟨hnew, h.nodup⟩)

/-- The rules for a repeater by itself. -/
structure Repeater.WellFormed (r : Repeater) : Prop where
  isValid : Slug.isValid r.slug = true
  nested : ProperSlugs (r.fields.map (·.slug))

theorem Repeater.wellFormed_new {slug : String} {block : BlockStyle} {r : Repeater}
    (h : Repeater.new slug block = .ok r) : r.WellFormed := by
  unfold Repeater.new at h
  split at h
  · rename_i hvalid
    cases h
    exact ⟨hvalid, by simp, .nil⟩
  · cases h

theorem Repeater.WellFormed.push {r : Repeater} (h : r.WellFormed) (f : MadeField) :
    ((Repeater.push f.toField).on r).2.WellFormed := by
  rw [Repeater.push_on]
  refine onUnlessUsed_keeps h fun hnew => ⟨h.isValid, ?_⟩
  rw [List.map_append]
  exact ProperSlugs.insert (by simpa using h.nested) f.isValid (by simpa using hnew)

namespace Schema.WellFormed

variable {s : Schema}

theorem pushField (h : s.WellFormed) (f : MadeField) : ((Schema.pushField f.toField).on s).2.WellFormed := by
  rw [Schema.pushField_on]
  refine onUnlessUsed_keeps h fun hnew => ⟨?_, h.nested⟩
  rw [topSlugs, List.map_append, List.append_assoc]
  exact h.top.insert f.isValid hnew

theorem pushRepeater (h : s.WellFormed) {r : Repeater} (hr : r.WellFormed) :
    ((Schema.pushRepeater r).on s).2.WellFormed := by
  rw [Schema.pushRepeater_on]
  refine onUnlessUsed_keeps h fun hnew => ⟨?_, fun r' hr' => ?_⟩
  · rw [topSlugs, List.map_append, ← List.append_assoc]
    exact ProperSlugs.insert (by simpa [topSlugs] using h.top) hr.isValid (by simpa [topSlugs] using hnew)
  · rcases List.mem_append.mp hr' with hr' | hr'
    · exact h.nested r' hr'
    · rw [List.mem_singleton.mp hr']
      exact hr.nested

end Schema.WellFormed

/-! ## Runs -/

namespace Construction

/-- The schema keeps the rules of its name spaces, and each repeater its own. -/
structure Sound (c : Construction) : Prop where
  schema : c.schema.WellFormed
  repeaters : ∀ r ∈ c.repeaters, r.WellFormed

theorem sound_new (source : SchemaMeta) : Sound { schema := Schema.new source } := by
  refine ⟨⟨⟨?_, .nil⟩, ?_⟩, ?_⟩ <;> simp [Schema.new, Schema.topSlugs]

variable {c : Construction}

/-- **Each call keeps the rules**, whether it is accepted or refused. -/
theorem Sound.step (h : c.Sound) (call : Call) : (c.step call).Sound := by
  unfold Construction.step
  cases call with
  | newRepeater slug block =>
    rw [attempt]
    split
    · rename_i r hr
      refine ⟨h.schema, fun r' hr' => ?_⟩
      rcases List.mem_append.mp hr' with hr' | hr'
      · exact h.repeaters r' hr'
      · rw [List.mem_singleton.mp hr']
        exact Repeater.wellFormed_new hr
    · exact h
  | pushField position f =>
    rw [attempt]
    split
    · exact h
    · rename_i r hr
      refine ⟨h.schema, fun k hk => ?_⟩
      rcases List.mem_or_eq_of_mem_set hk with hk | rfl
      · exact h.repeaters k hk
      · exact (h.repeaters r (List.mem_of_getElem? hr)).push f
  | addField f => exact ⟨h.schema.pushField f, h.repeaters⟩
  | addRepeater position =>
    rw [attempt]
    split
    · exact h
    · rename_i r hr
      exact ⟨h.schema.pushRepeater (h.repeaters r (List.mem_of_getElem? hr)), h.repeaters⟩

/-- **A refused call leaves the construction as it was.** -/
theorem step_of_refused {call : Call} {e : SchemaError} (h : (c.attempt call).1 = .error e) : c.step call = c := by
  unfold Construction.step
  cases call with
  | newRepeater slug block =>
    rw [attempt] at h ⊢
    split at h
    · cases h
    · rfl
  | pushField position f =>
    rw [attempt] at h ⊢
    split at h
    · cases h
    · rename_i r hr
      rw [Repeater.push_on] at h ⊢
      obtain ⟨hposition, rfl⟩ := List.getElem?_eq_some_iff.mp hr
      simp only [onUnlessUsed_refused h, List.set_getElem_self]
  | addField f =>
    rw [attempt] at h ⊢
    rw [Schema.pushField_on] at h ⊢
    simp only [onUnlessUsed_refused h]
  | addRepeater position =>
    rw [attempt] at h ⊢
    split at h
    · cases h
    · rw [Schema.pushRepeater_on] at h ⊢
      simp only [onUnlessUsed_refused h]

theorem Sound.foldl (h : c.Sound) (calls : List Call) : (calls.foldl Construction.step c).Sound := by
  induction calls generalizing c with
  | nil => exact h
  | cons call rest ih => exact ih (h.step call)

/-- **Schemas keep their rules over any run of constructors.** After every list of calls the schema passes its check. A
call that is refused leaves the construction as it is; a slug is refused where it is used in the scope already, which
leaves the repeater or the schema as it is, and otherwise the addition is made. What the check accepts, of whatever origin
the schema is, are proper slugs, none of them twice in the name space of fields and repeaters and none twice in a
repeater. -/
theorem run_check (source : SchemaMeta) (calls : List Call) :
    (run source calls).schema.check = .ok () ∧
      (∀ call e, ((run source calls).attempt call).1 = .error e →
        run source (calls ++ [call]) = run source calls) ∧
      (∀ (r : Repeater) (f : Field),
        (Repeater.push f).on r =
            onUnlessUsed f.slug (r.fields.map (·.slug)) r { r with fields := r.fields ++ [f] } ∧
          r.pushField f = unlessUsed f.slug (r.fields.map (·.slug)) { r with fields := r.fields ++ [f] }) ∧
      (∀ (s : Schema) (f : Field),
        (Schema.pushField f).on s = onUnlessUsed f.slug s.topSlugs s { s with fields := s.fields ++ [f] } ∧
          s.addField f = unlessUsed f.slug s.topSlugs { s with fields := s.fields ++ [f] }) ∧
      (∀ (s : Schema) (r : Repeater),
        (Schema.pushRepeater r).on s = onUnlessUsed r.slug s.topSlugs s { s with repeaters := s.repeaters ++ [r] } ∧
          s.addRepeater r = unlessUsed r.slug s.topSlugs { s with repeaters := s.repeaters ++ [r] }) ∧
      ∀ s : Schema, s.check = .ok () ↔
        (∀ slug ∈ s.topSlugs ++ s.repeaters.flatMap fun r => r.fields.map (·.slug), Slug.isValid slug = true) ∧
          s.topSlugs.Nodup ∧ ∀ r ∈ s.repeaters, (r.fields.map (·.slug)).Nodup := by
  refine ⟨?_, ?_, fun r f => ⟨r.push_on f, r.pushField_eq f⟩, fun s f => ⟨s.pushField_on f, s.addField_eq f⟩,
    fun s r => ⟨s.pushRepeater_on r, s.addRepeater_eq r⟩, fun s => ?_⟩
  · exact Schema.check_eq_ok_iff.mpr ((sound_new source).foldl calls).schema
  · intro call e hcall
    unfold run at hcall ⊢
    rw [List.foldl_append, List.foldl_cons, List.foldl_nil, step_of_refused hcall]
  · rw [Schema.check_eq_ok_iff]
    constructor
    · rintro ⟨htop, hnested⟩
      refine ⟨fun slug hslug => ?_, htop.nodup, fun r hr => (hnested r hr).nodup⟩
      rcases List.mem_append.mp hslug with hslug | hslug
      · exact htop.isValid slug hslug
      · obtain ⟨r, hr, hslug⟩ := List.mem_flatMap.mp hslug
        exact (hnested r hr).isValid slug hslug
    · rintro ⟨hvalid, htop, hnested⟩
      refine ⟨⟨fun slug hslug => hvalid slug (List.mem_append_left _ hslug), htop⟩, fun r hr => ⟨?_, hnested r hr⟩⟩
      intro slug hslug
      exact hvalid slug (List.mem_append_right _ (List.mem_flatMap.mpr ⟨r, hr, hslug⟩))

/-- A text field with a slug that a repeater might have. -/
def itemsField : MadeField where
  slug := "items"
  label := "All items"
  kind := .text
  dataType := .text
  made := ⟨.text, _, rfl⟩

/-- A repeater with the slug of a field is refused. It can still be filled, with each field once. -/
example :
    let c := run ⟨.odt, "offer", ⟨⟨2000, 1, 1⟩, 0, 0, 0, 0⟩⟩
      [.addField itemsField, .newRepeater "items" .tableRow, .addRepeater 0, .pushField 0 itemsField,
        .pushField 0 itemsField]
    c.schema.topSlugs = ["items"] ∧ c.repeaters.map (fun r => r.fields.length) = [1] := by decide

end Construction

end FormTemplate
