import FormTemplate.Proofs.Store.GuardedMap

/-!
# Versions of kept schemas

A save compares its schema with the version of the text that is kept, which a reader of its own looks for. On objects
that reader sees the version of every text that holds a schema, whatever else the text holds; so what a get has
answered is a bound for all later gets and saves, also over texts that hold no schema. On arrays the readers
disagree: an array may give the parts of a schema by their positions, but it gives a version only if it has no other
part. The store writes no arrays. A text that was put there otherwise has to be replaced before it is guarded.

* `Store.IsPositional` : a text that is an array;
* `Schema.readVersion?_of_read?` : what the reader of versions sees of a text that holds a schema;
* `Store.versionOf?_step`, `Store.versionOf?_after` : calls do not lower the version that is seen;
* `Store.Guards` : no schema below a version is got or saved;
* `Store.guards_of_get` : what a get has answered guards everything after it, but for arrays;
* `Store.not_guards_of_positional` : an array is replaced by an older schema.
-/

set_option autoImplicit false

namespace FormTemplate

/-! ## The readers of a text -/

/-- A text that is an array, which gives the parts of a record by their positions. -/
def Store.IsPositional (text : String) : Prop := ∃ items, Json.parse? text.toList = some (.arr items)

namespace Json

variable {name : String} {names : List String} {part source : Json}

/-- An object gives its first part also without the others. -/
theorem record?_first_of_object {members : List (String × Json)} {version : Option Json} {parts : List (Option Json)}
    (h : record? (name :: names) (.obj members) = some (version :: parts)) :
    record? [name] (.obj members) = some [version] := by
  simp only [record?, List.mapM_cons, Option.bind_eq_bind, Option.bind_eq_some_iff, Option.pure_def,
    Option.some.injEq, List.cons.injEq] at h
  obtain ⟨first, hfirst, -, -, rfl, -⟩ := h
  simp [record?, hfirst]

/-- An array that gives four parts does not give its first part without the others. -/
theorem record?_first_of_array {a b c d : String} {items : List Json} {first second third : Option Json}
    (h : record? [a, b, c, d] (.arr items) = some [first, second, third, some source]) :
    record? [a] (.arr items) = none := by
  match items with
  | [] => simp [record?] at h
  | [_] => simp [record?] at h
  | _ :: _ :: _ => simp [record?]

end Json

/-- The version of a schema is one of four parts of its value, of which the last must be there as well. -/
theorem Schema.exists_record?_of_ofJson? {j : Json} {s : Schema} (h : Schema.ofJson? j = some s) :
    ∃ version fields repeaters source,
      j.record? ["version", "fields", "repeaters", "meta"] = some [version, fields, repeaters, some source] ∧
        Json.required? word? version = some s.version := by
  unfold Schema.ofJson? at h
  split at h
  · rename_i version fields repeaters source hrecord
    simp only [Option.bind_eq_bind, Option.bind_eq_some_iff, Option.pure_def, Option.some.injEq] at h
    obtain ⟨v, hversion, fs, -, rs, -, m, hsource, rfl⟩ := h
    cases source with
    | none => cases hsource
    | some source => exact ⟨version, fields, repeaters, source, hrecord, hversion⟩
  · cases h

/-- **The reader of versions sees the version of every schema that is not given by positions,** and none of those
that are. -/
theorem Schema.readVersion?_of_read? {text : String} {s : Schema} (h : Schema.read? text = some s) :
    (¬Store.IsPositional text → Schema.readVersion? text = some s.version) ∧
      (Store.IsPositional text → Schema.readVersion? text = none) := by
  obtain ⟨j, hparse, hj⟩ := Option.bind_eq_some_iff.mp h
  obtain ⟨version, fields, repeaters, source, hrecord, hversion⟩ := Schema.exists_record?_of_ofJson? hj
  simp only [Schema.readVersion?, Store.IsPositional, hparse, Option.bind_eq_bind, Option.bind_some, Option.some.injEq]
  cases j with
  | obj members => simp [Json.record?_first_of_object hrecord, hversion]
  | arr items => simp [Json.record?_first_of_array hrecord]
  | null | bool | num | str | unusable => cases hrecord

/-- The store writes objects. -/
theorem Schema.not_isPositional_text (s : Schema) : ¬Store.IsPositional s.text := by
  rintro ⟨items, h⟩
  cases s.parse?_text.symm.trans h

namespace Store

variable {d : Dict String} {id text : String} {s : Schema} {v w : UInt32} {c : Call} {calls : List Call}

/-! ## Calls and the text under a key -/

/-- The version that the guard of a save sees under an identifier. -/
def versionOf? (d : Dict String) (id : String) : Option UInt32 := (d.get? (key id)).bind Schema.readVersion?

/-- A save is refused because of a greater version, or it writes its schema over no greater version. -/
theorem step_save_cases (d : Dict String) (id : String) (s : Schema) :
    (∃ stored, versionOf? d id = some stored ∧ s.version < stored ∧
        step d (.save id s) = (.error (.versionRegression id stored s.version), d)) ∨
      ((∀ stored, versionOf? d id = some stored → stored ≤ s.version) ∧
        step d (.save id s) = (.ok .saved, d.insert (key id) s.text)) := by
  rw [step_save]
  unfold versionOf?
  cases (d.get? (key id)).bind Schema.readVersion? with
  | none => exact .inr ⟨by simp, rfl⟩
  | some stored =>
    by_cases hlt : s.version < stored
    · exact .inl ⟨stored, rfl, hlt, if_pos hlt⟩
    · exact .inr ⟨by simpa using hlt, if_neg hlt⟩

/-- What a call that does not delete an identifier does to the text under its key: nothing, or it writes a schema
over no greater version. -/
theorem get?_step_cases (d : Dict String) (hc : c ≠ .delete id) :
    (step d c).2.get? (key id) = d.get? (key id) ∨
      ∃ s : Schema, (step d c).2.get? (key id) = some s.text ∧
        ∀ stored, versionOf? d id = some stored → stored ≤ s.version := by
  by_cases hid : c.id = id
  · subst hid
    cases c with
    | get i => exact .inl (by rw [step_get])
    | delete i => exact absurd rfl hc
    | save i s =>
      rcases step_save_cases d i s with ⟨stored, -, -, hstep⟩ | ⟨hguard, hstep⟩
      · exact .inl (by rw [hstep])
      · exact .inr ⟨s, by rw [hstep, Call.id, Dict.get?_insert, if_pos rfl], hguard⟩
  · exact .inl (get?_step_of_not_mem (not_mem_keys_of_ne (Ne.symm hid) List.mem_cons_self) d)

/-- **A call that does not delete an identifier does not lower its version.** -/
theorem versionOf?_step (hc : c ≠ .delete id) (hv : versionOf? d id = some v) :
    ∃ w, v ≤ w ∧ versionOf? (step d c).2 id = some w := by
  rcases get?_step_cases d hc with hsame | ⟨s, htext, hguard⟩
  · exact ⟨v, UInt32.le_refl v, by rw [versionOf?, hsame, ← versionOf?, hv]⟩
  · exact ⟨s.version, hguard v hv, by rw [versionOf?, htext, Option.bind_some, s.readVersion?_text]⟩

/-! ## Sequences of calls -/

/-- The texts that calls leave. -/
def after (d : Dict String) (calls : List Call) : Dict String := (runCalls step d calls).2

theorem after_append (d : Dict String) (earlier later : List Call) :
    after d (earlier ++ later) = after (after d earlier) later := by
  induction earlier generalizing d with
  | nil => rfl
  | cons c rest ih => exact ih (step d c).2

/-- **Calls that do not delete an identifier do not lower its version.** -/
theorem versionOf?_after (hcalls : ∀ c ∈ calls, c ≠ .delete id) (hv : versionOf? d id = some v) :
    ∃ w, v ≤ w ∧ versionOf? (after d calls) id = some w := by
  induction calls generalizing d v with
  | nil => exact ⟨v, UInt32.le_refl v, hv⟩
  | cons c rest ih =>
    -- The bound of the rest is the version after the first call, which is not below the one before it.
    obtain ⟨w, hvw, hw⟩ := versionOf?_step (hcalls c List.mem_cons_self) hv
    obtain ⟨u, hwu, hu⟩ := ih (fun x hx => hcalls x (List.mem_cons_of_mem _ hx)) hw
    exact ⟨u, UInt32.le_trans hvw hwu, hu⟩

/-- A text that a call leaves under the key of a schema was there before or is that of a schema. -/
theorem text_step (h : (step d c).2.get? (key id) = some text) :
    d.get? (key id) = some text ∨ ∃ s : Schema, text = s.text := by
  by_cases hc : c = .delete id
  · subst hc
    rw [step_delete, get?_foldl_erase, if_pos List.mem_cons_self] at h
    cases h
  · rcases get?_step_cases d hc with hsame | ⟨s, hs, -⟩
    · exact .inl (hsame ▸ h)
    · exact .inr ⟨s, Option.some.inj (h.symm.trans hs)⟩

theorem text_after (h : (after d calls).get? (key id) = some text) :
    d.get? (key id) = some text ∨ ∃ s : Schema, text = s.text := by
  induction calls generalizing d with
  | nil => exact .inl h
  | cons c rest ih =>
    rcases ih h with hstep | hwritten
    · exact text_step hstep
    · exact .inr hwritten

/-! ## What is guarded -/

/-- The store answers no schema of an identifier below a version, and refuses to save one. -/
structure Guards (d : Dict String) (id : String) (v : UInt32) : Prop where
  get : ∀ t, (step d (.get id)).1 = .ok (.schema (some t)) → v ≤ t.version
  save : ∀ t : Schema, t.version < v →
    ∃ stored, v ≤ stored ∧ step d (.save id t) = (.error (.versionRegression id stored t.version), d)

/-- A version that is seen guards all versions below. -/
theorem guards_of_versionOf? (hw : versionOf? d id = some w) (hvw : v ≤ w) : Guards d id v where
  get t ht := by
    obtain ⟨text, htext, hread, -⟩ := step_get_eq_some_iff.mp ht
    rw [versionOf?, htext, Option.bind_some] at hw
    obtain ⟨hseen, hunseen⟩ := Schema.readVersion?_of_read? hread
    by_cases hpositional : IsPositional text
    · cases hw.symm.trans (hunseen hpositional)
    · cases hw.symm.trans (hseen hpositional)
      exact hvw
  save t ht := by
    rcases step_save_cases d id t with ⟨stored, hstored, -, hstep⟩ | ⟨hguard, -⟩
    · cases hw.symm.trans hstored
      exact ⟨w, hvw, hstep⟩
    · exact absurd (UInt32.lt_of_lt_of_le ht (UInt32.le_trans hvw (hguard w hw))) (UInt32.lt_irrefl _)

/-- The text under the key of an identifier is an array. -/
def HoldsPositional (d : Dict String) (id : String) : Prop := ∃ text, d.get? (key id) = some text ∧ IsPositional text

/-- **What a get has answered guards everything after it,** for all texts that there are at the start and all calls
before and after the get, as long as none after it deletes the identifier. The exception are texts that are arrays:
none of them was written by a save, and the next save replaces it, whatever its version. -/
theorem guards_of_get {earlier later : List Call}
    (hget : (step (after d earlier) (.get id)).1 = .ok (.schema (some s)))
    (hlater : ∀ c ∈ later, c ≠ .delete id) :
    (¬HoldsPositional (after d earlier) id → Guards (after d (earlier ++ later)) id s.version) ∧
      (HoldsPositional (after d earlier) id →
        (after d earlier).get? (key id) = d.get? (key id) ∧
          ∀ t, step (after d earlier) (.save id t) = (.ok .saved, (after d earlier).insert (key id) t.text)) := by
  obtain ⟨text, htext, hread, -⟩ := step_get_eq_some_iff.mp hget
  obtain ⟨hseen, hunseen⟩ := Schema.readVersion?_of_read? hread
  constructor
  · intro hobject
    have hversion : versionOf? (after d earlier) id = some s.version := by
      rw [versionOf?, htext, Option.bind_some, hseen fun h => hobject ⟨text, htext, h⟩]
    obtain ⟨w, hle, hw⟩ := versionOf?_after hlater hversion
    rw [after_append]
    exact guards_of_versionOf? hw hle
  · rintro ⟨text', htext', hpositional⟩
    obtain rfl : text = text' := Option.some.inj (htext.symm.trans htext')
    constructor
    · rcases text_after htext with hbefore | ⟨t, rfl⟩
      · rw [htext, hbefore]
      · exact absurd hpositional t.not_isPositional_text
    · intro t
      rcases step_save_cases (after d earlier) id t with ⟨stored, hstored, -⟩ | ⟨-, hstep⟩
      · rw [versionOf?, htext, Option.bind_some, hunseen hpositional] at hstored
        cases hstored
      · exact hstep

/-- The text of a letter of version 3 with a member that no reader knows. -/
def foreignText : String :=
  "\x7b\"kept\":[1],\"meta\":[\"docx\",\"letter\",\"2024-02-29T12:30:00.000000500Z\"],\"version\":3\x7d"

/-- The text of a letter of version 5 as an array of its parts. -/
def positionalText : String := "[5,[],[],[\"docx\",\"letter\",\"2024-02-29T12:30:00.000000500Z\"]]"

/-- Texts of which only one is kept, under the key of a schema. -/
def holding (text : String) : Dict String := Dict.empty.insert (key "a") text

theorem get?_holding (text : String) : (holding text).get? (key "a") = some text := by
  rw [holding, Dict.get?_insert, if_pos rfl]

/-- Saves of an older and a newer letter, and a delete of another one. -/
def laterLetters : List Call := [.save "a" (letter 2), .delete "b", .save "a" (letter 4)]

/-- A letter that the store has not written is guarded from the first time it is got. -/
theorem guards_of_get_foreign :
    (step (after (holding foreignText) [.save "b" (letter 9)]) (.get "a")).1 = .ok (.schema (some (letter 3))) ∧
      (∀ c ∈ laterLetters, c ≠ .delete "a") ∧
      ¬HoldsPositional (after (holding foreignText) [.save "b" (letter 9)]) "a" ∧
      Guards (after (holding foreignText) ([.save "b" (letter 9)] ++ laterLetters)) "a" 3 := by
  have hread : Schema.read? foreignText = some (letter 3) := by decide +kernel
  have hversion : Schema.readVersion? foreignText = some 3 := by decide +kernel
  have hother : key "a" ∉ key "b" :: mirrorKeys "b" := not_mem_keys_of_ne (by decide) List.mem_cons_self
  have hkept : (after (holding foreignText) [.save "b" (letter 9)]).get? (key "a") = some foreignText :=
    (get?_step_of_not_mem (c := .save "b" (letter 9)) hother _).trans (get?_holding foreignText)
  have hget : (step (after (holding foreignText) [.save "b" (letter 9)]) (.get "a")).1 =
      .ok (.schema (some (letter 3))) := step_get_eq_some_iff.mpr ⟨foreignText, hkept, hread, rfl⟩
  have hlater : ∀ c ∈ laterLetters, c ≠ .delete "a" := by decide
  have hobject : ¬HoldsPositional (after (holding foreignText) [.save "b" (letter 9)]) "a" := by
    rintro ⟨text, htext, hpositional⟩
    obtain rfl : foreignText = text := Option.some.inj (hkept.symm.trans htext)
    cases hversion.symm.trans ((Schema.readVersion?_of_read? hread).2 hpositional)
  exact ⟨hget, hlater, hobject, (guards_of_get hget hlater).1 hobject⟩

/-- **What a get has answered does not always guard what follows.** A letter of version 5 that is kept as an array is
replaced by one of version 2. -/
theorem not_guards_of_positional :
    ¬∀ (d : Dict String) (earlier later : List Call) (id : String) (s : Schema),
      (∀ c ∈ earlier ++ later, ∃ i t, c = .save i t) →
        (step (after d earlier) (.get id)).1 = .ok (.schema (some s)) →
          Guards (after d (earlier ++ later)) id s.version := by
  intro hall
  have hread : Schema.read? positionalText = some (letter 5) := by decide +kernel
  have hversion : Schema.readVersion? positionalText = none := by decide +kernel
  have hget : (step (after (holding positionalText) []) (.get "a")).1 = .ok (.schema (some (letter 5))) :=
    step_get_eq_some_iff.mpr ⟨positionalText, get?_holding positionalText, hread, rfl⟩
  have hguards : Guards (holding positionalText) "a" 5 := hall _ [] [] "a" (letter 5) (by simp) hget
  -- The save is not refused, since the guard sees no version.
  obtain ⟨stored, -, hrefused⟩ := hguards.save (letter 2) (by decide)
  rw [step_save, get?_holding, Option.bind_some, hversion] at hrefused
  cases hrefused

end Store

end FormTemplate
