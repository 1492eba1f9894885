import FormTemplate.Proofs.Schema.Json
import FormTemplate.Proofs.Store.Calls

/-!
# The store is a guarded map

Texts under keys behave as a map from identifiers to schemas with one guard: a schema is not replaced by one of an
older version. The texts mirror the map, each identifier having the text of its schema under its key. A call leads from
mirrored texts to mirrored texts, because a schema and its version read back from its text and because the keys
of different identifiers, and those of earlier releases, differ. What is got is what is read of the text. It is the schema
that was saved, with one exception: an instant in a leap second that does not end a minute has become the next second.

* `Store.Storable` : the schemas that can be kept and read back;
* `Store.GuardedMap.step` : the map with its guard;
* `Store.lastSaved` : the schema of the last successful save that no delete follows;
* `Store.Mirrors`, `Store.Mirrors.step` : texts that mirror a map, and a call on both;
* `Store.memory_isGuardedMap` : over all sequences of calls the store answers as the map does;
* `Store.not_isGuardedMap_leapLetter` : what is got is not always what was saved.
-/

set_option autoImplicit false

namespace FormTemplate.Store

/-- A schema that keeps the rules of the name spaces and was made on a day of the calendar. -/
structure Storable (s : Schema) : Prop where
  check : s.check = .ok ()
  date : s.source.parsedAt.date.isValid = true

/-- A storable schema is read back from its text. -/
theorem Storable.decode_text {s : Schema} (h : Storable s) (id : String) : decode id s.text = .ok s.asRead :=
  decode_eq_ok_iff.mpr ⟨Schema.read?_text h.date, h.check⟩

/-- A call that saves no other schema than a storable one. -/
def Call.Admissible : Call → Prop
  | .save _ s => Storable s
  | .get _ => True
  | .delete _ => True

/-! ## The map -/

namespace GuardedMap

/-- One call on a map from identifiers to schemas: what comes of it, and the map that it leaves. A get answers the
schema as it is read. -/
def step (m : Dict Schema) : Call → Except StoreError Answer × Dict Schema
  | .save id s =>
    match m.get? id with
    | some t =>
      if s.version < t.version then (.error (.versionRegression id t.version s.version), m)
      else (.ok .saved, m.insert id s)
    | none => (.ok .saved, m.insert id s)
  | .get id => (.ok (.schema ((m.get? id).map Schema.asRead)), m)
  | .delete id => (.ok .deleted, m.erase id)

end GuardedMap

/-- What an event makes of the schema last saved under an identifier. -/
def remember (id : String) (kept : Option Schema) (e : Event) : Option Schema :=
  match e.call, e.outcome with
  | .save i s, .ok _ => if i = id then some s else kept
  | .delete i, .ok _ => if i = id then none else kept
  | _, _ => kept

/-- An event of another identifier makes nothing of it. -/
theorem remember_of_ne {id : String} {e : Event} (h : e.call.id ≠ id) (kept : Option Schema) :
    remember id kept e = kept := by
  obtain ⟨c, outcome⟩ := e
  cases c with
  | save i s => cases outcome <;> simp_all [remember, Call.id]
  | get i => rfl
  | delete i => cases outcome <;> simp_all [remember, Call.id]

/-- The schema of the last successful save under an identifier, if no delete of the identifier follows it. -/
def lastSaved (id : String) (events : List Event) : Option Schema := events.foldl (remember id) none

namespace GuardedMap

/-- A call changes the mapping as its event is remembered. -/
theorem get?_step (m : Dict Schema) (c : Call) (id : String) :
    (step m c).2.get? id = remember id (m.get? id) ⟨c, (step m c).1⟩ := by
  cases c with
  | save i s =>
    cases hi : m.get? i with
    | none => simp [step, remember, hi, Dict.get?_insert]
    | some t => by_cases hlt : s.version < t.version <;> simp [step, remember, hi, hlt, Dict.get?_insert]
  | get i => rfl
  | delete i => simp [step, remember, Dict.get?_erase]

theorem get?_runCalls (m : Dict Schema) (calls : List Call) (id : String) :
    (runCalls step m calls).2.get? id = (runCalls step m calls).1.foldl (remember id) (m.get? id) := by
  induction calls generalizing m with
  | nil => rfl
  | cons c rest ih =>
    show (runCalls step (step m c).2 rest).2.get? id = _
    rw [ih, get?_step]
    rfl

/-- **The map holds under each identifier what was last saved there.** -/
theorem get?_runCalls_empty (calls : List Call) (id : String) :
    (runCalls step .empty calls).2.get? id = lastSaved id (runCalls step .empty calls).1 :=
  get?_runCalls .empty calls id

end GuardedMap

/-! ## Texts that mirror a map -/

/-- Under the key of each identifier stands the text of its schema, and each schema is storable. -/
structure Mirrors (d : Dict String) (m : Dict Schema) : Prop where
  text : ∀ id, d.get? (key id) = (m.get? id).map Schema.text
  storable : ∀ id s, m.get? id = some s → Storable s

theorem mirrors_empty : Mirrors .empty .empty := ⟨fun _ => rfl, fun _ _ h => by cases h⟩

namespace Mirrors

variable {d : Dict String} {m : Dict Schema}

/-- The guard sees the version of the mapped schema. -/
theorem readVersion? (h : Mirrors d m) (id : String) :
    (d.get? (key id)).bind Schema.readVersion? = (m.get? id).map (·.version) := by
  rw [h.text id]
  cases m.get? id with
  | none => rfl
  | some s => rw [Option.map_some, Option.bind_some, s.readVersion?_text, Option.map_some]

theorem insert (h : Mirrors d m) {s : Schema} (hs : Storable s) (id : String) :
    Mirrors (d.insert (key id) s.text) (m.insert id s) where
  text i := by
    rw [Dict.get?_insert, Dict.get?_insert, h.text i]
    by_cases hi : id = i
    · simp [hi]
    · simp [hi, key_inj]
  storable i t ht := by
    rw [Dict.get?_insert] at ht
    split at ht
    · cases ht
      exact hs
    · exact h.storable i t ht

theorem erase (h : Mirrors d m) (id : String) :
    Mirrors ((key id :: mirrorKeys id).foldl Dict.erase d) (m.erase id) where
  text i := by
    rw [get?_foldl_erase, Dict.get?_erase, h.text i]
    by_cases hi : id = i
    · rw [if_pos (mem_removed_iff.mpr hi.symm), if_pos hi]
      rfl
    · rw [if_neg fun hmem => hi (mem_removed_iff.mp hmem).symm, if_neg hi]
  storable i t ht := by
    rw [Dict.get?_erase] at ht
    split at ht
    · cases ht
    · exact h.storable i t ht

/-- **A call on mirrored texts answers as the call on the map does, and leaves mirrored texts.** -/
theorem step (h : Mirrors d m) {c : Call} (hc : c.Admissible) :
    (Store.step d c).1 = (GuardedMap.step m c).1 ∧ Mirrors (Store.step d c).2 (GuardedMap.step m c).2 := by
  cases c with
  | save id s =>
    have hinsert := h.insert hc id
    rw [step_save, h.readVersion? id, GuardedMap.step]
    cases m.get? id with
    | none => exact ⟨rfl, hinsert⟩
    | some t =>
      by_cases hlt : s.version < t.version
      · simp [hlt, h]
      · simp [hlt, hinsert]
  | get id =>
    rw [step_get, GuardedMap.step, h.text id]
    cases hs : m.get? id with
    | none => exact ⟨rfl, h⟩
    | some s => simp [(h.storable id s hs).decode_text id, Except.map, h]
  | delete id =>
    rw [step_delete]
    exact ⟨rfl, h.erase id⟩

end Mirrors

/-! ## Sequences of calls -/

/-- What comes of calls on an empty store. -/
def events (calls : List Call) : List Event := (runCalls step .empty calls).1

/-- The texts that calls on an empty store leave. -/
def kept (calls : List Call) : Dict String := (runCalls step .empty calls).2

theorem mirrors_kept {calls : List Call} (h : ∀ c ∈ calls, c.Admissible) :
    events calls = (runCalls GuardedMap.step .empty calls).1 ∧
      Mirrors (kept calls) (runCalls GuardedMap.step .empty calls).2 :=
  runCalls_simulates (fun _ _ _ hmirrors hc => hmirrors.step hc) mirrors_empty h

/-- **The store is a guarded map.** Over all calls the answers are those of the map. After any calls, a get answers
what was last saved, as it is read, which is the same unless it was made in a leap second that does not end a minute; a
save is refused with the version that is mapped exactly if that one is greater, and then changes nothing; and no call
changes what a get of another identifier answers. -/
theorem memory_isGuardedMap {calls : List Call} (hcalls : ∀ c ∈ calls, c.Admissible) :
    events calls = (runCalls GuardedMap.step .empty calls).1 ∧
      (∀ id, step (kept calls) (.get id) =
        (.ok (.schema ((lastSaved id (events calls)).map Schema.asRead)), kept calls)) ∧
      (∀ s : Schema, s.asRead = s ↔ s.source.parsedAt.EndsMinute) ∧
      (∀ id s t, Storable s → lastSaved id (events calls) = some t → s.version < t.version →
        step (kept calls) (.save id s) = (.error (.versionRegression id t.version s.version), kept calls)) ∧
      (∀ id s, Storable s → (∀ t, lastSaved id (events calls) = some t → ¬s.version < t.version) →
        (step (kept calls) (.save id s)).1 = .ok .saved) ∧
      ∀ c id, c.Admissible → c.id ≠ id →
        (step (step (kept calls) c).2 (.get id)).1 = (step (kept calls) (.get id)).1 := by
  obtain ⟨hevents, hmirrors⟩ := mirrors_kept hcalls
  have hmapped := fun id => GuardedMap.get?_runCalls_empty calls id
  rw [← hevents] at hmapped
  generalize (runCalls GuardedMap.step .empty calls).2 = m at hmirrors hmapped
  have hget : ∀ id, step (kept calls) (.get id) =
      (.ok (.schema ((lastSaved id (events calls)).map Schema.asRead)), kept calls) := by
    intro id
    have houtcome := (hmirrors.step (c := .get id) trivial).1
    rw [GuardedMap.step, hmapped id] at houtcome
    exact Prod.ext houtcome (by rw [step_get])
  refine ⟨hevents, hget, fun _ => Schema.asRead_eq_self_iff, ?refused, ?saved, ?frame⟩
  case refused =>
    intro id s t _ ht hlt
    rw [step_save, hmirrors.readVersion? id, hmapped id, ht]
    simp [hlt]
  case saved =>
    intro id s hs hguard
    have houtcome := (hmirrors.step (c := .save id s) hs).1
    rw [houtcome, GuardedMap.step, hmapped id]
    cases ht : lastSaved id (events calls) with
    | none => rfl
    | some t => simp [hguard t ht]
  case frame =>
    intro c id hc hne
    have hnext := ((hmirrors.step hc).2.step (c := .get id) trivial).1
    rw [hnext, hget id, GuardedMap.step, GuardedMap.get?_step, remember_of_ne hne, hmapped id]

/-- A letter without fields. -/
def letter (version : UInt32) : Schema := ⟨version, [], [], ⟨.docx, "letter", .ofClock 1709209800000000500⟩⟩

/-- Calls on two identifiers with a save that is refused and a delete. -/
def letterCalls : List Call :=
  [.save "a" (letter 2), .save "b" (letter 1), .save "a" (letter 1), .get "a", .delete "a", .get "a", .get "b"]

/-- The refused save leaves the schema, and the delete leaves that of the other identifier. -/
theorem memory_isGuardedMap_letters :
    (∀ c ∈ letterCalls, c.Admissible) ∧
      (events letterCalls).map (·.outcome) =
        [.ok .saved, .ok .saved, .error (.versionRegression "a" 2 1), .ok (.schema (some (letter 2))), .ok .deleted,
          .ok (.schema none), .ok (.schema (some (letter 1)))] ∧
      (step (kept letterCalls) (.get "b")).1 = .ok (.schema (some (letter 1))) := by
  have hdate : (letter 1).source.parsedAt.date.isValid = true := by decide
  have hstorable : ∀ version, Storable (letter version) := fun _ => ⟨rfl, hdate⟩
  have hcalls : ∀ c ∈ letterCalls, c.Admissible := by
    simp [letterCalls, Call.Admissible, hstorable]
  obtain ⟨hevents, hget, hasRead, -⟩ := memory_isGuardedMap hcalls
  have hsame : ∀ version, (letter version).asRead = letter version := fun version =>
    (hasRead _).mpr (show (letter 1).source.parsedAt.EndsMinute by decide)
  have houtcomes : ((runCalls GuardedMap.step .empty letterCalls).1).map (·.outcome) =
      [.ok .saved, .ok .saved, .error (.versionRegression "a" 2 1), .ok (.schema (some (letter 2).asRead)),
        .ok .deleted, .ok (.schema none), .ok (.schema (some (letter 1).asRead))] := rfl
  have hlast : lastSaved "b" (runCalls GuardedMap.step .empty letterCalls).1 = some (letter 1) := rfl
  refine ⟨hcalls, ?_, ?_⟩
  · rw [hevents, houtcomes, hsame, hsame]
  · rw [hget "b", hevents, hlast, Option.map_some, hsame]

/-- **What is got is not always what was saved**: not for a letter that was made in a leap second in the middle of a
minute. -/
theorem not_isGuardedMap_leapLetter :
    ¬∀ (calls : List Call) (id : String) (s : Schema),
      (∀ c ∈ calls, c.Admissible ∧ ∀ i t, c = .save i t →
        0 ≤ t.source.parsedAt.date.year ∧ t.source.parsedAt.date.year ≤ 9999) →
        lastSaved id (events calls) = some s → (step (kept calls) (.get id)).1 = .ok (.schema (some s)) := by
  intro hall
  have hstorable : Storable leapLetter := ⟨rfl, by decide⟩
  have hcalls : ∀ c ∈ [Call.save "a" leapLetter], c.Admissible ∧ ∀ i t, c = .save i t →
      0 ≤ t.source.parsedAt.date.year ∧ t.source.parsedAt.date.year ≤ 9999 := by
    simp only [List.mem_singleton, forall_eq]
    refine ⟨hstorable, ?_⟩
    rintro i t ⟨⟩
    exact ⟨by decide, by decide⟩
  have hgot := hall [.save "a" leapLetter] "a" leapLetter hcalls rfl
  obtain ⟨text, htext, hread, -⟩ := step_get_eq_some_iff.mp hgot
  obtain rfl : leapLetter.text = text := Option.some.inj htext
  rw [Schema.read?_text hstorable.date, Option.some_inj, Schema.asRead_eq_self_iff] at hread
  exact absurd hread (by decide)

end FormTemplate.Store
