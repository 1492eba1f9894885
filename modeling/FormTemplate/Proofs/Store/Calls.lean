import FormTemplate.Proofs.Dict
import FormTemplate.Store

/-!
# Calls on the store

A store is used by a sequence of calls. A call that fails is answered with its error, and the next call goes on from
what is kept then.

* `Store.Call`, `Store.Answer`, `Store.perform` : the calls, their answers, and a call on a backend;
* `Store.runCalls` : a sequence of calls, for any account of what one call does;
* `Store.runFrom`, `Store.runFrom_bind` : what an operation gives and leaves in a state;
* `Store.step` : one call on texts in memory;
* `Store.step_save`, `Store.step_get`, `Store.step_delete` : what the calls do to the texts;
* `Store.get?_step_of_not_mem` : no call changes a text under the keys of another identifier;
* `Store.key_inj`, `Store.key_ne_of_mem_mirrorKeys` : keys of different identifiers and prefixes differ;
* `Store.not_mem_keys_of_ne` : identifiers share no keys.
-/

set_option autoImplicit false

namespace FormTemplate.Store

/-! ## Sequences of calls -/

/-- A call on the store. -/
inductive Call where
  | save (id : String) (s : Schema)
  | get (id : String)
  | delete (id : String)
  deriving DecidableEq, Repr

/-- The identifier that a call is about. -/
def Call.id : Call → String
  | .save id _ => id
  | .get id => id
  | .delete id => id

/-- What a call that does not fail answers. -/
inductive Answer where
  | saved
  | schema (s : Option Schema)
  | deleted
  deriving DecidableEq, Repr

/-- A call with what came of it. -/
structure Event where
  call : Call
  outcome : Except StoreError Answer

/-- A call on a backend. -/
def perform {m : Type → Type} [Monad m] (b : Backend m) : Call → ExceptT StoreError m Answer
  | .save id s => do
    save b id s
    return .saved
  | .get id => do
    let s ← get b id
    return .schema s
  | .delete id => do
    delete b id
    return .deleted

section

variable {σ τ : Type}

/-- Calls one after another, each from the state that the one before leaves, with the events in order. -/
def runCalls (step : σ → Call → Except StoreError Answer × σ) (state : σ) : List Call → List Event × σ
  | [] => ([], state)
  | c :: rest =>
    let (outcome, next) := step state c
    let (events, final) := runCalls step next rest
    (⟨c, outcome⟩ :: events, final)

/-- **Two accounts of the calls give the same events** if each call leads from related states to related states with
the same outcome. -/
theorem runCalls_simulates {related : σ → τ → Prop} {admits : Call → Prop}
    {stepσ : σ → Call → Except StoreError Answer × σ} {stepτ : τ → Call → Except StoreError Answer × τ}
    (hstep : ∀ s t c, related s t → admits c → (stepσ s c).1 = (stepτ t c).1 ∧ related (stepσ s c).2 (stepτ t c).2)
    {s : σ} {t : τ} (h : related s t) {calls : List Call} (hcalls : ∀ c ∈ calls, admits c) :
    (runCalls stepσ s calls).1 = (runCalls stepτ t calls).1 ∧
      related (runCalls stepσ s calls).2 (runCalls stepτ t calls).2 := by
  induction calls generalizing s t with
  | nil => exact ⟨rfl, h⟩
  | cons c rest ih =>
    obtain ⟨hsame, hnext⟩ := hstep s t c h (hcalls c List.mem_cons_self)
    obtain ⟨hevents, hfinal⟩ := ih hnext fun x hx => hcalls x (List.mem_cons_of_mem _ hx)
    exact ⟨by simp only [runCalls, hsame, hevents], hfinal⟩

end

/-! ## Keys -/

theorem key_inj {a b : String} : key a = key b ↔ a = b := String.append_right_inj _

/-- Texts differ if they differ within what stands in front. -/
theorem append_ne_of_take_ne {x y : String} (k : Nat) (hx : k ≤ x.toList.length) (hy : k ≤ y.toList.length)
    (h : x.toList.take k ≠ y.toList.take k) (a b : String) : x ++ a ≠ y ++ b := by
  intro heq
  have htake := congrArg (fun s => s.toList.take k) heq
  simp only [String.toList_append, List.take_append_of_le_length hx, List.take_append_of_le_length hy] at htake
  exact h htake

/-- The key of a schema is none under which earlier releases kept parts. -/
theorem key_ne_of_mem_mirrorKeys {a b k : String} (h : k ∈ mirrorKeys b) : k ≠ key a := by
  rcases List.mem_cons.mp h with rfl | h
  · exact append_ne_of_take_ne 10 (by decide +kernel) (by decide +kernel) (by decide +kernel) b a
  · rw [List.mem_singleton.mp h]
    exact append_ne_of_take_ne 10 (by decide +kernel) (by decide +kernel) (by decide +kernel) b a

theorem mem_removed_iff {a b : String} : key a ∈ key b :: mirrorKeys b ↔ a = b := by
  constructor
  · intro h
    rcases List.mem_cons.mp h with h | h
    · exact key_inj.mp h
    · exact absurd rfl (key_ne_of_mem_mirrorKeys h)
  · rintro rfl
    exact List.mem_cons_self

/-- What stands in front of an identifier in its keys. -/
def prefixes : List String := ["template_schema:", "template_fields:", "template_fields_legacy:"]

theorem mem_keys_iff {id k : String} : k ∈ key id :: mirrorKeys id ↔ ∃ p ∈ prefixes, k = p ++ id := by
  unfold key mirrorKeys prefixes
  simp only [List.mem_cons, List.not_mem_nil, or_false, exists_eq_or_imp, exists_eq_left]

/-- **Identifiers share no keys.** A key is cut into its prefix and its identifier in one way, since the prefixes
differ in their first sixteen characters. -/
theorem not_mem_keys_of_ne {a b k : String} (hne : a ≠ b) (h : k ∈ key a :: mirrorKeys a) :
    k ∉ key b :: mirrorKeys b := by
  have hprefixes : ∀ p ∈ prefixes, ∀ q ∈ prefixes,
      16 ≤ p.toList.length ∧ 16 ≤ q.toList.length ∧ (p.toList.take 16 = q.toList.take 16 → p = q) := by
    decide +kernel
  intro hb
  obtain ⟨p, hp, rfl⟩ := mem_keys_iff.mp h
  obtain ⟨q, hq, heq⟩ := mem_keys_iff.mp hb
  obtain ⟨hplong, hqlong, hsame⟩ := hprefixes p hp q hq
  by_cases htake : p.toList.take 16 = q.toList.take 16
  · obtain rfl := hsame htake
    exact hne ((String.append_right_inj p).mp heq)
  · exact append_ne_of_take_ne 16 hplong hqlong htake a b heq

theorem get?_foldl_erase (keys : List String) (d : Dict String) (k : String) :
    (keys.foldl Dict.erase d).get? k = if k ∈ keys then none else d.get? k := by
  induction keys generalizing d with
  | nil => rfl
  | cons x rest ih =>
    rw [List.foldl_cons, ih, Dict.get?_erase]
    by_cases hx : x = k
    · simp [hx]
    · simp [hx, Ne.symm hx]

/-! ## Operations on a state -/

section

variable {σ ε α β : Type}

/-- What an operation gives and leaves in a state. -/
def runFrom (x : ExceptT ε (StateM σ) α) (state : σ) : Except ε α × σ := Id.run (x.run.run state)

/-- An operation goes on from what the one before leaves, unless that one fails. -/
theorem runFrom_bind (x : ExceptT ε (StateM σ) α) (f : α → ExceptT ε (StateM σ) β) (state : σ) :
    runFrom (x >>= f) state =
      match runFrom x state with
      | (.ok a, next) => runFrom (f a) next
      | (.error e, next) => (.error e, next) := by
  show Id.run ((StateT.run (ExceptT.bindCont f (x.run.run state).1)) (x.run.run state).2) = _
  rw [runFrom]
  generalize x.run.run state = r
  obtain ⟨outcome, next⟩ := r
  cases outcome <;> rfl

/-- What comes of two operations comes of the second one. -/
theorem exists_of_runFrom_bind {x : ExceptT ε (StateM σ) α} {f : α → ExceptT ε (StateM σ) β} {state : σ} {b : β}
    (h : (runFrom (x >>= f) state).1 = .ok b) : ∃ a next, (runFrom (f a) next).1 = .ok b := by
  rw [runFrom_bind] at h
  generalize runFrom x state = r at h
  obtain ⟨outcome, next⟩ := r
  cases outcome with
  | error e => cases h
  | ok a => exact ⟨a, next, h⟩

end

/-! ## Texts in memory -/

/-- What an operation on texts in memory gives and leaves. -/
def onMemory {α : Type} (x : ExceptT StoreError (StateT (Dict String) Id) α) (d : Dict String) :
    Except StoreError α × Dict String := Id.run (x.run.run d)

section

variable {α β : Type}

theorem onMemory_bind (x : ExceptT StoreError (StateT (Dict String) Id) α)
    (f : α → ExceptT StoreError (StateT (Dict String) Id) β) (d : Dict String) :
    onMemory (x >>= f) d =
      match onMemory x d with
      | (.ok a, e) => onMemory (f a) e
      | (.error error, e) => (.error error, e) := by
  have hsame : ∀ {γ : Type} (y : ExceptT StoreError (StateT (Dict String) Id) γ), onMemory y d = runFrom y d :=
    fun _ => rfl
  rw [hsame, hsame, runFrom_bind]
  generalize runFrom x d = r
  obtain ⟨outcome, e⟩ := r
  cases outcome <;> rfl

@[simp] theorem onMemory_map (f : α → β) (x : ExceptT StoreError (StateT (Dict String) Id) α) (d : Dict String) :
    onMemory (f <$> x) d = ((onMemory x d).1.map f, (onMemory x d).2) := by
  rw [map_eq_pure_bind, onMemory_bind]
  generalize onMemory x d = r
  obtain ⟨outcome, e⟩ := r
  cases outcome <;> rfl

@[simp] theorem onMemory_pure (a : α) (d : Dict String) : onMemory (pure a) d = (.ok a, d) := rfl

@[simp] theorem onMemory_throw (error : StoreError) (d : Dict String) :
    onMemory (throw error : ExceptT StoreError (StateT (Dict String) Id) α) d = (.error error, d) := rfl

@[simp] theorem onMemory_read (k : String) (d : Dict String) :
    onMemory (Backend.memory.read k) d = (.ok (d.get? k), d) := rfl

@[simp] theorem onMemory_write (k text : String) (d : Dict String) :
    onMemory (Backend.memory.write k text) d = (.ok (), d.insert k text) := rfl

@[simp] theorem onMemory_remove (k : String) (d : Dict String) :
    onMemory (Backend.memory.remove k) d = (.ok (), d.erase k) := rfl

end

theorem onMemory_removeAll (keys : List String) (d : Dict String) :
    onMemory (removeAll Backend.memory keys) d = (.ok (), keys.foldl Dict.erase d) := by
  induction keys generalizing d with
  | nil => rfl
  | cons k rest ih => simp [removeAll, onMemory_bind, ih]

/-- One call on texts in memory: what comes of it, and the texts that it leaves. -/
def step (d : Dict String) (c : Call) : Except StoreError Answer × Dict String :=
  onMemory (perform Backend.memory c) d

theorem step_save (d : Dict String) (id : String) (s : Schema) :
    step d (.save id s) =
      match (d.get? (key id)).bind Schema.readVersion? with
      | some stored =>
        if s.version < stored then (.error (.versionRegression id stored s.version), d)
        else (.ok .saved, d.insert (key id) s.text)
      | none => (.ok .saved, d.insert (key id) s.text) := by
  cases hversion : (d.get? (key id)).bind Schema.readVersion? with
  | none => simp [step, perform, save, onMemory_bind, hversion, Except.map]
  | some stored => by_cases hlt : s.version < stored <;> simp [step, perform, save, onMemory_bind, hversion, hlt, Except.map]

theorem step_get (d : Dict String) (id : String) :
    step d (.get id) =
      (match d.get? (key id) with
        | none => .ok (.schema none)
        | some text => (decode id text).map fun s => .schema (some s), d) := by
  cases htext : d.get? (key id) with
  | none => simp [step, perform, get, onMemory_bind, htext]
  | some text =>
    cases hdecode : decode id text <;> simp [step, perform, get, onMemory_bind, htext, hdecode, Except.map]

theorem step_delete (d : Dict String) (id : String) :
    step d (.delete id) = (.ok .deleted, (key id :: mirrorKeys id).foldl Dict.erase d) := by
  simp [step, perform, delete, onMemory_removeAll, Except.map]

/-- No call changes a text under a key that is none of its identifier. -/
theorem get?_step_of_not_mem {c : Call} {k : String} (h : k ∉ key c.id :: mirrorKeys c.id) (d : Dict String) :
    (step d c).2.get? k = d.get? k := by
  cases c with
  | save id s =>
    have hinsert : (d.insert (key id) s.text).get? k = d.get? k := by
      rw [Dict.get?_insert, if_neg fun heq => h (List.mem_cons.mpr (.inl heq.symm))]
    rw [step_save]
    split
    · split
      · rfl
      · exact hinsert
    · exact hinsert
  | get id => rw [step_get]
  | delete id =>
    rw [step_delete]
    exact (get?_foldl_erase _ d k).trans (if_neg h)

/-! ## The texts that a get answers -/

theorem decode_eq_ok_iff {id text : String} {s : Schema} :
    decode id text = .ok s ↔ Schema.read? text = some s ∧ s.check = .ok () := by
  unfold decode
  cases Schema.read? text with
  | none => simp
  | some t =>
    rw [Json.orRefusal_some]
    cases hcheck : t.check <;> grind

/-- A get answers a schema exactly if it is read from the text under its key and keeps the rules of the name
spaces. -/
theorem step_get_eq_some_iff {d : Dict String} {id : String} {s : Schema} :
    (step d (.get id)).1 = .ok (.schema (some s)) ↔
      ∃ text, d.get? (key id) = some text ∧ Schema.read? text = some s ∧ s.check = .ok () := by
  rw [step_get]
  cases htext : d.get? (key id) with
  | none => simp
  | some text =>
    simp only [Option.some.injEq, exists_eq_left', ← @decode_eq_ok_iff id]
    cases decode id text <;> simp [Except.map]

end FormTemplate.Store
