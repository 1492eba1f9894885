import FormTemplate.Proofs.Store.GuardedMap

/-!
# Calls on a backend that fails

A call on the store is several calls on its backend, and each of these may fail. A save writes at most once and that at
its end, so it does all of its work or nothing. A delete removes the keys of its identifier in order and stops at the
first that cannot be removed; removing a key again does nothing, so a delete is repeated until it succeeds and then has
done what it would have done at once.

* `Store.ActsOrFails`, `Store.ActsOrFails.bind` : an operation that acts as one in memory or fails without effect;
* `Backend.Fallible` : backends whose calls are such operations;
* `Store.actsOrFails_save` : so is a save on them;
* `Store.exists_removed` : a removal of keys removes those in front of the first that fails;
* `Store.Retried`, `Store.texts_of_retried` : an operation repeated until it succeeds, and what repeated removals leave;
* `Store.contained` : what the failures of a backend can do to its texts;
* `Backend.flaky`, `Backend.fallible_flaky` : texts in memory whose calls fail as planned.
-/

set_option autoImplicit false

namespace FormTemplate

namespace Store

variable {σ α β : Type} {texts : σ → Dict String}

/-! ## Operations that act or fail -/

/-- An operation on a state that holds texts does what another one does to texts in memory, or it fails and leaves the
texts as they are. What the state holds beside the texts is free. -/
def ActsOrFails (texts : σ → Dict String) (x : ExceptT StoreError (StateM σ) α)
    (y : ExceptT StoreError (StateT (Dict String) Id) α) : Prop :=
  ∀ st, ((runFrom x st).1, texts (runFrom x st).2) = onMemory y (texts st) ∨
    ∃ e, ((runFrom x st).1, texts (runFrom x st).2) = (.error e, texts st)

theorem actsOrFails_throw (e : StoreError) :
    ActsOrFails texts (throw e : ExceptT StoreError (StateM σ) α) (throw e) := fun _ => .inl rfl

/-- Two operations act together or fail together if the first one only looks at the texts. -/
theorem ActsOrFails.bind {x : ExceptT StoreError (StateM σ) α} {y : ExceptT StoreError (StateT (Dict String) Id) α}
    {f : α → ExceptT StoreError (StateM σ) β} {g : α → ExceptT StoreError (StateT (Dict String) Id) β}
    (h : ActsOrFails texts x y) (hlooks : ∀ d, (onMemory y d).2 = d) (hnext : ∀ a, ActsOrFails texts (f a) (g a)) :
    ActsOrFails texts (x >>= f) (y >>= g) := by
  intro st
  have hx := h st
  rw [runFrom_bind, onMemory_bind]
  generalize runFrom x st = r at hx ⊢
  obtain ⟨outcome, next⟩ := r
  rcases hx with hacts | ⟨e, hfails⟩
  · have hsame : texts next = texts st := (congrArg Prod.snd hacts).trans (hlooks (texts st))
    rw [← hacts, ← hsame]
    cases outcome with
    | error e => exact .inl rfl
    | ok a => exact hnext a next
  · obtain ⟨rfl, hsame⟩ := Prod.mk.inj hfails
    exact .inr ⟨e, Prod.ext rfl hsame⟩

end Store

/-- A backend each of whose calls acts as on texts in memory or fails without effect. -/
structure Backend.Fallible {σ : Type} (b : Backend (StateM σ)) (texts : σ → Dict String) : Prop where
  read : ∀ k, Store.ActsOrFails texts (b.read k) (memory.read k)
  write : ∀ k text, Store.ActsOrFails texts (b.write k text) (memory.write k text)
  remove : ∀ k, Store.ActsOrFails texts (b.remove k) (memory.remove k)

namespace Store

variable {σ : Type} {texts : σ → Dict String} {b : Backend (StateM σ)}

/-! ## Saves -/

theorem onMemory_save_cases (d : Dict String) (id : String) (s : Schema) :
    (∃ e, onMemory (save Backend.memory id s) d = (.error e, d)) ∨
      onMemory (save Backend.memory id s) d = (.ok (), d.insert (key id) s.text) := by
  rw [save, onMemory_bind, onMemory_read]
  dsimp only
  split
  · split
    · exact .inl ⟨_, rfl⟩
    · exact .inr rfl
  · exact .inr rfl

/-- **A save on a backend that may fail acts as in memory or fails without effect,** since it writes at its end. -/
theorem actsOrFails_save (hb : b.Fallible texts) (id : String) (s : Schema) :
    ActsOrFails texts (save b id s) (save Backend.memory id s) := by
  refine (hb.read (key id)).bind (fun _ => rfl) fun text => ?_
  split
  · split
    · exact actsOrFails_throw _
    · exact hb.write (key id) s.text
  · exact hb.write (key id) s.text

/-- A save fails and leaves the texts, or it writes one text. -/
theorem save_cases (hb : b.Fallible texts) (id : String) (s : Schema) (st : σ) :
    texts (runFrom (save b id s) st).2 = texts st ∨
      (runFrom (save b id s) st).1 = .ok () ∧
        texts (runFrom (save b id s) st).2 = (texts st).insert (key id) s.text := by
  rcases actsOrFails_save hb id s st with hacts | ⟨e, hfails⟩
  · rcases onMemory_save_cases (texts st) id s with ⟨e, hrefused⟩ | hsaved
    · rw [hrefused] at hacts
      exact .inl (congrArg Prod.snd hacts)
    · rw [hsaved] at hacts
      exact .inr (Prod.mk.inj hacts)
  · exact .inl (congrArg Prod.snd hfails)

/-! ## Deletes -/

/-- **A removal of keys removes those in front of the first that fails,** and all of them if it succeeds. -/
theorem exists_removed (hb : b.Fallible texts) (keys : List String) (st : σ) :
    ∃ removed rest, keys = removed ++ rest ∧
      texts (runFrom (removeAll b keys) st).2 = removed.foldl Dict.erase (texts st) ∧
      ((runFrom (removeAll b keys) st).1 = .ok () → rest = []) := by
  induction keys generalizing st with
  | nil => exact ⟨[], [], rfl, rfl, fun _ => rfl⟩
  | cons k keys ih =>
    -- of the state after the first removal nothing is known but its texts
    have hk := hb.remove k st
    rw [removeAll, runFrom_bind]
    generalize runFrom (b.remove k) st = r at hk ⊢
    obtain ⟨outcome, next⟩ := r
    rcases hk with hacts | ⟨e, hfails⟩
    · obtain ⟨rfl, herased⟩ := Prod.mk.inj hacts
      obtain ⟨removed, rest, hkeys, htexts, hok⟩ := ih next
      exact ⟨k :: removed, rest, congrArg (k :: ·) hkeys, by rw [htexts, herased]; rfl, hok⟩
    · obtain ⟨rfl, hsame⟩ := Prod.mk.inj hfails
      exact ⟨[], k :: keys, rfl, hsame, fun hok => by cases hok⟩

theorem texts_of_removeAll_ok (hb : b.Fallible texts) {keys : List String} {st : σ}
    (hok : (runFrom (removeAll b keys) st).1 = .ok ()) :
    texts (runFrom (removeAll b keys) st).2 = keys.foldl Dict.erase (texts st) := by
  obtain ⟨removed, rest, hkeys, htexts, hrest⟩ := exists_removed hb keys st
  rw [htexts, hkeys, hrest hok, List.append_nil]

/-- A removal changes no text under a key that it does not name. -/
theorem get?_removeAll_of_not_mem (hb : b.Fallible texts) {keys : List String} {k : String} (hk : k ∉ keys) (st : σ) :
    (texts (runFrom (removeAll b keys) st).2).get? k = (texts st).get? k := by
  obtain ⟨removed, rest, hkeys, htexts, -⟩ := exists_removed hb keys st
  have hremoved : k ∉ removed := fun hmem => hk (hkeys ▸ List.mem_append_left rest hmem)
  rw [htexts, get?_foldl_erase, if_neg hremoved]

/-- Keys that are removed again do not matter. -/
theorem foldl_erase_of_subset {removed keys : List String} (h : ∀ k ∈ removed, k ∈ keys) (d : Dict String) :
    keys.foldl Dict.erase (removed.foldl Dict.erase d) = keys.foldl Dict.erase d := by
  apply Dict.ext_get?
  intro k
  rw [get?_foldl_erase, get?_foldl_erase, get?_foldl_erase]
  by_cases hk : k ∈ keys
  · rw [if_pos hk, if_pos hk]
  · rw [if_neg hk, if_neg hk, if_neg fun hmem => hk (h k hmem)]

/-- From a state to another an operation is repeated, each time from what the failed one before has left, until it
succeeds. -/
inductive Retried (x : ExceptT StoreError (StateM σ) Unit) : σ → σ → Prop
  | succeeded {st final : σ} : runFrom x st = (.ok (), final) → Retried x st final
  | failed {st final : σ} (e : StoreError) (next : σ) :
      runFrom x st = (.error e, next) → Retried x next final → Retried x st final

/-- **A removal that is repeated until it succeeds leaves what it would have left at once.** -/
theorem texts_of_retried (hb : b.Fallible texts) {keys : List String} {st final : σ}
    (h : Retried (removeAll b keys) st final) : texts final = keys.foldl Dict.erase (texts st) := by
  induction h with
  | @succeeded st final hrun =>
    have hok : (runFrom (removeAll b keys) st).1 = .ok () := by rw [hrun]
    have htexts := texts_of_removeAll_ok hb hok
    rwa [hrun] at htexts
  | @failed st final e next hrun _ ih =>
    obtain ⟨removed, rest, hkeys, htexts, -⟩ := exists_removed hb keys st
    rw [hrun] at htexts
    rw [ih, htexts, foldl_erase_of_subset fun k hk => hkeys ▸ List.mem_append_left rest hk]

/-! ## Containment -/

/-- What calls for an identifier can do to the texts of a backend, whether they succeed or fail. -/
structure Contained (b : Backend (StateM σ)) (texts : σ → Dict String) (id : String) (s : Schema) (st : σ) : Prop where
  /-- A save that fails leaves every text as it was. -/
  failed : ∀ e, (runFrom (save b id s) st).1 = .error e → texts (runFrom (save b id s) st).2 = texts st
  /-- A save changes the keys of its identifier only. -/
  saved : ∀ k, k ∉ key id :: mirrorKeys id → (texts (runFrom (save b id s) st).2).get? k = (texts st).get? k
  /-- A delete changes the keys of its identifier only. -/
  deleted : ∀ k, k ∉ key id :: mirrorKeys id → (texts (runFrom (delete b id) st).2).get? k = (texts st).get? k
  /-- A delete that succeeds leaves no text under these keys. -/
  absent : (runFrom (delete b id) st).1 = .ok () →
    ∀ k ∈ key id :: mirrorKeys id, (texts (runFrom (delete b id) st).2).get? k = none
  /-- A delete that is repeated until it succeeds leaves what a delete in memory leaves, which never fails. -/
  retried : ∀ final, Retried (delete b id) st final →
    onMemory (delete Backend.memory id) (texts st) = (.ok (), texts final)

/-- **The failures of a backend are contained**: for each backend whose calls act as on texts in memory or fail without
effect, from every state that it may be in. So no call touches the texts of another identifier. -/
theorem contained (hb : b.Fallible texts) (id : String) (s : Schema) (st : σ) :
    Contained b texts id s st ∧ ∀ i k, i ≠ id → k ∈ key i :: mirrorKeys i →
      (texts (runFrom (save b id s) st).2).get? k = (texts st).get? k ∧
        (texts (runFrom (delete b id) st).2).get? k = (texts st).get? k := by
  have hcontained : Contained b texts id s st := by
    constructor
    case failed =>
      intro e herror
      rcases save_cases hb id s st with hsame | ⟨hok, -⟩
      · exact hsame
      · cases herror.symm.trans hok
    case saved =>
      intro k hk
      rcases save_cases hb id s st with hsame | ⟨-, hwritten⟩
      · rw [hsame]
      · rw [hwritten, Dict.get?_insert, if_neg fun heq => hk (List.mem_cons.mpr (.inl heq.symm))]
    case deleted => exact fun k hk => get?_removeAll_of_not_mem hb hk st
    case absent =>
      intro hok k hk
      rw [delete, texts_of_removeAll_ok hb hok, get?_foldl_erase, if_pos hk]
    case retried =>
      intro final hretried
      rw [delete, onMemory_removeAll, texts_of_retried hb hretried]
  refine ⟨hcontained, fun i k hne hk => ?_⟩
  have hother := not_mem_keys_of_ne hne hk
  exact ⟨hcontained.saved k hother, hcontained.deleted k hother⟩

end Store

/-! ## Failures by plan -/

namespace Backend

open Store

/-- An operation on texts in memory that fails if the plan says so; the plan says of each call to come whether it
fails. -/
def attempt {α : Type} (x : ExceptT StoreError (StateT (Dict String) Id) α) :
    ExceptT StoreError (StateM (Dict String × List Bool)) α :=
  ExceptT.mk fun (d, plan) =>
    if plan.head?.getD false then (.error (.unavailable "offline"), d, plan.tail)
    else ((onMemory x d).1, (onMemory x d).2, plan.tail)

/-- Texts in memory whose calls fail as planned. -/
def flaky : Backend (StateM (Dict String × List Bool)) where
  read k := attempt (memory.read k)
  write k text := attempt (memory.write k text)
  remove k := attempt (memory.remove k)

theorem actsOrFails_attempt {α : Type} (x : ExceptT StoreError (StateT (Dict String) Id) α) :
    ActsOrFails Prod.fst (attempt x) x := by
  rintro ⟨d, plan⟩
  have hrun : runFrom (attempt x) (d, plan) =
      if plan.head?.getD false then (.error (.unavailable "offline"), d, plan.tail)
      else ((onMemory x d).1, (onMemory x d).2, plan.tail) := rfl
  rw [hrun]
  split
  · exact .inr ⟨_, rfl⟩
  · exact .inl rfl

theorem fallible_flaky : flaky.Fallible Prod.fst where
  read k := actsOrFails_attempt (memory.read k)
  write k text := actsOrFails_attempt (memory.write k text)
  remove k := actsOrFails_attempt (memory.remove k)

end Backend

namespace Store

/-- A text that holds no schema, what an earlier release kept beside it, and the text of another identifier. -/
def besideLetter : Dict String :=
  Dict.ofList [(key "a", "["), ("template_fields:a", "fields"), (key "b", "other")]

/-- A write that fails leaves the text that it would have replaced. A delete that fails at its second key and then at
its first one removes both keys in the end, and no other. -/
theorem contained_besideLetter :
    Backend.flaky.Fallible Prod.fst ∧
      (runFrom (save Backend.flaky "a" (letter 4)) (besideLetter, [false, true])).1 = .error (.unavailable "offline") ∧
      (runFrom (save Backend.flaky "a" (letter 4)) (besideLetter, [false, true])).2.1 = besideLetter ∧
      Retried (delete Backend.flaky "a") (besideLetter, [false, true, true]) (Dict.ofList [(key "b", "other")], []) ∧
      onMemory (delete Backend.memory "a") besideLetter = (.ok (), Dict.ofList [(key "b", "other")]) ∧
      key "b" ∈ key "b" :: mirrorKeys "b" ∧
      (runFrom (delete Backend.flaky "a") (besideLetter, [false, true, true])).2.1.get? (key "b") =
        besideLetter.get? (key "b") := by
  have hb := Backend.fallible_flaky
  have hfailed : (runFrom (save Backend.flaky "a" (letter 4)) (besideLetter, [false, true])).1 =
      .error (.unavailable "offline") := rfl
  have hretried : Retried (delete Backend.flaky "a") (besideLetter, [false, true, true])
      (Dict.ofList [(key "b", "other")], []) := by
    refine .failed (.unavailable "offline") (besideLetter.erase (key "a"), [true]) rfl ?_
    refine .failed (.unavailable "offline") (besideLetter.erase (key "a"), []) rfl ?_
    exact .succeeded rfl
  obtain ⟨hsave, -⟩ := contained hb "a" (letter 4) (besideLetter, [false, true])
  obtain ⟨hdelete, hother⟩ := contained hb "a" (letter 4) (besideLetter, [false, true, true])
  exact ⟨hb, hfailed, hsave.failed _ hfailed, hretried, hdelete.retried _ hretried, List.mem_cons_self,
    (hother "b" (key "b") (by decide) List.mem_cons_self).2⟩

end Store

end FormTemplate
