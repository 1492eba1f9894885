import FormTemplate.Proofs.Document.Noted

/-!
# Checks that share a cache

A save checks many values, and the patterns that it has compiled are kept from one check to the next, under their texts
alone: whatever the field, its label or its message, and whether or not the text could be compiled. A cache in which every
text has what compiling gives stays one through every check. So no history shows in an outcome, and a save notes what the
checks report one by one.

* `validateAll` : checks in a row that share a cache;
* `sound_validateAll`, `validateAll_fst` : what a run of checks leaves behind, and its outcomes;
* `validateAll_alone` : a run from the empty cache, and a save, as if each check stood alone.
-/

set_option autoImplicit false

namespace FormTemplate

variable {cache : PatternCache}

/-- The outcomes of checks in a row, each with the cache that the one before it has left, and the last cache. -/
def validateAll : List (Field × String) → PatternCache → List (Except Mismatch Unit) × PatternCache
  | [], cache => ([], cache)
  | (f, value) :: rest, cache =>
    let (outcome, cache) := validateWith f value cache
    let (outcomes, cache) := validateAll rest cache
    (outcome :: outcomes, cache)

theorem validateAll_cons (f : Field) (value : String) (rest : List (Field × String)) (cache : PatternCache) :
    validateAll ((f, value) :: rest) cache =
      ((validateWith f value cache).1 :: (validateAll rest (validateWith f value cache).2).1,
        (validateAll rest (validateWith f value cache).2).2) := rfl

/-- Through a run of checks, every entry of the cache keeps holding what compiling gives. -/
theorem sound_validateAll (checks : List (Field × String)) (h : cache.Sound) : (validateAll checks cache).2.Sound := by
  induction checks generalizing cache with
  | nil => exact h
  | cons c rest ih => exact ih (sound_validateWith c.1 c.2 h)

/-- **From a sound cache, a run of checks has the outcomes of its checks.** -/
theorem validateAll_fst (checks : List (Field × String)) (h : cache.Sound) :
    (validateAll checks cache).1 = checks.map fun c => validate c.1 c.2 := by
  induction checks generalizing cache with
  | nil => rfl
  | cons c rest ih =>
    rw [validateAll_cons, List.map_cons, validateWith_fst c.1 c.2 h, ih (sound_validateWith c.1 c.2 h)]

/-- **The cache does not show.** Any checks in a row that share a cache, empty at first, have the outcomes that each of them
has alone; so has any check behind them. And what a save notes with the one cache that it carries along is put together
from the outcomes of checks that stand alone. -/
theorem validateAll_alone :
    (∀ checks : List (Field × String), (validateAll checks {}).1 = checks.map (fun c => validate c.1 c.2) ∧
      ∀ (f : Field) (value : String), (validateWith f value (validateAll checks {}).2).1 = validate f value) ∧
    ∀ (schema : Schema) (submitted : Dict Submission) (previous : Dict FieldValue) (options : CodecOptions),
      ∃ out, rebuild schema submitted previous options = .ok out ∧ out.mismatches = schema.noted options submitted := by
  refine ⟨fun checks => ⟨validateAll_fst checks PatternCache.sound_empty, fun f value => ?_⟩, rebuild_noted⟩
  exact validateWith_fst f value (sound_validateAll checks PatternCache.sound_empty)

/-- Two fields share a pattern and keep their messages; a text that cannot be compiled is remembered and asks nothing. -/
example :
    let code : Field := ⟨"code", "Code", .text, .text, {}, { pattern := some "[a-z]+" }, {}⟩
    let word : Field := ⟨"word", "Word", .text, .text, {},
      { pattern := some "[a-z]+", patternMessage := some "Letters only" }, {}⟩
    let free : Field := ⟨"free", "Free", .text, .text, {}, { pattern := some "(" }, {}⟩
    let run := validateAll [(code, "abc"), (word, "ABC"), (free, "any"), (code, "ABC"), (free, "thing")] {}
    run.1.map Except.toBool = [true, false, true, false, true] ∧ run.2.compiled.map (·.1) = ["(", "[a-z]+"] := by
  decide +kernel

end FormTemplate
