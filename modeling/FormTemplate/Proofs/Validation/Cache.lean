import FormTemplate.Validation

/-!
# Checks with compiled patterns

A check looks the pattern of its field up in a cache and leaves a cache behind. A cache in which every text has what
compiling gives stays one, and nothing of it shows in the outcome.

* `Field.pattern_fst` : the compiled pattern of a field, whatever is cached;
* `sound_validateWith` : what a check leaves behind;
* `validateWith_fst` : a check with compiled patterns is the check without.
-/

set_option autoImplicit false

namespace FormTemplate

variable {cache : PatternCache}

theorem Field.pattern_fst (f : Field) (h : cache.Sound) :
    (f.pattern cache).1 = f.constraints.pattern.bind Pattern.compile? := by
  unfold Field.pattern
  cases f.constraints.pattern with
  | none => rfl
  | some p => exact PatternCache.get_fst h p

theorem Field.sound_pattern (f : Field) (h : cache.Sound) : (f.pattern cache).2.Sound := by
  unfold Field.pattern
  cases f.constraints.pattern with
  | none => exact h
  | some p => exact PatternCache.sound_get h p

theorem sound_validateWith (f : Field) (value : String) (h : cache.Sound) :
    (validateWith f value cache).2.Sound := by
  unfold validateWith
  split
  · exact h
  · split
    · exact h
    · dsimp only
      split
      · exact f.sound_pattern h
      · exact f.sound_pattern h

/-- **A check with compiled patterns has the outcome of the check without.** -/
theorem validateWith_fst (f : Field) (value : String) (h : cache.Sound) :
    (validateWith f value cache).1 = validate f value := by
  unfold validate validateWith
  split
  · rfl
  · split
    · rfl
    · dsimp only
      rw [f.pattern_fst h, f.pattern_fst PatternCache.sound_empty]
      split <;> rfl

end FormTemplate
