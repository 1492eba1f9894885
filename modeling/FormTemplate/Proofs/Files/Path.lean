import FormTemplate.Files.Path

/-!
# Names inside a directory

A file name is one step of a path and does not lead upward. So the path of a file name inside a directory goes on from
the directory by exactly this step: it stays in the directory, and different names give different paths.

* `Path.IsFileName` : the names of files;
* `Path.parts_join` : the parts of a joined path are those of the directory and the name;
* `Path.steps_join` : its steps are those of the directory and the name;
* `Path.join_inj` : different names give different paths.
-/

set_option autoImplicit false

namespace FormTemplate.Path

variable {directory : Path} {name other : String} {s : List Char}

/-- A name that a file in a directory can have: one step, which does not lead upward, without a null character. -/
structure IsFileName (name : String) : Prop where
  ne_empty : name ≠ ""
  no_slash : '/' ∉ name.toList
  no_null : '\x00' ∉ name.toList
  ne_dot : name ≠ "."
  ne_dots : name ≠ ".."

theorem IsFileName.isStep (h : IsFileName name) : isStep name.toList = true := by
  have hempty : name.toList ≠ [] := fun heq => h.ne_empty (String.toList_eq_nil_iff.mp heq)
  have hdot : name.toList ≠ ['.'] := fun heq => h.ne_dot (String.toList_inj.mp heq)
  simp [Path.isStep, hempty, hdot]

theorem IsFileName.ne_upward (h : IsFileName name) : name.toList ≠ upward :=
  fun heq => h.ne_dots (String.toList_inj.mp heq)

/-! ## Parts -/

theorem parts_ne_nil (s : List Char) : parts s ≠ [] := by
  cases s with
  | nil => simp [parts]
  | cons c r =>
    rw [parts]
    split
    · simp
    · split <;> simp

theorem parts_of_not_mem (h : '/' ∉ s) : parts s = [s] := by
  induction s with
  | nil => rfl
  | cons c r ih =>
    obtain ⟨hc, hr⟩ := not_or.mp (mt List.mem_cons.mpr h)
    have hslash : (c == '/') = false := beq_eq_false_iff_ne.mpr (Ne.symm hc)
    simp [parts, hslash, ih hr]

/-- A slash parts what stands on its two sides. -/
theorem parts_append_slash (x y : List Char) : parts (x ++ '/' :: y) = parts x ++ parts y := by
  induction x with
  | nil => rfl
  | cons c x ih =>
    rw [List.cons_append, parts, parts, ih]
    split
    · rfl
    · cases hx : parts x with
      | nil => exact absurd hx (parts_ne_nil x)
      | cons p ps => rfl

/-! ## Joined paths -/

/-- A name is joined to a directory by a slash, unless the directory is empty or ends with one. -/
theorem join_cases (directory : Path) (name : String) :
    directory.text.toList = [] ∧ (directory.join name).text.toList = name.toList ∨
      (∃ x, directory.text.toList = x ++ ['/'] ∧ (directory.join name).text.toList = x ++ '/' :: name.toList) ∨
        (directory.join name).text.toList = directory.text.toList ++ '/' :: name.toList := by
  unfold join
  split
  · rename_i hlast
    exact .inl ⟨List.getLast?_eq_none_iff.mp hlast, rfl⟩
  · rename_i c hlast
    obtain ⟨x, hx⟩ := List.getLast?_eq_some_iff.mp hlast
    split
    · rename_i hc
      obtain rfl := beq_iff_eq.mp hc
      exact .inr (.inl ⟨x, hx, by simp [hx]⟩)
    · exact .inr (.inr (by simp))

/-- In front of the name, a joined path has characters of the directory and slashes only. -/
theorem toList_join (directory : Path) (name : String) :
    ∃ front, (directory.join name).text.toList = front ++ name.toList ∧
      ∀ c ∈ front, c ∈ directory.text.toList ∨ c = '/' := by
  rcases join_cases directory name with ⟨-, hjoin⟩ | ⟨x, hslash, hjoin⟩ | hjoin
  · exact ⟨[], hjoin, by simp⟩
  · refine ⟨x ++ ['/'], by simp [hjoin], fun c hc => .inl ?_⟩
    rwa [hslash]
  · refine ⟨directory.text.toList ++ ['/'], by simp [hjoin], fun c hc => ?_⟩
    simpa using hc

/-- The parts of a joined path are those of the directory and the name; an empty part at the end of the directory is
left out. -/
theorem parts_join (directory : Path) (h : '/' ∉ name.toList) :
    ∃ front blank, (blank = [] ∨ blank = [[]]) ∧ parts directory.text.toList = front ++ blank ∧
      parts (directory.join name).text.toList = front ++ [name.toList] := by
  rcases join_cases directory name with ⟨hempty, hjoin⟩ | ⟨x, hslash, hjoin⟩ | hjoin
  · exact ⟨[], [[]], .inr rfl, by rw [hempty]; rfl, by rw [hjoin, parts_of_not_mem h, List.nil_append]⟩
  · exact ⟨parts x, [[]], .inr rfl, by rw [hslash, parts_append_slash]; rfl,
      by rw [hjoin, parts_append_slash, parts_of_not_mem h]⟩
  · exact ⟨parts directory.text.toList, [], .inl rfl, (List.append_nil _).symm,
      by rw [hjoin, parts_append_slash, parts_of_not_mem h]⟩

/-- **The path of a file name goes on from its directory by that name.** -/
theorem steps_join (directory : Path) (h : IsFileName name) :
    (directory.join name).steps = directory.steps ++ [name.toList] := by
  obtain ⟨front, blank, hblank, hdirectory, hjoin⟩ := parts_join directory h.no_slash
  have hname : [name.toList].filter isStep = [name.toList] := List.filter_eq_self.mpr (by simp [h.isStep])
  have hnone : blank.filter isStep = [] := by
    rcases hblank with rfl | rfl <;> rfl
  rw [steps, steps, hjoin, hdirectory, List.filter_append, List.filter_append, hname, hnone, List.append_nil]

/-- **Different names give different paths.** -/
theorem join_inj : directory.join name = directory.join other ↔ name = other := by
  constructor
  · intro h
    unfold join at h
    split at h
    · exact congrArg text h
    · split at h
      · exact (String.append_right_inj _).mp (congrArg text h)
      · exact (String.append_right_inj _).mp (congrArg text h)
  · rintro rfl
    rfl

end FormTemplate.Path
