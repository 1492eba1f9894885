import FormTemplate.Unicode.Casing

/-!
# Letters without regard to case

The table of case classes is long, but few of its classes hold an ASCII character: there is one for each letter, and the
Kelvin sign and the long s have joined two of them. The table is read once here; what an ASCII character matches without
regard to case then follows from the short list.

* `asciiClasses`, `filter_foldClasses` : the classes with an ASCII character, and that the table has no others;
* `foldClosure_single` : what an ASCII character matches without regard to case.
-/

set_option autoImplicit false

namespace FormTemplate.Unicode

variable {n : Nat}

/-- The classes with an ASCII character. -/
def asciiClasses : List (List Nat) :=
  (List.range 26).map fun i => [0x41 + i, 0x61 + i] ++ if i = 10 then [0x212A] else if i = 18 then [0x17F] else []

/-- The classes that the text of a table lists. -/
def classesOf (table : List Char) : List (List Nat) :=
  ((splitAll (fun c => c == ' ' || c == '\n') table).filter (! ·.isEmpty)).map fun w =>
    (splitAll (· == '=') w).filterMap Text.hexValue?

set_option maxRecDepth 100000 in
/-- **No other class of the table has an ASCII character.** -/
theorem filter_foldClasses : foldClasses.filter (fun ns => ns.any fun n => n.blt 0x80) = asciiClasses := by
  have hread : ∃ chars, foldTable = String.ofList chars ∧
      (classesOf chars).filter (fun ns => ns.any fun n => n.blt 0x80) = asciiClasses :=
    ⟨_, rfl, by decide +kernel⟩
  obtain ⟨chars, htable, hclasses⟩ := hread
  rw [foldClasses, tableWords, htable, String.toList_ofList]
  exact hclasses

theorem CodeSet.containsCode_single {m : Nat} : (CodeSet.single n).containsCode m = true ↔ m = n := by
  simp only [single, containsCode, List.any_cons, List.any_nil, Bool.or_false, Bool.and_eq_true, decide_eq_true_eq]
  omega

/-- **An ASCII character matches the members of its class in the short list.** -/
theorem foldClosure_single (hn : n < 0x80) : (CodeSet.single n).foldClosure =
    .ofRanges ((n, n) :: (asciiClasses.filter (·.any (CodeSet.single n).containsCode)).flatMap fun ns =>
      ns.map fun m => (m, m)) := by
  have hclasses : foldClasses.filter (fun ns => ns.any (CodeSet.single n).containsCode) =
      asciiClasses.filter fun ns => ns.any (CodeSet.single n).containsCode := by
    rw [← filter_foldClasses, List.filter_filter]
    apply List.filter_congr
    intro ns _
    rw [Bool.eq_iff_iff, Bool.and_eq_true]
    refine ⟨fun h => ⟨h, ?_⟩, And.left⟩
    -- a class that holds the character holds an ASCII character
    obtain ⟨m, hm, hcode⟩ := List.any_eq_true.mp h
    rw [CodeSet.containsCode_single] at hcode
    exact List.any_eq_true.mpr ⟨m, hm, Nat.blt_eq.mpr (by omega)⟩
  rw [CodeSet.foldClosure, hclasses]
  rfl

end FormTemplate.Unicode
