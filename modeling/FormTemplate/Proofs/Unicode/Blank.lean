import FormTemplate.Text.Blank
import FormTemplate.Unicode.Property

/-!
# White space stands between words

No white space belongs to a word. On ASCII this is decided without the tables. For the rest, no range of a category
of word characters meets white space: joining ranges adds no code points, so it is enough to look at the ranges as the
tables list them. The tables are texts, and the kernel reads their characters one by one, so each is taken as the list
of its characters before it is read.

* `CodeSet.exists_of_mem_ofRanges` : a code point of a set lies in one of the ranges it is made of;
* `apart_wordCategories` : the tables of word characters list no white space;
* `isWord_of_isBlank` : white space belongs to no word.
-/

set_option autoImplicit false

namespace FormTemplate.Unicode

variable {n : Nat}

/-! ## Sets of ranges -/

namespace CodeSet

/-- A code point lies in one of the ranges. -/
def Lies (n : Nat) (rs : List (Nat × Nat)) : Prop := ∃ r ∈ rs, r.1 ≤ n ∧ n ≤ r.2

theorem containsCode_iff {s : CodeSet} : s.containsCode n = true ↔ Lies n s.ranges := by
  simp [containsCode, Lies]

/-- Joining ranges that touch adds no code points. -/
theorem lies_of_coalesce {rs : List (Nat × Nat)} (h : Lies n (coalesce rs)) : Lies n rs := by
  induction rs with
  | nil => exact h
  | cons r rest ih =>
    have hcons : ∀ qs, Lies n (r :: qs) ↔ (r.1 ≤ n ∧ n ≤ r.2) ∨ Lies n qs := fun qs => by simp [Lies]
    rw [hcons]
    simp only [coalesce] at h
    split at h
    · exact ((hcons []).mp h).imp id fun hnil => ih (by simp [Lies] at hnil)
    · rename_i q qs hq
      rw [hq] at ih
      split at h
      · rename_i htouch
        obtain ⟨x, hx, hlo, hhi⟩ := h
        rcases List.mem_cons.mp hx with rfl | hx
        · -- a code point above the first range lies in the second, because there is no gap between them
          by_cases hr : n ≤ r.2
          · exact .inl ⟨hlo, hr⟩
          · refine .inr (ih ⟨q, List.mem_cons_self, by omega, ?_⟩)
            simp only at hhi
            omega
        · exact .inr (ih ⟨x, List.mem_cons_of_mem _ hx, hlo, hhi⟩)
      · exact ((hcons _).mp h).imp id ih

/-- **A code point of a set lies in one of the ranges that the set is made of.** -/
theorem exists_of_mem_ofRanges {rs : List (Nat × Nat)} (h : (ofRanges rs).containsCode n = true) : Lies n rs := by
  obtain ⟨r, hr, hn⟩ := lies_of_coalesce (containsCode_iff.mp h)
  exact ⟨r, (List.mem_filter.mp (List.mem_mergeSort.mp hr)).1, hn⟩

theorem of_containsCode_union {s t : CodeSet} (h : (s.union t).containsCode n = true) :
    s.containsCode n = true ∨ t.containsCode n = true := by
  obtain ⟨r, hr, hn⟩ := exists_of_mem_ofRanges h
  rcases List.mem_append.mp hr with hr | hr
  · exact .inl (containsCode_iff.mpr ⟨r, hr, hn⟩)
  · exact .inr (containsCode_iff.mpr ⟨r, hr, hn⟩)

theorem of_containsCode_unions {ss : List CodeSet} (h : (unions ss).containsCode n = true) :
    ∃ s ∈ ss, s.containsCode n = true := by
  obtain ⟨r, hr, hn⟩ := exists_of_mem_ofRanges h
  obtain ⟨s, hs, hr⟩ := List.mem_flatMap.mp hr
  exact ⟨s, hs, containsCode_iff.mpr ⟨r, hr, hn⟩⟩

end CodeSet

/-! ## Tables without white space -/

/-- White space outside ASCII, as ranges. -/
def wideBlanks : List (Nat × Nat) :=
  [(0x85, 0x85), (0xA0, 0xA0), (0x1680, 0x1680), (0x2000, 0x200A), (0x2028, 0x2029), (0x202F, 0x202F),
    (0x205F, 0x205F), (0x3000, 0x3000)]

theorem lies_wideBlanks {c : Char} (h : Text.isBlank c = true) (hwide : ¬c.toNat < 0x80) :
    CodeSet.Lies c.toNat wideBlanks := by
  simp only [Text.isBlank, Bool.or_eq_true, Bool.and_eq_true, decide_eq_true_eq, beq_iff_eq] at h
  simp only [CodeSet.Lies, wideBlanks, List.mem_cons, List.not_mem_nil, or_false, exists_eq_or_imp, exists_eq_left]
  omega

/-- No range that a table lists meets white space outside ASCII. -/
def isApart (table : List Char) : Bool :=
  (((splitAll (fun c => c == ' ' || c == '\n') table).filter (! ·.isEmpty)).filterMap readRange?).all fun r =>
    wideBlanks.all fun b => decide (r.2 < b.1) || decide (b.2 < r.1)

/-- A table that lists no white space outside ASCII. -/
def Apart (table : String) : Prop := ∃ chars, table = String.ofList chars ∧ isApart chars = true

theorem Apart.not_lies {table : String} (h : Apart table) (hblank : CodeSet.Lies n wideBlanks) :
    (CodeSet.ofText table).containsCode n = false := by
  obtain ⟨chars, rfl, hchars⟩ := h
  obtain ⟨b, hb, hlo, hhi⟩ := hblank
  rw [Bool.eq_false_iff]
  intro hn
  obtain ⟨r, hr, hrlo, hrhi⟩ := CodeSet.exists_of_mem_ofRanges hn
  rw [tableWords, String.toList_ofList] at hr
  have hrb := List.all_eq_true.mp (List.all_eq_true.mp hchars r hr) b hb
  simp only [Bool.or_eq_true, decide_eq_true_eq] at hrb
  omega

set_option maxRecDepth 100000 in
/-- **The categories of word characters list no white space.** -/
theorem apart_wordCategories :
    ∀ name ∈ ["Lu", "Ll", "Lt", "Lm", "Lo", "Mn", "Mc", "Me", "Nd", "Nl", "Pc"],
      ∀ row, categoryTable.find? (·.1 == name) = some row → Apart row.2 := by
  simp only [List.forall_mem_cons]
  refine ⟨?_, ?_, ?_, ?_, ?_, ?_, ?_, ?_, ?_, ?_, ?_, by simp⟩
  all_goals
    intro row h
    cases h
    exact ⟨_, rfl, by decide +kernel⟩

theorem wordSet_contains_of_wideBlank {c : Char} (h : CodeSet.Lies c.toNat wideBlanks) :
    wordSet.contains c = false := by
  rw [CodeSet.contains, Bool.eq_false_iff]
  intro hword
  rcases CodeSet.of_containsCode_union hword with hcategory | hadded
  · obtain ⟨s, hs, hcategory⟩ := CodeSet.of_containsCode_unions hcategory
    obtain ⟨name, hname, rfl⟩ := List.mem_map.mp hs
    unfold categorySet at hcategory
    split at hcategory
    · rename_i row hrow
      rw [(apart_wordCategories name hname row hrow).not_lies h] at hcategory
      cases hcategory
    · cases hcategory
  · have hapart : Apart "200C-200D 24B6-24E9 1F130-1F149 1F150-1F169 1F170-1F189" :=
      ⟨_, rfl, by decide +kernel⟩
    rw [hapart.not_lies h] at hadded
    cases hadded

/-- **White space belongs to no word.** -/
theorem isWord_of_isBlank {c : Char} (h : Text.isBlank c = true) : isWord c = false := by
  unfold isWord
  split
  · rename_i hascii
    have hcode : c.toNat ∈ [0x09, 0x0A, 0x0B, 0x0C, 0x0D, 0x20] := by
      simp only [Text.isBlank, Bool.or_eq_true, Bool.and_eq_true, decide_eq_true_eq, beq_iff_eq] at h
      simp only [List.mem_cons, List.not_mem_nil, or_false]
      omega
    have hnone : ∀ n ∈ [0x09, 0x0A, 0x0B, 0x0C, 0x0D, 0x20], isAsciiWord (Char.ofNat n) = false := by decide
    have hc := hnone c.toNat hcode
    rwa [Char.ofNat_toNat] at hc
  · rename_i hwide
    exact wordSet_contains_of_wideBlank (lies_wideBlanks h hwide)

end FormTemplate.Unicode
