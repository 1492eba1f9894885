import FormTemplate.Json.Reader

/-!
# Bare code units

On its way through other programs an encoded list can lose the backslashes of its escapes, so that `u003C` is
left of an escaped angle bracket. A letter `u` with four hexadecimal digits behind it is read as the code unit
that it then stands for; two such runs make a pair of surrogates. Half a pair stays as it is, and so does a
run behind a backslash. Text that holds such a run by chance is changed too.

* `bareRun?` : the character of a run whose `u` has been passed.
* `repair` : a text with its bare runs replaced.
-/

set_option autoImplicit false

namespace FormTemplate.Items

open Text (hexFour?)

/-- The character that a run stands for, and the text after the run. The leading `u` has been passed. -/
def bareRun? (s : List Char) : Option (Char × List Char) :=
  match hexFour? s with
  | none => none
  | some (m, rest) =>
    if Json.isHighSurrogate m then
      match rest with
      | 'u' :: t =>
        match hexFour? t with
        | some (n, rest') => if Json.isLowSurrogate n then some (Json.pairChar m n, rest') else none
        | none => none
      | _ => none
    else if Json.isLowSurrogate m then none
    else some (Char.ofNat m, rest)

theorem length_hexFour?_rest {s rest : List Char} {n : Nat} (h : hexFour? s = some (n, rest)) :
    rest.length < s.length := by
  unfold hexFour? at h
  split at h
  · simp only [Option.map_eq_some_iff] at h
    obtain ⟨_, _, h⟩ := h
    injection h with _ h
    subst h
    simp only [List.length_cons]
    omega
  · cases h

theorem length_bareRun?_rest {s rest : List Char} {c : Char} (h : bareRun? s = some (c, rest)) :
    rest.length < s.length := by
  unfold bareRun? at h
  split at h
  · cases h
  · rename_i m r hm
    have h1 := length_hexFour?_rest hm
    split at h
    · split at h
      · split at h
        · rename_i t _ n r' hn
          have h2 := length_hexFour?_rest hn
          split at h
          · injection h with h
            injection h with _ h
            subst h
            simp only [List.length_cons] at h1
            omega
          · cases h
        · cases h
      · cases h
    · split at h
      · cases h
      · injection h with h
        injection h with _ h
        subst h
        exact h1

/-- Replaces the bare runs of a text; `escaped` tells whether a backslash stands in front of it. -/
def repairFrom (escaped : Bool) (s : List Char) : List Char :=
  match s with
  | [] => []
  | c :: r =>
    if c = 'u' ∧ escaped = false then
      match _h : bareRun? r with
      | some (d, rest) => d :: repairFrom false rest
      | none => c :: repairFrom false r
    else c :: repairFrom (c == '\\') r
termination_by s.length
decreasing_by
  · have := length_bareRun?_rest _h
    simp only [List.length_cons]
    omega
  · simp
  · simp

/-- A text with its bare runs replaced by the characters they stand for. -/
def repair (s : String) : String := String.ofList (repairFrom false s.toList)

end FormTemplate.Items
