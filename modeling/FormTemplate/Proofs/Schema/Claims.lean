import FormTemplate.Schema.OfMarkers

/-!
# Who claims a name

A marker uses one name of the shared name space: a marker of a top-level field its own slug, every other marker
but a closing one the slug of the repeater that it is addressed to. A name belongs to its first use.

* `firstsBy` : the first member of each key, in order.
* `Marker.topField?`, `Marker.addressee?` : the two uses of a name.
* `Marker.claims` : the names in use, each with the marker that used it first.
* `Marker.claimedFields`, `Marker.claimedRepeaters` : the names by the role in which they are claimed.
* `firstsBy_append` : appending members adds their new keys behind the old ones.
* `Marker.nodup_claimed` : no name is claimed twice, in whichever roles.
-/

set_option autoImplicit false

namespace FormTemplate

/-! ## First members -/

section FirstsBy

variable {α : Type} {key : α → Option String} {l l' : List α} {a : α} {k : String} {p : String × α}

/-- The first member of each key behind its key, in order. Members without a key are left out. -/
def firstsBy (key : α → Option String) : List α → List (String × α)
  | [] => []
  | a :: rest =>
    match key a with
    | none => firstsBy key rest
    | some k => (k, a) :: (firstsBy key rest).filter (·.1 != k)

theorem firstsBy_cons_none (h : key a = none) : firstsBy key (a :: l) = firstsBy key l := by
  rw [firstsBy, h]

theorem firstsBy_cons_some (h : key a = some k) :
    firstsBy key (a :: l) = (k, a) :: (firstsBy key l).filter (·.1 != k) := by
  rw [firstsBy, h]

theorem keys_firstsBy_cons_some (h : key a = some k) :
    (firstsBy key (a :: l)).map (·.1) = k :: ((firstsBy key l).map (·.1)).filter (· != k) := by
  rw [firstsBy_cons_some h, List.map_cons, List.filter_map]
  rfl

theorem of_mem_firstsBy (h : p ∈ firstsBy key l) : p.2 ∈ l ∧ key p.2 = some p.1 := by
  induction l with
  | nil => cases h
  | cons a rest ih =>
    cases ha : key a with
    | none =>
      rw [firstsBy_cons_none ha] at h
      exact ⟨List.mem_cons_of_mem _ (ih h).1, (ih h).2⟩
    | some k =>
      rw [firstsBy_cons_some ha] at h
      rcases List.mem_cons.mp h with rfl | h
      · exact ⟨List.mem_cons_self, ha⟩
      · have hrest := ih (List.mem_filter.mp h).1
        exact ⟨List.mem_cons_of_mem _ hrest.1, hrest.2⟩

theorem mem_keys_firstsBy : k ∈ (firstsBy key l).map (·.1) ↔ ∃ a ∈ l, key a = some k := by
  induction l with
  | nil => simp [firstsBy]
  | cons a rest ih =>
    cases ha : key a with
    | none =>
      rw [firstsBy_cons_none ha, ih]
      simp [ha]
    | some j =>
      rw [keys_firstsBy_cons_some ha, List.mem_cons, List.mem_filter, ih]
      by_cases hkj : k = j
      · simp [ha, hkj]
      · simp [ha, hkj, Ne.symm hkj]

theorem nodup_keys_firstsBy : ((firstsBy key l).map (·.1)).Nodup := by
  induction l with
  | nil => exact List.nodup_nil
  | cons a rest ih =>
    cases ha : key a with
    | none => rwa [firstsBy_cons_none ha]
    | some k =>
      rw [keys_firstsBy_cons_some ha, List.nodup_cons]
      exact ⟨by simp, ih.filter _⟩

/-- **Members behind a list add the keys that the list lacks, behind its own.** -/
theorem firstsBy_append :
    firstsBy key (l ++ l') =
      firstsBy key l ++ (firstsBy key l').filter (fun p => p.1 ∉ (firstsBy key l).map (·.1)) := by
  induction l with
  | nil =>
    rw [List.nil_append, firstsBy, List.nil_append, List.filter_eq_self.mpr]
    intro p _
    simp
  | cons a rest ih =>
    rw [List.cons_append]
    cases ha : key a with
    | none => rw [firstsBy_cons_none ha, firstsBy_cons_none ha, ih]
    | some k =>
      have hnew : ∀ q ∈ firstsBy key l', ((q.1 != k) && decide (q.1 ∉ (firstsBy key rest).map (·.1))) =
          decide (q.1 ∉ (firstsBy key (a :: rest)).map (·.1)) := by
        intro q _
        rw [keys_firstsBy_cons_some ha, Bool.eq_iff_iff]
        by_cases hq : q.1 = k <;> simp [hq]
      rw [← List.filter_congr hnew, firstsBy_cons_some ha, firstsBy_cons_some ha, ih, List.filter_append,
        List.filter_filter, List.cons_append]

theorem firstsBy_append_singleton_of_none (h : key a = none) : firstsBy key (l ++ [a]) = firstsBy key l := by
  rw [firstsBy_append, firstsBy_cons_none h, firstsBy, List.filter_nil, List.append_nil]

theorem firstsBy_append_singleton_of_mem (h : key a = some k) (hk : k ∈ (firstsBy key l).map (·.1)) :
    firstsBy key (l ++ [a]) = firstsBy key l := by
  rw [firstsBy_append, firstsBy_cons_some h, firstsBy, List.filter_nil, List.filter_cons_of_neg (by simpa using hk),
    List.filter_nil, List.append_nil]

theorem firstsBy_append_singleton_of_not_mem (h : key a = some k) (hk : k ∉ (firstsBy key l).map (·.1)) :
    firstsBy key (l ++ [a]) = firstsBy key l ++ [(k, a)] := by
  rw [firstsBy_append, firstsBy_cons_some h, firstsBy, List.filter_nil, List.filter_cons_of_pos (by simpa using hk),
    List.filter_nil]

end FirstsBy

/-! ## The uses of a name -/

/-- Whether a scope is a table row. -/
def MarkerScope.isTableRow : MarkerScope → Bool
  | .tableRow _ => true
  | _ => false

namespace Marker

variable {ms : List Marker} {m : Marker} {k : String}

/-- The name of the repeater that a marker is addressed to, as it is written. A marker that opens a block outside
a table row names it by the first part of its slug; a closing marker is addressed to none. -/
def repeaterName? (m : Marker) : Option String :=
  match m.kind with
  | .blockEnd => none
  | .blockBegin =>
    match m.scope with
    | .tableRow name => some name
    | _ => some (slugHead m.slug)
  | .field => m.scope.repeaterName?

/-- The slug of the repeater that a marker is addressed to. -/
def addressee? (m : Marker) : Option String := m.repeaterName?.bind Slug.sanitize?

/-- The slug of the top-level field that a marker declares. -/
def topField? (m : Marker) : Option String :=
  match m.kind, m.scope with
  | .field, .topLevel => Slug.sanitize? m.slug
  | _, _ => none

/-- The name that a marker uses. -/
def claim? (m : Marker) : Option String := m.topField?.or m.addressee?

/-- The names that markers use, each with the marker that used it first. -/
def claims (ms : List Marker) : List (String × Marker) := firstsBy claim? ms

/-- The names that belong to fields, each with the marker that used it first. -/
def claimedFields (ms : List Marker) : List (String × Marker) := (claims ms).filter (·.2.topField?.isSome)

/-- The names that belong to repeaters. -/
def claimedRepeaters (ms : List Marker) : List String :=
  ((claims ms).filter (·.2.addressee?.isSome)).map (·.1)

/-- The markers that are addressed to a repeater. -/
def addressed (ms : List Marker) (slug : String) : List Marker := ms.filter (·.addressee? == some slug)

/-! ## One role for a name -/

theorem isValid_of_topField? (h : m.topField? = some k) : Slug.isValid k = true := by
  unfold topField? at h
  split at h
  · exact Slug.isValid_of_sanitize? h
  · cases h

theorem isValid_of_addressee? (h : m.addressee? = some k) : Slug.isValid k = true := by
  obtain ⟨name, _, hname⟩ := Option.bind_eq_some_iff.mp h
  exact Slug.isValid_of_sanitize? hname

/-- The marker of a top-level field is addressed to no repeater. -/
theorem addressee?_eq_none (h : m.topField? = some k) : m.addressee? = none := by
  unfold topField? at h
  split at h
  · rename_i hkind hscope
    simp [addressee?, repeaterName?, hkind, hscope, MarkerScope.repeaterName?]
  · cases h

theorem topField?_eq_none (h : m.addressee? = some k) : m.topField? = none := by
  cases htop : m.topField? with
  | none => rfl
  | some j =>
    rw [addressee?_eq_none htop] at h
    cases h

theorem claim?_of_topField? (h : m.topField? = some k) : m.claim? = some k := by
  rw [claim?, h, Option.some_or]

theorem claim?_of_addressee? (h : m.addressee? = some k) : m.claim? = some k := by
  rw [claim?, topField?_eq_none h, Option.none_or, h]

theorem isValid_of_claim? (h : m.claim? = some k) : Slug.isValid k = true := by
  rcases Option.or_eq_some_iff.mp h with h | ⟨_, h⟩
  · exact isValid_of_topField? h
  · exact isValid_of_addressee? h

theorem isSome_addressee?_of_mem_claims {p : String × Marker} (hp : p ∈ claims ms) :
    p.2.addressee?.isSome = !p.2.topField?.isSome := by
  rcases Option.or_eq_some_iff.mp (of_mem_firstsBy hp).2 with h | ⟨htop, h⟩
  · simp [h, addressee?_eq_none h]
  · simp [h, htop]

theorem claimedRepeaters_eq_filter_not :
    claimedRepeaters ms = ((claims ms).filter (!·.2.topField?.isSome)).map (·.1) := by
  rw [claimedRepeaters, List.filter_congr fun p hp => isSome_addressee?_of_mem_claims hp]

/-- **No name is claimed twice, in whichever roles.** -/
theorem nodup_claimed : ((claimedFields ms).map (·.1) ++ claimedRepeaters ms).Nodup := by
  rw [claimedRepeaters_eq_filter_not, claimedFields, ← List.map_append]
  exact (((List.filter_append_perm _ _).map _).nodup_iff).mpr nodup_keys_firstsBy

theorem nodup_claimedRepeaters : (claimedRepeaters ms).Nodup :=
  (List.nodup_append.mp nodup_claimed).2.1

theorem not_mem_claimedRepeaters (h : k ∈ (claimedFields ms).map (·.1)) : k ∉ claimedRepeaters ms :=
  fun hk => (List.nodup_append.mp nodup_claimed).2.2 k h k hk rfl

theorem mem_keys_claims :
    k ∈ (claims ms).map (·.1) ↔ k ∈ (claimedFields ms).map (·.1) ∨ k ∈ claimedRepeaters ms := by
  rw [claimedRepeaters_eq_filter_not, claimedFields, ← List.mem_append, ← List.map_append]
  exact (((List.filter_append_perm _ _).map _).mem_iff).symm

theorem isValid_of_mem_claims (h : k ∈ (claims ms).map (·.1)) : Slug.isValid k = true := by
  obtain ⟨m, _, hm⟩ := mem_keys_firstsBy.mp h
  exact isValid_of_claim? hm

/-! ## One more marker -/

theorem claims_append_singleton_of_not_mem (h : m.claim? = some k) (hk : k ∉ (claims ms).map (·.1)) :
    claims (ms ++ [m]) = claims ms ++ [(k, m)] :=
  firstsBy_append_singleton_of_not_mem h hk

/-- A marker whose name is in use brings no new one. -/
theorem forall_claim?_mem (h : m.claim? = some k) (hk : k ∈ (claims ms).map (·.1)) :
    ∀ j, m.claim? = some j → j ∈ (claims ms).map (·.1) := by
  intro j hj
  exact Option.some.inj (h.symm.trans hj) ▸ hk

/-- Without a new name the names stay. -/
theorem claimed_append_singleton (h : ∀ k, m.claim? = some k → k ∈ (claims ms).map (·.1)) :
    claimedFields (ms ++ [m]) = claimedFields ms ∧ claimedRepeaters (ms ++ [m]) = claimedRepeaters ms := by
  have hclaims : claims (ms ++ [m]) = claims ms := by
    cases hclaim : m.claim? with
    | none => exact firstsBy_append_singleton_of_none hclaim
    | some k => exact firstsBy_append_singleton_of_mem hclaim (h k hclaim)
  rw [claimedFields, claimedRepeaters, hclaims]
  exact ⟨rfl, rfl⟩

/-- A new name of a field comes behind the others, and the names of repeaters stay. -/
theorem claimed_append_singleton_of_topField? (h : m.topField? = some k) (hk : k ∉ (claims ms).map (·.1)) :
    claimedFields (ms ++ [m]) = claimedFields ms ++ [(k, m)] ∧
      claimedRepeaters (ms ++ [m]) = claimedRepeaters ms := by
  have hclaims := claims_append_singleton_of_not_mem (claim?_of_topField? h) hk
  constructor
  · simp [claimedFields, hclaims, h]
  · simp [claimedRepeaters, hclaims, addressee?_eq_none h]

/-- A new name of a repeater comes behind the others, and the names of fields stay. -/
theorem claimed_append_singleton_of_addressee? (h : m.addressee? = some k)
    (hk : k ∉ (claims ms).map (·.1)) :
    claimedFields (ms ++ [m]) = claimedFields ms ∧
      claimedRepeaters (ms ++ [m]) = claimedRepeaters ms ++ [k] := by
  have hclaims := claims_append_singleton_of_not_mem (claim?_of_addressee? h) hk
  constructor
  · simp [claimedFields, hclaims, topField?_eq_none h]
  · simp [claimedRepeaters, hclaims, h]

/-- Nothing is addressed to a name that is not in use. -/
theorem addressed_eq_nil (h : k ∉ (claims ms).map (·.1)) : addressed ms k = [] := by
  rw [addressed, List.filter_eq_nil_iff]
  intro m hm hk
  exact h (mem_keys_firstsBy.mpr ⟨m, hm, claim?_of_addressee? (by simpa using hk)⟩)

theorem forall_addressee?_ne {names : List String} (h : m.addressee? = some k) (hk : k ∉ names) :
    ∀ n ∈ names, m.addressee? ≠ some n := by
  intro n hn heq
  exact hk (Option.some.inj (h.symm.trans heq) ▸ hn)

theorem addressed_append_singleton_self (h : m.addressee? = some k) :
    addressed (ms ++ [m]) k = addressed ms k ++ [m] := by
  rw [addressed, List.filter_append, List.filter_cons_of_pos (by simpa using h), List.filter_nil]
  rfl

theorem addressed_append_singleton_of_ne (h : m.addressee? ≠ some k) :
    addressed (ms ++ [m]) k = addressed ms k := by
  rw [addressed, List.filter_append, List.filter_cons_of_neg (by simpa using h), List.filter_nil, List.append_nil]
  rfl

end Marker

end FormTemplate
