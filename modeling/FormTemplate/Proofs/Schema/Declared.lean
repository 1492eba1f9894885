import FormTemplate.Proofs.Schema.Check
import FormTemplate.Proofs.Schema.Claims

/-!
# What markers declare

Taking markers in order leaves a draft that has a closed form. Its fields are those of the claimed names, each
from the marker that claimed it. Its repeaters are those of the other claimed names, each made by the markers that
are addressed to it alone: the last title that is not empty is its label, a single table row makes it one, and of
each nested field the first marker counts. Its table holds of each name what the lists say of it, with the position of
the repeater, so the positions that are taken from the table are those of the repeaters.

* `fieldsOf`, `Repeater.ofMarkers`, `Marker.declaredFields`, `Marker.declaredRepeaters` : the closed form.
* `Marker.owner?` : what a name belongs to.
* `Draft.addMarker_of_topField?`, `Draft.addMarker_of_addressee?`, `Draft.addMarker_of_claim?_eq_none` : all that
  a marker can add.
* `Draft.Holds`, `Draft.Holds.addMarker` : a draft holds what markers declare, and one more marker keeps that.
* `Draft.holds_ofMarkers` : a list of markers leaves a draft that holds what they declare.
* `Draft.claims_ofMarkers` : its table agrees with its lists.
-/

set_option autoImplicit false

namespace FormTemplate

/-! ## The closed form -/

/-- The fields that markers declare under slugs. -/
def fieldsOf (declarations : List (String × Marker)) : List Field :=
  declarations.filterMap fun p => (Field.ofMarker p.2 p.1).toOption

namespace Marker

/-- The title that a marker gives to the block that it opens. -/
def blockTitle? (m : Marker) : Option String :=
  match m.kind with
  | .blockBegin => (m.attribute? "title").filter (! ·.isEmpty)
  | _ => none

/-- The slug of the field that a marker declares in the repeater that it is addressed to. -/
def nestedField? (m : Marker) : Option String :=
  match m.kind with
  | .field => Slug.sanitize? m.fieldName
  | _ => none

end Marker

/-- The repeater that the markers addressed to it make. -/
def Repeater.ofMarkers (slug : String) (ms : List Marker) : Repeater :=
  { slug := slug
    label := (ms.filterMap Marker.blockTitle?).getLast?.getD (Slug.humanize slug)
    block := if ms.any (·.scope.isTableRow) then .tableRow else .freeBlock
    fields := fieldsOf (firstsBy Marker.nestedField? ms) }

namespace Marker

/-- The fields that markers declare. -/
def declaredFields (ms : List Marker) : List Field := fieldsOf (claimedFields ms)

/-- The repeaters that markers declare. -/
def declaredRepeaters (ms : List Marker) : List Repeater :=
  (claimedRepeaters ms).map fun slug => .ofMarkers slug (addressed ms slug)

/-- What a name belongs to: a field, or the repeater at a position. -/
def owner? (ms : List Marker) (slug : String) : Option Claim :=
  if slug ∈ (claimedFields ms).map (·.1) then some .field
  else ((claimedRepeaters ms).idxOf? slug).map .repeater

end Marker

/-! ## Fields of slugs -/

theorem Field.ofMarker_of_isValid {slug : String} (m : Marker) (h : Slug.isValid slug = true) :
    ∃ f, Field.ofMarker m slug = .ok f ∧ f.slug = slug := by
  simp [Field.ofMarker, Field.new, h]

section FieldsOf

variable {declarations more : List (String × Marker)} {m : Marker} {slug : String} {f : Field}

theorem fieldsOf_append : fieldsOf (declarations ++ more) = fieldsOf declarations ++ fieldsOf more :=
  List.filterMap_append

theorem fieldsOf_singleton (h : Field.ofMarker m slug = .ok f) : fieldsOf [(slug, m)] = [f] := by
  simp [fieldsOf, h, Except.toOption]

theorem fieldsOf_spec (h : ∀ p ∈ declarations, Slug.isValid p.1 = true) :
    (fieldsOf declarations).map Except.ok = declarations.map (fun p => Field.ofMarker p.2 p.1) ∧
      (fieldsOf declarations).map (·.slug) = declarations.map (·.1) := by
  induction declarations with
  | nil => exact ⟨rfl, rfl⟩
  | cons p rest ih =>
    obtain ⟨f, hf, hslug⟩ := Field.ofMarker_of_isValid p.2 (h p List.mem_cons_self)
    obtain ⟨hok, hslugs⟩ := ih fun q hq => h q (List.mem_cons_of_mem _ hq)
    have hcons : fieldsOf (p :: rest) = f :: fieldsOf rest := by
      rw [← List.singleton_append, fieldsOf_append, fieldsOf_singleton hf, List.singleton_append]
    rw [hcons]
    simp only [List.map_cons, hok, hslugs, hf, hslug, and_self]

end FieldsOf

namespace Marker

theorem isValid_of_nestedField? {m : Marker} {slug : String} (h : m.nestedField? = some slug) :
    Slug.isValid slug = true := by
  unfold nestedField? at h
  split at h
  · exact Slug.isValid_of_sanitize? h
  · cases h

theorem fieldsOf_claimedFields (ms : List Marker) :
    (fieldsOf (claimedFields ms)).map Except.ok = (claimedFields ms).map (fun p => Field.ofMarker p.2 p.1) ∧
      (fieldsOf (claimedFields ms)).map (·.slug) = (claimedFields ms).map (·.1) :=
  fieldsOf_spec fun _ hp => isValid_of_claim? (of_mem_firstsBy (List.mem_filter.mp hp).1).2

theorem fieldsOf_nestedFields (ms : List Marker) :
    (fieldsOf (firstsBy nestedField? ms)).map Except.ok =
        (firstsBy nestedField? ms).map (fun p => Field.ofMarker p.2 p.1) ∧
      (fieldsOf (firstsBy nestedField? ms)).map (·.slug) = (firstsBy nestedField? ms).map (·.1) :=
  fieldsOf_spec fun _ hp => isValid_of_nestedField? (of_mem_firstsBy hp).2

end Marker

/-! ## What one marker changes in its repeater -/

attribute [ext] Repeater

/-- What a marker changes in the repeater that it is addressed to. -/
def Marker.change (m : Marker) (r : Repeater) : Repeater :=
  { slug := r.slug
    label := m.blockTitle?.getD r.label
    block := if m.scope.isTableRow then .tableRow else r.block
    fields :=
      match m.nestedField? with
      | none => r.fields
      | some slug => (Draft.pushKept (Field.ofMarker m slug) r).fields }

theorem Draft.pushKept_ok (f : Field) (r : Repeater) :
    Draft.pushKept (.ok f) r =
      { r with fields := if f.slug ∈ r.fields.map (·.slug) then r.fields else r.fields ++ [f] } := by
  rw [Draft.pushKept, Repeater.push_on, onUnlessUsed]
  split <;> rfl

/-- Without markers a repeater is labelled by its slug and has no fields. -/
theorem Repeater.ofMarkers_nil (slug : String) :
    Repeater.ofMarkers slug [] = ⟨slug, Slug.humanize slug, .freeBlock, []⟩ := by
  simp [Repeater.ofMarkers, fieldsOf, firstsBy]

/-- **One more marker addressed to a repeater changes it as it would change any other.** -/
theorem Repeater.ofMarkers_append_singleton (slug : String) (ms : List Marker) (m : Marker) :
    Repeater.ofMarkers slug (ms ++ [m]) = m.change (Repeater.ofMarkers slug ms) := by
  have hlabel : (Repeater.ofMarkers slug (ms ++ [m])).label = (m.change (Repeater.ofMarkers slug ms)).label := by
    cases htitle : m.blockTitle? <;> simp [Repeater.ofMarkers, Marker.change, htitle]
  have hblock : (Repeater.ofMarkers slug (ms ++ [m])).block = (m.change (Repeater.ofMarkers slug ms)).block := by
    cases hrow : m.scope.isTableRow <;> simp [Repeater.ofMarkers, Marker.change, hrow]
  have hfields : (Repeater.ofMarkers slug (ms ++ [m])).fields = (m.change (Repeater.ofMarkers slug ms)).fields := by
    cases hnested : m.nestedField? with
    | none => simp only [Repeater.ofMarkers, Marker.change, hnested, firstsBy_append_singleton_of_none hnested]
    | some name =>
      obtain ⟨f, hf, rfl⟩ := Field.ofMarker_of_isValid m (Marker.isValid_of_nestedField? hnested)
      simp only [Repeater.ofMarkers, Marker.change, hnested, hf, Draft.pushKept_ok,
        (Marker.fieldsOf_nestedFields ms).2]
      split
      · rename_i hmem
        rw [firstsBy_append_singleton_of_mem hnested hmem]
      · rename_i hmem
        rw [firstsBy_append_singleton_of_not_mem hnested hmem, fieldsOf_append, fieldsOf_singleton hf]
  exact Repeater.ext rfl hlabel hblock hfields

/-! ## Positions -/

section Positions

variable {α : Type} {l : List α} {a : α}

/-- A new member stands behind the others. -/
theorem idxOf?_append_singleton [DecidableEq α] {b : α} (h : a ∉ l) :
    (l ++ [a]).idxOf? b = if a = b then some l.length else l.idxOf? b := by
  rw [List.idxOf?, List.findIdx?_append, ← List.idxOf?]
  split
  · rename_i hab
    subst hab
    rw [List.idxOf?_eq_none_iff.mpr h]
    simp
  · rename_i hab
    simp [hab]

/-- The last member is changed at the position behind the others. -/
theorem modify_append_singleton (change : α → α) : (l ++ [a]).modify l.length change = l ++ [change a] := by
  induction l with
  | nil => rfl
  | cons x rest ih => rw [List.cons_append, List.length_cons, List.modify_succ_cons, ih, List.cons_append]

end Positions

/-! ## What one marker adds to a draft -/

namespace Draft

variable {d : Draft} {m : Marker} {k : String} {index : Nat} {change more : Repeater → Repeater}

/-- The mark that a layout leaves on a repeater. -/
def leaveMark : BlockStyle → Repeater → Repeater
  | .tableRow => ({ · with block := .tableRow })
  | .freeBlock => id

/-- The position of the repeater of a slug, which is the next one for a new slug; none if a field has the slug. -/
def position? (d : Draft) (slug : String) : Option Nat :=
  match d.claims.get? slug with
  | some .field => none
  | some (.repeater index) => some index
  | none => some d.repeaters.length

/-- Changes the repeater of a slug, which is made before if it is missing, unless a field has the slug. -/
def changeRepeater (d : Draft) (slug : String) (change : Repeater → Repeater) : Draft :=
  match d.claims.get? slug with
  | some .field => d
  | some (.repeater index) => d.changeAt index change
  | none =>
    { d with
      repeaters := d.repeaters ++ [change (.ofMarkers slug [])]
      claims := d.claims.insert slug (.repeater d.repeaters.length) }

theorem changeRepeater_of_taken (h : d.position? k = none) : d.changeRepeater k change = d := by
  rw [position?] at h
  rw [changeRepeater]
  split at h
  · rfl
  · cases h
  · cases h

/-- Changes of one repeater, one after the other. -/
theorem changeAt_changeRepeater (h : d.position? k = some index) :
    (d.changeRepeater k change).changeAt index more = d.changeRepeater k (more ∘ change) := by
  rw [position?] at h
  rw [changeRepeater, changeRepeater]
  split at h
  · cases h
  · cases h
    simp only [changeAt, List.modify_modify_eq]
  · cases h
    simp only [changeAt, modify_append_singleton, Function.comp_apply]

/-- Claiming a name for a repeater leaves a mark on the repeater, which is made before if it is missing, and gives its
position. It fails if the name belongs to a field. -/
theorem claimRepeater_eq {name : String} {style : BlockStyle} (h : Slug.sanitize? name = some k) :
    d.claimRepeater name style = (d.changeRepeater k (leaveMark style), d.position? k) := by
  have hnew : Repeater.new k style = .ok (leaveMark style (.ofMarkers k [])) := by
    rw [Repeater.ofMarkers_nil, Repeater.new, if_pos (Slug.isValid_of_sanitize? h)]
    cases style <;> rfl
  simp only [claimRepeater, changeRepeater, position?, h, hnew]
  cases d.claims.get? k with
  | none => rfl
  | some claim =>
    cases claim with
    | field => rfl
    | repeater index =>
      cases style with
      | tableRow => rfl
      | freeBlock => simp [leaveMark, changeAt, List.modify_id]

theorem claimRepeater_eq_none {name : String} {style : BlockStyle} (h : Slug.sanitize? name = none) :
    d.claimRepeater name style = (d, none) := by
  rw [claimRepeater, h]

/-- A marker that uses no name adds nothing. -/
theorem addMarker_of_claim?_eq_none (h : m.claim? = none) : d.addMarker m = d := by
  rw [Marker.claim?, Option.or_eq_none_iff, Marker.topField?, Marker.addressee?, Marker.repeaterName?] at h
  obtain ⟨htop, haddressee⟩ := h
  cases hkind : m.kind with
  | blockEnd => simp [addMarker, hkind]
  | blockBegin =>
    cases hscope : m.scope <;>
      simp_all [addMarker, addBlock, claimRepeater_eq_none]
  | field =>
    cases hscope : m.scope <;>
      simp_all [addMarker, addTopLevel, addNested, claimRepeater_eq_none, MarkerScope.repeaterName?]

/-- The marker of a top-level field adds the field unless its name is in use. -/
theorem addMarker_of_topField? (h : m.topField? = some k) :
    ∃ f, Field.ofMarker m k = .ok f ∧
      d.addMarker m =
        if d.claims.contains k then d
        else { d with fields := d.fields ++ [f], claims := d.claims.insert k .field } := by
  obtain ⟨f, hf, _⟩ := Field.ofMarker_of_isValid m (Marker.isValid_of_topField? h)
  refine ⟨f, hf, ?_⟩
  unfold Marker.topField? at h
  split at h
  · rename_i hkind hscope
    simp only [addMarker, hkind, hscope, addTopLevel, h, hf]
  · cases h

theorem change_of_blockBegin {style : BlockStyle} (hkind : m.kind = .blockBegin)
    (hstyle : style = if m.scope.isTableRow then .tableRow else .freeBlock) :
    m.change =
      match (m.attribute? "title").filter (! ·.isEmpty) with
      | none => leaveMark style
      | some title => ({ · with label := title }) ∘ leaveMark style := by
  subst hstyle
  funext r
  cases htitle : (m.attribute? "title").filter (! ·.isEmpty) <;> cases hrow : m.scope.isTableRow <;>
    simp [Marker.change, Marker.blockTitle?, Marker.nestedField?, hkind, htitle, hrow, leaveMark]

theorem change_of_field {style : BlockStyle} (hkind : m.kind = .field)
    (hstyle : style = if m.scope.isTableRow then .tableRow else .freeBlock) :
    m.change =
      match Slug.sanitize? m.fieldName with
      | none => leaveMark style
      | some slug => pushKept (Field.ofMarker m slug) ∘ leaveMark style := by
  subst hstyle
  funext r
  cases hslug : Slug.sanitize? m.fieldName with
  | none =>
    cases hrow : m.scope.isTableRow <;>
      simp [Marker.change, Marker.blockTitle?, Marker.nestedField?, hkind, hslug, hrow, leaveMark]
  | some slug =>
    obtain ⟨f, hf, rfl⟩ := Field.ofMarker_of_isValid m (Slug.isValid_of_sanitize? hslug)
    cases hrow : m.scope.isTableRow <;>
      simp [Marker.change, Marker.blockTitle?, Marker.nestedField?, hkind, hslug, hrow, hf, pushKept_ok, leaveMark]

theorem addBlock_eq (hkind : m.kind = .blockBegin) (h : m.addressee? = some k) :
    d.addBlock m = d.changeRepeater k m.change := by
  simp only [Marker.addressee?, Marker.repeaterName?, hkind] at h
  rw [change_of_blockBegin hkind rfl]
  cases hposition : d.position? k with
  | none =>
    rw [changeRepeater_of_taken hposition]
    cases hscope : m.scope <;> simp only [hscope, Option.bind_some] at h <;>
      simp only [addBlock, hscope, claimRepeater_eq h, hposition, changeRepeater_of_taken hposition]
  | some index =>
    cases htitle : (m.attribute? "title").filter (! ·.isEmpty) <;> cases hscope : m.scope <;>
      simp only [hscope, Option.bind_some] at h <;>
      simp [addBlock, hscope, claimRepeater_eq h, hposition, htitle, MarkerScope.isTableRow,
        changeAt_changeRepeater hposition]

theorem addNested_eq {name : String} {style : BlockStyle} (hkind : m.kind = .field)
    (hname : Slug.sanitize? name = some k)
    (hstyle : style = if m.scope.isTableRow then .tableRow else .freeBlock) :
    d.addNested m name style = d.changeRepeater k m.change := by
  rw [addNested, change_of_field hkind hstyle, claimRepeater_eq hname]
  cases hposition : d.position? k with
  | none => simp only [changeRepeater_of_taken hposition]
  | some index => cases hslug : Slug.sanitize? m.fieldName <;> simp only [changeAt_changeRepeater hposition]

/-- A marker addressed to a repeater changes it, and makes it before unless a field has its name. -/
theorem addMarker_of_addressee? (h : m.addressee? = some k) :
    d.addMarker m = d.changeRepeater k m.change := by
  cases hkind : m.kind with
  | blockEnd => simp [Marker.addressee?, Marker.repeaterName?, hkind] at h
  | blockBegin =>
    rw [addMarker, hkind]
    exact addBlock_eq hkind h
  | field =>
    simp only [Marker.addressee?, Marker.repeaterName?, hkind] at h
    simp only [addMarker, hkind]
    cases hscope : m.scope with
    | topLevel => simp [hscope, MarkerScope.repeaterName?] at h
    | repeater name =>
      simp only [hscope, MarkerScope.repeaterName?, Option.bind_some] at h ⊢
      exact addNested_eq hkind h (by rw [hscope]; rfl)
    | tableRow name =>
      simp only [hscope, MarkerScope.repeaterName?, Option.bind_some] at h ⊢
      exact addNested_eq hkind h (by rw [hscope]; rfl)

end Draft

/-! ## One more marker -/

namespace Marker

variable {ms : List Marker} {m : Marker} {k : String} {names : List String} {f : Field}

theorem slugs_declaredFields (ms : List Marker) :
    (declaredFields ms).map (·.slug) = (claimedFields ms).map (·.1) := (fieldsOf_claimedFields ms).2

theorem slugs_declaredRepeaters (ms : List Marker) : (declaredRepeaters ms).map (·.slug) = claimedRepeaters ms := by
  rw [declaredRepeaters, List.map_map]
  exact List.map_id _

/-- A name without an owner is not in use. -/
theorem owner?_eq_none_iff : owner? ms k = none ↔ k ∉ (claims ms).map (·.1) := by
  rw [owner?, mem_keys_claims, not_or]
  split
  · rename_i hfield
    simp [hfield]
  · rename_i hfield
    simp [hfield, List.idxOf?_eq_none_iff]

theorem owner?_eq_field_iff : owner? ms k = some .field ↔ k ∈ (claimedFields ms).map (·.1) := by
  rw [owner?]
  split
  · rename_i hfield
    simp [hfield]
  · rename_i hfield
    simp [hfield]

/-- The position of a repeater in the table is its position in the list. -/
theorem getElem?_of_owner? {index : Nat} (h : owner? ms k = some (.repeater index)) :
    (claimedRepeaters ms)[index]? = some k := by
  rw [owner?] at h
  split at h
  · cases h
  · obtain ⟨position, hposition, hindex⟩ := Option.map_eq_some_iff.mp h
    obtain rfl : position = index := by simpa using hindex
    obtain ⟨hlt, hslug, _⟩ := List.idxOf?_eq_some_iff.mp hposition
    rw [List.getElem?_eq_getElem hlt, hslug]

/-- Without a new name every name keeps its owner. -/
theorem owner?_append_singleton (h : ∀ k, m.claim? = some k → k ∈ (claims ms).map (·.1)) (slug : String) :
    owner? (ms ++ [m]) slug = owner? ms slug := by
  obtain ⟨hfields, hrepeaters⟩ := claimed_append_singleton h
  rw [owner?, hfields, hrepeaters, ← owner?]

theorem owner?_append_singleton_of_topField? (h : m.topField? = some k) (hk : k ∉ (claims ms).map (·.1))
    (slug : String) : owner? (ms ++ [m]) slug = if k = slug then some .field else owner? ms slug := by
  obtain ⟨hfields, hrepeaters⟩ := claimed_append_singleton_of_topField? h hk
  rw [owner?, owner?, hfields, hrepeaters, List.map_append, List.map_singleton]
  by_cases hslug : k = slug
  · simp [hslug]
  · simp only [List.mem_append, List.mem_singleton, Ne.symm hslug, or_false, if_neg hslug]

theorem owner?_append_singleton_of_addressee? (h : m.addressee? = some k) (hk : k ∉ (claims ms).map (·.1))
    (slug : String) :
    owner? (ms ++ [m]) slug =
      if k = slug then some (.repeater (claimedRepeaters ms).length) else owner? ms slug := by
  obtain ⟨hfields, hrepeaters⟩ := claimed_append_singleton_of_addressee? h hk
  obtain ⟨hfield, hrepeater⟩ := not_or.mp (mt mem_keys_claims.mpr hk)
  rw [owner?, owner?, hfields, hrepeaters, idxOf?_append_singleton hrepeater]
  by_cases hslug : k = slug
  · subst hslug
    rw [if_neg hfield, if_pos rfl, if_pos rfl, Option.map_some]
  · rw [if_neg hslug, if_neg hslug]

/-- A marker that is addressed to none of the repeaters leaves them as they are. -/
theorem map_addressed_of_ne (h : ∀ n ∈ names, m.addressee? ≠ some n) :
    names.map (fun n => Repeater.ofMarkers n (addressed (ms ++ [m]) n)) =
      names.map fun n => Repeater.ofMarkers n (addressed ms n) :=
  List.map_congr_left fun n hn => by rw [addressed_append_singleton_of_ne (h n hn)]

/-- A marker that is addressed to one of the repeaters changes it and leaves the others as they are. -/
theorem modify_addressed {index : Nat} (h : m.addressee? = some k) (hnames : names.Nodup)
    (hindex : names[index]? = some k) :
    (names.map fun n => Repeater.ofMarkers n (addressed ms n)).modify index m.change =
      names.map fun n => Repeater.ofMarkers n (addressed (ms ++ [m]) n) := by
  refine List.ext_getElem? fun j => ?_
  rw [List.getElem?_modify, List.getElem?_map, List.getElem?_map]
  cases hj : names[j]? with
  | none => rfl
  | some n =>
    simp only [Option.map_some, Option.map_eq_map]
    by_cases hjindex : index = j
    · obtain rfl : k = n := by simpa [← hjindex, hindex] using hj
      rw [if_pos hjindex, addressed_append_singleton_self h, Repeater.ofMarkers_append_singleton]
    · have hne : m.addressee? ≠ some n := by
        rw [h, ← hj, ← hindex]
        exact fun heq => hjindex
          ((List.getElem?_inj (List.getElem?_eq_some_iff.mp hindex).1 hnames).mp heq)
      rw [if_neg hjindex, addressed_append_singleton_of_ne hne]

/-- A marker that brings no name and is addressed to none of the repeaters declares nothing new. -/
theorem declared_append_singleton_of_ne (h : ∀ k, m.claim? = some k → k ∈ (claims ms).map (·.1))
    (hne : ∀ n ∈ claimedRepeaters ms, m.addressee? ≠ some n) :
    declaredFields (ms ++ [m]) = declaredFields ms ∧ declaredRepeaters (ms ++ [m]) = declaredRepeaters ms := by
  obtain ⟨hfields, hrepeaters⟩ := claimed_append_singleton h
  rw [declaredFields, hfields, declaredRepeaters, hrepeaters, map_addressed_of_ne hne]
  exact ⟨rfl, rfl⟩

end Marker

/-! ## The draft of a list of markers -/

namespace Draft

/-- A draft holds what markers declare, and its table says what each name belongs to. -/
structure Holds (d : Draft) (ms : List Marker) : Prop where
  fields : d.fields = Marker.declaredFields ms
  repeaters : d.repeaters = Marker.declaredRepeaters ms
  claims : ∀ slug, d.claims.get? slug = Marker.owner? ms slug

namespace Holds

variable {d : Draft} {ms : List Marker} {m : Marker} {k : String}

theorem length_repeaters (h : d.Holds ms) : d.repeaters.length = (Marker.claimedRepeaters ms).length := by
  rw [h.repeaters, Marker.declaredRepeaters, List.length_map]

/-- A draft goes on to hold what is declared if a marker declares nothing new. -/
theorem of_ne (h : d.Holds ms) (hclaim : ∀ k, m.claim? = some k → k ∈ (Marker.claims ms).map (·.1))
    (hne : ∀ n ∈ Marker.claimedRepeaters ms, m.addressee? ≠ some n) : d.Holds (ms ++ [m]) := by
  obtain ⟨hfields, hrepeaters⟩ := Marker.declared_append_singleton_of_ne hclaim hne
  exact ⟨h.fields.trans hfields.symm, h.repeaters.trans hrepeaters.symm,
    fun slug => (h.claims slug).trans (Marker.owner?_append_singleton hclaim slug).symm⟩

theorem addMarker_of_topField? (h : d.Holds ms) (htop : m.topField? = some k) :
    (d.addMarker m).Holds (ms ++ [m]) := by
  have hne : ∀ n ∈ Marker.claimedRepeaters ms, m.addressee? ≠ some n := by simp [Marker.addressee?_eq_none htop]
  obtain ⟨f, hf, hadd⟩ := Draft.addMarker_of_topField? (d := d) htop
  have hcontains : d.claims.contains k = true ↔ k ∈ (Marker.claims ms).map (·.1) := by
    rw [Dict.contains, h.claims, Option.isSome_iff_ne_none, ne_eq, Marker.owner?_eq_none_iff, Decidable.not_not]
  rw [hadd]
  by_cases hused : k ∈ (Marker.claims ms).map (·.1)
  · rw [if_pos (hcontains.mpr hused)]
    exact h.of_ne (Marker.forall_claim?_mem (Marker.claim?_of_topField? htop) hused) hne
  · rw [if_neg (mt hcontains.mp hused)]
    obtain ⟨hfields, hrepeaters⟩ := Marker.claimed_append_singleton_of_topField? htop hused
    refine ⟨?fields, ?repeaters, fun slug => ?claims⟩
    case fields =>
      rw [Marker.declaredFields, hfields, fieldsOf_append, fieldsOf_singleton hf, h.fields, Marker.declaredFields]
    case repeaters =>
      rw [Marker.declaredRepeaters, hrepeaters, Marker.map_addressed_of_ne hne, h.repeaters, Marker.declaredRepeaters]
    case claims =>
      rw [Dict.get?_insert, Marker.owner?_append_singleton_of_topField? htop hused, h.claims]

theorem addMarker_of_addressee? (h : d.Holds ms) (haddressee : m.addressee? = some k) :
    (d.addMarker m).Holds (ms ++ [m]) := by
  have hclaim := Marker.claim?_of_addressee? haddressee
  rw [Draft.addMarker_of_addressee? haddressee, changeRepeater, h.claims]
  cases howner : Marker.owner? ms k with
  | none =>
    have hused := Marker.owner?_eq_none_iff.mp howner
    have hrepeater : k ∉ Marker.claimedRepeaters ms := fun hk => hused (Marker.mem_keys_claims.mpr (.inr hk))
    obtain ⟨hfields, hrepeaters⟩ := Marker.claimed_append_singleton_of_addressee? haddressee hused
    refine ⟨?fields, ?repeaters, fun slug => ?claims⟩
    case fields => rw [Marker.declaredFields, hfields, h.fields, Marker.declaredFields]
    case repeaters =>
      -- The new repeater is made by this marker alone, since no other is addressed to it.
      rw [Marker.declaredRepeaters, hrepeaters, List.map_append, List.map_singleton,
        Marker.map_addressed_of_ne (Marker.forall_addressee?_ne haddressee hrepeater),
        Marker.addressed_append_singleton_self haddressee, Repeater.ofMarkers_append_singleton,
        Marker.addressed_eq_nil hused, h.repeaters, Marker.declaredRepeaters]
    case claims =>
      rw [Dict.get?_insert, Marker.owner?_append_singleton_of_addressee? haddressee hused, h.claims,
        h.length_repeaters]
  | some claim =>
    cases claim with
    | field =>
      have hfield := Marker.owner?_eq_field_iff.mp howner
      exact h.of_ne (Marker.forall_claim?_mem hclaim (Marker.mem_keys_claims.mpr (.inl hfield)))
        (Marker.forall_addressee?_ne haddressee (Marker.not_mem_claimedRepeaters hfield))
    | repeater index =>
      have hindex := Marker.getElem?_of_owner? howner
      have hused := Marker.mem_keys_claims.mpr (.inr (List.mem_of_getElem? hindex))
      obtain ⟨hfields, hrepeaters⟩ := Marker.claimed_append_singleton (Marker.forall_claim?_mem hclaim hused)
      refine ⟨?fields, ?repeaters, fun slug => ?claims⟩
      case fields => exact h.fields.trans (by rw [Marker.declaredFields, Marker.declaredFields, hfields])
      case repeaters =>
        rw [Marker.declaredRepeaters, hrepeaters, ← Marker.modify_addressed haddressee Marker.nodup_claimedRepeaters
          hindex, ← Marker.declaredRepeaters, ← h.repeaters]
        rfl
      case claims =>
        rw [Marker.owner?_append_singleton (Marker.forall_claim?_mem hclaim hused)]
        exact h.claims slug

/-- **One more marker adds to a draft what it declares.** -/
theorem addMarker (h : d.Holds ms) (m : Marker) : (d.addMarker m).Holds (ms ++ [m]) := by
  cases htop : m.topField? with
  | some k => exact h.addMarker_of_topField? htop
  | none =>
    cases haddressee : m.addressee? with
    | some k => exact h.addMarker_of_addressee? haddressee
    | none =>
      have hclaim : m.claim? = none := by rw [Marker.claim?, htop, haddressee, Option.none_or]
      rw [addMarker_of_claim?_eq_none hclaim]
      exact h.of_ne (by simp [hclaim]) (by simp [haddressee])

end Holds

/-- The markers that follow others complete the draft. The induction is on what follows; what is declared before
grows with each step. -/
theorem Holds.foldl_addMarker {d : Draft} {before : List Marker} (h : d.Holds before) (ms : List Marker) :
    (ms.foldl Draft.addMarker d).Holds (before ++ ms) := by
  induction ms generalizing d before with
  | nil => rwa [List.append_nil, List.foldl_nil]
  | cons m rest ih =>
    have hrest := ih (h.addMarker m)
    rwa [List.append_assoc, List.singleton_append] at hrest

/-- **A list of markers leaves a draft that holds what they declare.** -/
theorem holds_ofMarkers (ms : List Marker) : (ofMarkers ms).Holds ms := by
  have hempty : ({} : Draft).Holds [] := ⟨rfl, rfl, fun _ => rfl⟩
  exact hempty.foldl_addMarker ms

/-- **The table of a draft agrees with its lists:** the names of the fields belong to fields, those of the repeaters to
the repeaters at their positions, and no other name belongs to anything. -/
theorem claims_ofMarkers (ms : List Marker) (slug : String) :
    (ofMarkers ms).claims.get? slug =
      if slug ∈ (ofMarkers ms).fields.map (·.slug) then some .field
      else (((ofMarkers ms).repeaters.map (·.slug)).idxOf? slug).map .repeater := by
  have h := holds_ofMarkers ms
  rw [h.claims, h.fields, h.repeaters, Marker.slugs_declaredFields, Marker.slugs_declaredRepeaters, Marker.owner?]

end Draft

end FormTemplate
