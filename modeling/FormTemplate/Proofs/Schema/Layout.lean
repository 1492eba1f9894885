import FormTemplate.Proofs.Marker.Blocks
import FormTemplate.Proofs.Schema.Built

/-!
# Layout of repeaters

A marker asks for a table row in its last `block` attribute. Scanning puts it into the row, and with it every later
dotted marker of the same name as it is written; building leaves the mark of a row on the repeater if a single marker
addressed to it stands in one, and takes names by their slugs. Together this does not depend on where in the text the
row is asked for.

* `Scopes.mark?_cases` : where one step of scanning puts a marker;
* `mem_tableRows_next` : the names of rows that a step adds;
* `exists_asksRow_of_mem_placeAll` : what is put into a row follows a marker that asks for it, or is one;
* `Schema.block_ofMarkers_iff` : one marker in a row makes the repeater one;
* `Schema.block_ofText` : a repeater is a table row exactly if a marker of the text asks for it.
-/

set_option autoImplicit false

namespace FormTemplate

namespace Marker

variable {s : Scopes} {t : Token} {ts : List Token} {m : Marker} {text name : String}

/-! ## Steps -/

/-- A marker with this slug and these attributes asks for a table row of a name. -/
def AsksRow (name slug : String) (attributes : List (String × String)) : Prop :=
  blockRole attributes = .tableRow ∧ slugHead slug = name

/-- **Where one step of scanning puts a marker**: into the row that it asks for, into a row of its name from before, or
into none. -/
theorem Scopes.mark?_cases (h : s.mark? t = some m) :
    (blockRole m.attributes = .tableRow ∧ m.scope = .tableRow (slugHead m.slug) ∧ m.kind ≠ .blockEnd) ∨
      (blockRole m.attributes ≠ .tableRow ∧
        ((slugHead m.slug ∈ s.tableRows ∧ m.scope = .tableRow (slugHead m.slug) ∧ m.kind = .field) ∨
          (m.scope = .repeater (slugHead m.slug) ∧ m.kind = .field) ∨ m.scope = .topLevel)) := by
  obtain ⟨⟨scope, kind⟩, hplace, rfl⟩ := Option.map_eq_some_iff.mp h
  simp only [Scopes.place] at hplace
  cases hrole : blockRole (attributesOf t) with
  | opens =>
    simp only [hrole, Option.some.injEq, Prod.mk.injEq] at hplace
    exact .inr ⟨by simp, .inr (.inr hplace.1.symm)⟩
  | closes =>
    simp only [hrole] at hplace
    split at hplace
    · simp only [Option.some.injEq, Prod.mk.injEq] at hplace
      exact .inr ⟨by simp, .inr (.inr hplace.1.symm)⟩
    · cases hplace
  | tableRow =>
    simp only [hrole, Option.some.injEq, Prod.mk.injEq] at hplace
    refine .inl ⟨rfl, hplace.1.symm, ?_⟩
    rw [← hplace.2]
    split <;> simp
  | plain =>
    refine .inr ⟨by simp, ?_⟩
    simp only [hrole] at hplace
    split at hplace
    · simp only [Option.some.injEq, Prod.mk.injEq] at hplace
      obtain ⟨rfl, rfl⟩ := hplace
      by_cases hrow : slugHead t.slug.string ∈ s.tableRows
      · exact .inl ⟨hrow, by simp [hrow], rfl⟩
      · exact .inr (.inl ⟨by simp [hrow], rfl⟩)
    · simp only [Option.some.injEq, Prod.mk.injEq] at hplace
      exact .inr (.inr hplace.1.symm)

/-- Only a marker that asks for a row adds the name of one. -/
theorem mem_tableRows_next : name ∈ (s.next t).tableRows ↔
    name ∈ s.tableRows ∨ AsksRow name t.slug.string (attributesOf t) := by
  unfold Scopes.next Scopes.place AsksRow
  cases blockRole (attributesOf t) with
  | opens => simp
  | closes => by_cases hopen : slugHead t.slug.string ∈ s.opened <;> simp [hopen]
  | tableRow =>
    by_cases hrow : slugHead t.slug.string ∈ s.tableRows
    · simp only [List.contains_iff_mem, hrow, if_true, true_and]
      exact ⟨.inl, fun hname => hname.elim id fun heq => heq ▸ hrow⟩
    · simp [hrow, or_comm, eq_comm]
  | plain => by_cases hdot : isDotted t.slug.string = true <;> simp [hdot]

/-- A marker that asks for a row is reported. -/
theorem exists_mark?_of_asksRow (h : AsksRow name t.slug.string (attributesOf t)) :
    ∃ m, s.mark? t = some m ∧ AsksRow name m.slug m.attributes := by
  refine ⟨⟨t.slug.string, attributesOf t, .tableRow (slugHead t.slug.string),
    if isDotted t.slug.string then .field else .blockBegin, t.start⟩, ?_, h⟩
  simp only [Scopes.mark?, Scopes.place, h.1, Option.map_some]

/-! ## Runs -/

/-- **What is put into a row follows a marker that asks for it, or is one.** The induction goes through the markers; the
name of a row that is kept comes from a marker of the run, or it was kept before. -/
theorem exists_asksRow_of_mem_placeAll (h : m ∈ placeAll [] s ts) (hrow : m.scope.isTableRow = true) :
    slugHead m.slug ∈ s.tableRows ∨ ∃ n ∈ placeAll [] s ts, AsksRow (slugHead m.slug) n.slug n.attributes := by
  induction ts generalizing s with
  | nil => cases h
  | cons t ts ih =>
    rw [placeAll_nil_cons] at h ⊢
    rcases List.mem_append.mp h with hhere | hlater
    · rcases Scopes.mark?_cases (Option.mem_toList.mp hhere) with
        ⟨hrole, -⟩ | ⟨-, ⟨hkept, -⟩ | ⟨hscope, -⟩ | hscope⟩
      · exact .inr ⟨m, List.mem_append_left _ hhere, hrole, rfl⟩
      · exact .inl hkept
      · simp [hscope, MarkerScope.isTableRow] at hrow
      · simp [hscope, MarkerScope.isTableRow] at hrow
    · rcases ih hlater with hkept | ⟨n, hn, hasks⟩
      · rcases mem_tableRows_next.mp hkept with hkept | hasks
        · exact .inl hkept
        · obtain ⟨n, hn, hasks⟩ := exists_mark?_of_asksRow (s := s) hasks
          exact .inr ⟨n, List.mem_append_left _ (Option.mem_toList.mpr hn), hasks⟩
      · exact .inr ⟨n, List.mem_append_right _ hn, hasks⟩

/-- A reported marker is addressed to the name in front of its first dot, however it is reported. -/
theorem slugHead_of_repeaterName? (hm : m ∈ scan text) (h : m.repeaterName? = some name) :
    slugHead m.slug = name := by
  obtain ⟨s, t, -, hmark⟩ := exists_mark?_of_mem_placeAll hm
  unfold repeaterName? at h
  rcases Scopes.mark?_cases hmark with ⟨-, hscope, -⟩ | ⟨-, ⟨-, hscope, -⟩ | ⟨hscope, -⟩ | hscope⟩ <;>
    cases hkind : m.kind <;> simp_all [MarkerScope.repeaterName?]

/-- A reported marker that asks for a row is addressed to its name and stands in the row. -/
theorem repeaterName?_of_asksRow (hm : m ∈ scan text) (h : AsksRow name m.slug m.attributes) :
    m.repeaterName? = some name ∧ m.scope = .tableRow name := by
  obtain ⟨s, t, -, hmark⟩ := exists_mark?_of_mem_placeAll hm
  obtain ⟨hrole, rfl⟩ := h
  rcases Scopes.mark?_cases hmark with ⟨-, hscope, hkind⟩ | ⟨hplain, -⟩
  · refine ⟨?_, hscope⟩
    unfold repeaterName?
    cases hk : m.kind <;> simp_all [MarkerScope.repeaterName?]
  · exact absurd hrole hplain

/-- **A reported marker is in a row of a slug exactly through one that asks for it**: of the markers addressed to the
slug one stands in a row if and only if a marker whose name becomes the slug asks for a row. -/
theorem exists_isTableRow_iff {slug : String} :
    (∃ m ∈ addressed (scan text) slug, m.scope.isTableRow = true) ↔
      ∃ m ∈ scan text, ∃ name, AsksRow name m.slug m.attributes ∧ Slug.sanitize? name = some slug := by
  constructor
  · rintro ⟨m, hm, hrow⟩
    obtain ⟨hm, haddressee⟩ := List.mem_filter.mp hm
    obtain ⟨name, hname, hslug⟩ := Option.bind_eq_some_iff.mp (beq_iff_eq.mp haddressee)
    obtain rfl := slugHead_of_repeaterName? hm hname
    rcases exists_asksRow_of_mem_placeAll hm hrow with hkept | ⟨n, hn, hasks⟩
    · cases hkept
    · exact ⟨n, hn, _, hasks, hslug⟩
  · rintro ⟨m, hm, name, hasks, hslug⟩
    obtain ⟨hname, hscope⟩ := repeaterName?_of_asksRow hm hasks
    refine ⟨m, List.mem_filter.mpr ⟨hm, ?_⟩, by rw [hscope]; rfl⟩
    rw [addressee?, hname, Option.bind_some, hslug, beq_self_eq_true]

/-- A marker asks for a table row of a repeater: its last `block` attribute says so, in any case and with white space
around it, and its slug up to the first dot becomes the slug of the repeater. -/
structure DeclaresRow (slug : String) (m : Marker) : Prop where
  word : HasBlockWord "tbs:row" m.attributes
  named : ∃ name : String, '.' ∉ name.toList ∧
    (m.slug.toList = name.toList ∨ ∃ rest, m.slug.toList = name.toList ++ '.' :: rest) ∧ Slug.sanitize? name = some slug

theorem declaresRow_iff {slug : String} :
    m.DeclaresRow slug ↔ ∃ name, AsksRow name m.slug m.attributes ∧ Slug.sanitize? name = some slug := by
  constructor
  · rintro ⟨hword, name, hdot, hname, hslug⟩
    exact ⟨name, ⟨(blockRole_eq_iff_hasBlockWord rfl).mpr hword, slugHead_eq_iff.mpr ⟨hdot, hname⟩⟩, hslug⟩
  · rintro ⟨name, ⟨hrole, hhead⟩, hslug⟩
    obtain ⟨hdot, hname⟩ := slugHead_eq_iff.mp hhead
    exact ⟨(blockRole_eq_iff_hasBlockWord rfl).mp hrole, name, hdot, hname, hslug⟩

/-- Markers that are the same but for their order ask for the same rows. -/
theorem exists_declaresRow_congr {slug : String} {ms ms' : List Marker}
    (h : (ms'.map fun m => (m.slug, m.attributes)).Perm (ms.map fun m => (m.slug, m.attributes))) :
    (∃ m ∈ ms', m.DeclaresRow slug) ↔ ∃ m ∈ ms, m.DeclaresRow slug := by
  have hmap : ∀ ms : List Marker, (∃ m ∈ ms, m.DeclaresRow slug) ↔
      ∃ p ∈ ms.map fun m => (m.slug, m.attributes), ∃ name, AsksRow name p.1 p.2 ∧ Slug.sanitize? name = some slug := by
    intro ms
    simp only [declaresRow_iff, List.mem_map, exists_exists_and_eq_and]
  rw [hmap, hmap]
  exact exists_congr fun p => and_congr_left fun _ => h.mem_iff

end Marker

/-! ## Layouts -/

namespace Schema

variable {source : SchemaMeta} {text : String} {r : Repeater}

/-- A repeater is a table row exactly if one of the markers addressed to it stands in one. -/
theorem block_ofMarkers_iff {ms : List Marker} (hr : r ∈ (Schema.ofMarkers source ms).repeaters) :
    r.block = .tableRow ↔ ∃ m ∈ Marker.addressed ms r.slug, m.scope.isTableRow = true := by
  rw [ofMarkers_eq_declared] at hr
  obtain ⟨slug, -, rfl⟩ := List.mem_map.mp hr
  exact (Repeater.eq_ofMarkers_iff.mp rfl).2.2

/-- A repeater is a table row exactly if some marker of the text asks for it. -/
theorem block_eq_tableRow_iff (hr : r ∈ (Schema.ofText source text).repeaters) :
    r.block = .tableRow ↔ ∃ m ∈ Marker.scan text, m.DeclaresRow r.slug := by
  rw [block_ofMarkers_iff hr, Marker.exists_isTableRow_iff]
  simp only [Marker.declaresRow_iff]

/-- **The layout of a repeater does not depend on the order of the markers**: it is a table row exactly if some marker of
the text asks for it, and a free block otherwise. So texts whose markers are the same but for their order lay it out
alike. -/
theorem block_ofText (source : SchemaMeta) (text : String) {r : Repeater}
    (hr : r ∈ (Schema.ofText source text).repeaters) :
    (r.block = .tableRow ↔ ∃ m ∈ Marker.scan text, m.DeclaresRow r.slug) ∧
      (r.block = .freeBlock ↔ ∀ m ∈ Marker.scan text, ¬m.DeclaresRow r.slug) ∧
      ∀ text' : String, ((Marker.scan text').map fun m => (m.slug, m.attributes)).Perm
          ((Marker.scan text).map fun m => (m.slug, m.attributes)) →
        ∀ r' ∈ (Schema.ofText source text').repeaters, r'.slug = r.slug → r'.block = r.block := by
  have hrow := block_eq_tableRow_iff hr
  have hfree : r.block = .freeBlock ↔ ¬r.block = .tableRow := by cases r.block <;> simp
  refine ⟨hrow, ?_, ?_⟩
  · rw [hfree, hrow]
    simp
  · intro text' hperm r' hr' hslug
    have hrow' := block_eq_tableRow_iff hr'
    rw [hslug, Marker.exists_declaresRow_congr hperm, ← hrow] at hrow'
    cases hblock : r.block <;> cases hblock' : r'.block <;> simp_all

/-- A letter whose last marker asks for the table row of the others. It writes their name in its own way, names no field
and has another `block` attribute in front. -/
def lateRow : String := "[Items.a][items;block=begin][ITEMS.;block=begin;block=' TBS:Row ']"

/-- The row that the last marker asks for is found. -/
theorem block_ofText_lateRow :
    ∃ r ∈ (Schema.ofText ⟨.docx, "letter", ⟨⟨2000, 1, 1⟩, 0, 0, 0, 0⟩⟩ lateRow).repeaters,
      r.slug = "items" ∧ r.block = .tableRow := by
  have hrepeater : ∃ r ∈ (Schema.ofText ⟨.docx, "letter", ⟨⟨2000, 1, 1⟩, 0, 0, 0, 0⟩⟩ lateRow).repeaters,
      r.slug = "items" := by decide +kernel
  have hmarker : ∃ m ∈ Marker.scan lateRow, Marker.blockRole m.attributes = .tableRow ∧
      Slug.sanitize? (slugHead m.slug) = some "items" := by decide +kernel
  obtain ⟨r, hr, hslug⟩ := hrepeater
  obtain ⟨m, hm, hrole, hname⟩ := hmarker
  refine ⟨r, hr, hslug, (block_ofText _ _ hr).1.mpr ⟨m, hm, ?_⟩⟩
  exact Marker.declaresRow_iff.mpr ⟨_, ⟨hrole, rfl⟩, hslug ▸ hname⟩

end Schema

end FormTemplate
