import FormTemplate.Proofs.Calendar.Timestamp
import FormTemplate.Proofs.Json.Written
import FormTemplate.Schema.Json

/-!
# Schemas read back from their JSON text

A record is written as the members of its parts that are present. Reading looks each part up by its key, so a part
comes back as long as no two parts have one key. The text of a schema is the compact form of such records; reading
it gives the schema, and reading the version alone gives its version.

* `Json.present` : the members of the parts that are present;
* `Json.member?_present`, `Json.record?_present` : the parts come back by their keys;
* `Field.ofJson?_toJson`, `Repeater.ofJson?_toJson`, `Schema.ofJson?_toJson` : the values read back;
* `Schema.read?_text`, `Schema.readVersion?_text` : the text of a schema read as a whole, and for its version;
* `Schema.text_roundTrip` : a schema goes through its text unchanged.
-/

set_option autoImplicit false

namespace FormTemplate

namespace Json

variable {α : Type} {key : String} {parts : List (String × Option Json)}

/-! ## Parts of a record -/

/-- The members of the parts that are present. -/
def present (parts : List (String × Option Json)) : List (String × Json) :=
  parts.filterMap fun p => p.2.map fun v => (p.1, v)

theorem mem_present {m : String × Json} : m ∈ present parts ↔ (m.1, some m.2) ∈ parts := by
  simp only [present, List.mem_filterMap, Option.map_eq_some_iff]
  constructor
  · rintro ⟨p, hp, v, hv, rfl⟩
    rw [← hv]
    exact hp
  · intro h
    exact ⟨_, h, _, rfl, rfl⟩

/-- A key that no part has is absent from the members. -/
theorem filter_present_eq_nil (h : key ∉ parts.map (·.1)) : (present parts).filter (·.1 == key) = [] := by
  rw [List.filter_eq_nil_iff]
  intro m hm hkey
  rw [beq_iff_eq] at hkey
  exact h (List.mem_map.mpr ⟨_, mem_present.mp hm, hkey⟩)

/-- **A part comes back by its key**, present or not, if no two parts have one key. -/
theorem member?_present (hnodup : (parts.map (·.1)).Nodup) {p : String × Option Json} (hp : p ∈ parts) :
    member? (present parts) p.1 = some p.2 := by
  induction parts with
  | nil => cases hp
  | cons q r ih =>
    rw [List.map_cons, List.nodup_cons] at hnodup
    have hsplit : present (q :: r) = (q.2.map fun v => (q.1, v)).toList ++ present r := by
      cases hq : q.2 <;> simp [present, hq]
    rcases List.mem_cons.mp hp with rfl | hr
    · rw [member?, hsplit, List.filter_append, filter_present_eq_nil hnodup.1]
      cases p.2 <;> simp
    · have hne : q.1 ≠ p.1 := fun heq => hnodup.1 (heq ▸ List.mem_map_of_mem hr)
      have hskip : (q.2.map fun v => (q.1, v)).toList.filter (·.1 == p.1) = [] := by
        cases q.2 <;> simp [hne]
      have hrest := ih hnodup.2 hr
      rw [member?] at hrest ⊢
      rw [hsplit, List.filter_append, hskip, List.nil_append]
      exact hrest

theorem mapM_member?_present (hnodup : (parts.map (·.1)).Nodup) (l : List (String × Option Json))
    (hl : ∀ p ∈ l, p ∈ parts) : (l.map (·.1)).mapM (member? (present parts)) = some (l.map (·.2)) := by
  induction l with
  | nil => rfl
  | cons p l ih =>
    rw [List.map_cons, List.mapM_cons, member?_present hnodup (hl p List.mem_cons_self),
      ih fun q hq => hl q (List.mem_cons_of_mem _ hq)]
    rfl

/-- **The parts of a record come back in order.** -/
theorem record?_present (hnodup : (parts.map (·.1)).Nodup) :
    record? (parts.map (·.1)) (.obj (present parts)) = some (parts.map (·.2)) :=
  mapM_member?_present hnodup parts fun _ hp => hp

/-! ## Values of parts -/

theorem required?_some (read : Json → Option α) (v : Json) : required? read (some v) = read v := rfl

theorem orDefault?_some (value : α) (read : Json → Option α) (v : Json) : orDefault? value read (some v) = read v := rfl

theorem string?_str (s : String) : string? (.str s) = some s := rfl

/-- A constant that is written as its name comes back. -/
theorem constant?_bind_str (read : String → Option α) (name : String) :
    (constant? (.str name)).bind read = read name := rfl

theorem optional?_string (o : Option String) : optional? string? (o.map .str) = some o := by
  cases o <;> rfl

theorem natBelow?_natural {bound n : Nat} (h : n < bound) : natBelow? bound (.num (.int n)) = some n := by
  simp [natBelow?, h]

theorem word?_toNat (w : UInt32) : word? (.num (.int w.toNat)) = some w := by
  rw [word?, natBelow?_natural w.toNat_lt_size, Option.map_some, UInt32.ofNat_toNat]

theorem required?_word (w : UInt32) : required? word? (some (.num (.int w.toNat))) = some w := by
  rw [required?, Option.bind_some, word?_toNat]

theorem optional?_word (o : Option UInt32) :
    optional? word? (o.map fun w => .num (.int w.toNat)) = some o := by
  cases o with
  | none => rfl
  | some w => simp [optional?, word?_toNat]

/-- A list comes back item by item. -/
theorem mapM_map_eq {read : Json → Option α} {write : α → Json} {l : List α}
    (h : ∀ x ∈ l, read (write x) = some x) : (l.map write).mapM read = some l := by
  induction l with
  | nil => rfl
  | cons x l ih =>
    rw [List.map_cons, List.mapM_cons, h x List.mem_cons_self, ih fun y hy => h y (List.mem_cons_of_mem _ hy)]
    rfl

/-! ## Texts of parts -/

theorem readsBack_word (w : UInt32) : ReadsBack (.num (.int w.toNat)) :=
  readsBack_natural (Nat.le_trans (Nat.le_of_lt w.toNat_lt_size) (by decide))

/-- A record reads back if each part that is present does. -/
theorem readsBack_present (h : ∀ p ∈ parts, ∀ v ∈ p.2, ReadsBack v) : ReadsBack (.obj (present parts)) :=
  readsBack_object fun _ hm => h _ (mem_present.mp hm) _ rfl

/-- An optional string reads back. -/
theorem forall_readsBack_str (o : Option String) : (∀ v, o.map Json.str = some v → ReadsBack v) ↔ True := by
  cases o <;> simp [readsBack_string]

/-- An optional number of thirty-two bits reads back. -/
theorem forall_readsBack_word (o : Option UInt32) :
    (∀ v, o.map (fun n => Json.num (.int n.toNat)) = some v → ReadsBack v) ↔ True := by
  cases o <;> simp [readsBack_word]

/-- A list reads back if each item does. -/
theorem readsBack_map {write : α → Json} {l : List α} (h : ∀ x ∈ l, ReadsBack (write x)) :
    ReadsBack (.arr (l.map write)) := by
  refine readsBack_array fun v hv => ?_
  obtain ⟨x, hx, rfl⟩ := List.mem_map.mp hv
  exact h x hx

end Json

open Json (present ReadsBack)

/-! ## Fields -/

/-- The parts of a field, present or not. -/
def Field.parts (f : Field) : List (String × Option Json) :=
  [("slug", some (.str f.slug)), ("label", some (.str f.label)), ("type", some (.str f.kind.name)),
    ("data_type", some (.str f.dataType.name)), ("title", f.hints.title.map .str),
    ("placeholder", f.hints.placeholder.map .str), ("description", f.hints.description.map .str),
    ("pattern", f.constraints.pattern.map .str), ("patternmsg", f.constraints.patternMessage.map .str),
    ("minvalue", f.constraints.minimum.map .str), ("maxvalue", f.constraints.maximum.map .str),
    ("length", f.constraints.length.map fun n => .num (.int n.toNat)), ("ope", f.rendering.caseTransform.map .str),
    ("frm", f.rendering.dateFormat.map .str)]

theorem stringMember_eq (key : String) (o : Option String) : stringMember key o = present [(key, o.map .str)] := by
  cases o <;> rfl

theorem Field.toJson_eq (f : Field) : f.toJson = .obj (present f.parts) := by
  have hhead : [("slug", Json.str f.slug), ("label", .str f.label), ("type", .str f.kind.name),
      ("data_type", .str f.dataType.name)] = present [("slug", some (.str f.slug)), ("label", some (.str f.label)),
      ("type", some (.str f.kind.name)), ("data_type", some (.str f.dataType.name))] := rfl
  rw [Field.toJson, hhead]
  split
  · rename_i hlength
    have hnone : [] = present [("length", none)] := rfl
    rw [hnone]
    simp only [stringMember_eq, present, ← List.filterMap_append]
    rw [Field.parts, hlength]
    rfl
  · rename_i n hlength
    have hsome : [("length", Json.num (.int n.toNat))] = present [("length", some (.num (.int n.toNat)))] := rfl
    rw [hsome]
    simp only [stringMember_eq, present, ← List.filterMap_append]
    rw [Field.parts, hlength]
    rfl

theorem Field.map_fst_parts (f : Field) : f.parts.map (·.1) = Field.keys := rfl

theorem Field.nodup_parts (f : Field) : (f.parts.map (·.1)).Nodup := by
  rw [f.map_fst_parts]
  decide

theorem Field.member?_parts (f : Field) : ∀ p ∈ f.parts, Json.member? (present f.parts) p.1 = some p.2 :=
  fun _ hp => Json.member?_present f.nodup_parts hp

/-- **Every part of a field stands under its key,** and an attribute that is absent stands nowhere. -/
theorem Field.record?_toJson (f : Field) : f.toJson.record? Field.keys = some (f.parts.map (·.2)) := by
  rw [f.toJson_eq, ← f.map_fst_parts]
  exact Json.record?_present f.nodup_parts

/-- **A field reads back from its value**, at any depth. -/
theorem Field.ofJson?_toJson (depth : Nat) (f : Field) : Field.ofJson? depth f.toJson = some f := by
  have hparts := f.member?_parts
  have hkeys : ∀ m ∈ present f.parts, m.1 ∈ Field.keys := by
    intro m hm
    rw [← f.map_fst_parts]
    exact List.mem_map.mpr ⟨_, Json.mem_present.mp hm, rfl⟩
  have hknown : (present f.parts).all (fun m => Field.keys.contains m.1 || m.2.fits depth) = true := by
    rw [List.all_eq_true]
    intro m hm
    simp [hkeys m hm]
  simp only [Field.parts, List.forall_mem_cons, List.not_mem_nil, false_imp_iff, implies_true, and_true] at hparts
  rw [Field.toJson_eq, Field.ofJson?]
  simp only [Field.parts] at hknown ⊢
  simp only [hparts, Json.required?_some, Json.string?_str, Json.constant?_bind_str, FieldKind.ofName?_name,
    DataType.ofName?_name, Json.optional?_string, Json.optional?_word, hknown, Option.bind_eq_bind, Option.bind_some,
    if_true, Option.pure_def]

theorem Field.readsBack_toJson (f : Field) : ReadsBack f.toJson := by
  rw [Field.toJson_eq]
  refine Json.readsBack_present ?_
  simp only [Field.parts, List.forall_mem_cons, List.not_mem_nil, false_imp_iff, implies_true, and_true,
    Option.mem_def, Option.some.injEq, forall_eq', Json.readsBack_string, Json.forall_readsBack_str,
    Json.forall_readsBack_word]

/-- The fields of a list read back. -/
theorem fieldsOfJson?_map (level : Nat) (fs : List Field) : fieldsOfJson? level (.arr (fs.map Field.toJson)) = some fs :=
  Json.mapM_map_eq fun f _ => Field.ofJson?_toJson _ f

theorem readsBack_fields (fs : List Field) : ReadsBack (.arr (fs.map Field.toJson)) :=
  Json.readsBack_map fun f _ => f.readsBack_toJson

/-! ## Repeaters -/

theorem BlockStyle.ofName?_name (b : BlockStyle) : BlockStyle.ofName? b.name = some b := by
  cases b <;> decide

/-- The parts of a repeater. -/
def Repeater.parts (r : Repeater) : List (String × Option Json) :=
  [("slug", some (.str r.slug)), ("label", some (.str r.label)), ("block", some (.str r.block.name)),
    ("fields", some (.arr (r.fields.map Field.toJson)))]

theorem Repeater.toJson_eq (r : Repeater) : r.toJson = .obj (present r.parts) := rfl

/-- **A repeater reads back from its value.** -/
theorem Repeater.ofJson?_toJson (r : Repeater) : Repeater.ofJson? r.toJson = some r := by
  have hnodup : (r.parts.map (·.1)).Nodup := show ["slug", "label", "block", "fields"].Nodup by decide
  have hrecord : r.toJson.record? ["slug", "label", "block", "fields"] = some (r.parts.map (·.2)) :=
    Json.record?_present hnodup
  rw [Repeater.ofJson?, hrecord]
  simp only [Repeater.parts, List.map_cons, List.map_nil, Json.required?_some, Json.orDefault?_some, Json.string?_str,
    Json.constant?_bind_str, BlockStyle.ofName?_name, fieldsOfJson?_map, Option.bind_eq_bind, Option.bind_some,
    Option.pure_def]

theorem Repeater.readsBack_toJson (r : Repeater) : ReadsBack r.toJson := by
  rw [Repeater.toJson_eq]
  refine Json.readsBack_present ?_
  simp only [Repeater.parts, List.forall_mem_cons, List.not_mem_nil, false_imp_iff, implies_true, and_true, true_and,
    Option.mem_def, Option.some.injEq, forall_eq', Json.readsBack_string]
  exact readsBack_fields r.fields

/-! ## The origin of a schema -/

theorem TemplateType.ofName?_name (t : TemplateType) : TemplateType.ofName? t.name = some t := by
  cases t <;> decide

/-- The parts of a schema's origin. -/
def SchemaMeta.parts (m : SchemaMeta) : List (String × Option Json) :=
  [("template_type", some (.str m.templateType.name)), ("template_id", some (.str m.templateId)),
    ("parsed_at", some (.str (String.ofList m.parsedAt.render)))]

theorem SchemaMeta.toJson_eq (m : SchemaMeta) : m.toJson = .obj (present m.parts) := rfl

theorem timestamp?_render {t : Calendar.Timestamp} (h : t.date.isValid = true) :
    timestamp? (.str (String.ofList t.render)) = some t.asRead := by
  rw [timestamp?, Json.string?, Option.bind_some, String.toList_ofList, Calendar.Timestamp.read?_render h]

/-- **The origin of a schema reads back from its value**, with the instant that its text writes. -/
theorem SchemaMeta.ofJson?_toJson {m : SchemaMeta} (h : m.parsedAt.date.isValid = true) :
    SchemaMeta.ofJson? m.toJson = some { m with parsedAt := m.parsedAt.asRead } := by
  have hnodup : (m.parts.map (·.1)).Nodup := show ["template_type", "template_id", "parsed_at"].Nodup by decide
  have hrecord : m.toJson.record? ["template_type", "template_id", "parsed_at"] = some (m.parts.map (·.2)) :=
    Json.record?_present hnodup
  rw [SchemaMeta.ofJson?, hrecord]
  simp only [SchemaMeta.parts, List.map_cons, List.map_nil, Json.required?_some, Json.string?_str,
    Json.constant?_bind_str, TemplateType.ofName?_name, timestamp?_render h, Option.bind_eq_bind, Option.bind_some,
    Option.pure_def]

theorem SchemaMeta.readsBack_toJson (m : SchemaMeta) : ReadsBack m.toJson := by
  rw [SchemaMeta.toJson_eq]
  refine Json.readsBack_present ?_
  simp only [SchemaMeta.parts, List.forall_mem_cons, List.not_mem_nil, false_imp_iff, implies_true, and_true,
    Option.mem_def, Option.some.injEq, forall_eq', Json.readsBack_string]

/-! ## Schemas -/

/-- The parts of a schema. -/
def Schema.parts (s : Schema) : List (String × Option Json) :=
  [("version", some (.num (.int s.version.toNat))), ("fields", some (.arr (s.fields.map Field.toJson))),
    ("repeaters", some (.arr (s.repeaters.map Repeater.toJson))), ("meta", some s.source.toJson)]

theorem Schema.toJson_eq (s : Schema) : s.toJson = .obj (present s.parts) := rfl

theorem Schema.nodup_parts (s : Schema) : (s.parts.map (·.1)).Nodup :=
  show ["version", "fields", "repeaters", "meta"].Nodup by decide

/-- The schema that reading gives of what is written of a schema. -/
def Schema.asRead (s : Schema) : Schema := { s with source.parsedAt := s.source.parsedAt.asRead }

/-- **A schema is read as it was written, unless its instant is in a leap second that does not end a minute.** -/
theorem Schema.asRead_eq_self_iff {s : Schema} : s.asRead = s ↔ s.source.parsedAt.EndsMinute := by
  rw [← Calendar.Timestamp.asRead_eq_self_iff]
  refine ⟨fun h => congrArg (fun s : Schema => s.source.parsedAt) h, fun h => ?_⟩
  rw [Schema.asRead, h]

/-- What is read of a schema is written in the same way. -/
theorem Schema.text_asRead (s : Schema) : s.asRead.text = s.text := by
  rw [Schema.text, Schema.toJson, SchemaMeta.toJson, Schema.asRead, Calendar.Timestamp.render_asRead]
  rfl

/-- **A schema reads back from its value.** -/
theorem Schema.ofJson?_toJson {s : Schema} (h : s.source.parsedAt.date.isValid = true) :
    Schema.ofJson? s.toJson = some s.asRead := by
  have hrecord : s.toJson.record? ["version", "fields", "repeaters", "meta"] = some (s.parts.map (·.2)) :=
    Json.record?_present s.nodup_parts
  have hrepeaters : (s.repeaters.map Repeater.toJson).mapM Repeater.ofJson? = some s.repeaters :=
    Json.mapM_map_eq fun r _ => Repeater.ofJson?_toJson r
  rw [Schema.ofJson?, hrecord]
  simp only [Schema.parts, List.map_cons, List.map_nil, Json.required?_word]
  simp only [Json.required?_some, Json.orDefault?_some, fieldsOfJson?_map, Json.items?, hrepeaters,
    SchemaMeta.ofJson?_toJson h, Option.bind_eq_bind, Option.bind_some, Option.pure_def, Schema.asRead]

/-- The text of a schema writes its value. -/
theorem Schema.parse?_text (s : Schema) : Json.parse? s.text.toList = some s.toJson := by
  have h : ReadsBack s.toJson := by
    rw [Schema.toJson_eq]
    refine Json.readsBack_present ?_
    simp only [Schema.parts, List.forall_mem_cons, List.not_mem_nil, false_imp_iff, implies_true, and_true,
      Option.mem_def, Option.some.injEq, forall_eq', Json.readsBack_word, true_and]
    exact ⟨readsBack_fields s.fields, Json.readsBack_map fun r _ => r.readsBack_toJson, s.source.readsBack_toJson⟩
  rw [Schema.text, Json.compactString, String.toList_ofList]
  exact h.parse?_eq

/-- **A schema reads back from its text.** -/
theorem Schema.read?_text {s : Schema} (h : s.source.parsedAt.date.isValid = true) :
    Schema.read? s.text = some s.asRead := by
  rw [Schema.read?, s.parse?_text, Option.bind_some, Schema.ofJson?_toJson h]

/-- **The version of a schema is read from its text**, whatever the rest. -/
theorem Schema.readVersion?_text (s : Schema) : Schema.readVersion? s.text = some s.version := by
  have hversion : Json.member? (present s.parts) "version" = some (some (.num (.int s.version.toNat))) :=
    Json.member?_present s.nodup_parts List.mem_cons_self
  have hrecord : s.toJson.record? ["version"] = some [some (.num (.int s.version.toNat))] := by
    rw [Schema.toJson_eq, Json.record?, List.mapM_cons, hversion]
    rfl
  rw [Schema.readVersion?, s.parse?_text, Option.bind_eq_bind, Option.bind_some, hrecord]
  exact Json.required?_word s.version

/-- **What is read of the text of a schema,** whatever its slugs and attributes are, is the schema again, unless its
instant is in a leap second that does not end a minute; then the instant is the next second, and all else is the same.
Other texts are those of other schemas. In the value of a field each attribute stands under its key if it is present, be
it the empty string, and not at all if it is absent. -/
theorem Schema.text_roundTrip {s : Schema} (h : s.source.parsedAt.date.isValid = true) :
    Schema.read? s.text = some s.asRead ∧
      (Schema.read? s.text = some s ↔ s.source.parsedAt.EndsMinute) ∧
      (∀ t : Schema, t.source.parsedAt.date.isValid = true → (t.text = s.text ↔ t.asRead = s.asRead)) ∧
      ∀ f : Field, f.toJson.record? Field.keys = some (f.parts.map (·.2)) := by
  have hread := Schema.read?_text h
  refine ⟨hread, ?_, fun t ht => ⟨fun htext => ?_, fun hsame => ?_⟩, Field.record?_toJson⟩
  · rw [hread, Option.some_inj]
    exact Schema.asRead_eq_self_iff
  · have hread' := Schema.read?_text ht
    rw [htext, hread] at hread'
    exact (Option.some.inj hread').symm
  · rw [← t.text_asRead, hsame, s.text_asRead]

/-- A field without a proper slug, with the given title and with characters that are escaped. -/
def awkwardField (title : Option String) : Field :=
  ⟨"Bad \"Slug\"", "", .date, .number, ⟨title, none, some "\u0000\\u0022\n🖋"⟩, ⟨some "[\\\\]/", some "", none, none, some 0⟩,
    ⟨none, some ""⟩⟩

/-- A schema that fails its check, made in a leap second of the year zero. -/
def awkwardSchema (title : Option String) : Schema where
  version := 4294967295
  fields := [awkwardField title, awkwardField none]
  repeaters := [⟨"", "\t", .tableRow, [awkwardField title]⟩, ⟨"", "", .freeBlock, []⟩]
  source := ⟨.unknown, "", { Calendar.Timestamp.epoch with
    date := ⟨0, 2, 29⟩, second := ⟨59, by decide⟩, nanosecond := ⟨1000000001, by decide⟩ }⟩

/-- An empty title stays empty and an absent one stays absent. -/
theorem Schema.text_roundTrip_awkward :
    (awkwardSchema none).source.parsedAt.date.isValid = true ∧
      Schema.read? (awkwardSchema none).text = some (awkwardSchema none) ∧
      Schema.read? (awkwardSchema (some "")).text = some (awkwardSchema (some "")) ∧
      (awkwardSchema (some "")).text ≠ (awkwardSchema none).text := by
  have hdate : (awkwardSchema none).source.parsedAt.date.isValid = true := by decide
  have hdate' : (awkwardSchema (some "")).source.parsedAt.date.isValid = true := hdate
  have hend : (awkwardSchema none).source.parsedAt.EndsMinute := fun _ => rfl
  have hne : (awkwardSchema (some "")).asRead ≠ (awkwardSchema none).asRead := by decide
  obtain ⟨-, hread, htext, -⟩ := Schema.text_roundTrip hdate
  obtain ⟨-, hread', -⟩ := Schema.text_roundTrip hdate'
  exact ⟨hdate, hread.mpr hend, hread'.mpr hend, fun heq => hne ((htext _ hdate').mp heq)⟩

/-- A letter that was made within a leap second in the middle of a minute. -/
def leapLetter : Schema :=
  ⟨2, [], [], ⟨.docx, "letter", { Calendar.Timestamp.epoch with
    date := ⟨2024, 2, 29⟩, second := ⟨15, by decide⟩, nanosecond := ⟨1500000000, by decide⟩ }⟩⟩

/-- **Not every schema goes through its text unchanged.** What is read of the letter was made in the next second. -/
theorem Schema.not_roundTrip_leapLetter :
    ¬∀ s : Schema, s.source.parsedAt.date.isValid = true → 0 ≤ s.source.parsedAt.date.year →
      s.source.parsedAt.date.year ≤ 9999 → Schema.read? s.text = some s := by
  intro hall
  have hdate : leapLetter.source.parsedAt.date.isValid = true := by decide
  have hread := hall leapLetter hdate (by decide) (by decide)
  rw [Schema.read?_text hdate, Option.some_inj, Schema.asRead_eq_self_iff] at hread
  exact absurd hread (by decide)

end FormTemplate
