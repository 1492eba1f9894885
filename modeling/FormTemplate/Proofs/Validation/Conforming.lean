import FormTemplate.Proofs.Pattern.FullMatch
import FormTemplate.Proofs.Validation.Cache
import FormTemplate.Proofs.Validation.Shapes
import FormTemplate.Proofs.Validation.Values

/-!
# Values that conform

A field requires six things of a value, in a fixed order. A check accepts a value that is blank, or that meets all of
them. Otherwise it reports the first that is not met, under the slug of the field. Nothing is assumed of the field: its
kind and its data type need not go together, and a bound that cannot be read or a pattern that cannot be compiled
requires nothing.

* `Requirement`, `Requirement.Met` : what a field requires of a value;
* `Requirement.message` : what is said of a requirement that is not met;
* `Requirement.fault?`, `reports_fault?` : each check reports its requirement where it is not met;
* `validate_eq_findSome?` : a check reports the first fault;
* `validate_conforms` : the values that are accepted, and what is reported of the others.
-/

set_option autoImplicit false

namespace FormTemplate

variable {f : Field} {value : String} {m : Mismatch}

/-! ## Requirements -/

/-- A piece of a text, with the characters around it, is matched. -/
def Pattern.Regex.Finds (r : Regex) (t : List Char) : Prop :=
  ∃ before piece after, t = before ++ (piece ++ after) ∧ r.Matches before.getLast? piece after.head?

/-- What a field can require of a value. -/
inductive Requirement where
  | length
  | shape
  | dataType
  | pattern
  | minimum
  | maximum
  deriving DecidableEq, Repr

namespace Requirement

/-- The requirements in the order in which they are checked. -/
def inOrder : List Requirement := [.length, .shape, .dataType, .pattern, .minimum, .maximum]

theorem mem_inOrder (r : Requirement) : r ∈ inOrder := by
  cases r <;> decide

/-- A value meets a requirement of a field. White space around it counts for its length and its pattern only. -/
def Met (f : Field) (value : String) : Requirement → Prop
  | .length => ∀ most ∈ f.constraints.length, value.length ≤ most.toNat
  | .shape =>
    (f.kind = .email → IsEmailAddress (Text.trimChars value.toList)) ∧
      (f.kind = .url → IsWebAddress (Text.trimChars value.toList))
  | .dataType =>
    (f.dataType = .number → ∃ x, Number.readFinite? (Text.trimChars value.toList) = some x) ∧
      (f.dataType = .date → ∃ d, Calendar.Date.read? (Text.trimChars value.toList) = some d)
  | .pattern => ∀ p ∈ f.constraints.pattern, ∀ r ∈ Pattern.compile? p, r.Finds value.toList
  | .minimum =>
    ∀ v ∈ comparable? f.dataType value, ∀ text ∈ f.constraints.minimum, ∀ least ∈ comparable? f.dataType text,
      least.AtMost v
  | .maximum =>
    ∀ v ∈ comparable? f.dataType value, ∀ text ∈ f.constraints.maximum, ∀ greatest ∈ comparable? f.dataType text,
      v.AtMost greatest

/-- What is said of a value that does not meet a requirement. -/
def message (f : Field) : Requirement → String
  | .length => f.label ++ " must be at most " ++ (f.constraints.length.map (·.toNat.repr)).getD "" ++ " characters"
  | .shape => f.label ++ if f.kind = .email then " must be an email address" else " must be a web address"
  | .dataType => f.label ++ if f.dataType = .number then " must be a number" else " must be a date (YYYY-MM-DD)"
  | .pattern => f.constraints.patternMessage.getD (f.label ++ " does not match the expected format")
  | .minimum => f.label ++ " must be at least " ++ f.constraints.minimum.getD ""
  | .maximum => f.label ++ " must be at most " ++ f.constraints.maximum.getD ""

/-- What the check of a requirement reports. -/
def fault? (f : Field) (value : String) : Requirement → Option Mismatch
  | .length => f.lengthFault? value
  | .shape => f.shapeFault? value
  | .dataType => f.typeFault? value
  | .pattern => f.patternFault? (f.constraints.pattern.bind Pattern.compile?) value
  | .minimum => (comparable? f.dataType value).bind f.minimumFault?
  | .maximum => (comparable? f.dataType value).bind f.maximumFault?

end Requirement

/-- A mismatch is reported exactly where something is not met. -/
structure Reports (fault : Option Mismatch) (met : Prop) (m : Mismatch) : Prop where
  none_of : met → fault = none
  some_of : ¬met → fault = some m

theorem reports_unless {p met : Prop} [Decidable p] (h : p ↔ met) : Reports (if p then none else some m) met m where
  none_of hmet := if_pos (h.mpr hmet)
  some_of hmet := if_neg (mt h.mp hmet)

theorem reports_if {p met : Prop} [Decidable p] (h : p ↔ ¬met) : Reports (if p then some m else none) met m where
  none_of hmet := if_neg fun hp => h.mp hp hmet
  some_of hmet := if_pos (h.mpr hmet)

theorem reports_none {met : Prop} (h : met) : Reports none met m where
  none_of _ := rfl
  some_of hmet := absurd h hmet

/-- Nothing is asked where there is nothing to ask for. -/
theorem reports_bind {α : Type} {o : Option α} {fault : α → Option Mismatch} {met : α → Prop}
    (h : ∀ a, o = some a → Reports (fault a) (met a) m) : Reports (o.bind fault) (∀ a ∈ o, met a) m := by
  cases o with
  | none => exact reports_none nofun
  | some a => simpa using h a rfl

theorem Reports.eq_none_iff {fault : Option Mismatch} {met : Prop} (h : Reports fault met m) : fault = none ↔ met := by
  by_cases hmet : met
  · simp [h.none_of hmet, hmet]
  · simp [h.some_of hmet, hmet]

theorem Reports.eq_some_iff {fault : Option Mismatch} {met : Prop} {n : Mismatch} (h : Reports fault met m) :
    fault = some n ↔ ¬met ∧ n = m := by
  by_cases hmet : met
  · simp [h.none_of hmet, hmet]
  · simp [h.some_of hmet, hmet, eq_comm]

/-! ## What each check reports -/

section

variable (f : Field) (value : String)

theorem reports_length :
    Reports (f.lengthFault? value) (Requirement.length.Met f value) (f.mismatch (Requirement.length.message f)) := by
  unfold Field.lengthFault? Requirement.Met Requirement.message
  cases f.constraints.length with
  | none => exact reports_none nofun
  | some most => exact reports_if (by simp)

theorem reports_shape :
    Reports (f.shapeFault? value) (Requirement.shape.Met f value) (f.mismatch (Requirement.shape.message f)) := by
  unfold Field.shapeFault?
  split
  · rename_i hkind
    rw [Requirement.message, if_pos hkind]
    exact reports_unless (by simp [Requirement.Met, hkind, isEmail_iff])
  · rename_i hkind
    have hother : f.kind ≠ .email := by simp [hkind]
    rw [Requirement.message, if_neg hother]
    exact reports_unless (by simp [Requirement.Met, hkind, isUrl_iff])
  · exact reports_none ⟨fun h => absurd h ‹_›, fun h => absurd h ‹_›⟩

theorem reports_type :
    Reports (f.typeFault? value) (Requirement.dataType.Met f value) (f.mismatch (Requirement.dataType.message f)) := by
  unfold Field.typeFault?
  split
  · rename_i htype
    rw [Requirement.message, if_pos htype]
    exact reports_unless (by simp [Requirement.Met, htype, comparable?, Option.isSome_iff_exists])
  · rename_i htype
    have hother : f.dataType ≠ .number := by simp [htype]
    rw [Requirement.message, if_neg hother]
    exact reports_unless (by simp [Requirement.Met, htype, comparable?, Option.isSome_iff_exists])
  · rename_i htype
    exact reports_none (by simp [Requirement.Met, htype])
  · rename_i htype
    exact reports_none (by simp [Requirement.Met, htype])

/-- A compiled pattern searches for a piece that it matches. -/
theorem Pattern.search_iff_finds {p : String} {r : Regex} {t : List Char} (h : compile? p = some r) :
    r.search t = true ↔ r.Finds t := by
  obtain ⟨form, hform, rfl⟩ := Option.map_eq_some_iff.mp h
  exact Regex.search_iff (wellFormed_of_read? (Option.filter_eq_some_iff.mp hform).1)

theorem reports_pattern : Reports (f.patternFault? (f.constraints.pattern.bind Pattern.compile?) value)
    (Requirement.pattern.Met f value) (f.mismatch (Requirement.pattern.message f)) := by
  have hfault : f.patternFault? (f.constraints.pattern.bind Pattern.compile?) value =
      f.constraints.pattern.bind fun p => (Pattern.compile? p).bind fun r => f.patternFault? (some r) value := by
    cases f.constraints.pattern with
    | none => rfl
    | some p => cases hr : Pattern.compile? p <;> simp [hr, Field.patternFault?]
  rw [hfault]
  exact reports_bind fun p _ => reports_bind fun r hr => reports_unless (Pattern.search_iff_finds hr)

/-- The check of one bound: nothing is asked where the bound is missing or cannot be read. -/
theorem reports_bound {type : DataType} {limit : Option String} {within : Comparable → Bool} {met : Comparable → Prop}
    {said : String → String} (h : ∀ text bound, comparable? type text = some bound → (within bound = true ↔ met bound)) :
    Reports
      (match limit with
        | none => none
        | some text =>
          match comparable? type text with
          | none => none
          | some bound => if within bound then none else some (f.mismatch (said text)))
      (∀ text ∈ limit, ∀ bound ∈ comparable? type text, met bound) (f.mismatch (said (limit.getD ""))) := by
  cases limit with
  | none => exact reports_none nofun
  | some text =>
    dsimp only
    cases hbound : comparable? type text with
    | none => exact reports_none (by simp [hbound])
    | some bound => exact reports_unless (by simp [h text bound hbound, hbound])

theorem reports_minimum : Reports ((comparable? f.dataType value).bind f.minimumFault?)
    (Requirement.minimum.Met f value) (f.mismatch (Requirement.minimum.message f)) := by
  refine reports_bind fun v hv => ?_
  exact reports_bound f fun text least hleast => Comparable.le_iff_atMost hleast hv

theorem reports_maximum : Reports ((comparable? f.dataType value).bind f.maximumFault?)
    (Requirement.maximum.Met f value) (f.mismatch (Requirement.maximum.message f)) := by
  refine reports_bind fun v hv => ?_
  exact reports_bound f fun text greatest hgreatest => Comparable.le_iff_atMost hv hgreatest

/-- **Each check reports its requirement where the value does not meet it.** -/
theorem reports_fault? (r : Requirement) : Reports (r.fault? f value) (r.Met f value) (f.mismatch (r.message f)) :=
  match r with
  | .length => reports_length f value
  | .shape => reports_shape f value
  | .dataType => reports_type f value
  | .pattern => reports_pattern f value
  | .minimum => reports_minimum f value
  | .maximum => reports_maximum f value

/-! ## The outcome -/

theorem Field.boundsFault?_eq : f.boundsFault? value = ((comparable? f.dataType value).bind f.minimumFault?).or
    ((comparable? f.dataType value).bind f.maximumFault?) := by
  unfold Field.boundsFault?
  cases comparable? f.dataType value with
  | none => rfl
  | some v => rfl

theorem Requirement.findSome?_fault?_cons (r : Requirement) (rest : List Requirement) :
    List.findSome? (Requirement.fault? f value) (r :: rest) =
      (r.fault? f value).or (List.findSome? (Requirement.fault? f value) rest) := by
  rw [List.findSome?_cons]
  cases r.fault? f value with
  | none => rfl
  | some m => rfl

/-- **A check reports the first fault.** -/
theorem validate_eq_findSome? : validate f value =
    if Text.isBlankText value then .ok ()
    else
      match Requirement.inOrder.findSome? (Requirement.fault? f value) with
      | some m => .error m
      | none => .ok () := by
  have horder : Requirement.inOrder.findSome? (Requirement.fault? f value) =
      (((f.lengthFault? value).or (f.shapeFault? value)).or (f.typeFault? value)).or
        ((f.patternFault? (f.pattern {}).1 value).or (f.boundsFault? value)) := by
    rw [f.pattern_fst PatternCache.sound_empty, Field.boundsFault?_eq]
    simp only [Requirement.inOrder, Requirement.findSome?_fault?_cons, List.findSome?_nil, Option.or_none,
      Option.or_assoc]
    rfl
  rw [horder]
  unfold validate validateWith
  split
  · rfl
  · cases ((f.lengthFault? value).or (f.shapeFault? value)).or (f.typeFault? value) with
    | some m => rfl
    | none =>
      rw [Option.none_or]
      dsimp only
      cases (f.patternFault? (f.pattern {}).1 value).or (f.boundsFault? value) with
      | some m => rfl
      | none => rfl

theorem isBlankText_iff : Text.isBlankText value = true ↔ Text.trim value = "" := by
  rw [Text.isBlankText, List.all_eq_true, ← Text.trimChars_eq_nil_iff, Text.trim, String.ofList_eq_empty_iff]

/-- There is no fault if all requirements are met. -/
theorem Requirement.findSome?_fault?_eq_none_iff :
    inOrder.findSome? (fault? f value) = none ↔ ∀ r : Requirement, r.Met f value := by
  rw [List.findSome?_eq_none_iff]
  constructor
  · exact fun h r => (reports_fault? f value r).eq_none_iff.mp (h r r.mem_inOrder)
  · exact fun h r _ => (reports_fault? f value r).eq_none_iff.mpr (h r)

/-- The first fault is the one of the first requirement that is not met. -/
theorem Requirement.findSome?_fault?_eq_some_iff : inOrder.findSome? (fault? f value) = some m ↔
    ∃ before r after, inOrder = before ++ r :: after ∧ (∀ q ∈ before, q.Met f value) ∧ ¬r.Met f value ∧
      m = ⟨f.slug, r.message f⟩ := by
  have hmet : ∀ q : Requirement, q.fault? f value = none ↔ q.Met f value :=
    fun q => (reports_fault? f value q).eq_none_iff
  rw [List.findSome?_eq_some_iff]
  constructor
  · rintro ⟨before, r, after, hsplit, hr, hbefore⟩
    obtain ⟨hnot, rfl⟩ := (reports_fault? f value r).eq_some_iff.mp hr
    exact ⟨before, r, after, hsplit, fun q hq => (hmet q).mp (hbefore q hq), hnot, rfl⟩
  · rintro ⟨before, r, after, hsplit, hbefore, hnot, rfl⟩
    exact ⟨before, r, after, hsplit, (reports_fault? f value r).some_of hnot, fun q hq => (hmet q).mpr (hbefore q hq)⟩

/-- A pattern that the anchors leave as it is is required to match the whole value. -/
theorem Requirement.met_pattern_iff {p : String} (hp : f.constraints.pattern = some p) (h : Pattern.Anchorable p) :
    pattern.Met f value ↔ ∀ r, Pattern.regexOf? p = some r → r.Matches none value.toList none := by
  rw [← h.search_iff, Met, hp]
  constructor
  · exact fun hfinds r hr => (Pattern.search_iff_finds hr).mpr (hfinds p rfl r hr)
  · rintro hsearch _ ⟨⟩ r hr
    exact (Pattern.search_iff_finds hr).mp (hsearch r hr)

/-- **A check accepts what conforms, and reports the first requirement that is not met.** A value is accepted if it is
blank or meets all requirements of the field. Any other is reported under the slug of the field, with what is said of
the first requirement, in their order, that it does not meet. The pattern is the one between anchors; where the anchors
leave it as it is, it is required to match the whole value. -/
theorem validate_conforms :
    (validate f value = .ok () ↔ Text.trim value = "" ∨ ∀ r : Requirement, r.Met f value) ∧
    (∀ m, validate f value = .error m ↔ Text.trim value ≠ "" ∧
      ∃ before r after, Requirement.inOrder = before ++ r :: after ∧ (∀ q ∈ before, q.Met f value) ∧
        ¬r.Met f value ∧ m = ⟨f.slug, r.message f⟩) ∧
    (∀ p, f.constraints.pattern = some p → Pattern.Anchorable p →
      (Requirement.pattern.Met f value ↔ ∀ r, Pattern.regexOf? p = some r → r.Matches none value.toList none)) := by
  refine ⟨?accepted, fun m => ?reported, fun p hp h => Requirement.met_pattern_iff f value hp h⟩
  case accepted =>
    rw [validate_eq_findSome?, ← isBlankText_iff, ← Requirement.findSome?_fault?_eq_none_iff]
    cases Text.isBlankText value <;> cases Requirement.inOrder.findSome? (Requirement.fault? f value) <;> simp
  case reported =>
    rw [validate_eq_findSome?, ne_eq, ← isBlankText_iff, ← Requirement.findSome?_fault?_eq_some_iff]
    cases Text.isBlankText value <;> cases Requirement.inOrder.findSome? (Requirement.fault? f value) <;> simp

end

/-- A field for an amount from 1 to 10, of one or two digits. -/
def amountField : Field where
  slug := "amount"
  label := "Amount"
  kind := .number
  dataType := .number
  constraints := { length := some 2, pattern := some "[0-9]+", minimum := some "1", maximum := some "1e1" }

/-- The amount 07 conforms. For 11, the greatest amount is the first requirement that is not met; for 1.5 it is the
length, although the pattern does not match either. -/
theorem validate_conforms_amount :
    (Text.trim "07" = "" ∨ ∀ r : Requirement, r.Met amountField "07") ∧
    (∀ e ∈ [("11", "Amount must be at most 1e1"), ("1.5", "Amount must be at most 2 characters")],
      validate amountField e.1 = .error ⟨"amount", e.2⟩ ∧ Text.trim e.1 ≠ "" ∧
      ∃ before r after, Requirement.inOrder = before ++ r :: after ∧ (∀ q ∈ before, q.Met amountField e.1) ∧
        ¬r.Met amountField e.1 ∧ (⟨"amount", e.2⟩ : Mismatch) = ⟨"amount", r.message amountField⟩) ∧
    Pattern.Anchorable "[0-9]+" ∧
    (Requirement.pattern.Met amountField "07" ↔
      ∀ r, Pattern.regexOf? "[0-9]+" = some r → r.Matches none "07".toList none) := by
  have hp : Pattern.Anchorable "[0-9]+" :=
    .of_notMem (by decide) (by decide +kernel) (by decide +kernel) (by decide +kernel)
  have hreported : ∀ e ∈ [("11", "Amount must be at most 1e1"), ("1.5", "Amount must be at most 2 characters")],
      validate amountField e.1 = .error ⟨"amount", e.2⟩ := by
    decide +kernel
  refine ⟨(validate_conforms amountField "07").1.mp (by decide +kernel), fun e he => ⟨hreported e he, ?_⟩, hp,
    (validate_conforms amountField "07").2.2 "[0-9]+" rfl hp⟩
  exact ((validate_conforms amountField e.1).2.1 _).mp (hreported e he)

end FormTemplate
