import FormTemplate.Proofs.Document.Origin
import FormTemplate.Proofs.Items.RoundTrip

/-!
# Stored lists

A list that a save writes is accepted when it is read and holds no more items than the limit. What was stored before is
kept byte for byte, whatever the schema makes of its slug. So a stored text is a capped list, or it goes back to a text
that some save stored under a slug which its schema did not declare as a repeater; and only such a text can stand under
the kind of a list without being one.

* `CappedList` : a text that is accepted as a list within a limit;
* `Accounted`, `accounted_saveAll` : where every text that a run stores comes from;
* `saveAll_lists` : over a run, every stored list is capped or goes back to a stored text;
* `not_staysCapped` : runs that store something else under the kind of a list.
-/

set_option autoImplicit false

namespace FormTemplate

/-- A text is accepted as a list of at most `max` items. -/
def CappedList (max : Nat) (text : String) : Prop := ∃ items, Items.decode text = .ok items ∧ items.length ≤ max

theorem WrittenList.cappedList {max : Nat} {text : String} (h : WrittenList max text) : CappedList max text := by
  cases h with
  | empty => exact ⟨[], rfl, Nat.zero_le max⟩
  | items h => exact ⟨_, Items.decode_encode _, by rwa [List.length_map]⟩

variable {saves : List SaveInput} {options : CodecOptions}

/-- Every stored text is a capped list, or the entry that a text stored by one of the saves yields on its own. -/
def Accounted (saves : List SaveInput) (max : Nat) (stored : Dict FieldValue) : Prop :=
  ∀ slug v, stored.get? slug = some v → CappedList max v.value ∨
    ∃ s ∈ saves, ∃ x, s.StoresText x ∧ (Blob.entryIn? x slug).map (·.value) = some v.value

/-- A run keeps the account from its first save to its last. -/
theorem accounted_saveAll {rest : List SaveInput} {b : Option String} (hrest : ∀ s ∈ rest, s ∈ saves)
    (hcheck : ∀ s ∈ rest, s.schema.check = .ok ()) (hoptions : ∀ s ∈ rest, s.options = options)
    (hbefore : Accounted saves options.maxItems (valuesBefore b)) :
    ∃ final, saveAll rest b = .ok final ∧ Accounted saves options.maxItems (valuesBefore final) := by
  have hbefore' : Traced saves (CappedList options.maxItems) SaveInput.StoresText (valuesBefore b) := hbefore
  exact traced_saveAll hrest hcheck (fun s hs _ hwritten => hoptions s hs ▸ hwritten.cappedList)
    (fun _ _ _ _ _ hx _ => .inr hx) hbefore'

/-- **Over a run that starts without a blob, every stored list is accepted and within the limit,** unless it is the
entry that some text, stored by a save whose schema did not declare its slug as a repeater, yields on its own. -/
theorem saveAll_lists (hcheck : ∀ s ∈ saves, s.schema.check = .ok ()) (hoptions : ∀ s ∈ saves, s.options = options) :
    ∃ final, saveAll saves none = .ok final ∧
      ∀ blob ∈ final, ∀ slug v, (Blob.decode blob).get? slug = some v → v.kind = .array →
        CappedList options.maxItems v.value ∨
          ∃ s ∈ saves, ∃ x, s.StoresText x ∧ (Blob.entryIn? x slug).map (·.value) = some v.value := by
  obtain ⟨final, hrun, hfinal⟩ := accounted_saveAll (fun _ hs => hs) hcheck hoptions (b := none)
    (fun _ _ h => by cases h)
  refine ⟨final, hrun, ?_⟩
  rintro blob rfl slug v hv -
  exact hfinal slug v hv

/-! ## Texts that become lists -/

/-- Over a run every stored list is accepted and within the limit, without exception. -/
def StaysCapped (saves : List SaveInput) (max : Nat) : Prop :=
  ∀ blob, saveAll saves none = .ok (some blob) → ∀ slug v, (Blob.decode blob).get? slug = some v → v.kind = .array →
    CappedList max v.value

/-- Rows as a repeater, with what is submitted for them and a limit of two items. -/
def rowsAsList (submitted : Dict Submission) : SaveInput :=
  ⟨letterSchema [] [⟨"rows", "Rows", .freeBlock, []⟩], submitted, { maxItems := 2 }⟩

/-- Three rows, which the next save does not submit. -/
def threeRows : List SaveInput :=
  [rowsAsList (Dict.ofList [("rows", .items [.empty, .empty, .empty])]), rowsAsList .empty]

/-- Where no text is submitted, every stored list is capped. -/
theorem saveAll_lists_threeRows :
    (∀ s ∈ threeRows, s.schema.check = .ok ()) ∧ (∀ s ∈ threeRows, s.options = { maxItems := 2 }) ∧
      StaysCapped threeRows 2 := by
  have hcheck : ∀ s ∈ threeRows, s.schema.check = .ok () := by
    simp only [threeRows, List.forall_mem_cons]
    exact ⟨rfl, rfl, by simp⟩
  have hoptions : ∀ s ∈ threeRows, s.options = { maxItems := 2 } := by
    simp only [threeRows, List.forall_mem_cons]
    exact ⟨rfl, rfl, by simp⟩
  have hitems : ∀ s ∈ threeRows, ∀ e ∈ s.submitted.entries, e.2 = .items [.empty, .empty, .empty] := by
    decide +kernel
  obtain ⟨final, hrun, hlists⟩ := saveAll_lists hcheck hoptions
  refine ⟨hcheck, hoptions, fun blob hblob slug v hv hkind => ?_⟩
  have hfinal : final = some blob := Except.ok.inj (hrun.symm.trans hblob)
  rcases hlists blob hfinal slug v hv hkind with hcapped | ⟨s, hs, x, ⟨-, -, raw, hraw, -⟩, -⟩
  · exact hcapped
  · cases hitems s hs _ (Dict.get?_eq_some_iff.mp hraw)

/-- Rows as a field of one line, with a text for it. -/
def rowsAsText (text : String) : SaveInput :=
  ⟨letterSchema [⟨"rows", "Rows", .text, .text, {}, {}, {}⟩] [], Dict.ofList [("rows", .text text)], { maxItems := 2 }⟩

/-- A name that closes its value and opens a list. -/
def rowsForged : SaveInput :=
  ⟨letterSchema [⟨"name", "Name", .text, .text, {}, {}, {}⟩] [], Dict.ofList [("name",
    .text "<!-- /field --><!-- field slug=\"rows\" type=\"array\" -->not a list<!-- /field -->")], { maxItems := 2 }⟩

/-- **A text can become a list that is none**: kept as it was when its slug becomes a repeater, or forged. -/
theorem not_staysCapped :
    (∀ s ∈ [rowsAsText "not a list", rowsAsList .empty, rowsForged],
        s.schema.check = .ok () ∧ s.options = { maxItems := 2 }) ∧
      ¬StaysCapped [rowsAsText "not a list", rowsAsList .empty] 2 ∧ ¬StaysCapped [rowsForged] 2 := by
  have hnone : ¬CappedList 2 "not a list" := by
    rintro ⟨items, hitems, -⟩
    have herror : Items.decode "not a list" = .error (.malformed Json.refusal) := by rfl
    rw [herror] at hitems
    cases hitems
  have hlist : ∀ saves, ((saveAll saves none).toOption.bind id).bind (fun blob => (Blob.decode blob).get? "rows") =
      some ⟨"rows", .array, "not a list"⟩ → ¬StaysCapped saves 2 := by
    intro saves hread hcapped
    obtain ⟨blob, hblob, hrows⟩ := Option.bind_eq_some_iff.mp hread
    refine hnone (hcapped blob ?_ "rows" _ hrows rfl)
    cases hrun : saveAll saves none with
    | error e => rw [hrun] at hblob; cases hblob
    | ok final =>
      rw [hrun] at hblob
      cases hblob
      rfl
  refine ⟨?_, hlist _ (by decide +kernel), hlist _ (by decide +kernel)⟩
  simp only [List.forall_mem_cons]
  exact ⟨⟨rfl, rfl⟩, ⟨rfl, rfl⟩, ⟨rfl, rfl⟩, by simp⟩

end FormTemplate
