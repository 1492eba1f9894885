import FormTemplate.Dict
import FormTemplate.Slug
import FormTemplate.Text.Join
import FormTemplate.Text.Search
import FormTemplate.Value

/-!
# Document blobs

All values of a document are kept in one text. Each value stands between an opening comment, which names its
slug and kind, and a closing comment; one line feed on either side of the value belongs to the comments. Values
are separated by an empty line.

Reading takes what is well formed and drops the rest. An opening comment stands on one line and holds no other
opening comment; a value ends at the first closing comment and holds no opening comment. Of two values with one
slug the later one counts.

* `Blob.encode` : the text of a list of values; values without a proper slug are left out.
* `Blob.sections` : the headers and bodies that are well formed.
* `Blob.decode` : the values of a text by slug.
* `Blob.IsPlain` : a text that neither opens nor closes a value.
-/

set_option autoImplicit false

namespace FormTemplate.Blob

/-- The start of an opening comment. -/
def opener : List Char := "<!-- field ".toList

/-- The end of an opening comment. -/
def commentEnd : List Char := "-->".toList

/-- A closing comment. -/
def closer : List Char := "<!-- /field -->".toList

/-- The text holds neither the start of an opening comment nor a closing comment. -/
def IsPlain (s : List Char) : Prop := Text.occurs opener s = false ∧ Text.occurs closer s = false

instance (s : List Char) : Decidable (IsPlain s) := inferInstanceAs (Decidable (_ ∧ _))

/-! ## Writing -/

/-- The inside of the opening comment of a value. -/
def headerText (v : FieldValue) : List Char :=
  "slug=\"".toList ++ v.slug.toList ++ "\" type=\"".toList ++ v.kind.name.toList ++ "\" ".toList

/-- A value between its comments. -/
def valueText (v : FieldValue) : List Char :=
  opener ++ headerText v ++ commentEnd ++ '\n' :: v.value.toList ++ '\n' :: closer

/-- The characters of a blob. -/
def encodeChars (vs : List FieldValue) : List Char :=
  Text.join ['\n', '\n'] ((vs.filter fun v => Slug.isValid v.slug).map valueText)

/-- The blob of a list of values, in their order. -/
def encode (vs : List FieldValue) : String := String.ofList (encodeChars vs)

/-! ## Reading -/

/-- The inside of an opening comment and the text up to the closing comment. -/
structure Section where
  header : List Char
  body : List Char
  deriving DecidableEq, Repr

/-- The well-formed sections of a text. Behind a header or a body that holds an opening comment, reading goes on
at that comment. -/
def sections (s : List Char) : List Section :=
  match _h₁ : Text.cutAt? opener s with
  | none => []
  | some (_, afterOpener) =>
    match _h₂ : Text.cutAt? commentEnd afterOpener with
    | none => []
    | some (header, afterHeader) =>
      if header.contains '\n' || Text.occurs opener header then sections afterOpener
      else
        match _h₃ : Text.cutAt? closer afterHeader with
        | none => []
        | some (body, afterBody) =>
          if Text.occurs opener body then sections afterHeader
          else ⟨header, body⟩ :: sections afterBody
termination_by s.length
decreasing_by
  all_goals
    have h₁ := Text.length_cutAt?_after _h₁ (by decide)
  · exact h₁
  · have h₂ := Text.length_cutAt?_after _h₂ (by decide)
    omega
  · have h₂ := Text.length_cutAt?_after _h₂ (by decide)
    have h₃ := Text.length_cutAt?_after _h₃ (by decide)
    omega

/-- The characters of attribute names. -/
def isNameChar (c : Char) : Bool := ('a' ≤ c && c ≤ 'z') || c == '_'

/-- The value that follows the name of an attribute, between quotes after an equals sign, and the rest. -/
def quotedValue? : List Char → Option (List Char × List Char)
  | '=' :: '"' :: r =>
    match r.dropWhile (· != '"') with
    | [] => none
    | _ :: rest => some (r.takeWhile (· != '"'), rest)
  | _ => none

theorem length_quotedValue?_rest {s v rest : List Char} (h : quotedValue? s = some (v, rest)) :
    rest.length < s.length := by
  unfold quotedValue? at h
  split at h
  · rename_i r
    split at h
    · cases h
    · rename_i c rest' hd
      injection h with h
      injection h with _ h
      subst h
      have := (r.dropWhile_sublist (· != '"')).length_le
      rw [hd] at this
      simp only [List.length_cons] at this ⊢
      omega
  · cases h

/-- The attributes of a header: each longest run of name characters that has a quoted value. -/
def headerAttributes (s : List Char) : List (List Char × List Char) :=
  match s with
  | [] => []
  | c :: r =>
    if isNameChar c then
      match _h : quotedValue? (r.dropWhile isNameChar) with
      | some (value, rest) => (c :: r.takeWhile isNameChar, value) :: headerAttributes rest
      | none => headerAttributes (r.dropWhile isNameChar)
    else headerAttributes r
termination_by s.length
decreasing_by
  · have h₁ := length_quotedValue?_rest _h
    have h₂ := (r.dropWhile_sublist isNameChar).length_le
    simp only [List.length_cons]
    omega
  · have h₂ := (r.dropWhile_sublist isNameChar).length_le
    simp only [List.length_cons]
    omega
  · simp

/-- The value of the last attribute with a name. -/
def lastValue? (attributes : List (List Char × List Char)) (name : String) : Option String :=
  ((attributes.reverse.find? (·.1 == name.toList)).map (·.2)).map String.ofList

/-- The slug and the kind of a header. The kind is `rich` where it is missing or unknown. -/
def headerKey? (header : List Char) : Option (String × ValueKind) :=
  let attributes := headerAttributes header
  match lastValue? attributes "slug" with
  | none => none
  | some slug =>
    if Slug.isValid slug then
      some (slug, ((lastValue? attributes "type").bind ValueKind.ofName?).getD .rich)
    else none

/-- A text without one line feed at its start and one at its end. -/
def stripFraming (body : List Char) : List Char :=
  let body := match body with
    | '\n' :: r => r
    | _ => body
  match body.getLast? with
  | some '\n' => body.dropLast
  | _ => body

/-- The value of a section, if its header names a slug. -/
def Section.value? (s : Section) : Option FieldValue :=
  (headerKey? s.header).map fun (slug, kind) => ⟨slug, kind, String.ofList (stripFraming s.body)⟩

/-- The values of a list by their slugs, of which later ones count. -/
def bySlug (vs : List FieldValue) : Dict FieldValue := Dict.ofList (vs.map fun v => (v.slug, v))

/-- The values of a text by slug. -/
def decode (blob : String) : Dict FieldValue := bySlug ((sections blob.toList).filterMap Section.value?)

end FormTemplate.Blob
