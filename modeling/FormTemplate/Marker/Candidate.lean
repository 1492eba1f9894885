import FormTemplate.Text.Blank
import FormTemplate.Text.Cut

/-!
# Marker candidates

A marker is a bracketed token of template text: a bracket, a slug, any number of attributes and a closing
bracket. An attribute is a semicolon, a key, an equals sign and a value; a value stands between quotes or is a
run of characters that are none of the delimiters. White space may stand around the parts of an attribute.

Every opening bracket starts a candidate. Text is read from left to right: after a marker reading goes on behind
its closing bracket, after a malformed candidate behind its opening bracket.

* `readMarker` : the marker whose opening bracket has just been passed, or where and why reading stopped.
* `candidates` : all candidates of a text, in order.
* `length_readMarker_rest` : a marker takes at least one character.
-/

set_option autoImplicit false

namespace FormTemplate.Marker

open Text (Cut Cursor)

/-- The characters of slugs in markers; a dot separates a repeater from its field. -/
def isSlugChar (c : Char) : Bool := c.isAlphanum || c == '_' || c == '.'

/-- The characters of attribute keys. -/
def isKeyChar (c : Char) : Bool := c.isAlphanum || c == '_' || c == ':' || c == '-'

/-- The characters of values without quotes. -/
def isBareChar (c : Char) : Bool :=
  !(c == ';' || c == ']' || c == '[' || c == '\'' || Text.isAsciiBlank c)

/-- An attribute as it is written. -/
structure Attribute where
  key : Cut
  value : Cut
  deriving DecidableEq, Repr

/-- A marker as it is written. -/
structure Token where
  /-- The position of the opening bracket. -/
  start : Nat
  slug : Cut
  attributes : List Attribute
  /-- The position after the closing bracket. -/
  stop : Nat
  deriving DecidableEq, Repr

/-- Why a candidate is no marker. -/
inductive Malformation where
  | emptySlug
  | missingKey
  | missingEquals
  | unterminatedQuote
  | bracketInValue
  | quoteInValue
  | unexpectedCharacter
  | unterminatedMarker
  deriving DecidableEq, Repr

/-- Where and why reading a candidate stopped, and what was cut out of the text before. -/
structure Failure where
  offset : Nat
  reason : Malformation
  cuts : List Cut
  deriving DecidableEq, Repr

/-- The cuts of an attribute. -/
def Attribute.cuts (a : Attribute) : List Cut := [a.key, a.value]

/-- The cuts of a marker. -/
def Token.cuts (t : Token) : List Cut := t.slug :: t.attributes.flatMap Attribute.cuts

/-- The cursor after white space. -/
def skipBlank (c : Cursor) : Cursor := c.skipWhile Text.isAsciiBlank

/-- A value: the text up to the next quote if it starts with one, else a run without delimiters. -/
def readValue (c : Cursor) : Except Failure (Cut × Cursor) :=
  match c.rest with
  | '\'' :: r =>
    let (value, after) := (Cursor.mk (c.offset + 1) r).takeWhile (· != '\'')
    match after.rest with
    | [] => .error ⟨c.offset, .unterminatedQuote, []⟩
    | _ :: rest => .ok (value, ⟨after.offset + 1, rest⟩)
  | _ =>
    let (value, after) := c.takeWhile isBareChar
    match after.rest with
    | '[' :: _ => .error ⟨after.offset, .bracketInValue, [value]⟩
    | '\'' :: _ => .error ⟨after.offset, .quoteInValue, [value]⟩
    | _ => .ok (value, after)

/-- An attribute after its semicolon. -/
def readAttribute (c : Cursor) : Except Failure (Attribute × Cursor) :=
  let (key, afterKey) := (skipBlank c).takeWhile isKeyChar
  if key.text.isEmpty then .error ⟨afterKey.offset, .missingKey, [key]⟩
  else
    let atEquals := skipBlank afterKey
    match atEquals.rest with
    | '=' :: r =>
      match readValue (skipBlank ⟨atEquals.offset + 1, r⟩) with
      | .error f => .error { f with cuts := key :: f.cuts }
      | .ok (value, after) => .ok (⟨key, value⟩, after)
    | _ => .error ⟨atEquals.offset, .missingEquals, [key]⟩

/-! ## Progress -/

theorem length_skipBlank_rest (c : Cursor) : (skipBlank c).rest.length ≤ c.rest.length :=
  Cursor.length_takeWhile_rest _ c

theorem length_readValue_rest {c after : Cursor} {v : Cut} (h : readValue c = .ok (v, after)) :
    after.rest.length ≤ c.rest.length := by
  unfold readValue at h
  split at h
  · rename_i r hr
    have hle := Cursor.length_takeWhile_rest (· != '\'') ⟨c.offset + 1, r⟩
    simp only at h
    split at h
    · cases h
    · rename_i d rest hd
      injection h with h
      injection h with _ h
      subst h
      rw [hd] at hle
      rw [hr]
      simp only [List.length_cons] at hle ⊢
      omega
  · have hle := Cursor.length_takeWhile_rest isBareChar c
    simp only at h
    split at h
    · cases h
    · cases h
    · injection h with h
      injection h with _ h
      subst h
      exact hle

theorem length_readAttribute_rest {c after : Cursor} {a : Attribute} (h : readAttribute c = .ok (a, after)) :
    after.rest.length ≤ c.rest.length := by
  have h1 := length_skipBlank_rest c
  have h2 := Cursor.length_takeWhile_rest isKeyChar (skipBlank c)
  have h3 := length_skipBlank_rest ((skipBlank c).takeWhile isKeyChar).2
  unfold readAttribute at h
  simp only at h
  split at h
  · cases h
  · split at h
    · rename_i r hr
      split at h
      · cases h
      · rename_i v after' hv
        injection h with h
        injection h with _ h
        subst h
        have h4 := length_readValue_rest hv
        have h5 := length_skipBlank_rest ⟨(skipBlank ((skipBlank c).takeWhile isKeyChar).2).offset + 1, r⟩
        rw [hr] at h3
        simp only [List.length_cons] at h3 h5
        omega
    · cases h

/-! ## Markers -/

/-- A failure behind attributes that were read before, last first. -/
def Failure.behind (read : List Attribute) (f : Failure) : Failure :=
  { f with cuts := read.reverse.flatMap Attribute.cuts ++ f.cuts }

/-- The attributes up to the closing bracket; `read` holds those before, last first. -/
def readAttributes (read : List Attribute) (c : Cursor) : Except Failure (List Attribute × Cursor) :=
  match _hc : (skipBlank c).rest with
  | [] => .error (.behind read ⟨(skipBlank c).offset, .unterminatedMarker, []⟩)
  | d :: r =>
    if d = ']' then .ok (read.reverse, ⟨(skipBlank c).offset + 1, r⟩)
    else if d = ';' then
      match _ha : readAttribute ⟨(skipBlank c).offset + 1, r⟩ with
      | .error f => .error (.behind read f)
      | .ok (a, after) => readAttributes (a :: read) after
    else .error (.behind read ⟨(skipBlank c).offset, .unexpectedCharacter, []⟩)
termination_by c.rest.length
decreasing_by
  have h1 := length_skipBlank_rest c
  have h2 := length_readAttribute_rest _ha
  rw [_hc] at h1
  simp only [List.length_cons] at h1 h2
  omega

/-- The marker whose opening bracket stands just before the cursor, and the cursor after its closing bracket. -/
def readMarker (c : Cursor) : Except Failure (Token × Cursor) :=
  let (slug, afterSlug) := c.takeWhile isSlugChar
  if slug.text.isEmpty then .error ⟨afterSlug.offset, .emptySlug, [slug]⟩
  else
    match readAttributes [] afterSlug with
    | .error f => .error { f with cuts := slug :: f.cuts }
    | .ok (attributes, after) => .ok (⟨c.offset - 1, slug, attributes, after.offset⟩, after)

theorem length_readAttributes_rest {read as : List Attribute} {c after : Cursor}
    (h : readAttributes read c = .ok (as, after)) : after.rest.length ≤ c.rest.length := by
  fun_induction readAttributes read c with
  | case1 => cases h
  | case2 read c r hc =>
    injection h with h
    injection h with _ h
    subst h
    have h1 := length_skipBlank_rest c
    rw [hc] at h1
    simp only [List.length_cons] at h1 ⊢
    omega
  | case3 => cases h
  | case4 read c r a after' ha hc _ ih =>
    have h1 := length_skipBlank_rest c
    have h2 := length_readAttribute_rest ha
    have h3 := ih h
    rw [hc] at h1
    simp only [List.length_cons] at h1 h2
    omega
  | case5 => cases h

theorem length_readMarker_rest {c after : Cursor} {t : Token} (h : readMarker c = .ok (t, after)) :
    after.rest.length ≤ c.rest.length := by
  unfold readMarker at h
  simp only at h
  split at h
  · cases h
  · split at h
    · cases h
    · rename_i as after' ha
      injection h with h
      injection h with _ h
      subst h
      have h1 := length_readAttributes_rest ha
      have h2 := Cursor.length_takeWhile_rest isSlugChar c
      omega

/-! ## Candidates -/

/-- What reading a candidate gave. -/
structure Candidate where
  /-- The position of the opening bracket. -/
  start : Nat
  outcome : Except Failure Token
  deriving Repr

/-- The position where reading the candidate stopped. -/
def Candidate.stop (c : Candidate) : Nat :=
  match c.outcome with
  | .ok t => t.stop
  | .error f => f.offset

/-- The candidates after a cursor; `found` holds those before, last first. -/
def candidatesFrom (found : List Candidate) (c : Cursor) : List Candidate :=
  match _hc : c.rest with
  | [] => found.reverse
  | d :: r =>
    if d = '[' then
      match _hm : readMarker ⟨c.offset + 1, r⟩ with
      | .error f => candidatesFrom (⟨c.offset, .error f⟩ :: found) ⟨c.offset + 1, r⟩
      | .ok (t, after) => candidatesFrom (⟨c.offset, .ok t⟩ :: found) after
    else candidatesFrom found ⟨c.offset + d.utf8Size, r⟩
termination_by c.rest.length
decreasing_by
  · simp [_hc]
  · have := length_readMarker_rest _hm
    simp only at this
    simp only [_hc, List.length_cons]
    omega
  · simp [_hc]

/-- The candidates of a text, in order. -/
def candidates (text : List Char) : List Candidate := candidatesFrom [] (Cursor.start text)

/-- The markers of a text as they are written, in order. -/
def tokens (text : List Char) : List Token := (candidates text).filterMap (·.outcome.toOption)

end FormTemplate.Marker
