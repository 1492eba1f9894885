import FormTemplate.Number.Binary64

/-!
# JSON values

A value keeps the members of an object as they are written, in order and with repeated keys. A text can be
well formed without denoting a value: a number beyond the range of the format, a string or a key with half a
surrogate pair. Such a part is kept as `Json.unusable`, so that a reader who ignores the part can accept the
text and a reader who needs it can refuse.

* `Json` : the values.
* `Json.fits` : a value is usable throughout and nested no deeper than a limit.
* `Json.record?` : the parts of a value that stands for a record with named parts.
-/

set_option autoImplicit false

namespace FormTemplate

/-- A JSON number: an integer of sixty-four bits, signed or not, or a floating-point number. -/
inductive JsonNumber where
  | int (n : Int)
  | real (x : Number.Binary64)
  deriving DecidableEq, Repr

/-- A JSON value. -/
inductive Json where
  | null
  | bool (b : Bool)
  | num (n : JsonNumber)
  | str (s : String)
  | arr (items : List Json)
  | obj (members : List (String × Json))
  | unusable
  deriving Repr, BEq, Inhabited

namespace Json

/-- The deepest nesting of a text that is read as a whole. -/
def maxDepth : Nat := 127

mutual

/-- Whether a value is usable throughout and nested no deeper than `limit`. -/
def fits (limit : Nat) : Json → Bool
  | .unusable => false
  | .arr items =>
    match limit with
    | 0 => false
    | n + 1 => fitsItems n items
  | .obj members =>
    match limit with
    | 0 => false
    | n + 1 => fitsMembers n members
  | _ => true

@[inherit_doc fits]
def fitsItems (limit : Nat) : List Json → Bool
  | [] => true
  | v :: r => fits limit v && fitsItems limit r

@[inherit_doc fits]
def fitsMembers (limit : Nat) : List (String × Json) → Bool
  | [] => true
  | (_, v) :: r => fits limit v && fitsMembers limit r

end

/-- The value of a key among the members of an object: `some none` if the key is absent, and nothing at all if
it is repeated. -/
def member? (members : List (String × Json)) (key : String) : Option (Option Json) :=
  match members.filter (·.1 == key) with
  | [] => some none
  | [m] => some (some m.2)
  | _ => none

/-- The parts of a record, in the order of `names`. An object gives them by key and may have further members;
an array gives them by position and may end early. -/
def record? (names : List String) : Json → Option (List (Option Json))
  | .obj members => names.mapM (member? members)
  | .arr items =>
    if items.length ≤ names.length then
      some (items.map some ++ List.replicate (names.length - items.length) none)
    else none
  | _ => none

/-- The text of a string value. -/
def string? : Json → Option String
  | .str s => some s
  | _ => none

/-- An integer in a range that starts at zero. -/
def natBelow? (bound : Nat) : Json → Option Nat
  | .num (.int n) => if 0 ≤ n && n < bound then some n.toNat else none
  | _ => none

/-- The items of an array. -/
def items? : Json → Option (List Json)
  | .arr items => some items
  | _ => none

/-- The name of a constant: a string, or an object whose only member is that name with the value null. -/
def constant? : Json → Option String
  | .str s => some s
  | .obj [(s, .null)] => some s
  | _ => none

/-- A part that may be absent or null. -/
def optional? {α : Type} (read : Json → Option α) : Option Json → Option (Option α)
  | none => some none
  | some .null => some none
  | some v => (read v).map some

/-- A part that may be absent, with the value it then has. -/
def orDefault? {α : Type} (value : α) (read : Json → Option α) : Option Json → Option α
  | none => some value
  | some v => read v

/-- A part that must be present. -/
def required? {α : Type} (read : Json → Option α) (part : Option Json) : Option α := part.bind read

end Json

end FormTemplate
