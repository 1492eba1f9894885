/-!
# Powers of two and of ten

The scales of the two number formats: binary numbers are multiples of powers of two, written ones of powers of
ten.
-/

set_option autoImplicit false

namespace FormTemplate.Number

/-- A power of two. -/
def twoTo (n : Nat) : Nat := Nat.pow 2 n

/-- A power of ten. -/
def tenTo (n : Nat) : Nat := Nat.pow 10 n

end FormTemplate.Number
