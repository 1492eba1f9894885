/-!
# Hexadecimal digits

* `hexDigit?` : the value of one digit, in either case.
* `hexValue?` : the number that a run of digits writes.
* `hexUpper`, `hexLower` : the digit of a value below sixteen.
* `hexDigit?_hexLower`, `hexDigit?_hexUpper` : a written digit reads back.
* `isSome_hexDigit?_of_hexValue?` : a number is written in digits.
* `hexFour?_eq_some_iff` : what four digits in front of a text are read as.
-/

set_option autoImplicit false

namespace FormTemplate.Text

/-- The value of a hexadecimal digit. -/
def hexDigit? (c : Char) : Option Nat :=
  if '0' ≤ c ∧ c ≤ '9' then some (c.toNat - '0'.toNat)
  else if 'a' ≤ c ∧ c ≤ 'f' then some (c.toNat - 'a'.toNat + 10)
  else if 'A' ≤ c ∧ c ≤ 'F' then some (c.toNat - 'A'.toNat + 10)
  else none

/-- Continues a hexadecimal number whose digits so far are worth `acc`. -/
def hexValueFrom? : Nat → List Char → Option Nat
  | acc, [] => some acc
  | acc, c :: r => (hexDigit? c).bind fun d => hexValueFrom? (16 * acc + d) r

/-- The number written by a nonempty run of hexadecimal digits. -/
def hexValue? (s : List Char) : Option Nat :=
  if s.isEmpty then none else hexValueFrom? 0 s

/-- The lower-case digit of a value below sixteen. -/
def hexLower (n : Nat) : Char := Char.ofNat (if n < 10 then 0x30 + n else 0x57 + n)

/-- The upper-case digit of a value below sixteen. -/
def hexUpper (n : Nat) : Char := Char.ofNat (if n < 10 then 0x30 + n else 0x37 + n)

/-- A number below 65536 in four lower-case digits. -/
def hexLower4 (n : Nat) : List Char :=
  [hexLower (n / 4096 % 16), hexLower (n / 256 % 16), hexLower (n / 16 % 16), hexLower (n % 16)]

/-- The value of the four digits that a text starts with, and the text after them. -/
def hexFour? : List Char → Option (Nat × List Char)
  | a :: b :: c :: d :: r => (hexValue? [a, b, c, d]).map (·, r)
  | _ => none

theorem hexDigit?_hexLower (n : Nat) (h : n < 16) : hexDigit? (hexLower n) = some n := by
  have : ∀ m : Fin 16, hexDigit? (hexLower m.val) = some m.val := by decide
  exact this ⟨n, h⟩

theorem hexDigit?_hexUpper (n : Nat) (h : n < 16) : hexDigit? (hexUpper n) = some n := by
  have : ∀ m : Fin 16, hexDigit? (hexUpper m.val) = some m.val := by decide
  exact this ⟨n, h⟩

theorem isSome_hexDigit?_of_hexValueFrom? {acc n : Nat} {s : List Char} (h : hexValueFrom? acc s = some n) :
    ∀ c ∈ s, (hexDigit? c).isSome = true := by
  induction s generalizing acc with
  | nil => simp
  | cons c r ih =>
    obtain ⟨d, hd, hr⟩ := Option.bind_eq_some_iff.mp h
    intro x hx
    rcases List.mem_cons.mp hx with rfl | hx
    · rw [hd]
      rfl
    · exact ih hr x hx

theorem isSome_hexDigit?_of_hexValue? {n : Nat} {s : List Char} (h : hexValue? s = some n) :
    ∀ c ∈ s, (hexDigit? c).isSome = true := by
  unfold hexValue? at h
  split at h
  · cases h
  · exact isSome_hexDigit?_of_hexValueFrom? h

theorem hexFour?_eq_some_iff {s rest : List Char} {n : Nat} : hexFour? s = some (n, rest) ↔
    ∃ a b c d, s = a :: b :: c :: d :: rest ∧ hexValue? [a, b, c, d] = some n := by
  constructor
  · intro h
    unfold hexFour? at h
    split at h
    · obtain ⟨m, hm, heq⟩ := Option.map_eq_some_iff.mp h
      cases heq
      exact ⟨_, _, _, _, rfl, hm⟩
    · cases h
  · rintro ⟨a, b, c, d, rfl, h⟩
    rw [hexFour?, h]
    rfl

end FormTemplate.Text
