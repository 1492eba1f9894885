import FormTemplate.Calendar.Timestamp
import FormTemplate.Proofs.Number.Digits
import FormTemplate.Proofs.Text.Cursor

/-!
# Written timestamps read back

The text of an instant has no white space, and after each number stands a character that is no digit. So each
reader takes exactly the number that was written, and the offset `Z` changes nothing.

A leap second is written as the second after it. At the end of a minute that is the sixtieth, which is read as the leap
second again. Anywhere else it is an ordinary second, and that is what is read.

* `Timestamp.asRead`, `Timestamp.EndsMinute` : the instant that is read of what is written, and when it is the same;
* `readPair?_padded`, `readYear?_yearText`, `readFraction?_fractionText` : the parts read back;
* `Timestamp.read?_render` : what is read of the text of an instant, whatever its year;
* `Timestamp.endsMinute_ofClock` : a clock gives no leap second.
-/

set_option autoImplicit false

namespace FormTemplate.Calendar

open Text (StopsAt stopsAt_cons)

variable {n width : Nat} {c : Char} {ds rest : List Char}

/-! ## Digits -/

theorem stopsAt_take {p : Char → Bool} {s : List Char} (h : StopsAt p s) (k : Nat) : StopsAt p (s.take k) := by
  cases s with
  | nil => simpa using h
  | cons x r =>
    cases k with
    | zero => simp [StopsAt]
    | succ k => exact stopsAt_cons.mpr (stopsAt_cons.mp h)

/-- A run of digits within the limit is read whole. -/
theorem readDigits?_append {limit : Nat} (hne : ds ≠ []) (hdigit : ∀ x ∈ ds, x.isDigit = true)
    (hlen : ds.length ≤ limit) (hrest : StopsAt Char.isDigit rest) :
    readDigits? limit (ds ++ rest) = some (Number.digitsValue ds, rest) := by
  have htake : ((ds ++ rest).take limit).takeWhile Char.isDigit = ds := by
    rw [List.take_append, List.take_of_length_le hlen]
    exact (Text.takeWhile_of_stopsAt hdigit (stopsAt_take hrest _)).1
  simp only [readDigits?, htake, List.drop_left]
  rw [if_neg (by simpa using hne)]

theorem length_padded (hwidth : 0 < width) (h : n < Number.tenTo width) : (padded width n).length = width := by
  have hlen := (Number.length_natText_le_iff hwidth).mpr h
  simp only [padded, List.length_append, List.length_replicate]
  omega

theorem isDigit_of_mem_padded (h : c ∈ padded width n) : c.isDigit = true := by
  rcases List.mem_append.mp h with h | h
  · rw [(List.mem_replicate.mp h).2]
    decide
  · exact Number.isDigit_of_mem_natText h

theorem padded_ne_nil (width n : Nat) : padded width n ≠ [] :=
  List.append_ne_nil_of_right_ne_nil _ (Number.natText_ne_nil n)

theorem digitsValue_padded (width n : Nat) : Number.digitsValue (padded width n) = n := by
  simp only [padded, Number.digitsValue_replicate_zero, Number.digitsValue_natText]

/-- A padded number within the limit is read whole. -/
theorem readDigits?_padded {limit : Nat} (hlen : (padded width n).length ≤ limit)
    (hrest : StopsAt Char.isDigit rest) : readDigits? limit (padded width n ++ rest) = some (n, rest) := by
  rw [readDigits?_append (padded_ne_nil width n) (fun _ => isDigit_of_mem_padded) hlen hrest, digitsValue_padded]

theorem dropWhile_of_stopsAt {p : Char → Bool} (h : StopsAt p rest) : rest.dropWhile p = rest := by
  cases rest with
  | nil => rfl
  | cons x r => exact List.dropWhile_cons_of_neg (by simp [stopsAt_cons.mp h])

theorem trimStart_of_stopsAt (h : StopsAt Text.isBlank rest) : Text.trimStart rest = rest := dropWhile_of_stopsAt h

/-- White space and the signs of a year are no digits. -/
theorem isBlank_eq_false_of_isDigit (h : c.isDigit = true) : Text.isBlank c = false := by
  simp only [Char.isDigit, Bool.and_eq_true, decide_eq_true_eq, ge_iff_le, UInt32.le_iff_toNat_le] at h
  have hn : 48 ≤ c.toNat ∧ c.toNat ≤ 57 := h
  simp [Text.isBlank]
  omega

theorem exists_padded_eq_cons (width n : Nat) : ∃ d r, padded width n = d :: r ∧ d.isDigit = true := by
  cases h : padded width n with
  | nil => exact absurd h (padded_ne_nil width n)
  | cons d r =>
    have hd : d ∈ padded width n := by
      rw [h]
      exact List.mem_cons_self
    exact ⟨d, r, rfl, isDigit_of_mem_padded hd⟩

theorem trimStart_padded (width n : Nat) (rest : List Char) :
    Text.trimStart (padded width n ++ rest) = padded width n ++ rest := by
  obtain ⟨d, r, h, hd⟩ := exists_padded_eq_cons width n
  rw [h]
  exact trimStart_of_stopsAt (stopsAt_cons.mpr (isBlank_eq_false_of_isDigit hd))

/-! ## Parts -/

theorem readPair?_padded (h : n < 100) (hrest : StopsAt Char.isDigit rest) :
    readPair? (padded 2 n ++ rest) = some (n, rest) := by
  have hlen : (padded 2 n).length = 2 := length_padded (by decide) h
  rw [readPair?, trimStart_padded, readDigits?_padded (by omega) hrest]

theorem readLongDigits?_padded (hrest : StopsAt Char.isDigit rest) :
    readLongDigits? (padded width n ++ rest) = some (n, rest) :=
  readDigits?_padded (by simp) hrest

/-- A year reads back: with a sign in any number of digits, without one in four. -/
theorem readYear?_yearText (y : Int) (hrest : StopsAt Char.isDigit rest) :
    readYear? (yearText y ++ rest) = some (y, rest) := by
  unfold yearText
  split
  · rename_i hy
    simp only [Bool.and_eq_true, decide_eq_true_eq] at hy
    have hlen : (padded 4 y.natAbs).length = 4 := length_padded (by decide) (by
      show y.natAbs < 10000
      omega)
    have hread := readDigits?_padded (n := y.natAbs) (Nat.le_of_eq hlen) hrest
    obtain ⟨d, r, hd, hdigit⟩ := exists_padded_eq_cons 4 y.natAbs
    rw [readYear?, trimStart_padded, hd, List.cons_append]
    rw [hd, List.cons_append] at hread
    split
    · rename_i heq
      cases heq
      exact absurd hdigit (by decide)
    · rename_i heq
      cases heq
      exact absurd hdigit (by decide)
    · simp only [hread, Option.map_some, Int.natAbs_of_nonneg hy.1]
  · rename_i hy
    split
    · have htrim : Text.trimStart ('-' :: padded 4 y.natAbs ++ rest) = '-' :: (padded 4 y.natAbs ++ rest) :=
        trimStart_of_stopsAt (stopsAt_cons.mpr (by decide))
      simp only [readYear?, htrim, readLongDigits?_padded hrest, Option.map_some, Option.some.injEq, Prod.mk.injEq,
        and_true]
      omega
    · have htrim : Text.trimStart ('+' :: padded 4 y.natAbs ++ rest) = '+' :: (padded 4 y.natAbs ++ rest) :=
        trimStart_of_stopsAt (stopsAt_cons.mpr (by decide))
      simp only [readYear?, htrim, readLongDigits?_padded hrest, Option.map_some, Option.some.injEq, Prod.mk.injEq,
        and_true]
      omega

/-- Fraction digits count from the first place after the point. -/
theorem readFraction?_padded (hwidth : 0 < width) (hle : width ≤ 9) (h : n < Number.tenTo width)
    (hrest : StopsAt Char.isDigit rest) :
    readFraction? ('.' :: padded width n ++ rest) = some (n * Number.tenTo (9 - width), rest) := by
  have hlen := length_padded hwidth h
  rw [List.cons_append, readFraction?, readDigits?_padded (by omega) hrest]
  simp only [Option.map_some, dropWhile_of_stopsAt hrest, List.length_append, hlen, Nat.add_sub_cancel]

theorem readFraction?_fractionText (h : n < 1000000000) : readFraction? (fractionText n ++ ['Z']) = some (n, ['Z']) := by
  have hstop : StopsAt Char.isDigit ['Z'] := stopsAt_cons.mpr (by decide)
  unfold fractionText
  split
  · rename_i hzero
    rw [hzero]
    rfl
  · split
    · have hsmall : n / 1000000 < Number.tenTo 3 := by
        show n / 1000000 < 1000
        omega
      have hscale : n / 1000000 * Number.tenTo 6 = n := by
        show n / 1000000 * 1000000 = n
        omega
      rw [readFraction?_padded (by decide) (by decide) hsmall hstop, hscale]
    · split
      · have hsmall : n / 1000 < Number.tenTo 6 := by
          show n / 1000 < 1000000
          omega
        have hscale : n / 1000 * Number.tenTo 3 = n := by
          show n / 1000 * 1000 = n
          omega
        rw [readFraction?_padded (by decide) (by decide) hsmall hstop, hscale]
      · have hscale : n * Number.tenTo 0 = n := Nat.mul_one n
        rw [readFraction?_padded (by decide) (by decide) h hstop, hscale]

/-! ## Instants -/

theorem readDatePart?_append {d : Date} (h : d.isValid = true) (hrest : StopsAt Char.isDigit rest) (loose : Bool) :
    readDatePart? loose (yearText d.year ++ '-' :: padded 2 d.month ++ '-' :: padded 2 d.day ++ rest) =
      some (d, rest) := by
  have hvalid := h
  simp only [Date.isValid, Bool.and_eq_true, decide_eq_true_eq] at hvalid
  have hday : d.day ≤ 31 := by
    have hmonth : daysInMonth d.year d.month ≤ 31 := by
      unfold daysInMonth
      repeat' split
      all_goals decide
    omega
  have hhyphen : ∀ s, StopsAt Char.isDigit ('-' :: s) := fun s => stopsAt_cons.mpr (by decide)
  have hgap : ∀ s, (if loose then Text.trimStart ('-' :: s) else '-' :: s) = '-' :: s := by
    intro s
    rw [trimStart_of_stopsAt (stopsAt_cons.mpr (by decide)), ite_self]
  have hyear := readYear?_yearText d.year (hhyphen (padded 2 d.month ++ '-' :: padded 2 d.day ++ rest))
  have hmonth := readPair?_padded (n := d.month) (by omega) (hhyphen (padded 2 d.day ++ rest))
  have hdate : Date.ofParts? d.year d.month d.day = some d := by
    rw [Date.ofParts?, if_pos h]
  simp only [List.append_assoc, List.cons_append] at hyear hmonth ⊢
  simp [readDatePart?, hyear, hgap, expect?, hmonth, readPair?_padded (n := d.day) (by omega) hrest, hdate]

namespace Timestamp

variable {t : Timestamp}

/-- The instant that reading gives of what is written of an instant. -/
def asRead (t : Timestamp) : Timestamp :=
  if h : 1000000000 ≤ t.nanosecond.val ∧ t.second.val < 59 then
    { t with second := ⟨t.second.val + 1, by omega⟩, nanosecond := ⟨t.nanosecond.val - 1000000000, by omega⟩ }
  else t

/-- A leap second, if the instant is in one, is the last second of a minute. -/
def EndsMinute (t : Timestamp) : Prop := 1000000000 ≤ t.nanosecond.val → t.second.val = 59

instance (t : Timestamp) : Decidable t.EndsMinute := inferInstanceAs (Decidable (_ → _))

/-- **Leap seconds at the end of a minute are read as they were written, and no others.** -/
theorem asRead_eq_self_iff : t.asRead = t ↔ t.EndsMinute := by
  unfold asRead EndsMinute
  split
  · rename_i h
    refine iff_of_false (fun heq => ?_) (fun hend => ?_)
    · have hnext := congrArg (fun t : Timestamp => t.second.val) heq
      simp only at hnext
      omega
    · have hlast := hend h.1
      omega
  · rename_i h
    refine iff_of_true rfl (fun hleap => ?_)
    omega

theorem asRead_date (t : Timestamp) : t.asRead.date = t.date := by
  unfold asRead
  split <;> rfl

/-- What is read is written in the same way. -/
theorem render_asRead (t : Timestamp) : t.asRead.render = t.render := by
  have hwritten : t.asRead.writtenSecond = t.writtenSecond := by
    have hfraction := t.nanosecond.isLt
    unfold asRead
    split
    · rename_i h
      have hleap : ¬t.nanosecond.val < 1000000000 := Nat.not_lt_of_le h.1
      have hordinary : t.nanosecond.val - 1000000000 < 1000000000 := by omega
      simp [writtenSecond, hleap, hordinary]
    · rfl
  have hhour : t.asRead.hour = t.hour := by
    unfold asRead
    split <;> rfl
  have hminute : t.asRead.minute = t.minute := by
    unfold asRead
    split <;> rfl
  rw [render, render, hwritten, asRead_date, hhour, hminute]

theorem secondOf?_writtenSecond (t : Timestamp) :
    secondOf? t.writtenSecond.1 t.writtenSecond.2 = some (t.asRead.second, t.asRead.nanosecond) := by
  obtain ⟨date, hour, minute, ⟨second, hsecond⟩, ⟨nanosecond, hnanosecond⟩⟩ := t
  unfold writtenSecond asRead
  by_cases hleap : nanosecond < 1000000000
  · have hordinary : ¬(1000000000 ≤ nanosecond ∧ second < 59) := by omega
    simp [secondOf?, hleap, hordinary, hsecond]
  · have hfraction : nanosecond - 1000000000 < 1000000000 := by omega
    have hwhole : 1000000000 + (nanosecond - 1000000000) = nanosecond := by omega
    by_cases hlast : second < 59
    · have hnext : second + 1 < 60 := by omega
      have hmoved : 1000000000 ≤ nanosecond ∧ second < 59 := by omega
      simp [secondOf?, hleap, hfraction, hnext, hmoved]
    · obtain rfl : second = 59 := by omega
      simp [secondOf?, hleap, hfraction, hwhole]

theorem ofLocal?_zero (hdate : t.date.isValid = true) (second : Fin 60) (nanosecond : Fin 2000000000) :
    ofLocal? t.date t.hour t.minute second nanosecond 0 =
      some { t with second := second, nanosecond := nanosecond } := by
  have hhour := t.hour.isLt
  have hminute := t.minute.isLt
  have hday : (60 * (t.hour.val : Int) + t.minute.val - 0) / 1440 = 0 := by omega
  have hofDay : ((60 * (t.hour.val : Int) + t.minute.val - 0) % 1440).toNat = 60 * t.hour.val + t.minute.val := by omega
  have hhours : (60 * t.hour.val + t.minute.val) / 60 = t.hour.val := by omega
  have hminutes : (60 * t.hour.val + t.minute.val) % 60 = t.minute.val := by omega
  simp only [ofLocal?, hday, hofDay, if_true, hdate, hhours, hminutes]

theorem writtenSecond_lt (t : Timestamp) : t.writtenSecond.1 < 100 ∧ t.writtenSecond.2 < 1000000000 := by
  have hsecond := t.second.isLt
  have hnanosecond := t.nanosecond.isLt
  unfold writtenSecond
  split
  · exact ⟨by omega, by omega⟩
  · exact ⟨by omega, by omega⟩

/-- **What is read of the text of an instant**: the instant, or the second after it if it is in a leap second that does
not end a minute. -/
theorem read?_render (hdate : t.date.isValid = true) : read? t.render = some t.asRead := by
  obtain ⟨hsecondLt, hfractionLt⟩ := t.writtenSecond_lt
  have hcolon : ∀ s, StopsAt Char.isDigit (':' :: s) := fun s => stopsAt_cons.mpr (by decide)
  have htrim : ∀ s, Text.trimStart (':' :: s) = ':' :: s :=
    fun s => trimStart_of_stopsAt (stopsAt_cons.mpr (by decide))
  have hfraction : StopsAt Char.isDigit (fractionText t.writtenSecond.2 ++ ['Z']) := by
    unfold fractionText
    repeat' split
    all_goals exact stopsAt_cons.mpr (by decide)
  have htime := readDatePart?_append hdate (stopsAt_cons.mpr (by decide) : StopsAt Char.isDigit
    ('T' :: (padded 2 t.hour ++ ':' :: (padded 2 t.minute ++ ':' :: (padded 2 t.writtenSecond.1 ++
      (fractionText t.writtenSecond.2 ++ ['Z'])))))) true
  have hhour := readPair?_padded (Nat.lt_trans t.hour.isLt (by decide))
    (hcolon (padded 2 t.minute ++ ':' :: (padded 2 t.writtenSecond.1 ++ (fractionText t.writtenSecond.2 ++ ['Z']))))
  have hminute := readPair?_padded (Nat.lt_trans t.minute.isLt (by decide))
    (hcolon (padded 2 t.writtenSecond.1 ++ (fractionText t.writtenSecond.2 ++ ['Z'])))
  have hsecond := readPair?_padded hsecondLt hfraction
  have hoffset : readOffset? (Text.trimStart ['Z']) = some (0, []) := by decide
  have hend : Text.trimStart [] = [] := rfl
  have hsame : { t with second := t.asRead.second, nanosecond := t.asRead.nanosecond } = t.asRead := by
    unfold asRead
    split <;> rfl
  simp only [render, List.append_assoc, List.cons_append] at htime hhour hminute hsecond ⊢
  simp [read?, htime, hhour, htrim, expect?, hminute, hsecond, readFraction?_fractionText hfractionLt, hoffset, hend,
    secondOf?_writtenSecond, ofLocal?_zero hdate, hsame]

/-- **A clock gives no leap second.** -/
theorem endsMinute_ofClock (nanoseconds : Int) : (ofClock nanoseconds).EndsMinute := by
  intro hleap
  simp only [ofClock] at hleap
  omega

end Timestamp

end FormTemplate.Calendar
