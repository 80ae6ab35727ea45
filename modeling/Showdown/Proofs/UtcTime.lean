import Showdown.Proofs.Text.Blank
import Showdown.UtcTime.Text
import Mathlib.Data.List.TakeDrop
import Mathlib.Data.List.TakeWhile
import Mathlib.Data.Nat.Digits.Defs

/-!
# Instants read back

An instant that was written is read as the same instant (`read?_text`). Each part of the text ends
where the reader ends it, although the reader would take fewer digits and blanks in between: a
padded number has as many digits as the reader takes, or something other than a digit comes next.
-/

namespace Showdown.UtcTime

/-! ### Numbers -/

section Numbers

variable {width n : Nat} {rest : List Char}

theorem isDigit_of_mem_padded : ∀ c ∈ padded width n, c.isDigit = true := by
  intro c hc
  rw [padded, List.leftpad, List.mem_append] at hc
  rcases hc with pad | digit
  · rw [List.eq_of_mem_replicate pad]
    rfl
  · exact Nat.isDigit_of_mem_toDigits (by decide) (by decide) digit

theorem length_padded (fits : n < 10 ^ width) (pos : 0 < width) :
    (padded width n).length = width := by
  rw [padded, List.length_leftpad]
  exact Nat.max_eq_left ((Nat.length_toDigits_le_iff (by decide) pos).mpr fits)

/-- Zeros in front do not change a number. -/
theorem ofDigits_padded (width n : Nat) : ofDigits (padded width n) = n := by
  have zeros (k : Nat) (ds : List Char) : ofDigits (List.replicate k '0' ++ ds) = ofDigits ds := by
    induction k with
    | zero => rfl
    | succ k ih => exact ih
  rw [padded, List.leftpad, zeros]
  exact Nat.ofDigitChars_toDigits (by decide) (by decide)

/-- Zeros behind multiply a number by powers of ten. -/
theorem ofDigits_append_replicate (ds : List Char) (k : Nat) :
    ofDigits (ds ++ List.replicate k '0') = ofDigits ds * 10 ^ k := by
  induction k with
  | zero => simp
  | succ k ih =>
    rw [List.replicate_succ', ← List.append_assoc, ofDigits, List.foldl_append, ← ofDigits, ih,
      Nat.pow_succ, ← Nat.mul_assoc, Nat.mul_comm _ 10]
    rfl

/-- A padded number begins with a digit. -/
theorem exists_digit_of_padded (width n : Nat) :
    ∃ d ds, padded width n = d :: ds ∧ d.isDigit = true := by
  cases h : padded width n with
  | nil =>
    have none_left : Nat.toDigits 10 n = [] := (List.append_eq_nil_iff.mp h).2
    exact absurd none_left Nat.toDigits_ne_nil
  | cons d ds => exact ⟨d, ds, rfl, isDigit_of_mem_padded d (h ▸ List.mem_cons_self)⟩

theorem isBlank_of_isDigit {c : Char} (h : c.isDigit = true) : Text.isBlank c = false := by
  have range : 48 ≤ c.toNat ∧ c.toNat ≤ 57 := by
    simpa [Char.isDigit, UInt32.le_iff_toNat_le] using h
  simp only [Text.isBlank, Bool.or_eq_false_iff, Bool.and_eq_false_iff, decide_eq_false_iff_not,
    beq_eq_false_iff_ne]
  omega

/-- Before a padded number there is nothing to be trimmed. -/
theorem trimStart_padded (width n : Nat) (rest : List Char) :
    Text.trimStart (padded width n ++ rest) = padded width n ++ rest := by
  obtain ⟨d, ds, eq, digit⟩ := exists_digit_of_padded width n
  rw [Text.trimStart_eq_self_iff, eq]
  simpa using isBlank_of_isDigit digit

/-- The digits of a number end where something else begins. -/
theorem spanDigits_padded (ends : ∀ c ∈ rest.head?, c.isDigit = false) :
    spanDigits (padded width n ++ rest) = (padded width n, rest) := by
  rw [spanDigits, List.span_eq_takeWhile_dropWhile,
    List.takeWhile_append_of_pos isDigit_of_mem_padded,
    List.dropWhile_append_of_pos isDigit_of_mem_padded]
  cases rest with
  | nil => simp
  | cons c rest => simp [ends c rfl]

/-- A reader that takes so many digits takes all of a number padded to that width. -/
theorem number?_padded (fits : n < 10 ^ width) (pos : 0 < width) (rest : List Char) :
    number? width (padded width n ++ rest) = some (n, rest) := by
  have digits : (spanDigits (padded width n ++ rest)).1.take width = padded width n := by
    rw [spanDigits, List.span_eq_takeWhile_dropWhile,
      List.takeWhile_append_of_pos isDigit_of_mem_padded]
    exact List.take_left' (length_padded fits pos)
  obtain ⟨d, ds, eq, -⟩ := exists_digit_of_padded width n
  simp only [number?, trimStart_padded, digits, ofDigits_padded, List.drop_left]
  simp [eq]

theorem field?_padded {separator : Char} (separates : Text.isBlank separator = false)
    (fits : n < 100) (rest : List Char) :
    field? separator (separator :: (padded 2 n ++ rest)) = some (n, rest) := by
  have start : Text.trimStart (separator :: (padded 2 n ++ rest)) =
      separator :: (padded 2 n ++ rest) :=
    Text.trimStart_eq_self_iff.mpr (by simpa using separates)
  simp only [field?, start, expect, beq_self_eq_true, if_true]
  exact number?_padded fits (by decide) rest

end Numbers

/-! ### Years and fractions -/

/-- A year ends where something other than a digit comes next. -/
theorem year?_yearText (y : Int) {rest : List Char} (ends : ∀ c ∈ rest.head?, c.isDigit = false) :
    year? (yearText y ++ rest) = some (y, rest) := by
  obtain ⟨d, ds, eq, digit⟩ := exists_digit_of_padded 4 y.natAbs
  have span : spanDigits (padded 4 y.natAbs ++ rest) = (padded 4 y.natAbs, rest) :=
    spanDigits_padded ends
  have value : ofDigits (d :: ds) = y.natAbs := eq ▸ ofDigits_padded 4 y.natAbs
  have signed (c : Char) (h : Text.isBlank c = false) :
      Text.trimStart (c :: (padded 4 y.natAbs ++ rest)) = c :: (padded 4 y.natAbs ++ rest) :=
    Text.trimStart_eq_self_iff.mpr (by simpa using h)
  rw [eq] at span signed
  unfold yearText
  split
  · rename_i plain
    have range : 0 ≤ y ∧ y ≤ 9999 := by simpa using plain
    have number : number? 4 (padded 4 y.natAbs ++ rest) = some (y.natAbs, rest) :=
      number?_padded (by omega) (by decide) rest
    unfold year?
    rw [trimStart_padded, eq] at *
    split
    · rename_i minus
      obtain ⟨rfl, -⟩ := List.cons.inj minus
      cases digit
    · rename_i plus
      obtain ⟨rfl, -⟩ := List.cons.inj plus
      cases digit
    · rw [number, Option.map_some, Int.natAbs_of_nonneg range.1]
  · rename_i outside
    have range : ¬ (0 ≤ y ∧ y ≤ 9999) := by simpa using outside
    split
    · rw [List.cons_append, eq, year?, signed '-' (by decide)]
      simp only [span, value, Option.some.injEq, Prod.mk.injEq, and_true]
      omega
    · rw [List.cons_append, eq, year?, signed '+' (by decide)]
      simp only [span, value, Option.some.injEq, Prod.mk.injEq, and_true]
      omega

/-- A fraction ends where something other than a digit comes next; if there is none, this is no
point. -/
theorem fraction?_fractionText {n : Nat} (fits : n < 1000000000) {rest : List Char}
    (ends : ∀ c ∈ rest.head?, c.isDigit = false ∧ c ≠ '.') :
    fraction? (fractionText n ++ rest) = some (n, rest) := by
  have digits (width k m : Nat) (nine : width + k = 9) (pos : 0 < width) (same : m * 10 ^ k = n) :
      fraction? ('.' :: (padded width m ++ rest)) = some (n, rest) := by
    have fits : m < 10 ^ width := by
      refine Nat.lt_of_mul_lt_mul_right (a := 10 ^ k) ?_
      rw [same, ← Nat.pow_add, nine]
      exact fits
    have nanoseconds : (padded width m ++ List.replicate 9 '0').take 9 =
        padded width m ++ List.replicate k '0' := by
      rw [List.take_append, length_padded fits pos, List.take_of_length_le, List.take_replicate]
      · congr 2
        omega
      · rw [length_padded fits pos]
        omega
    have value : ofDigits ((padded width m ++ List.replicate 9 '0').take 9) = n := by
      rw [nanoseconds, ofDigits_append_replicate, ofDigits_padded, same]
    obtain ⟨d, ds, eq, -⟩ := exists_digit_of_padded width m
    rw [fraction?, spanDigits_padded fun c hc => (ends c hc).1]
    rw [eq] at value ⊢
    simp only [value]
  unfold fractionText
  split
  · rename_i zero
    rw [eq_of_beq zero, List.nil_append]
    cases rest with
    | nil => rfl
    | cons c rest =>
      unfold fraction?
      split
      · rename_i point
        exact absurd (List.cons.inj point).1 (ends c rfl).2
      · rfl
  split
  · rename_i thousandths
    exact digits 3 6 _ rfl (by decide)
      (Nat.div_mul_cancel (Nat.dvd_of_mod_eq_zero (eq_of_beq thousandths)))
  split
  · rename_i millionths
    exact digits 6 3 _ rfl (by decide)
      (Nat.div_mul_cancel (Nat.dvd_of_mod_eq_zero (eq_of_beq millionths)))
  · exact digits 9 0 n rfl (by decide) (Nat.mul_one n)

/-! ### Instants -/

/-- What names a date and a time of the calendar has no more than two digits in any of its fields
but the year and the fraction. -/
theorem fits_of_isValid {t : CivilTime} (valid : t.isValid = true) :
    t.month < 100 ∧ t.day < 100 ∧ t.hour < 24 ∧ t.minute < 60 ∧ t.second < 100 ∧
      t.nanosecond < 1000000000 := by
  simp only [CivilTime.isValid, Bool.and_eq_true, decide_eq_true_eq] at valid
  obtain ⟨⟨⟨⟨⟨⟨⟨-, -⟩, first⟩, last⟩, hour⟩, minute⟩, second⟩, nanosecond⟩ := valid
  have days (month : Nat) : CivilTime.daysInMonth t.year month ≤ 31 := by
    unfold CivilTime.daysInMonth
    split <;> (try split) <;> decide
  have month : t.month < 100 := by
    by_contra outside
    have none_such : CivilTime.daysInMonth t.year t.month = 0 := by
      unfold CivilTime.daysInMonth
      split <;> omega
    omega
  have := days t.month
  exact ⟨month, by omega, hour, minute, by omega, nanosecond⟩

/-- A time in universal time is no other time there. -/
theorem toUniversal_zero {t : CivilTime} (valid : t.isValid = true) : t.toUniversal 0 = t := by
  obtain ⟨-, -, hour, minute, -, -⟩ := fits_of_isValid valid
  have minutes : ((t.hour * 60 + t.minute - 0 : Int) % 1440).toNat = t.hour * 60 + t.minute := by
    omega
  have hours : (t.hour * 60 + t.minute) / 60 = t.hour := by omega
  have rest : (t.hour * 60 + t.minute) % 60 = t.minute := by omega
  simp only [CivilTime.toUniversal, minutes, hours, rest]
  rw [if_neg (by omega), if_neg (by omega)]

/-- A date and a time end where something comes next that is neither a digit nor a point. -/
theorem civil?_civilText {t : CivilTime} (valid : t.isValid = true) {rest : List Char}
    (ends : ∀ c ∈ rest.head?, c.isDigit = false ∧ c ≠ '.') :
    civil? (civilText t ++ rest) = some (t, rest) := by
  obtain ⟨month, day, hour, minute, second, nanosecond⟩ := fits_of_isValid valid
  have dash : Text.isBlank '-' = false := by decide
  have colon : Text.isBlank ':' = false := by decide
  have year (later : List Char) : year? (yearText t.year ++ '-' :: later) =
      some (t.year, '-' :: later) := year?_yearText _ (by simp)
  have hour' (later : List Char) : number? 2 (padded 2 t.hour ++ later) = some (t.hour, later) :=
    number?_padded (by omega) (by decide) later
  have mark (later : List Char) : (expect 'T' ('T' :: later) <|> expect 't' ('T' :: later) <|>
      expect ' ' ('T' :: later)) = some later := rfl
  simp only [civilText, List.append_assoc, List.cons_append, List.nil_append, civil?,
    Option.bind_eq_bind, Option.bind_some, year, field?_padded dash month, field?_padded dash day,
    mark, hour', field?_padded colon (show t.minute < 100 by omega), field?_padded colon second,
    fraction?_fractionText nanosecond ends]
  rfl

/-- **An instant that was written is read as the same instant.** -/
theorem read?_text (t : UtcTime) : read? t.text = some t := by
  have civil : civil? (civilText t.civil ++ ['Z']) = some (t.civil, ['Z']) :=
    civil?_civilText t.isValid (by simp)
  have offset : offset? (Text.trimStart ['Z']) = some (0, []) := by decide
  simp only [read?, text, String.toList_ofList, civil, offset, Option.bind_eq_bind,
    Option.bind_some, ofLocal?, t.isValid, ofCivil?]
  simp [Text.trimStart, toUniversal_zero t.isValid, t.isValid]

end Showdown.UtcTime
