import Mathlib

/-!
# Decimal fractions as text

A decimal fraction is written with its digits before the point and, if there are any,
the point and the digits after it.  The canonical text has no zero in front that could
be left out and none at the end of the fraction.
-/

namespace Relayer.Decimals

/-- Digits are read most significant first. -/
def digitsValue (digits : List Char) : ℕ := Nat.ofDigitChars 10 digits 0

def IsDigits (text : List Char) : Prop := ∀ char ∈ text, char.isDigit = true

/-- The canonical text of a decimal fraction, in its two parts. -/
structure Decimal where
  whole : List Char
  fraction : List Char
  whole_digits : IsDigits whole
  fraction_digits : IsDigits fraction
  whole_leading : whole = ['0'] ∨ whole ≠ [] ∧ whole.head? ≠ some '0'
  fraction_trailing : fraction.getLast? ≠ some '0'

def Decimal.text (decimal : Decimal) : List Char :=
  if decimal.fraction = [] then decimal.whole
  else decimal.whole ++ '.' :: decimal.fraction

def fractionValue (whole fraction : List Char) : ℚ :=
  digitsValue whole + digitsValue fraction / 10 ^ fraction.length

/-- Digits, or digits on both sides of one point. -/
def readDecimal (text : List Char) : Option ℚ :=
  let whole := text.takeWhile (· != '.')
  let fraction := (text.dropWhile (· != '.')).tail
  if whole ≠ [] ∧ whole.all Char.isDigit ∧ fraction.all Char.isDigit ∧
      (text = whole ∨ fraction ≠ []) then
    some (fractionValue whole fraction)
  else none

variable {whole fraction : List Char}

theorem IsDigits.ne_point {text : List Char} (hdigits : IsDigits text) :
    ∀ char ∈ text, (char != '.') = true := by
  intro char hmem
  rw [bne_iff_ne]
  rintro rfl
  exact absurd (hdigits _ hmem) (by decide)

theorem Decimal.whole_ne_nil (decimal : Decimal) : decimal.whole ≠ [] := by
  rcases decimal.whole_leading with hzero | ⟨hne, -⟩
  · rw [hzero]
    decide
  · exact hne

theorem Decimal.text_ne_nil (decimal : Decimal) : decimal.text ≠ [] := by
  unfold Decimal.text
  split_ifs
  · exact decimal.whole_ne_nil
  · simp

theorem Decimal.readDecimal_text (decimal : Decimal) :
    readDecimal decimal.text = some (fractionValue decimal.whole decimal.fraction) := by
  have hwhole := decimal.whole_digits.ne_point
  unfold readDecimal Decimal.text
  split_ifs with hfraction
  · rw [List.takeWhile_eq_self_iff.mpr hwhole, List.dropWhile_eq_nil_iff.mpr hwhole, hfraction]
    refine if_pos ⟨decimal.whole_ne_nil, List.all_eq_true.mpr decimal.whole_digits, rfl, .inl rfl⟩
  · rw [List.takeWhile_append_of_pos hwhole, List.dropWhile_append_of_pos hwhole]
    have hpoint : ('.' != '.') = false := rfl
    simp only [List.takeWhile_cons, List.dropWhile_cons, hpoint, Bool.false_eq_true, if_false,
      List.append_nil, List.tail_cons]
    exact if_pos ⟨decimal.whole_ne_nil, List.all_eq_true.mpr decimal.whole_digits,
      List.all_eq_true.mpr decimal.fraction_digits, .inr hfraction⟩

/-! ## Zeros at the end -/

theorem exists_eq_rdropWhile_append (text : List Char) :
    ∃ count, text = text.rdropWhile (· == '0') ++ List.replicate count '0' := by
  refine ⟨(text.rtakeWhile (· == '0')).length, ?_⟩
  rw [← List.eq_replicate_of_mem fun char hmem => by
    simpa using List.mem_rtakeWhile_imp hmem]
  exact List.rdropWhile_append_rtakeWhile.symm

theorem getLast?_rdropWhile_ne (text : List Char) :
    (text.rdropWhile (· == '0')).getLast? ≠ some '0' := by
  intro hlast
  obtain ⟨front, hfront⟩ := List.getLast?_eq_some_iff.mp hlast
  have hne : text.rdropWhile (· == '0') ≠ [] := by simp [hfront]
  have hnot := List.rdropWhile_last_not _ _ hne
  rw [List.getLast_eq_iff_getLast?_eq_some hne |>.mpr hlast] at hnot
  exact hnot rfl

theorem fractionValue_eq (whole fraction : List Char) :
    fractionValue whole fraction = digitsValue (whole ++ fraction) / 10 ^ fraction.length := by
  have hpower : (10 : ℚ) ^ fraction.length ≠ 0 := by positivity
  have hsplit : digitsValue (whole ++ fraction) =
      10 ^ fraction.length * digitsValue whole + digitsValue fraction := by
    rw [digitsValue, Nat.ofDigitChars_append, Nat.ofDigitChars_eq_ofDigitChars_zero]
    rfl
  rw [fractionValue, hsplit, Nat.cast_add, Nat.cast_mul, add_div, Nat.cast_pow, Nat.cast_ofNat,
    mul_div_cancel_left₀ _ hpower]

theorem fractionValue_append_zeros (whole fraction : List Char) (count : ℕ) :
    fractionValue whole (fraction ++ List.replicate count '0') =
      fractionValue whole fraction := by
  have hpower : (10 : ℚ) ^ count ≠ 0 := by positivity
  rw [fractionValue_eq, fractionValue_eq, ← List.append_assoc, digitsValue,
    Nat.ofDigitChars_append, Nat.ofDigitChars_replicate_zero, ← digitsValue, Nat.cast_mul,
    List.length_append, List.length_replicate, pow_add, mul_comm (10 ^ fraction.length : ℚ),
    Nat.cast_pow, Nat.cast_ofNat, mul_div_mul_left _ _ hpower]

/-- The canonical text of given digits around a point. -/
def Decimal.ofParts (whole fraction : List Char) (hwhole : IsDigits whole)
    (hfraction : IsDigits fraction)
    (hleading : whole = ['0'] ∨ whole ≠ [] ∧ whole.head? ≠ some '0') : Decimal where
  whole := whole
  fraction := fraction.rdropWhile (· == '0')
  whole_digits := hwhole
  fraction_digits := fun char hmem =>
    hfraction char ((List.rdropWhile_prefix _ _).subset hmem)
  whole_leading := hleading
  fraction_trailing := getLast?_rdropWhile_ne fraction

theorem Decimal.fractionValue_ofParts {hwhole : IsDigits whole} {hfraction : IsDigits fraction}
    {hleading : whole = ['0'] ∨ whole ≠ [] ∧ whole.head? ≠ some '0'} :
    fractionValue (Decimal.ofParts whole fraction hwhole hfraction hleading).whole
        (Decimal.ofParts whole fraction hwhole hfraction hleading).fraction =
      digitsValue (whole ++ fraction) / 10 ^ fraction.length := by
  obtain ⟨count, hcount⟩ := exists_eq_rdropWhile_append fraction
  rw [← fractionValue_eq]
  conv_rhs => rw [hcount, fractionValue_append_zeros]
  rfl

theorem rdropWhile_append_point (whole fraction : List Char) :
    (whole ++ '.' :: fraction).rdropWhile (· == '0') =
      whole ++ '.' :: fraction.rdropWhile (· == '0') := by
  rw [List.rdropWhile, List.rdropWhile, List.reverse_append, List.reverse_cons, List.append_assoc,
    List.dropWhile_append]
  split_ifs with hzeros
  · rw [List.isEmpty_iff.mp hzeros]
    simp
  · simp

theorem head?_toDigits_ne_zero {value : ℕ} (hpositive : 0 < value) :
    (Nat.toDigits 10 value).head? ≠ some '0' := by
  induction value using Nat.strongRecOn with
  | ind value ih =>
      rw [Nat.toDigits_eq_if (by decide)]
      split_ifs with hsmall
      · interval_cases value <;> decide
      · rw [List.head?_append_of_ne_nil _ Nat.toDigits_ne_nil]
        exact ih (value / 10) (by omega) (by omega)

end Relayer.Decimals
