import Relayer.Core.Json

/-!
# Binary floating point and the numbers of documents

A finite number of a binary format is a mantissa times a power of two, in the
one form that uses as many digits of the mantissa as the exponent allows.
Rounding finds the nearest such number, the one with an even mantissa between
two, and infinity beyond the largest.  A narrow format embeds into a wide one,
and rounding brings its numbers back unchanged.

Documents have unsigned and negative integers of sixty-four bits and finite
numbers of double precision.
-/

namespace Relayer.Numbers

open Relayer.Json

variable {A : Type}

/-- A binary format: the digits of a mantissa and the least and greatest exponent of
its last digit. -/
structure Format where
  precision : ℕ
  least : ℤ
  greatest : ℤ

def single : Format := ⟨24, -149, 104⟩
def double : Format := ⟨53, -1074, 971⟩

/-- The form in which a number is kept. -/
structure Format.Canonical (format : Format) (mantissa : ℕ) (exponent : ℤ) : Prop where
  mantissa_lt : mantissa < 2 ^ format.precision
  least_le : format.least ≤ exponent
  le_greatest : exponent ≤ format.greatest
  full : 2 ^ format.precision ≤ 2 * mantissa ∨ exponent = format.least

instance (format : Format) (mantissa : ℕ) (exponent : ℤ) :
    Decidable (format.Canonical mantissa exponent) :=
  decidable_of_iff
    (mantissa < 2 ^ format.precision ∧ format.least ≤ exponent ∧ exponent ≤ format.greatest ∧
      (2 ^ format.precision ≤ 2 * mantissa ∨ exponent = format.least))
    ⟨fun h => ⟨h.1, h.2.1, h.2.2.1, h.2.2.2⟩,
      fun h => ⟨h.mantissa_lt, h.least_le, h.le_greatest, h.full⟩⟩

structure Magnitude (format : Format) where
  mantissa : ℕ
  exponent : ℤ
  canonical : format.Canonical mantissa exponent
  deriving DecidableEq

inductive Value (format : Format) where
  | nan
  | infinite (negative : Bool)
  | finite (negative : Bool) (magnitude : Magnitude format)
  deriving DecidableEq

namespace Value

variable {format : Format}

def isFinite : Value format → Bool
  | .finite .. => true
  | _ => false

/-- Less than zero. -/
def isNegative : Value format → Bool
  | .nan => false
  | .infinite negative => negative
  | .finite negative magnitude => negative && magnitude.mantissa != 0

/-- Between zero and the bound, both included. -/
def isWithin (bound : ℕ) : Value format → Bool
  | .finite negative magnitude =>
      if negative then magnitude.mantissa == 0
      else if 0 ≤ magnitude.exponent then
        magnitude.mantissa * 2 ^ magnitude.exponent.toNat ≤ bound
      else magnitude.mantissa ≤ bound * 2 ^ (-magnitude.exponent).toNat
  | _ => false

end Value

/-! ## Rounding -/

def bitLength (mantissa : ℕ) : ℕ :=
  if mantissa = 0 then 0 else mantissa.log2 + 1

/-- The nearest quotient, the even one of two. -/
def divideRounded (mantissa divisor : ℕ) : ℕ :=
  let quotient := mantissa / divisor
  let twice := 2 * (mantissa % divisor)
  if twice < divisor then quotient
  else if divisor < twice then quotient + 1
  else quotient + quotient % 2

/-- The mantissa when its last digit moves up by `shift`. -/
def shifted (mantissa : ℕ) (shift : ℤ) : ℕ :=
  if shift ≤ 0 then mantissa * 2 ^ (-shift).toNat
  else divideRounded mantissa (2 ^ shift.toNat)

namespace Format

/-- The exponent of the last digit that is kept. -/
def lastDigit (format : Format) (mantissa : ℕ) (exponent : ℤ) : ℤ :=
  if mantissa = 0 then format.least
  else max (exponent + bitLength mantissa - format.precision) format.least

/-- The value of the format nearest to `mantissa * 2 ^ exponent`. -/
def round (format : Format) (negative : Bool) (mantissa : ℕ) (exponent : ℤ) :
    Value format :=
  let last := format.lastDigit mantissa exponent
  let kept := shifted mantissa (last - exponent)
  -- Rounding up may need one more digit.
  let carried := kept = 2 ^ format.precision
  let digits := if carried then kept / 2 else kept
  let place := if carried then last + 1 else last
  if h : format.Canonical digits place then .finite negative ⟨digits, place, h⟩
  else .infinite negative

end Format

section Exact

variable {format : Format}

theorem bitLength_le_iff {mantissa bits : ℕ} :
    bitLength mantissa ≤ bits ↔ mantissa < 2 ^ bits := by
  by_cases hzero : mantissa = 0
  · subst hzero
    simp [bitLength]
  · rw [bitLength, if_neg hzero, Nat.succ_le_iff, Nat.log2_lt hzero]

theorem bitLength_mul_two_pow {mantissa : ℕ} (hpos : mantissa ≠ 0) (shift : ℕ) :
    bitLength (mantissa * 2 ^ shift) = bitLength mantissa + shift := by
  apply eq_of_forall_ge_iff
  intro bits
  by_cases hbits : shift ≤ bits
  · obtain ⟨rest, rfl⟩ := Nat.exists_eq_add_of_le' hbits
    rw [bitLength_le_iff, pow_add, Nat.mul_lt_mul_right (Nat.two_pow_pos shift),
      Nat.add_le_add_iff_right, bitLength_le_iff]
  · rw [bitLength_le_iff]
    apply iff_of_false
    · rw [not_lt]
      calc 2 ^ bits ≤ 2 ^ shift := Nat.pow_le_pow_right Nat.two_pos (by omega)
        _ ≤ mantissa * 2 ^ shift := Nat.le_mul_of_pos_left _ (Nat.pos_of_ne_zero hpos)
    · omega

theorem divideRounded_mul (mantissa : ℕ) {divisor : ℕ} (hpos : 0 < divisor) :
    divideRounded (mantissa * divisor) divisor = mantissa := by
  simp [divideRounded, Nat.mul_mod_left, Nat.mul_div_cancel _ hpos, hpos]

theorem shifted_mul_two_pow (mantissa shift : ℕ) :
    shifted (mantissa * 2 ^ shift) shift = mantissa := by
  rw [shifted]
  split_ifs with hshift
  · have hzero : shift = 0 := by omega
    subst hzero
    simp
  · exact divideRounded_mul mantissa (Nat.two_pow_pos _)

/-- Full mantissas use every digit. -/
theorem two_pow_le_two_mul_iff {mantissa bits : ℕ} (hpos : mantissa ≠ 0) :
    2 ^ bits ≤ 2 * mantissa ↔ bits ≤ bitLength mantissa := by
  have hdouble : bitLength (2 * mantissa) = bitLength mantissa + 1 := by
    have hlength := bitLength_mul_two_pow hpos 1
    rwa [pow_one, mul_comm] at hlength
  have hiff : bitLength (2 * mantissa) ≤ bits ↔ 2 * mantissa < 2 ^ bits := bitLength_le_iff
  rw [hdouble] at hiff
  omega

/-- The digits of a canonical number are those that are kept. -/
theorem Format.Canonical.lastDigit {mantissa : ℕ} {exponent : ℤ}
    (hcanonical : format.Canonical mantissa exponent) (shift : ℕ) :
    format.lastDigit (mantissa * 2 ^ shift) (exponent - shift) = exponent := by
  have hleast := hcanonical.least_le
  by_cases hpos : mantissa = 0
  · have hempty : ¬ 2 ^ format.precision ≤ 2 * mantissa := by
      have hpow := Nat.two_pow_pos format.precision
      omega
    rw [Format.lastDigit, if_pos (by rw [hpos, Nat.zero_mul]),
      hcanonical.full.resolve_left hempty]
  · have hscaled : mantissa * 2 ^ shift ≠ 0 :=
      Nat.mul_ne_zero hpos (Nat.two_pow_pos shift).ne'
    have hlength : bitLength mantissa ≤ format.precision :=
      bitLength_le_iff.mpr hcanonical.mantissa_lt
    have hfull := hcanonical.full
    rw [two_pow_le_two_mul_iff hpos] at hfull
    rw [Format.lastDigit, if_neg hscaled, bitLength_mul_two_pow hpos]
    push_cast
    omega

/-- Numbers of the format are rounded to themselves. -/
theorem Format.Canonical.round_eq {mantissa : ℕ} {exponent : ℤ}
    (hcanonical : format.Canonical mantissa exponent) (negative : Bool) (shift : ℕ) :
    format.round negative (mantissa * 2 ^ shift) (exponent - shift) =
      .finite negative ⟨mantissa, exponent, hcanonical⟩ := by
  have hlast := hcanonical.lastDigit shift
  have hkept : shifted (mantissa * 2 ^ shift) (exponent - (exponent - shift)) = mantissa := by
    rw [sub_sub_cancel]
    exact shifted_mul_two_pow mantissa shift
  have hroom : ¬ mantissa = 2 ^ format.precision := hcanonical.mantissa_lt.ne
  simp only [Format.round, hlast, hkept, if_neg hroom, dif_pos hcanonical]

/-- Every number of the first format is one of the second. -/
structure Format.Embeds (narrow wide : Format) : Prop where
  precision_le : narrow.precision ≤ wide.precision
  least_le : wide.least + wide.precision ≤ narrow.least + 1
  le_greatest : narrow.greatest + narrow.precision ≤ wide.greatest + wide.precision
  nonempty : narrow.least ≤ wide.greatest
  positive : 0 < wide.precision

/-- A wider format holds the number with more digits. -/
theorem Format.Embeds.canonical {narrow wide : Format} (hembeds : narrow.Embeds wide)
    {mantissa : ℕ} {exponent : ℤ} (hcanonical : narrow.Canonical mantissa exponent) :
    ∃ shift : ℕ, wide.lastDigit mantissa exponent = exponent - shift ∧
      wide.Canonical (mantissa * 2 ^ shift) (exponent - shift) := by
  have hprecision := hembeds.precision_le
  have hleast := hembeds.least_le
  have hgreatest := hembeds.le_greatest
  have hnonempty := hembeds.nonempty
  have hpositive := hembeds.positive
  have hlow := hcanonical.least_le
  have hhigh := hcanonical.le_greatest
  by_cases hpos : mantissa = 0
  · subst hpos
    refine ⟨(exponent - wide.least).toNat, ?_, ?_⟩
    · rw [Format.lastDigit, if_pos rfl]
      omega
    · have hplace : exponent - ((exponent - wide.least).toNat : ℤ) = wide.least := by omega
      rw [hplace, Nat.zero_mul]
      exact ⟨Nat.two_pow_pos _, le_refl _, by omega, .inr rfl⟩
  · have hlength : bitLength mantissa ≤ narrow.precision :=
      bitLength_le_iff.mpr hcanonical.mantissa_lt
    have hone : 1 ≤ bitLength mantissa := by
      rw [bitLength, if_neg hpos]
      omega
    have hscaled : mantissa * 2 ^ (wide.precision - bitLength mantissa) ≠ 0 :=
      Nat.mul_ne_zero hpos (Nat.two_pow_pos _).ne'
    have hfull : bitLength (mantissa * 2 ^ (wide.precision - bitLength mantissa)) =
        wide.precision := by
      rw [bitLength_mul_two_pow hpos]
      omega
    refine ⟨wide.precision - bitLength mantissa, ?_, ?_, ?_, ?_, .inl ?_⟩
    · rw [Format.lastDigit, if_neg hpos]
      omega
    · exact bitLength_le_iff.mp hfull.le
    · omega
    · omega
    · exact (two_pow_le_two_mul_iff hscaled).mpr hfull.ge

/-- Widening is exact. -/
theorem Format.Embeds.round_eq {narrow wide : Format} (hembeds : narrow.Embeds wide)
    (negative : Bool) (magnitude : Magnitude narrow) :
    ∃ (shift : ℕ) (hwide : wide.Canonical (magnitude.mantissa * 2 ^ shift)
        (magnitude.exponent - shift)),
      wide.round negative magnitude.mantissa magnitude.exponent =
        .finite negative ⟨magnitude.mantissa * 2 ^ shift, magnitude.exponent - shift, hwide⟩ := by
  obtain ⟨shift, hlast, hwide⟩ := hembeds.canonical magnitude.canonical
  have hkept : shifted magnitude.mantissa (magnitude.exponent - shift - magnitude.exponent) =
      magnitude.mantissa * 2 ^ shift := by
    rw [shifted, if_pos (by omega)]
    congr 2
    omega
  have hroom : ¬ magnitude.mantissa * 2 ^ shift = 2 ^ wide.precision := hwide.mantissa_lt.ne
  refine ⟨shift, hwide, ?_⟩
  simp only [Format.round, hlast, hkept, if_neg hroom, dif_pos hwide]

theorem single_embeds_double : single.Embeds double := by
  constructor <;> decide

end Exact

/-! ## Numbers in documents -/

/-- A number as a document holds it. -/
inductive Number where
  | posInt (value : UInt64)
  | negInt (value : Int64)
  | float (negative : Bool) (magnitude : Magnitude double)
  deriving DecidableEq

/-- The nearest value of single precision. -/
def Number.toSingle : Number → Value single
  | .posInt value => single.round false value.toNat 0
  | .negInt value => single.round (value.toInt < 0) value.toInt.natAbs 0
  | .float negative magnitude => single.round negative magnitude.mantissa magnitude.exponent

/-- Only finite values can be written as numbers. -/
def encodeSingle : Value single → Document Number
  | .finite negative magnitude =>
      match double.round negative magnitude.mantissa magnitude.exponent with
      | .finite negative wide => .num (.float negative wide)
      | _ => .null
  | _ => .null

def decodeSingle : Document Number → Option (Value single)
  | .num number => some number.toSingle
  | _ => none

theorem decodeSingle_encodeSingle_finite (negative : Bool) (magnitude : Magnitude single) :
    decodeSingle (encodeSingle (.finite negative magnitude)) =
      some (.finite negative magnitude) := by
  obtain ⟨shift, hwide, hround⟩ := single_embeds_double.round_eq negative magnitude
  simp only [encodeSingle, hround, decodeSingle, Number.toSingle]
  rw [magnitude.canonical.round_eq negative shift]

/-- Single precision: the finite values survive. -/
def singleCodec : Codec Number (Value single) where
  encode := encodeSingle
  decode := decodeSingle
  faithful value := value.isFinite = true
  decode_null := rfl
  roundtrip value := by
    cases value with
    | finite negative magnitude =>
        exact iff_of_true (decodeSingle_encodeSingle_finite negative magnitude) rfl
    | _ => exact iff_of_false (fun hread => nomatch hread) fun hfinite => nomatch hfinite
  settles value result hread := by
    cases value with
    | finite negative magnitude =>
        rw [decodeSingle_encodeSingle_finite] at hread
        exact Option.some.inj hread ▸ rfl
    | _ => cases hread

theorem isObject_encodeSingle (value : Value single) :
    (encodeSingle value).isObject = false := by
  cases value with
  | finite negative magnitude =>
      obtain ⟨shift, hwide, hround⟩ := single_embeds_double.round_eq negative magnitude
      simp only [encodeSingle, hround]
      rfl
  | _ => rfl

/-- Integers that are not negative. -/
def Number.toNat? : Number → Option ℕ
  | .posInt value => some value.toNat
  | .negInt value => if 0 ≤ value.toInt then some value.toInt.toNat else none
  | .float .. => none

/-- Unsigned integers are written as numbers and read where they fit. -/
def unsigned (toNat : A → ℕ) (ofNat? : ℕ → Option A) (hsmall : ∀ value, toNat value < 2 ^ 64)
    (hofNat : ∀ value, ofNat? (toNat value) = some value) : Codec Number A :=
  .lossless (fun value => .num (.posInt (UInt64.ofNat (toNat value))))
    (fun
      | .num number => number.toNat?.bind ofNat?
      | _ => none) rfl fun value => by
        simp only [Number.toNat?, UInt64.toNat_ofNat_of_lt' (hsmall value), Option.bind_some,
          hofNat]

def u8 : Codec Number UInt8 :=
  unsigned UInt8.toNat (fun value => if value < 2 ^ 8 then some (.ofNat value) else none)
    (fun value => value.toNat_lt.trans (by decide))
    fun value => by rw [if_pos value.toNat_lt, UInt8.ofNat_toNat]

theorem isObject_u8 (value : UInt8) : (u8.encode value).isObject = false := rfl

def u16 : Codec Number UInt16 :=
  unsigned UInt16.toNat (fun value => if value < 2 ^ 16 then some (.ofNat value) else none)
    (fun value => value.toNat_lt.trans (by decide))
    fun value => by rw [if_pos value.toNat_lt, UInt16.ofNat_toNat]

def u32 : Codec Number UInt32 :=
  unsigned UInt32.toNat (fun value => if value < 2 ^ 32 then some (.ofNat value) else none)
    (fun value => value.toNat_lt.trans (by decide))
    fun value => by rw [if_pos value.toNat_lt, UInt32.ofNat_toNat]

def u64 : Codec Number UInt64 :=
  unsigned UInt64.toNat (fun value => if value < 2 ^ 64 then some (.ofNat value) else none)
    (fun value => value.toNat_lt)
    fun value => by rw [if_pos value.toNat_lt, UInt64.ofNat_toNat]

/-- What follows a plus sign, if there is one. -/
def dropPlus : List Char → List Char
  | '+' :: rest => rest
  | chars => chars

/-- Decimal digits, after a plus sign or without one. -/
def parseDecimal (text : String) : Option ℕ :=
  let digits := dropPlus text.toList
  if digits ≠ [] ∧ digits.all Char.isDigit then some (Nat.ofDigitChars 10 digits 0) else none

theorem dropPlus_of_isDigit {digits : List Char}
    (hdigits : ∀ char ∈ digits, char.isDigit = true) : dropPlus digits = digits := by
  rw [dropPlus.eq_def]
  split
  · next rest =>
      have hsign := hdigits '+' List.mem_cons_self
      exact absurd hsign (by decide)
  · rfl

theorem parseDecimal_repr (value : ℕ) : parseDecimal value.repr = some value := by
  have hdigits : ∀ char ∈ Nat.toDigits 10 value, char.isDigit = true := fun _ hchar =>
    Nat.isDigit_of_mem_toDigits (by decide) (by decide) hchar
  have hvalue : Nat.ofDigitChars 10 (Nat.toDigits 10 value) 0 = value :=
    Nat.ofDigitChars_toDigits (by decide) (by decide)
  simp only [parseDecimal, Nat.toList_repr, dropPlus_of_isDigit hdigits, hvalue]
  exact if_pos ⟨Nat.toDigits_ne_nil, List.all_eq_true.mpr hdigits⟩

/-! ## The order of decimal texts -/

theorem digitChar_toNat_lt {char : Char} (hdigit : char.isDigit = true) :
    char.toNat - '0'.toNat < 10 ∧ '0'.toNat ≤ char.toNat := by
  have hbounds : 48 ≤ char.val ∧ char.val ≤ 57 := by simpa [Char.isDigit] using hdigit
  have hlow : 48 ≤ char.toNat := hbounds.1
  have hhigh : char.toNat ≤ 57 := hbounds.2
  change char.toNat - 48 < 10 ∧ 48 ≤ char.toNat
  omega

theorem ofDigitChars_cons_zero (char : Char) (rest : List Char) :
    Nat.ofDigitChars 10 (char :: rest) 0 =
      10 ^ rest.length * (char.toNat - '0'.toNat) + Nat.ofDigitChars 10 rest 0 := by
  rw [Nat.ofDigitChars_cons, mul_zero, zero_add, Nat.ofDigitChars_eq_ofDigitChars_zero]

theorem ofDigitChars_lt_pow {digits : List Char} (hdigits : ∀ char ∈ digits, char.isDigit = true) :
    Nat.ofDigitChars 10 digits 0 < 10 ^ digits.length := by
  induction digits with
  | nil => simp
  | cons char rest ih =>
      have hrest := ih fun other hother => hdigits other (List.mem_cons_of_mem _ hother)
      have hchar := (digitChar_toNat_lt (hdigits char List.mem_cons_self)).1
      rw [ofDigitChars_cons_zero, List.length_cons, pow_succ]
      nlinarith

/-- Comparison by the leading digit first. -/
theorem leading_lt_iff {base high low high' low' : ℕ} (hlow : low < base) (hlow' : low' < base) :
    base * high + low < base * high' + low' ↔ high < high' ∨ high = high' ∧ low < low' := by
  rcases lt_trichotomy high high' with hlt | heq | hgt
  · have hstep : base * (high + 1) ≤ base * high' := Nat.mul_le_mul_left base hlt
    rw [Nat.mul_succ] at hstep
    omega
  · subst heq
    omega
  · have hstep : base * (high' + 1) ≤ base * high := Nat.mul_le_mul_left base hgt
    rw [Nat.mul_succ] at hstep
    omega

/-- Among texts of one length the alphabetical order of decimal digits is the order of their
values. -/
theorem lt_iff_ofDigitChars_lt {first second : List Char}
    (hfirst : ∀ char ∈ first, char.isDigit = true)
    (hsecond : ∀ char ∈ second, char.isDigit = true) (hlength : first.length = second.length) :
    first < second ↔ Nat.ofDigitChars 10 first 0 < Nat.ofDigitChars 10 second 0 := by
  induction first generalizing second with
  | nil =>
      rw [List.length_eq_zero_iff.mp hlength.symm]
      simp
  | cons char rest ih =>
      cases second with
      | nil => cases hlength
      | cons other tail =>
          have hlength := Nat.succ.inj hlength
          have hrest := fun next hnext => hfirst next (List.mem_cons_of_mem char hnext)
          have htail := fun next hnext => hsecond next (List.mem_cons_of_mem other hnext)
          have hrestLt := ofDigitChars_lt_pow hrest
          have htailLt := ofDigitChars_lt_pow htail
          have hchar := (digitChar_toNat_lt (hfirst char List.mem_cons_self)).2
          have hother := (digitChar_toNat_lt (hsecond other List.mem_cons_self)).2
          have hlt : char < other ↔ char.toNat - '0'.toNat < other.toNat - '0'.toNat := by
            rw [Char.lt_def, UInt32.lt_iff_toNat_lt]
            change char.toNat < other.toNat ↔ _
            omega
          have heq : char = other ↔ char.toNat - '0'.toNat = other.toNat - '0'.toNat := by
            rw [← Char.toNat_inj]
            omega
          rw [List.cons_lt_cons_iff, ih hrest htail hlength, hlt, heq, ofDigitChars_cons_zero,
            ofDigitChars_cons_zero, ← hlength]
          rw [← hlength] at htailLt
          exact (leading_lt_iff hrestLt htailLt).symm

/-- The decimal text of a smaller number is shorter, or of the same length and earlier in
the alphabet. -/
theorem repr_lt_iff (first second : ℕ) :
    (if first.repr.length ≠ second.repr.length then first.repr.length < second.repr.length
      else first.repr < second.repr) ↔ first < second := by
  have hlength : ∀ value : ℕ, value.repr.length = (Nat.toDigits 10 value).length := by
    intro value
    rw [← String.length_toList, Nat.toList_repr]
  have hdigits : ∀ value, ∀ char ∈ Nat.toDigits 10 value, char.isDigit = true :=
    fun _ _ hchar => Nat.isDigit_of_mem_toDigits (by decide) (by decide) hchar
  have hvalue : ∀ value, Nat.ofDigitChars 10 (Nat.toDigits 10 value) 0 = value :=
    fun _ => Nat.ofDigitChars_toDigits (by decide) (by decide)
  -- A shorter text stands for a smaller number.
  have hshorter : ∀ {low high : ℕ},
      (Nat.toDigits 10 low).length < (Nat.toDigits 10 high).length → low < high := by
    intro low high hlt
    have hlow : low < 10 ^ (Nat.toDigits 10 low).length :=
      (Nat.length_toDigits_le_iff (by decide) Nat.length_toDigits_pos).mp le_rfl
    have hhigh : ¬ high < 10 ^ (Nat.toDigits 10 low).length := fun hsmall =>
      absurd ((Nat.length_toDigits_le_iff (by decide) Nat.length_toDigits_pos).mpr hsmall)
        (not_le.mpr hlt)
    omega
  rw [hlength, hlength]
  by_cases hsame : (Nat.toDigits 10 first).length = (Nat.toDigits 10 second).length
  · rw [if_neg (not_not.mpr hsame), String.lt_iff_toList_lt, Nat.toList_repr, Nat.toList_repr,
      lt_iff_ofDigitChars_lt (hdigits first) (hdigits second) hsame, hvalue, hvalue]
  · rw [if_pos hsame]
    refine ⟨hshorter, fun hlt => ?_⟩
    by_contra hle
    have hgt := hshorter (lt_of_le_of_ne (not_lt.mp hle) (Ne.symm hsame))
    omega

/-! ## Wide integers -/

/-- Integers of a hundred and twenty-eight bits are written as decimal texts, and read
from texts and from integers. -/
def u128 : Codec Number (BitVec 128) :=
  .lossless (fun value => .str value.toNat.repr)
    (fun
      | .str text => (parseDecimal text).bind fun value =>
          if value < 2 ^ 128 then some (.ofNat 128 value) else none
      | .num number => number.toNat?.map (.ofNat 128)
      | _ => none) rfl fun value => by
        simp only [parseDecimal_repr, Option.bind_some, value.isLt, if_true,
          BitVec.ofNat_toNat, BitVec.setWidth_eq]

end Relayer.Numbers
