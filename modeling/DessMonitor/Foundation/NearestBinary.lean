import DessMonitor.Foundation.PythonValue

/-!
# Nearest binary64 numbers

`PyFloat.ofRat` goes to a nearest number of at most 53 significant bits.  A
number that is one already survives being rounded to decimals, made binary
again and rounded to decimals a second time.
-/

namespace DessMonitor
namespace PyFloat

open DecimalRounding

/-! ## Numbers of 53 bits -/

/-- A number of at most 53 significant bits, of any size. -/
def Representable (value : ℚ) : Prop :=
  ∃ mantissa exponent : ℤ, value = mantissa * (2 : ℚ) ^ exponent ∧
    |mantissa| ≤ 2 ^ 53 ∧ -1074 ≤ exponent

/-- The exponent of the last place of the numbers around `value`. -/
def unitExponent (value : ℚ) : ℤ :=
  max (Int.log 2 |value|) (-1022) - 52

/-- The rounded number, before its size is looked at. -/
def nearest (value : ℚ) : ℚ :=
  roundHalfEven (value / 2 ^ unitExponent value) *
    (2 : ℚ) ^ unitExponent value

theorem ofRat_eq (value : ℚ) :
    ofRat value =
      if 1024 ≤ Int.log 2 |nearest value| then
        .infinity (decide (nearest value < 0))
      else .finite (nearest value) := by
  unfold ofRat
  split
  next hzero =>
    subst hzero
    simp [nearest]
  next => rfl

theorem unitExponent_ge (value : ℚ) : -1074 ≤ unitExponent value := by
  have hmax := le_max_right (Int.log 2 |value|) (-1022)
  unfold unitExponent
  omega

theorem abs_div_unit_le (value : ℚ) :
    |value / 2 ^ unitExponent value| ≤ ((2 ^ 53 : ℤ) : ℚ) := by
  have hunit : (0 : ℚ) < 2 ^ unitExponent value := by positivity
  have hlog : |value| < (2 : ℚ) ^ (Int.log 2 |value| + 1) := by
    exact_mod_cast Int.lt_zpow_succ_log_self (b := 2) (by decide) |value|
  have hexponent : Int.log 2 |value| + 1 ≤ 53 + unitExponent value := by
    have hmax := le_max_left (Int.log 2 |value|) (-1022)
    unfold unitExponent
    omega
  rw [abs_div, abs_of_pos hunit, div_le_iff₀ hunit]
  calc
    |value| ≤ (2 : ℚ) ^ (Int.log 2 |value| + 1) := hlog.le
    _ ≤ (2 : ℚ) ^ (53 + unitExponent value) :=
      zpow_le_zpow_right₀ (by norm_num) hexponent
    _ = ((2 ^ 53 : ℤ) : ℚ) * 2 ^ unitExponent value := by
      rw [zpow_add₀ (by norm_num)]
      norm_num

theorem representable_nearest (value : ℚ) : Representable (nearest value) :=
  ⟨_, unitExponent value, rfl, abs_roundHalfEven_le (abs_div_unit_le value),
    unitExponent_ge value⟩

/-- A multiple of the unit is not nearer than the rounded number. -/
theorem abs_nearest_sub_le_of_multiple (value : ℚ) (multiple : ℤ) :
    |nearest value - value| ≤
      |multiple * (2 : ℚ) ^ unitExponent value - value| := by
  have hunit : (0 : ℚ) < 2 ^ unitExponent value := by positivity
  have hscale : ∀ n : ℤ, |n * (2 : ℚ) ^ unitExponent value - value| =
      |(n : ℚ) - value / 2 ^ unitExponent value| *
        2 ^ unitExponent value := by
    intro n
    rw [← abs_of_pos hunit, ← abs_mul, abs_of_pos hunit, sub_mul,
      div_mul_cancel₀ value hunit.ne']
  unfold nearest
  rw [hscale, hscale]
  exact mul_le_mul_of_nonneg_right
    (abs_roundHalfEven_sub_le_of_int _ multiple) hunit.le

/-- A number of 53 bits that is no multiple of the unit has a smaller size. -/
theorem abs_le_of_exponent_lt {mantissa exponent : ℤ} {value : ℚ}
    (hmantissa : |mantissa| ≤ 2 ^ 53)
    (hexponent : exponent < unitExponent value) :
    |mantissa * (2 : ℚ) ^ exponent| ≤
      ((2 ^ 52 : ℤ) : ℚ) * 2 ^ unitExponent value := by
  have hpower : (0 : ℚ) < 2 ^ exponent := by positivity
  have hcast : |(mantissa : ℚ)| ≤ 2 ^ (53 : ℤ) := by
    exact_mod_cast hmantissa
  calc
    |mantissa * (2 : ℚ) ^ exponent| = |(mantissa : ℚ)| * 2 ^ exponent := by
      rw [abs_mul, abs_of_pos hpower]
    _ ≤ 2 ^ (53 : ℤ) * (2 : ℚ) ^ exponent :=
      mul_le_mul_of_nonneg_right hcast hpower.le
    _ = (2 : ℚ) ^ (53 + exponent) := by
      rw [zpow_add₀ (by norm_num)]
    _ ≤ (2 : ℚ) ^ (52 + unitExponent value) :=
      zpow_le_zpow_right₀ (by norm_num) (by omega)
    _ = ((2 ^ 52 : ℤ) : ℚ) * 2 ^ unitExponent value := by
      rw [zpow_add₀ (by norm_num)]
      norm_num

/-- The unit counts 52 binary places from the leading one. -/
theorem leading_le_abs {value : ℚ} (hvalue : value ≠ 0)
    (hunit : -1074 < unitExponent value) :
    ((2 ^ 52 : ℤ) : ℚ) * 2 ^ unitExponent value ≤ |value| := by
  have hlog : 52 + unitExponent value = Int.log 2 |value| := by
    unfold unitExponent at hunit ⊢
    omega
  calc
    ((2 ^ 52 : ℤ) : ℚ) * 2 ^ unitExponent value =
        (2 : ℚ) ^ (52 + unitExponent value) := by
      rw [zpow_add₀ (by norm_num)]
      norm_num
    _ = (2 : ℚ) ^ Int.log 2 |value| := by rw [hlog]
    _ ≤ |value| := by
      exact_mod_cast Int.zpow_log_le_self (b := 2) (by decide)
        (abs_pos.mpr hvalue)

/-- No number of 53 bits is nearer than the rounded one. -/
theorem abs_nearest_sub_le {other : ℚ} (hother : Representable other)
    (value : ℚ) : |nearest value - value| ≤ |other - value| := by
  obtain ⟨mantissa, exponent, rfl, hmantissa, hexponent⟩ := hother
  rcases le_or_gt (unitExponent value) exponent with hle | hlt
  · -- the other one is a multiple of the unit
    obtain ⟨places, hplaces⟩ := Int.le.dest hle
    have hmultiple := abs_nearest_sub_le_of_multiple value
      (mantissa * 2 ^ places)
    rw [← hplaces, zpow_add₀ (by norm_num), zpow_natCast]
    push_cast at hmultiple
    rwa [mul_assoc, mul_comm ((2 : ℚ) ^ places)] at hmultiple
  · -- the leading place of `value` stands between the two
    by_cases hvalue : value = 0
    · subst hvalue
      have hzero : nearest 0 = 0 := by
        simp [nearest]
      rw [hzero, sub_zero, abs_zero]
      exact abs_nonneg _
    have hsmall := abs_le_of_exponent_lt hmantissa hlt
    have hleading := leading_le_abs hvalue (by omega)
    have hapart := abs_sub_abs_le_abs_sub value
      (mantissa * (2 : ℚ) ^ exponent)
    rw [abs_sub_comm] at hapart
    rcases le_or_gt 0 value with hpos | hneg
    · have hmultiple := abs_nearest_sub_le_of_multiple value (2 ^ 52)
      rw [abs_of_nonneg hpos] at hleading hapart
      rw [abs_of_nonpos (sub_nonpos.mpr hleading)] at hmultiple
      linarith
    · have hmultiple := abs_nearest_sub_le_of_multiple value (-2 ^ 52)
      rw [abs_of_neg hneg] at hleading hapart
      have hsign : 0 ≤ -(((2 ^ 52 : ℤ) : ℚ) * 2 ^ unitExponent value) -
          value := by
        linarith
      rw [Int.cast_neg, neg_mul, abs_of_nonneg hsign] at hmultiple
      linarith

theorem nearest_of_representable {value : ℚ} (hvalue : Representable value) :
    nearest value = value := by
  have hnear := abs_nearest_sub_le hvalue value
  rw [sub_self, abs_zero] at hnear
  exact sub_eq_zero.mp (abs_nonpos_iff.mp hnear)

/-! ## Finite numbers -/

theorem log_lt_iff {value : ℚ} :
    Int.log 2 |value| < 1024 ↔ |value| < (2 : ℚ) ^ (1024 : ℤ) := by
  by_cases hvalue : value = 0
  · subst hvalue
    simp
  · have hlog := Int.lt_zpow_iff_log_lt (b := 2) (by decide) (x := 1024)
      (abs_pos.mpr hvalue)
    rw [← hlog]
    norm_cast

/-- The finite numbers of the format. -/
structure IsBinary64 (value : ℚ) : Prop where
  representable : Representable value
  bounded : |value| < (2 : ℚ) ^ (1024 : ℤ)

theorem IsBinary64.neg {value : ℚ} (hvalue : IsBinary64 value) :
    IsBinary64 (-value) := by
  obtain ⟨mantissa, exponent, hsplit, hmantissa, hexponent⟩ :=
    hvalue.representable
  refine ⟨⟨-mantissa, exponent, ?_, ?_, hexponent⟩, ?_⟩
  · rw [hsplit]
    push_cast
    rw [neg_mul]
  · rwa [abs_neg]
  · rw [abs_neg]
    exact hvalue.bounded

theorem isBinary64_of_ofRat {value number : ℚ}
    (hfinite : ofRat value = .finite number) : IsBinary64 number := by
  rw [ofRat_eq] at hfinite
  split at hfinite
  next => cases hfinite
  next hsize =>
    obtain rfl := PyFloat.finite.inj hfinite
    exact ⟨representable_nearest value, log_lt_iff.mp (not_le.mp hsize)⟩

theorem ofRat_of_lt {value : ℚ}
    (hsize : |nearest value| < (2 : ℚ) ^ (1024 : ℤ)) :
    ofRat value = .finite (nearest value) := by
  rw [ofRat_eq, if_neg (not_le.mpr (log_lt_iff.mpr hsize))]

/-! ## Rounding to decimals twice -/

theorem Representable.scaled {value : ℚ} (hvalue : Representable value) :
    ∃ n : ℤ, value * 2 ^ 1074 = n := by
  obtain ⟨mantissa, exponent, rfl, -, hexponent⟩ := hvalue
  obtain ⟨places, rfl⟩ := Int.le.dest hexponent
  refine ⟨mantissa * 2 ^ places, ?_⟩
  rw [mul_assoc, ← zpow_natCast, ← zpow_add₀ (by norm_num)]
  push_cast
  rw [← zpow_natCast]
  congr 2
  omega

/-- Two numbers of 53 bits are not a unit of a decimal place apart. -/
theorem sub_mul_ten_pow_ne {first second : ℚ} (hfirst : Representable first)
    (hsecond : Representable second) {digits : ℕ} (hdigits : digits ≠ 0) :
    (first - second) * 10 ^ digits ≠ 1 := by
  obtain ⟨n, hn⟩ := hfirst.scaled
  obtain ⟨n', hn'⟩ := hsecond.scaled
  generalize 1074 = places at hn hn'
  intro hone
  have hscaled : ((n - n' : ℤ) : ℚ) * 10 ^ digits = 2 ^ places := by
    push_cast
    rw [← hn, ← hn', ← sub_mul, mul_right_comm, hone, one_mul]
  have hint : (n - n') * 10 ^ digits = 2 ^ places := by
    exact_mod_cast hscaled
  have hfive : (5 : ℤ) ∣ 2 ^ places := by
    rw [← hint]
    exact Dvd.dvd.mul_left (dvd_pow (by norm_num) hdigits) _
  have hprime : Prime (5 : ℤ) := by norm_num
  have htwo := hprime.dvd_of_dvd_pow hfive
  omega

/-- A binary number is found again from its decimals, to so many decimals. -/
theorem roundDecimals_nearest_roundDecimals {value : ℚ}
    (hvalue : Representable value) {digits : ℕ} (hdigits : digits ≠ 0) :
    roundDecimals digits (nearest (roundDecimals digits value)) =
      roundDecimals digits value := by
  have hscale : (0 : ℚ) < 10 ^ digits := by positivity
  have hnear := abs_nearest_sub_le hvalue (roundDecimals digits value)
  have hhalf := abs_roundDecimals_sub_le digits value
  have hbinary := representable_nearest (roundDecimals digits value)
  set decimal := roundDecimals digits value with hdecimal
  set back := nearest decimal
  rw [abs_sub_comm value] at hnear
  have hunits : decimal * 10 ^ digits =
      roundHalfEven (value * 10 ^ digits) := by
    rw [hdecimal]
    unfold roundDecimals
    field_simp
  have hbound : |back - decimal| * 10 ^ digits ≤ 1 / 2 := by
    calc
      |back - decimal| * 10 ^ digits ≤ 1 / (2 * 10 ^ digits) * 10 ^ digits :=
        mul_le_mul_of_nonneg_right (hnear.trans hhalf) hscale.le
      _ = 1 / 2 := by field_simp
  rcases hbound.lt_or_eq with hlt | heq
  · have hround : roundHalfEven (back * 10 ^ digits) =
        roundHalfEven (value * 10 ^ digits) := by
      apply roundHalfEven_eq_of_abs_sub_lt
      rw [← hunits, ← sub_mul, abs_mul, abs_of_pos hscale, abs_sub_comm]
      exact hlt
    rw [hdecimal]
    unfold roundDecimals
    rw [hround]
  · -- a tie, and `value` is as far: on the other side it is a unit apart
    have hsame : back = value := by
      have hvalueBound : |decimal - value| * 10 ^ digits = 1 / 2 := by
        apply le_antisymm
        · calc
            |decimal - value| * 10 ^ digits ≤
                1 / (2 * 10 ^ digits) * 10 ^ digits :=
              mul_le_mul_of_nonneg_right hhalf hscale.le
            _ = 1 / 2 := by field_simp
        · rw [← heq]
          exact mul_le_mul_of_nonneg_right hnear hscale.le
      have habove := sub_mul_ten_pow_ne hbinary hvalue hdigits
      have hbelow := sub_mul_ten_pow_ne hvalue hbinary hdigits
      rcases abs_choice (back - decimal) with hback | hback <;>
        rcases abs_choice (decimal - value) with hother | hother <;>
          rw [hback] at heq <;> rw [hother] at hvalueBound
      · exact absurd (by linarith) habove
      · exact mul_right_cancel₀ hscale.ne' (by linarith)
      · exact mul_right_cancel₀ hscale.ne' (by linarith)
      · exact absurd (by linarith) hbelow
    rw [hsame]

/-- A number is an integer or not larger than `2 ^ 53`. -/
theorem Representable.int_or_small {value : ℚ} (hvalue : Representable value) :
    (∃ n : ℤ, value = n) ∨ |value| ≤ (2 : ℚ) ^ (53 : ℤ) := by
  obtain ⟨mantissa, exponent, rfl, hmantissa, -⟩ := hvalue
  rcases le_or_gt 0 exponent with hpos | hneg
  · left
    obtain ⟨places, rfl⟩ := Int.eq_ofNat_of_zero_le hpos
    refine ⟨mantissa * 2 ^ places, ?_⟩
    push_cast
    rw [zpow_natCast]
  · right
    have hpower : (0 : ℚ) < 2 ^ exponent := by positivity
    have hone : (2 : ℚ) ^ exponent ≤ 1 :=
      zpow_le_one_of_nonpos₀ (by norm_num) hneg.le
    have hcast : |(mantissa : ℚ)| ≤ 2 ^ (53 : ℤ) := by
      exact_mod_cast hmantissa
    rw [abs_mul, abs_of_pos hpower]
    calc
      |(mantissa : ℚ)| * 2 ^ exponent ≤ 2 ^ (53 : ℤ) * 1 :=
        mul_le_mul hcast hone hpower.le (by positivity)
      _ = 2 ^ (53 : ℤ) := mul_one _

theorem abs_nearest_roundDecimals_lt {value : ℚ} (hbinary : IsBinary64 value)
    (digits : ℕ) :
    |nearest (roundDecimals digits value)| < (2 : ℚ) ^ (1024 : ℤ) := by
  have hvalue := hbinary.representable
  rcases hvalue.int_or_small with ⟨n, rfl⟩ | hsmall
  · rw [roundDecimals_intCast, nearest_of_representable hvalue]
    exact hbinary.bounded
  · have hnear := abs_nearest_sub_le hvalue (roundDecimals digits value)
    have hhalf := abs_roundDecimals_sub_le digits value
    rw [abs_sub_comm value] at hnear
    have hunit : (1 : ℚ) / (2 * 10 ^ digits) ≤ 1 / 2 := by
      have hpower : (1 : ℚ) ≤ 10 ^ digits := one_le_pow₀ (by norm_num)
      apply one_div_le_one_div_of_le (by norm_num)
      linarith
    have hback := abs_sub_abs_le_abs_sub
      (nearest (roundDecimals digits value)) (roundDecimals digits value)
    have hdecimal := abs_sub_abs_le_abs_sub (roundDecimals digits value) value
    calc
      |nearest (roundDecimals digits value)| ≤ 2 ^ (53 : ℤ) + 1 := by
        linarith
      _ < (2 : ℚ) ^ (54 : ℤ) := by norm_num
      _ ≤ (2 : ℚ) ^ (1024 : ℤ) :=
        zpow_le_zpow_right₀ (by norm_num) (by norm_num)

/-- What `float` makes of the decimals of a binary number. -/
theorem IsBinary64.ofRat_roundDecimals {value : ℚ}
    (hvalue : IsBinary64 value) {digits : ℕ} (hdigits : digits ≠ 0) :
    ∃ back, ofRat (roundDecimals digits value) = .finite back ∧
      roundDecimals digits back = roundDecimals digits value :=
  ⟨_, ofRat_of_lt (abs_nearest_roundDecimals_lt hvalue digits),
    roundDecimals_nearest_roundDecimals hvalue.representable hdigits⟩

theorem nonneg_of_ofRat {value number : ℚ} (hvalue : 0 ≤ value)
    (hfinite : ofRat value = .finite number) : 0 ≤ number := by
  rw [ofRat_eq] at hfinite
  split at hfinite
  next => cases hfinite
  next =>
    obtain rfl := PyFloat.finite.inj hfinite
    have hunit : (0 : ℚ) < 2 ^ unitExponent value := by positivity
    have hround := roundHalfEven_mono (div_nonneg hvalue hunit.le)
    rw [roundHalfEven_zero] at hround
    exact mul_nonneg (by exact_mod_cast hround) hunit.le

end PyFloat
end DessMonitor
