import Mathlib.Data.Rat.Floor
import Mathlib.Algebra.Order.Round
import Mathlib.Tactic

/-!
# Rounding rationals to decimals, ties to even

`roundHalfEven` is the integer nearest to a rational, with ties going to the
even neighbour.  `roundDecimals` applies it at a power of ten.  Both are
monotone, exact on their own range and off by at most half a unit in the last
place; `clamp` is the usual restriction to an interval.
-/

namespace DessMonitor
namespace DecimalRounding

/-! ## The nearest integer -/

def roundHalfEven (q : ℚ) : ℤ :=
  let below := ⌊q⌋
  let rest := q - below
  if rest < 1 / 2 then below
  else if 1 / 2 < rest then below + 1
  else if below % 2 = 0 then below
  else below + 1

@[simp] theorem roundHalfEven_intCast (n : ℤ) :
    roundHalfEven n = n := by
  simp [roundHalfEven]

theorem abs_roundHalfEven_sub_le (q : ℚ) :
    |(roundHalfEven q : ℚ) - q| ≤ 1 / 2 := by
  have hfloor := Int.floor_le q
  have hlt := Int.lt_floor_add_one q
  rw [abs_le]
  unfold roundHalfEven
  simp only
  split_ifs <;> push_cast <;> constructor <;> linarith

@[simp] theorem roundHalfEven_zero : roundHalfEven 0 = 0 := by
  simpa using roundHalfEven_intCast 0

/-- Another integer is at least as far. -/
theorem abs_roundHalfEven_sub_le_of_int (q : ℚ) (n : ℤ) :
    |(roundHalfEven q : ℚ) - q| ≤ |(n : ℚ) - q| := by
  have hhalf := abs_roundHalfEven_sub_le q
  by_cases heq : roundHalfEven q = n
  · rw [heq]
  · have hint : 1 ≤ |n - roundHalfEven q| :=
      Int.one_le_abs (sub_ne_zero.mpr (Ne.symm heq))
    have hapart : (1 : ℚ) ≤ |(n : ℚ) - roundHalfEven q| := by
      exact_mod_cast hint
    have htriangle := abs_sub_le (n : ℚ) q (roundHalfEven q)
    rw [abs_sub_comm q] at htriangle
    linarith

theorem roundHalfEven_eq_of_abs_sub_lt {q : ℚ} {n : ℤ}
    (hnear : |(n : ℚ) - q| < 1 / 2) : roundHalfEven q = n := by
  have hround := abs_roundHalfEven_sub_le_of_int q n
  have htriangle := abs_sub_le (roundHalfEven q : ℚ) q n
  rw [abs_sub_comm q] at htriangle
  have hapart : |((roundHalfEven q - n : ℤ) : ℚ)| < 1 := by
    push_cast
    linarith
  have hint : |roundHalfEven q - n| < 1 := by
    exact_mod_cast hapart
  exact sub_eq_zero.mp (Int.abs_lt_one_iff.mp hint)

theorem floor_le_roundHalfEven (q : ℚ) : ⌊q⌋ ≤ roundHalfEven q := by
  unfold roundHalfEven
  simp only
  split_ifs <;> omega

theorem roundHalfEven_le_floor_add_one (q : ℚ) :
    roundHalfEven q ≤ ⌊q⌋ + 1 := by
  unfold roundHalfEven
  simp only
  split_ifs <;> omega

theorem roundHalfEven_mono : Monotone roundHalfEven := by
  intro p q hpq
  have hfloor : ⌊p⌋ ≤ ⌊q⌋ := Int.floor_le_floor hpq
  rcases hfloor.lt_or_eq with hlt | heq
  · have hupper := roundHalfEven_le_floor_add_one p
    have hlower := floor_le_roundHalfEven q
    omega
  · unfold roundHalfEven
    simp only [heq]
    split_ifs <;> first | omega | (exfalso; linarith)

/-- Rounding stays within integer bounds. -/
theorem abs_roundHalfEven_le {q : ℚ} {n : ℤ} (hbound : |q| ≤ n) :
    |roundHalfEven q| ≤ n := by
  obtain ⟨hlower, hupper⟩ := abs_le.mp hbound
  rw [← Int.cast_neg] at hlower
  have hlow := roundHalfEven_mono hlower
  have hhigh := roundHalfEven_mono hupper
  rw [roundHalfEven_intCast] at hlow hhigh
  exact abs_le.mpr ⟨hlow, hhigh⟩

theorem roundHalfEven_neg (q : ℚ) :
    roundHalfEven (-q) = -roundHalfEven q := by
  by_cases hint : (⌊q⌋ : ℚ) = q
  · rw [← hint, ← Int.cast_neg, roundHalfEven_intCast,
      roundHalfEven_intCast]
  · have hlow : (⌊q⌋ : ℚ) < q := lt_of_le_of_ne (Int.floor_le q) hint
    have hhigh := Int.lt_floor_add_one q
    have hfloor : ⌊-q⌋ = -⌊q⌋ - 1 := by
      rw [Int.floor_eq_iff]
      push_cast
      constructor <;> linarith
    unfold roundHalfEven
    simp only [hfloor]
    push_cast
    split_ifs <;> first | omega | (exfalso; linarith)

/-! ## A fixed number of decimals -/

def roundDecimals (digits : ℕ) (q : ℚ) : ℚ :=
  roundHalfEven (q * 10 ^ digits) / 10 ^ digits

theorem roundDecimals_mono (digits : ℕ) : Monotone (roundDecimals digits) := by
  intro p q hpq
  have hscale : p * 10 ^ digits ≤ q * 10 ^ digits := by gcongr
  have hround := roundHalfEven_mono hscale
  unfold roundDecimals
  gcongr

theorem roundDecimals_of_mul_eq_intCast {digits : ℕ} {q : ℚ} {n : ℤ}
    (hscaled : q * 10 ^ digits = n) : roundDecimals digits q = q := by
  have hpos : (0 : ℚ) < 10 ^ digits := by positivity
  unfold roundDecimals
  rw [hscaled, roundHalfEven_intCast, ← hscaled]
  field_simp

@[simp] theorem roundDecimals_intCast (digits : ℕ) (n : ℤ) :
    roundDecimals digits n = n :=
  roundDecimals_of_mul_eq_intCast (n := n * 10 ^ digits) (by push_cast; rfl)

@[simp] theorem roundDecimals_zero (digits : ℕ) :
    roundDecimals digits 0 = 0 := by
  simpa using roundDecimals_intCast digits 0

theorem roundDecimals_neg (digits : ℕ) (q : ℚ) :
    roundDecimals digits (-q) = -roundDecimals digits q := by
  unfold roundDecimals
  rw [neg_mul, roundHalfEven_neg]
  push_cast
  rw [neg_div]

@[simp] theorem roundDecimals_hundred (digits : ℕ) :
    roundDecimals digits 100 = 100 := by
  simpa using roundDecimals_intCast digits 100

@[simp] theorem roundDecimals_roundDecimals (digits : ℕ) (q : ℚ) :
    roundDecimals digits (roundDecimals digits q) =
      roundDecimals digits q := by
  apply roundDecimals_of_mul_eq_intCast (n := roundHalfEven (q * 10 ^ digits))
  have hpos : (0 : ℚ) < 10 ^ digits := by positivity
  unfold roundDecimals
  field_simp

/-- Rounding moves a number by at most half a unit in the last place. -/
theorem abs_roundDecimals_sub_le (digits : ℕ) (q : ℚ) :
    |roundDecimals digits q - q| ≤ 1 / (2 * 10 ^ digits) := by
  have hpos : (0 : ℚ) < 10 ^ digits := by positivity
  have hhalf := abs_roundHalfEven_sub_le (q * 10 ^ digits)
  have hquotient : roundDecimals digits q - q =
      (roundHalfEven (q * 10 ^ digits) - q * 10 ^ digits) / 10 ^ digits := by
    unfold roundDecimals
    field_simp
  rw [hquotient, abs_div, abs_of_pos hpos, div_le_iff₀ hpos]
  calc
    |(roundHalfEven (q * 10 ^ digits) : ℚ) - q * 10 ^ digits| ≤ 1 / 2 := hhalf
    _ = 1 / (2 * 10 ^ digits) * 10 ^ digits := by field_simp

/-! ## Restriction to an interval -/

def clamp (value lo hi : ℚ) : ℚ :=
  max lo (min hi value)

theorem clamp_of_mem {value lo hi : ℚ} (hlo : lo ≤ value) (hhi : value ≤ hi) :
    clamp value lo hi = value := by
  simp [clamp, hlo, hhi]

theorem le_clamp (value lo hi : ℚ) : lo ≤ clamp value lo hi :=
  le_max_left _ _

theorem clamp_le {lo hi : ℚ} (hle : lo ≤ hi) (value : ℚ) :
    clamp value lo hi ≤ hi :=
  max_le hle (min_le_left _ _)

theorem clamp_mono (lo hi : ℚ) : Monotone fun value => clamp value lo hi := by
  intro first second hle
  exact max_le_max_left lo (min_le_min_left hi hle)

/-- Two numbers come no further apart. -/
theorem abs_clamp_sub_clamp_le (first second lo hi : ℚ) :
    |clamp first lo hi - clamp second lo hi| ≤ |first - second| := by
  have hmax := abs_max_sub_max_le_max lo (min hi first) lo (min hi second)
  have hmin := abs_min_sub_min_le_max hi first hi second
  rw [sub_self, abs_zero] at hmax hmin
  calc
    |clamp first lo hi - clamp second lo hi| ≤
        max 0 |min hi first - min hi second| := hmax
    _ = |min hi first - min hi second| := max_eq_right (abs_nonneg _)
    _ ≤ max 0 |first - second| := hmin
    _ = |first - second| := max_eq_right (abs_nonneg _)

end DecimalRounding
end DessMonitor
