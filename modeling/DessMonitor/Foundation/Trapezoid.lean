import Mathlib.MeasureTheory.Integral.IntervalIntegral.Basic
import Mathlib.Tactic

/-!
# Integrals from samples

A signal is sampled at times that need not be even.  The trapezoids between
neighbouring samples sum up to its integral, up to how much the signal can
change between two of them.
-/

namespace DessMonitor
namespace Trapezoid

/-! ## Samples -/

section Times

variable {K L : Type*}

/-- The time of the last sample. -/
def lastTime (first : K × K) (rest : List (K × K)) : K :=
  ((first :: rest).getLast (List.cons_ne_nil first rest)).1

@[simp] theorem lastTime_nil (first : K × K) : lastTime first [] = first.1 :=
  rfl

@[simp] theorem lastTime_cons (first second : K × K) (rest : List (K × K)) :
    lastTime first (second :: rest) = lastTime second rest := by
  simp [lastTime]

theorem lastTime_map (hom : K → L) (first : K × K) (rest : List (K × K)) :
    lastTime (Prod.map hom hom first) (rest.map (Prod.map hom hom)) =
      hom (lastTime first rest) := by
  induction rest generalizing first with
  | nil => simp
  | cons second rest ih => simp [ih]

end Times

section Field

variable {K : Type*} [Field K]

/-- The area between two samples, each of a time and a value. -/
def area (first second : K × K) : K :=
  (second.1 - first.1) * (first.2 + second.2) / 2

def trapezoid : List (K × K) → K
  | [] => 0
  | [_] => 0
  | first :: second :: rest => area first second + trapezoid (second :: rest)

@[simp] theorem trapezoid_nil : trapezoid ([] : List (K × K)) = 0 := rfl

@[simp] theorem trapezoid_singleton (sample : K × K) :
    trapezoid [sample] = 0 := rfl

@[simp] theorem trapezoid_cons_cons (first second : K × K)
    (rest : List (K × K)) :
    trapezoid (first :: second :: rest) =
      area first second + trapezoid (second :: rest) := rfl

variable {L : Type*} [Field L]

theorem trapezoid_map (hom : K →+* L) (samples : List (K × K)) :
    trapezoid (samples.map (Prod.map hom hom)) = hom (trapezoid samples) := by
  induction samples with
  | nil => simp
  | cons first rest ih =>
      cases rest with
      | nil => simp
      | cons second rest =>
          simp only [List.map_cons] at ih ⊢
          simp [ih, area, map_ofNat]

end Field

/-! ## The integral of the signal -/

section Integral

variable {signal : ℝ → ℝ} {rate : NNReal} {gap : ℝ}

/-- Samples of the signal, no further apart than the gap. -/
structure Samples (signal : ℝ → ℝ) (gap : ℝ) (samples : List (ℝ × ℝ)) :
    Prop where
  sampled : ∀ sample ∈ samples, sample.2 = signal sample.1
  ordered : samples.IsChain fun earlier later =>
    earlier.1 ≤ later.1 ∧ later.1 - earlier.1 ≤ gap

theorem Samples.tail {first : ℝ × ℝ} {rest : List (ℝ × ℝ)}
    (hsamples : Samples signal gap (first :: rest)) :
    Samples signal gap rest where
  sampled := fun sample hmem =>
    hsamples.sampled sample (List.mem_cons_of_mem first hmem)
  ordered := hsamples.ordered.tail

/-- Between two samples the signal stays within what it can change. -/
theorem abs_integral_sub_area_le (hsignal : LipschitzWith rate signal)
    {start stop : ℝ} (hordered : start ≤ stop) :
    |(∫ time in start..stop, signal time) -
        area (start, signal start) (stop, signal stop)| ≤
      rate * (stop - start) * (stop - start) / 2 := by
  let mean := (signal start + signal stop) / 2
  have harea : area (start, signal start) (stop, signal stop) =
      ∫ _ in start..stop, mean := by
    rw [intervalIntegral.integral_const, smul_eq_mul]
    simp only [area, mean]
    ring
  have hclose : ∀ time ∈ Set.uIoc start stop,
      ‖signal time - mean‖ ≤ rate * (stop - start) / 2 := by
    intro time htime
    rw [Set.uIoc_of_le hordered] at htime
    have hleft := hsignal.dist_le_mul time start
    have hright := hsignal.dist_le_mul time stop
    rw [Real.dist_eq, Real.dist_eq, abs_of_nonneg (sub_nonneg.mpr htime.1.le)]
      at hleft
    rw [Real.dist_eq, Real.dist_eq, abs_of_nonpos (sub_nonpos.mpr htime.2)]
      at hright
    have hsplit : signal time - mean =
        ((signal time - signal start) + (signal time - signal stop)) / 2 := by
      simp only [mean]
      ring
    rw [hsplit, Real.norm_eq_abs, abs_div, abs_two]
    have htriangle := abs_add_le (signal time - signal start)
      (signal time - signal stop)
    have hsum : (rate : ℝ) * (time - start) + rate * -(time - stop) =
        rate * (stop - start) := by ring
    linarith
  have hintegrable : IntervalIntegrable signal MeasureTheory.volume start
      stop := hsignal.continuous.intervalIntegrable start stop
  rw [harea, ← intervalIntegral.integral_sub hintegrable
    intervalIntegrable_const, ← Real.norm_eq_abs]
  calc
    ‖∫ time in start..stop, (signal time - mean)‖ ≤
        rate * (stop - start) / 2 * |stop - start| :=
      intervalIntegral.norm_integral_le_of_norm_le_const hclose
    _ = rate * (stop - start) * (stop - start) / 2 := by
      rw [abs_of_nonneg (sub_nonneg.mpr hordered)]
      ring

/-- The trapezoids miss at most half of what the signal can change within a
gap, for as long as it was sampled. -/
theorem abs_integral_sub_trapezoid_le (hsignal : LipschitzWith rate signal)
    {first : ℝ × ℝ} {rest : List (ℝ × ℝ)}
    (hsamples : Samples signal gap (first :: rest)) :
    |(∫ time in first.1..lastTime first rest, signal time) -
        trapezoid (first :: rest)| ≤
      rate * gap * (lastTime first rest - first.1) / 2 := by
  induction rest generalizing first with
  | nil => simp
  | cons second rest ih =>
      obtain ⟨hordered, hgap⟩ :=
        (List.isChain_cons_cons.mp hsamples.ordered).1
      have hrest := ih hsamples.tail
      have hhead : |(∫ time in first.1..second.1, signal time) -
          area first second| ≤ rate * gap * (second.1 - first.1) / 2 := by
        have harea := abs_integral_sub_area_le hsignal hordered
        rw [← hsamples.sampled first (by simp),
          ← hsamples.sampled second (by simp)] at harea
        refine harea.trans ?_
        have helapsed : 0 ≤ second.1 - first.1 := sub_nonneg.mpr hordered
        gcongr
      have hsplit : (∫ time in first.1..lastTime second rest, signal time) =
          (∫ time in first.1..second.1, signal time) +
            ∫ time in second.1..lastTime second rest, signal time :=
        (intervalIntegral.integral_add_adjacent_intervals
          (hsignal.continuous.intervalIntegrable _ _)
          (hsignal.continuous.intervalIntegrable _ _)).symm
      rw [lastTime_cons, trapezoid_cons_cons, hsplit]
      calc
        |(∫ time in first.1..second.1, signal time) +
              (∫ time in second.1..lastTime second rest, signal time) -
            (area first second + trapezoid (second :: rest))| =
            |((∫ time in first.1..second.1, signal time) -
                area first second) +
              ((∫ time in second.1..lastTime second rest, signal time) -
                trapezoid (second :: rest))| := by
          congr 1
          ring
        _ ≤ rate * gap * (second.1 - first.1) / 2 +
            rate * gap * (lastTime second rest - second.1) / 2 :=
          (abs_add_le _ _).trans (add_le_add hhead hrest)
        _ = rate * gap * (lastTime second rest - first.1) / 2 := by ring

end Integral

end Trapezoid
end DessMonitor
