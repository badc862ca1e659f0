import Mathlib.Algebra.Order.Group.Basic
import Mathlib.Algebra.Order.Monoid.Basic
import Mathlib.Tactic

/-!
# Moments a gap apart

An action that is taken only when a gap has passed since the last time it was
taken.  The moments at which it was taken are then spaced, and a window of time
holds only so many of them.
-/

namespace DessMonitor
namespace Spacing

variable {Time : Type*} [AddCommGroup Time] [LinearOrder Time]

/-- Every moment is at least `gap` after the ones before it. -/
def Spaced (gap : Time) (times : List Time) : Prop :=
  times.Pairwise fun earlier later => earlier + gap ≤ later

section Rules

variable {gap time : Time} {times : List Time}

@[simp] theorem spaced_nil (gap : Time) : Spaced gap [] := List.Pairwise.nil

theorem spaced_append_singleton :
    Spaced gap (times ++ [time]) ↔
      Spaced gap times ∧ ∀ earlier ∈ times, earlier + gap ≤ time := by
  simp [Spaced, List.pairwise_append]

theorem Spaced.filter (hspaced : Spaced gap times) (keep : Time → Bool) :
    Spaced gap (times.filter keep) :=
  List.Pairwise.filter keep hspaced

variable [IsOrderedAddMonoid Time]

/-- From its first moment on, a spaced list needs a gap for every other one. -/
theorem Spaced.add_gaps_le {first limit : Time}
    (hspaced : Spaced gap (first :: times))
    (hlimit : ∀ time ∈ first :: times, time ≤ limit) :
    first + times.length • gap ≤ limit := by
  induction times generalizing first with
  | nil => simpa using hlimit first
  | cons second times ih =>
      have hpair := List.pairwise_cons.mp hspaced
      have hgap : first + gap ≤ second := hpair.1 second (by simp)
      have hrest : second + times.length • gap ≤ limit := by
        apply ih hpair.2
        intro time hmem
        exact hlimit time (List.mem_cons_of_mem first hmem)
      calc
        first + (second :: times).length • gap =
            first + gap + times.length • gap := by
          rw [List.length_cons, succ_nsmul']
          abel
        _ ≤ second + times.length • gap := by gcongr
        _ ≤ limit := hrest

/-- A window is longer than the gaps between the moments in it. -/
theorem Spaced.gaps_le_window {start stop : Time}
    (hspaced : Spaced gap times) (hwindow : start ≤ stop)
    (hmem : ∀ time ∈ times, start ≤ time ∧ time ≤ stop) :
    (times.length - 1) • gap ≤ stop - start := by
  cases times with
  | nil => simpa using hwindow
  | cons first times =>
      have hfirst : start ≤ first := (hmem first (by simp)).1
      have hgaps := hspaced.add_gaps_le fun time htime => (hmem time htime).2
      rw [List.length_cons, Nat.add_sub_cancel, le_sub_iff_add_le']
      calc
        start + times.length • gap ≤ first + times.length • gap := by gcongr
        _ ≤ stop := hgaps

theorem Spaced.gaps_le_filter {start stop : Time}
    (hspaced : Spaced gap times) (hwindow : start ≤ stop) :
    ((times.filter fun time => decide (start ≤ time ∧ time ≤ stop)).length -
      1) • gap ≤ stop - start := by
  apply (hspaced.filter _).gaps_le_window hwindow
  intro time htime
  simpa using (List.mem_filter.mp htime).2

end Rules

/-! ## Actions with a last moment -/

/-- The action was taken at `times`, and not after `last`. -/
structure Paced (gap : Time) (times : List Time) (last : Time) : Prop where
  spaced : Spaced gap times
  taken_le : ∀ time ∈ times, time ≤ last

section Paced

variable {gap last time : Time} {times : List Time}

theorem paced_nil (gap last : Time) : Paced gap [] last where
  spaced := spaced_nil gap
  taken_le := by simp

variable [IsOrderedAddMonoid Time]

/-- The action is taken when the gap has passed since the last time. -/
theorem Paced.take (hpaced : Paced gap times last) (hgap : 0 ≤ gap)
    (hready : gap ≤ time - last) : Paced gap (times ++ [time]) time where
  spaced := by
    rw [spaced_append_singleton]
    refine ⟨hpaced.spaced, ?_⟩
    intro earlier hmem
    have hearlier := hpaced.taken_le earlier hmem
    calc
      earlier + gap ≤ last + gap := by gcongr
      _ ≤ time := by rwa [add_comm, ← le_sub_iff_add_le]
  taken_le := by
    intro earlier hmem
    rcases List.mem_append.mp hmem with hold | hnew
    · have hlast : last ≤ time := sub_nonneg.mp (hgap.trans hready)
      exact (hpaced.taken_le earlier hold).trans hlast
    · exact (List.mem_singleton.mp hnew).le

end Paced

end Spacing
end DessMonitor
