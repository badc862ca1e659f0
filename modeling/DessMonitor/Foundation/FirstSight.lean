import Mathlib.Data.List.Nodup
import Mathlib.Tactic

/-!
# Reporting what is seen for the first time

A watch remembers the keys of the items that it was shown.  An item with a new
key is reported if it is wanted, and its key is never reported again.
-/

namespace DessMonitor
namespace FirstSight

variable {Item Key : Type*}

structure Watch (Key : Type*) where
  known : List Key
  reported : List Key

/-- One item is shown. -/
def Watch.look [DecidableEq Key] (key : Item → Key) (wanted : Item → Bool) (watch : Watch Key)
    (item : Item) : Watch Key :=
  if key item ∈ watch.known then watch
  else
    { known := watch.known ++ [key item]
      reported :=
        if wanted item then watch.reported ++ [key item]
        else watch.reported }

def Watch.scan [DecidableEq Key] (key : Item → Key) (wanted : Item → Bool) (watch : Watch Key)
    (items : List Item) : Watch Key :=
  items.foldl (Watch.look key wanted) watch

/-- The first item with this key was wanted. -/
def FirstWanted (key : Item → Key) (wanted : Item → Bool)
    (items : List Item) (k : Key) : Prop :=
  ∃ earlier item later, items = earlier ++ item :: later ∧ key item = k ∧
    k ∉ earlier.map key ∧ wanted item = true

section Scan

variable {key : Item → Key} {wanted : Item → Bool} {items : List Item}
  {k : Key}

theorem firstWanted_nil : ¬ FirstWanted key wanted [] k := by
  rintro ⟨earlier, item, later, hitems, -⟩
  simp at hitems

theorem firstWanted_cons (item : Item) (items : List Item) :
    FirstWanted key wanted (item :: items) k ↔
      (key item = k ∧ wanted item = true) ∨
        (key item ≠ k ∧ FirstWanted key wanted items k) := by
  constructor
  · rintro ⟨earlier, first, later, hitems, hkey, hnew, hwanted⟩
    cases earlier with
    | nil =>
        obtain ⟨rfl, rfl⟩ := by
          simpa using hitems
        exact .inl ⟨hkey, hwanted⟩
    | cons head earlier =>
        obtain ⟨rfl, rfl⟩ := by
          simpa using hitems
        simp only [List.map_cons, List.mem_cons, not_or] at hnew
        exact .inr ⟨Ne.symm hnew.1,
          earlier, first, later, rfl, hkey, hnew.2, hwanted⟩
  · rintro (⟨hkey, hwanted⟩ |
      ⟨hne, earlier, first, later, rfl, hkey, hnew, hwanted⟩)
    · exact ⟨[], item, items, rfl, hkey, by simp, hwanted⟩
    · refine ⟨item :: earlier, first, later, rfl, hkey, ?_, hwanted⟩
      simp [hnew, Ne.symm hne]

variable [DecidableEq Key] {watch : Watch Key}

theorem scan_append (items more : List Item) :
    watch.scan key wanted (items ++ more) =
      (watch.scan key wanted items).scan key wanted more :=
  List.foldl_append

/-- Reported is what was wanted when it was first seen, and was not known
before. -/
theorem mem_reported_scan :
    k ∈ (watch.scan key wanted items).reported ↔
      k ∈ watch.reported ∨
        (k ∉ watch.known ∧ FirstWanted key wanted items k) := by
  induction items generalizing watch with
  | nil => simp [Watch.scan, firstWanted_nil]
  | cons item items ih =>
      have hscan : watch.scan key wanted (item :: items) =
          (watch.look key wanted item).scan key wanted items := rfl
      rw [hscan, ih, firstWanted_cons, Watch.look]
      by_cases hknown : key item ∈ watch.known
      · rw [if_pos hknown]
        have hne : k ∉ watch.known → key item ≠ k := by
          rintro hnew rfl
          exact hnew hknown
        constructor
        · rintro (hold | ⟨hnew, hfirst⟩)
          · exact .inl hold
          · exact .inr ⟨hnew, .inr ⟨hne hnew, hfirst⟩⟩
        · rintro (hold | ⟨hnew, ⟨hkey, -⟩ | ⟨-, hfirst⟩⟩)
          · exact .inl hold
          · exact absurd hkey (hne hnew)
          · exact .inr ⟨hnew, hfirst⟩
      · rw [if_neg hknown]
        by_cases hkey : key item = k
        · subst hkey
          cases hwanted : wanted item <;> simp [hknown]
        · have hother : k ≠ key item := Ne.symm hkey
          cases hwanted : wanted item <;> simp [hkey, hother]

/-- No key is reported twice. -/
theorem nodup_reported_scan (hnodup : watch.reported.Nodup)
    (hknown : watch.reported ⊆ watch.known) :
    (watch.scan key wanted items).reported.Nodup := by
  induction items generalizing watch with
  | nil => exact hnodup
  | cons item items ih =>
      have hscan : watch.scan key wanted (item :: items) =
          (watch.look key wanted item).scan key wanted items := rfl
      rw [hscan, Watch.look]
      split
      next => exact ih hnodup hknown
      next hnew =>
        have hfresh : key item ∉ watch.reported :=
          fun hmem => hnew (hknown hmem)
        apply ih
        · dsimp only
          split
          next =>
            rw [← List.concat_eq_append]
            exact hnodup.concat hfresh
          next => exact hnodup
        · dsimp only
          split
          next =>
            apply List.append_subset.mpr
            refine ⟨?_, List.subset_append_right _ _⟩
            intro other hmem
            exact List.mem_append_left _ (hknown hmem)
          next =>
            intro other hmem
            exact List.mem_append_left _ (hknown hmem)

end Scan

end FirstSight
end DessMonitor
