import Mathlib.Data.List.Basic
import Mathlib.Tactic

/-!
# Replacing one entry of a list

Stores are lists indexed by the order of creation.  Replacing an entry is
invisible to a projection that the replacement does not change.
-/

namespace DessMonitor
namespace ListUpdate

variable {Entry View : Type*}

theorem map_set_of_eq {entries : List Entry} {index : ℕ}
    {entry replacement : Entry} {view : Entry → View}
    (hentry : entries[index]? = some entry)
    (hview : view replacement = view entry) :
    (entries.set index replacement).map view = entries.map view := by
  obtain ⟨hindex, rfl⟩ := List.getElem?_eq_some_iff.mp hentry
  have hmapped : index < (entries.map view).length := by
    simpa using hindex
  have hget : view entries[index] = (entries.map view)[index] := by
    rw [List.getElem_map]
  rw [List.map_set, hview, hget, List.set_getElem_self]

theorem getElem?_set_cases {entries : List Entry} {index other : ℕ}
    {replacement found : Entry}
    (hfound : (entries.set index replacement)[other]? = some found) :
    (other = index ∧ found = replacement) ∨
      (other ≠ index ∧ entries[other]? = some found) := by
  by_cases heq : index = other
  · subst heq
    left
    have hlength : index < entries.length := by
      by_contra hge
      rw [List.getElem?_eq_none] at hfound
      · cases hfound
      · rw [List.length_set]
        omega
    rw [List.getElem?_set_self hlength] at hfound
    exact ⟨rfl, (Option.some.inj hfound).symm⟩
  · rw [List.getElem?_set_ne heq] at hfound
    exact .inr ⟨fun hother => heq hother.symm, hfound⟩

theorem getElem?_append_singleton_cases {entries : List Entry} {index : ℕ}
    {last found : Entry}
    (hfound : (entries ++ [last])[index]? = some found) :
    entries[index]? = some found ∨
      (index = entries.length ∧ found = last) := by
  by_cases hlt : index < entries.length
  · rw [List.getElem?_append_left hlt] at hfound
    exact .inl hfound
  · right
    rw [List.getElem?_append_right (by omega)] at hfound
    cases hdiff : index - entries.length with
    | zero =>
        rw [hdiff] at hfound
        refine ⟨by omega, ?_⟩
        simpa using hfound.symm
    | succ _ =>
        rw [hdiff] at hfound
        simp at hfound

end ListUpdate
end DessMonitor
