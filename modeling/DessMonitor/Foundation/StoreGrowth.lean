import DessMonitor.Foundation.ListUpdate

/-!
# Stores that grow

A store lists objects in the order of their creation, and a program step may
change objects and create new ones.  `Grows moves fresh` says that every old
object changed by one of the allowed moves and every new one starts as it
should.  Both may depend on the index, which is the object's name.
-/

namespace DessMonitor
namespace StoreGrowth

open ListUpdate

variable {Entry : Type*} {moves : ℕ → Entry → Entry → Prop}
  {fresh : ℕ → Entry → Prop} {before middle after : List Entry}

structure Grows (moves : ℕ → Entry → Entry → Prop)
    (fresh : ℕ → Entry → Prop) (before after : List Entry) : Prop where
  kept : ∀ index entry, before[index]? = some entry →
    ∃ moved, after[index]? = some moved ∧ moves index entry moved
  added : ∀ index entry, before[index]? = none →
    after[index]? = some entry → fresh index entry

theorem Grows.cases (hgrows : Grows moves fresh before after) {index : ℕ}
    {moved : Entry} (hmoved : after[index]? = some moved) :
    (∃ entry, before[index]? = some entry ∧ moves index entry moved) ∨
      (before[index]? = none ∧ fresh index moved) := by
  cases hentry : before[index]? with
  | none => exact .inr ⟨rfl, hgrows.added index moved hentry hmoved⟩
  | some entry =>
      obtain ⟨found, hfound, hmove⟩ := hgrows.kept index entry hentry
      rw [hmoved] at hfound
      obtain rfl := Option.some.inj hfound
      exact .inl ⟨entry, rfl, hmove⟩

section Steps

variable (hrefl : ∀ index entry, moves index entry entry)
include hrefl

theorem Grows.refl (entries : List Entry) :
    Grows moves fresh entries entries := by
  constructor
  · intro index entry hentry
    exact ⟨entry, hentry, hrefl index entry⟩
  · intro index entry hnone hsome
    rw [hnone] at hsome
    cases hsome

theorem Grows.set {entries : List Entry} {index : ℕ} {entry moved : Entry}
    (hentry : entries[index]? = some entry)
    (hmove : moves index entry moved) :
    Grows moves fresh entries (entries.set index moved) := by
  constructor
  · intro other found hfound
    by_cases heq : index = other
    · subst heq
      rw [hentry] at hfound
      obtain rfl := Option.some.inj hfound
      have hlength := (List.getElem?_eq_some_iff.mp hentry).1
      exact ⟨moved, List.getElem?_set_self hlength, hmove⟩
    · refine ⟨found, ?_, hrefl other found⟩
      rw [List.getElem?_set_ne heq]
      exact hfound
  · intro other found hnone hfound
    rcases getElem?_set_cases hfound with ⟨rfl, _⟩ | ⟨_, hold⟩
    · rw [hentry] at hnone
      cases hnone
    · rw [hnone] at hold
      cases hold

theorem Grows.append {entries : List Entry} {last : Entry}
    (hfresh : fresh entries.length last) :
    Grows moves fresh entries (entries ++ [last]) := by
  constructor
  · intro index entry hentry
    have hlength := (List.getElem?_eq_some_iff.mp hentry).1
    refine ⟨entry, ?_, hrefl index entry⟩
    rw [List.getElem?_append_left hlength]
    exact hentry
  · intro index entry hnone hentry
    rcases getElem?_append_singleton_cases hentry with hold | ⟨rfl, rfl⟩
    · rw [hnone] at hold
      cases hold
    · exact hfresh

end Steps

theorem Grows.mapIdx {entries : List Entry} {change : ℕ → Entry → Entry}
    (hmove : ∀ index entry, entries[index]? = some entry →
      moves index entry (change index entry)) :
    Grows moves fresh entries (entries.mapIdx change) := by
  constructor
  · intro index entry hentry
    refine ⟨change index entry, ?_, hmove index entry hentry⟩
    rw [List.getElem?_mapIdx, hentry]
    rfl
  · intro index entry hnone hentry
    rw [List.getElem?_mapIdx, hnone] at hentry
    cases hentry

theorem Grows.map {entries : List Entry} {change : Entry → Entry}
    (hmove : ∀ index entry, entries[index]? = some entry →
      moves index entry (change entry)) :
    Grows moves fresh entries (entries.map change) := by
  constructor
  · intro index entry hentry
    refine ⟨change entry, ?_, hmove index entry hentry⟩
    rw [List.getElem?_map, hentry]
    rfl
  · intro index entry hnone hentry
    rw [List.getElem?_map, hnone] at hentry
    cases hentry

theorem Grows.trans
    (htrans : ∀ index first second third, moves index first second →
      moves index second third → moves index first third)
    (hclosed : ∀ index first second, fresh index first →
      moves index first second → fresh index second)
    (hleft : Grows moves fresh before middle)
    (hright : Grows moves fresh middle after) :
    Grows moves fresh before after := by
  constructor
  · intro index entry hentry
    obtain ⟨moved, hmoved, hmove⟩ := hleft.kept index entry hentry
    obtain ⟨last, hlast, hmove'⟩ := hright.kept index moved hmoved
    exact ⟨last, hlast, htrans index entry moved last hmove hmove'⟩
  · intro index last hnone hlast
    rcases hright.cases hlast with ⟨moved, hmoved, hmove⟩ | ⟨_, hfresh⟩
    · have hfresh := hleft.added index moved hnone hmoved
      exact hclosed index moved last hfresh hmove
    · exact hfresh

end StoreGrowth
end DessMonitor
