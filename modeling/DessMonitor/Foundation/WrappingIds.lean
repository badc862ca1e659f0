import Mathlib.Data.Set.Insert
import Mathlib.Data.Nat.ModEq
import Mathlib.Tactic

/-!
# Requests under wrapping ids

A channel numbers everything it sends but puts only the number modulo a period
on the wire.  Some numbers belong to requests, and a table keeps the request
pending under each id.  A later request may take over the id of an earlier
one, so an id names its request only within one period.
-/

namespace DessMonitor
namespace WrappingIds

variable {Request : Type*}

/-- `registered` holds the numbers given to requests; `pending` keeps, under
an id, only the latest request with that id. -/
structure Correlated (period issued : ℕ) (registered : Set (ℕ × Request))
    (pending : ℕ → Option Request) : Prop where
  issued_le : ∀ number request, (number, request) ∈ registered →
    number ≤ issued
  unique : ∀ number first second, (number, first) ∈ registered →
    (number, second) ∈ registered → first = second
  latest : ∀ id request, pending id = some request →
    ∃ number, (number, request) ∈ registered ∧ number % period = id ∧
      ∀ other owner, (other, owner) ∈ registered → other % period = id →
        other ≤ number

section Rules

variable {period issued : ℕ} {registered : Set (ℕ × Request)}
  {pending : ℕ → Option Request}

theorem Correlated.initial (period : ℕ) :
    Correlated period 0 (∅ : Set (ℕ × Request)) fun _ => none := by
  constructor
  · intro number request hmem
    cases hmem
  · intro number first second hfirst
    cases hfirst
  · intro id request hpending
    cases hpending

theorem Correlated.skip
    (hcorrelated : Correlated period issued registered pending) :
    Correlated period (issued + 1) registered pending := by
  constructor
  · intro number request hmem
    have hle := hcorrelated.issued_le number request hmem
    omega
  · exact hcorrelated.unique
  · exact hcorrelated.latest

theorem Correlated.forget
    (hcorrelated : Correlated period issued registered pending)
    {fewer : ℕ → Option Request}
    (hfewer : ∀ id request, fewer id = some request →
      pending id = some request) :
    Correlated period issued registered fewer := by
  constructor
  · exact hcorrelated.issued_le
  · exact hcorrelated.unique
  · intro id request hpending
    exact hcorrelated.latest id request (hfewer id request hpending)

/-- Registering under the next number replaces what its id named before. -/
theorem Correlated.register
    (hcorrelated : Correlated period issued registered pending)
    (request : Request) {more : ℕ → Option Request}
    (hself : more ((issued + 1) % period) = some request)
    (hothers : ∀ id, id ≠ (issued + 1) % period → more id = pending id) :
    Correlated period (issued + 1)
      (insert (issued + 1, request) registered) more := by
  have hbelow : ∀ number owner, (number, owner) ∈ registered →
      number < issued + 1 := by
    intro number owner hmem
    have hle := hcorrelated.issued_le number owner hmem
    omega
  constructor
  · intro number owner hmem
    rcases Set.mem_insert_iff.mp hmem with heq | hold
    · have hnumber : number = issued + 1 := congrArg Prod.fst heq
      omega
    · have hlt := hbelow number owner hold
      omega
  · intro number first second hfirst hsecond
    rcases Set.mem_insert_iff.mp hfirst with heq | hold <;>
      rcases Set.mem_insert_iff.mp hsecond with heq' | hold'
    · exact (congrArg Prod.snd heq).trans (congrArg Prod.snd heq').symm
    · have hnumber : number = issued + 1 := congrArg Prod.fst heq
      have hlt := hbelow number second hold'
      omega
    · have hnumber : number = issued + 1 := congrArg Prod.fst heq'
      have hlt := hbelow number first hold
      omega
    · exact hcorrelated.unique number first second hold hold'
  · intro id owner hpending
    by_cases hid : id = (issued + 1) % period
    · rw [hid, hself] at hpending
      obtain rfl := Option.some.inj hpending
      refine ⟨issued + 1, Set.mem_insert _ _, hid.symm, ?_⟩
      intro other owner' hmem _
      rcases Set.mem_insert_iff.mp hmem with heq | hold
      · have hother : other = issued + 1 := congrArg Prod.fst heq
        omega
      · have hlt := hbelow other owner' hold
        omega
    · rw [hothers id hid] at hpending
      obtain ⟨number, hmem, hnumber, hlatest⟩ :=
        hcorrelated.latest id owner hpending
      refine ⟨number, Set.mem_insert_of_mem _ hmem, hnumber, ?_⟩
      intro other owner' hmem' hother
      rcases Set.mem_insert_iff.mp hmem' with heq | hold
      · have hlast : other = issued + 1 := congrArg Prod.fst heq
        rw [hlast] at hother
        exact absurd hother.symm hid
      · exact hlatest other owner' hold hother

/-- Within one period of its registration an id names its request or none. -/
theorem Correlated.owner_eq
    (hcorrelated : Correlated period issued registered pending)
    {number : ℕ} {request found : Request}
    (hregistered : (number, request) ∈ registered)
    (hwithin : issued < number + period)
    (hfound : pending (number % period) = some found) :
    found = request := by
  obtain ⟨latest, hlatest, hid, hmax⟩ := hcorrelated.latest _ found hfound
  have hle : number ≤ latest := hmax number request hregistered rfl
  have hbound := hcorrelated.issued_le latest found hlatest
  have hdvd : period ∣ latest - number :=
    (Nat.modEq_iff_dvd' hle).mp hid.symm
  have hzero : latest - number = 0 := by
    apply Nat.eq_zero_of_dvd_of_lt hdvd
    omega
  have hsame : latest = number := by omega
  rw [hsame] at hlatest
  exact hcorrelated.unique number found request hlatest hregistered

end Rules

end WrappingIds
end DessMonitor
