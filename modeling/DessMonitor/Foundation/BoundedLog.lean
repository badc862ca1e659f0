import Mathlib.Data.List.DropRight
import Mathlib.Tactic.SplitIfs

/-!
# Bounded logs and queues

A deque with a bound forgets its oldest entry for a new one, and a queue with
a bound refuses the new one.  The deque therefore always holds the end of
everything that was pushed.  What a queue passes on is a sublist of what it was
offered, and all of it as long as nothing was refused.
-/

namespace DessMonitor
namespace BoundedLog

variable {Entry : Type*} {bound : ℕ} {entries more : List Entry}
  {entry : Entry}

/-! ## Logs -/

/-- `deque.append` with `maxlen`. -/
def push (bound : ℕ) (entries : List Entry) (entry : Entry) : List Entry :=
  (entries ++ [entry]).rtake bound

@[simp] theorem length_rtake :
    (entries.rtake bound).length = min bound entries.length := by
  simp only [List.rtake, List.length_drop]
  omega

theorem rtake_of_length_le (hlength : entries.length ≤ bound) :
    entries.rtake bound = entries := by
  simp [List.rtake, Nat.sub_eq_zero_of_le hlength]

/-- What was forgotten before does not matter any more. -/
theorem rtake_append_rtake :
    (entries.rtake bound ++ more).rtake bound =
      (entries ++ more).rtake bound := by
  rcases Nat.le_total entries.length bound with hshort | hlong
  · rw [rtake_of_length_le hshort]
  · have hforgotten : entries.length - bound ≤ entries.length :=
      Nat.sub_le _ _
    have hend : (entries ++ more).length - bound =
        entries.length - bound + more.length := by
      simp only [List.length_append]
      omega
    have hkept : (entries.rtake bound ++ more).length - bound =
        more.length := by
      simp only [List.length_append, length_rtake]
      omega
    calc
      (entries.rtake bound ++ more).rtake bound =
          (entries.rtake bound ++ more).drop more.length := by
        rw [List.rtake, hkept]
      _ = ((entries ++ more).drop (entries.length - bound)).drop
          more.length := by
        rw [List.drop_append_of_le_length hforgotten, List.rtake]
      _ = (entries ++ more).rtake bound := by
        rw [List.drop_drop, List.rtake, hend]

theorem push_rtake :
    push bound (entries.rtake bound) entry =
      (entries ++ [entry]).rtake bound :=
  rtake_append_rtake

/-- The end of an end is an end. -/
theorem rtake_rtake {limit : ℕ} (hlimit : limit ≤ bound) :
    (entries.rtake bound).rtake limit = entries.rtake limit := by
  simp only [List.rtake, List.drop_drop, List.length_drop]
  congr 1
  omega

/-! ## Queues -/

/-- `put_nowait` on a queue with `maxsize`, whose refusal is ignored. -/
def offer (bound : ℕ) (entries : List Entry) (entry : Entry) : List Entry :=
  if entries.length < bound then entries ++ [entry] else entries

theorem offer_of_lt (hroom : entries.length < bound) :
    offer bound entries entry = entries ++ [entry] :=
  if_pos hroom

theorem offer_of_le (hfull : bound ≤ entries.length) :
    offer bound entries entry = entries :=
  if_neg (not_lt.mpr hfull)

theorem length_offer_le (hbound : entries.length ≤ bound) :
    (offer bound entries entry).length ≤ bound := by
  unfold offer
  split_ifs with hroom
  · simpa using Nat.succ_le_of_lt hroom
  · exact hbound

/-- What has left a queue and what waits in it, after some messages that did
not pass through it. -/
structure Delivers (first offered : List Entry) (lossless : Prop)
    (left waiting : List Entry) : Prop where
  passed : ∃ received, left ++ waiting = first ++ received ∧
    received.Sublist offered ∧ (lossless → received = offered)

variable {first offered left waiting : List Entry} {lossless : Prop}

theorem Delivers.opened : Delivers first [] lossless first [] := by
  constructor
  exact ⟨[], by simp⟩

theorem Delivers.offer
    (hdelivers : Delivers first offered lossless left waiting) :
    Delivers first (offered ++ [entry]) (lossless ∧ waiting.length < bound)
      left (offer bound waiting entry) := by
  obtain ⟨received, happend, hsublist, hall⟩ := hdelivers.passed
  constructor
  by_cases hroom : waiting.length < bound
  · refine ⟨received ++ [entry], ?_, hsublist.append_right [entry], ?_⟩
    · rw [offer_of_lt hroom, ← List.append_assoc, happend, List.append_assoc]
    · rintro ⟨hlossless, -⟩
      rw [hall hlossless]
  · refine ⟨received, ?_, ?_, fun hboth => absurd hboth.2 hroom⟩
    · rw [offer_of_le (not_lt.mp hroom), happend]
    · exact hsublist.trans (List.sublist_append_left offered [entry])

theorem Delivers.weaken {stronger : Prop}
    (hdelivers : Delivers first offered lossless left waiting)
    (himplies : stronger → lossless) :
    Delivers first offered stronger left waiting := by
  obtain ⟨received, happend, hsublist, hall⟩ := hdelivers.passed
  constructor
  exact ⟨received, happend, hsublist, fun hstronger =>
    hall (himplies hstronger)⟩

/-- The head of the queue leaves it. -/
theorem Delivers.pop
    (hdelivers : Delivers first offered lossless left (entry :: waiting)) :
    Delivers first offered lossless (left ++ [entry]) waiting := by
  obtain ⟨received, happend, hrest⟩ := hdelivers.passed
  constructor
  exact ⟨received, by simpa using happend, hrest⟩

end BoundedLog
end DessMonitor
