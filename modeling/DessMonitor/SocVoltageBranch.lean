import DessMonitor.SocEstimatorInvariant

/-!
# The voltage branch of a tick

A tick of a configured estimator that neither mirrors the BMS nor lacks its
sync voltage counts the debounce up or down.  From the third count on it snaps
the charge to the capacity; before that the charge is the integral, kept
between zero and the capacity.
-/

namespace DessMonitor
namespace SocCore

open DecimalRounding

/-! ## The branch -/

structure SocEstimator.VoltageBranch (est : SocEstimator) (tick : Tick)
    (capacity syncVoltage : ℚ) : Prop where
  configured : est.capacityAh = some capacity
  positive : 0 < capacity
  notMirrored : est.mirroredSoc tick = none
  reference : tick.syncVoltage = some syncVoltage

theorem SocEstimator.VoltageBranch.unique {self : SocEstimator} {tick : Tick}
    {capacity capacity' syncVoltage syncVoltage' : ℚ}
    (hbranch : self.VoltageBranch tick capacity syncVoltage)
    (hbranch' : self.VoltageBranch tick capacity' syncVoltage') :
    capacity = capacity' ∧ syncVoltage = syncVoltage' :=
  ⟨Option.some.inj (hbranch.configured.symm.trans hbranch'.configured),
    Option.some.inj (hbranch.reference.symm.trans hbranch'.reference)⟩

/-- `tail_current_a` under this capacity. -/
def SocEstimator.tailCurrentA (self : SocEstimator) (capacity : ℚ) : ℚ :=
  capacity * (chemistryParams self.mode).tailCRate

/-- `at_voltage and at_tail`. -/
def SocEstimator.AtFull (self : SocEstimator) (tick : Tick)
    (capacity syncVoltage : ℚ) : Prop :=
  vFullThreshold syncVoltage tick.floatingVoltage ≤ tick.voltage ∧
    |tick.signedCurrentA| ≤ self.tailCurrentA capacity

/-- The debounce counter after the tick. -/
def SocEstimator.countedTicks (self : SocEstimator) (tick : Tick)
    (capacity syncVoltage : ℚ) : ℕ :=
  nextSyncTicks self.atSyncTicks tick
    (vFullThreshold syncVoltage tick.floatingVoltage)
    (self.tailCurrentA capacity)

/-- The tick resets the charge to the capacity. -/
def SocEstimator.Snaps (self : SocEstimator) (tick : Tick) : Prop :=
  ∃ capacity syncVoltage, self.VoltageBranch tick capacity syncVoltage ∧
    syncDebounceTicks ≤ self.countedTicks tick capacity syncVoltage

theorem SocEstimator.VoltageBranch.snaps_iff {self : SocEstimator}
    {tick : Tick} {capacity syncVoltage : ℚ}
    (hbranch : self.VoltageBranch tick capacity syncVoltage) :
    self.Snaps tick ↔
      syncDebounceTicks ≤ self.countedTicks tick capacity syncVoltage := by
  constructor
  · rintro ⟨capacity', syncVoltage', hbranch', hcounted⟩
    obtain ⟨rfl, rfl⟩ := hbranch.unique hbranch'
    exact hcounted
  · intro hcounted
    exact ⟨capacity, syncVoltage, hbranch, hcounted⟩

/-! ## Counting -/

section Counting

variable {self : SocEstimator} {tick : Tick} {capacity syncVoltage : ℚ}

theorem SocEstimator.countedTicks_of_atFull
    (hfull : self.AtFull tick capacity syncVoltage) :
    self.countedTicks tick capacity syncVoltage = self.atSyncTicks + 1 :=
  if_pos hfull

theorem SocEstimator.countedTicks_of_discharge
    (hfull : ¬ self.AtFull tick capacity syncVoltage)
    (hdischarge : tick.signedCurrentA < -self.tailCurrentA capacity) :
    self.countedTicks tick capacity syncVoltage = 0 :=
  (if_neg hfull).trans (if_pos hdischarge)

theorem SocEstimator.countedTicks_of_decay
    (hfull : ¬ self.AtFull tick capacity syncVoltage)
    (hdischarge : ¬ tick.signedCurrentA < -self.tailCurrentA capacity) :
    self.countedTicks tick capacity syncVoltage = self.atSyncTicks - 1 :=
  (if_neg hfull).trans (if_neg hdischarge)

end Counting

/-! ## What a tick does -/

section Integration

variable (self : SocEstimator) (tick : Tick) (effective : ℚ)

/-- Integrating touches the charge and the baseline of the trapezoid. -/
theorem SocEstimator.integrate_fields :
    (self.integrate tick effective).mode = self.mode ∧
      (self.integrate tick effective).atSyncTicks = self.atSyncTicks ∧
      (self.integrate tick effective).lastSyncAt = self.lastSyncAt := by
  unfold SocEstimator.integrate
  dsimp only
  split <;> exact ⟨rfl, rfl, rfl⟩

end Integration

/-- A tick of the voltage branch. -/
structure SocEstimator.VoltageTick (est : SocEstimator) (tick : Tick)
    (capacity syncVoltage : ℚ) (next : SocEstimator) : Prop where
  capacityAh : next.capacityAh = est.capacityAh
  mode : next.mode = est.mode
  ticks : next.atSyncTicks = est.countedTicks tick capacity syncVoltage
  stamp : next.lastSyncAt =
    if est.countedTicks tick capacity syncVoltage = syncDebounceTicks then
      tick.wallNow.orElse fun _ => est.lastSyncAt
    else est.lastSyncAt
  shown : next.socPercent =
    some (round2 (chargePercent next.accumulatedChargeAh capacity))
  snapped : est.Snaps tick → next.accumulatedChargeAh = capacity
  followed : ¬ est.Snaps tick → ∃ effective,
    effectiveCurrentA (chemistryParams est.mode) tick.signedCurrentA =
        .ok effective ∧
      next.accumulatedChargeAh =
        clamp (est.integrate tick effective).accumulatedChargeAh 0 capacity

theorem SocEstimator.VoltageBranch.update_eq {self : SocEstimator}
    {tick : Tick} {capacity syncVoltage effective : ℚ}
    (hbranch : self.VoltageBranch tick capacity syncVoltage)
    (heffective : effectiveCurrentA (chemistryParams self.mode)
      tick.signedCurrentA = .ok effective) :
    self.update tick = (self.integrate tick effective).settle capacity
      (self.countedTicks tick capacity syncVoltage) tick :=
  update_of_reference hbranch.configured hbranch.positive hbranch.notMirrored
    hbranch.reference heffective

theorem SocEstimator.VoltageBranch.update {self : SocEstimator} {tick : Tick}
    {capacity syncVoltage : ℚ}
    (hbranch : self.VoltageBranch tick capacity syncVoltage) :
    ∃ next, self.update tick = .ok next ∧
      self.VoltageTick tick capacity syncVoltage next := by
  obtain ⟨effective, heffective⟩ :=
    effectiveCurrentA_ok self.mode tick.signedCurrentA
  have hupdate := hbranch.update_eq heffective
  have hsnaps := hbranch.snaps_iff
  have hcapacity := self.integrate_capacityAh tick effective
  obtain ⟨hmode, -, hstamp⟩ := self.integrate_fields tick effective
  by_cases hcounted : syncDebounceTicks ≤
      self.countedTicks tick capacity syncVoltage
  · rw [settle_snap _ capacity hcounted] at hupdate
    have hfull : clamp 100 0 100 = 100 := clamp_of_mem (by norm_num) le_rfl
    refine ⟨_, hupdate, hcapacity, hmode, rfl, ?_, ?_, fun _ => rfl, ?_⟩
    · rw [hstamp]
    · rw [hfull, chargePercent, div_self hbranch.positive.ne', one_mul]
    · intro hno
      exact absurd (hsnaps.mpr hcounted) hno
  · have hne : self.countedTicks tick capacity syncVoltage ≠
        syncDebounceTicks := by
      omega
    rw [settle_clamp _ hbranch.positive hcounted] at hupdate
    have hpercent := chargePercent_mem hbranch.positive
      (le_clamp _ _ _) (clamp_le hbranch.positive.le
        (self.integrate tick effective).accumulatedChargeAh)
    refine ⟨_, hupdate, hcapacity, hmode, rfl, ?_, ?_, ?_, ?_⟩
    · rw [if_neg hne]
      exact hstamp
    · exact congrArg (fun percent => some (round2 percent))
        (clamp_of_mem hpercent.1 hpercent.2)
    · intro hyes
      exact absurd (hsnaps.mp hyes) hcounted
    · intro _
      exact ⟨effective, heffective, rfl⟩

/-- A tick forgets the percentage, mirrors the BMS, or takes the voltage
branch. -/
theorem SocEstimator.update_cases (self : SocEstimator) (tick : Tick) :
    self.update tick = .ok { self with socPercent := none } ∨
      (∃ capacity bmsSoc, self.capacityAh = some capacity ∧ 0 < capacity ∧
        self.mirroredSoc tick = some bmsSoc ∧
        self.update tick = .ok (self.mirrorBms capacity bmsSoc tick)) ∨
      ∃ capacity syncVoltage, self.VoltageBranch tick capacity syncVoltage := by
  rcases Option.eq_none_or_eq_some self.capacityAh with
    hcapacity | ⟨capacity, hcapacity⟩
  · exact .inl (self.update_of_unconfigured hcapacity tick)
  by_cases hpositive : 0 < capacity
  · rcases self.update_of_configured hcapacity hpositive tick with
      ⟨bmsSoc, hmirror, hupdate⟩ | ⟨-, -, hupdate⟩ |
      ⟨syncVoltage, -, hmirror, hreference, -, -⟩
    · exact .inr (.inl ⟨capacity, bmsSoc, hcapacity, hpositive, hmirror,
        hupdate⟩)
    · exact .inl hupdate
    · exact .inr (.inr ⟨capacity, syncVoltage, hcapacity, hpositive, hmirror,
        hreference⟩)
  · left
    simp [SocEstimator.update, hcapacity, not_lt.mp hpositive]

end SocCore
end DessMonitor
