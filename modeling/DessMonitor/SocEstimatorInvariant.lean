import DessMonitor.SocEstimatorModel

/-!
# The representation invariant of the state-of-charge estimator

A configured estimator holds a charge between zero and its capacity, and the
percentage it shows is that charge, rounded or not.  Every call preserves
this and none of them divides by zero.

`Anchored` is the inductive form: the percentage equals the charge fraction
or its rounding.  `Representation` is what a reader of the entity relies on,
with the rounding error as a bound.
-/

namespace DessMonitor
namespace SocCore

open DecimalRounding
open LabelledRun

def chargePercent (charge capacity : ℚ) : ℚ :=
  charge / capacity * 100

/-- What holds of an estimator between two calls. -/
structure SocEstimator.Anchored (est : SocEstimator) : Prop where
  capacity_pos : ∀ capacity, est.capacityAh = some capacity → 0 < capacity
  charge_nonneg : ∀ capacity, est.capacityAh = some capacity →
    0 ≤ est.accumulatedChargeAh
  charge_le : ∀ capacity, est.capacityAh = some capacity →
    est.accumulatedChargeAh ≤ capacity
  soc_mem : ∀ soc, est.socPercent = some soc → 0 ≤ soc ∧ soc ≤ 100
  displays : ∀ capacity soc, est.capacityAh = some capacity →
    est.socPercent = some soc →
      soc = chargePercent est.accumulatedChargeAh capacity ∨
        soc = round2 (chargePercent est.accumulatedChargeAh capacity)

theorem round2_mem {value : ℚ} (hmem : 0 ≤ value ∧ value ≤ 100) :
    0 ≤ round2 value ∧ round2 value ≤ 100 := by
  have hlower := roundDecimals_mono 2 hmem.1
  have hupper := roundDecimals_mono 2 hmem.2
  rw [roundDecimals_zero] at hlower
  rw [roundDecimals_hundred] at hupper
  exact ⟨hlower, hupper⟩

theorem chargePercent_mem {charge capacity : ℚ}
    (hcapacity : 0 < capacity) (hnonneg : 0 ≤ charge)
    (hle : charge ≤ capacity) :
    0 ≤ chargePercent charge capacity ∧
      chargePercent charge capacity ≤ 100 := by
  have hfrac : charge / capacity ≤ 1 := (div_le_one hcapacity).mpr hle
  have hpos : 0 ≤ charge / capacity := div_nonneg hnonneg hcapacity.le
  unfold chargePercent
  constructor <;> linarith

theorem chargePercent_mul_self {frac capacity : ℚ} (hcapacity : 0 < capacity) :
    chargePercent (frac * capacity) capacity = frac * 100 := by
  unfold chargePercent
  rw [mul_div_cancel_right₀ frac hcapacity.ne']

/-! ## Introducing the invariant -/

theorem SocEstimator.anchored_of_unconfigured {self : SocEstimator}
    (hcapacity : self.capacityAh = none)
    (hsoc : ∀ soc, self.socPercent = some soc → 0 ≤ soc ∧ soc ≤ 100) :
    self.Anchored := by
  constructor <;> simp_all

theorem SocEstimator.anchored_of_configured {self : SocEstimator}
    {capacity : ℚ} (hconfigured : self.capacityAh = some capacity)
    (hcapacity : 0 < capacity)
    (hnonneg : 0 ≤ self.accumulatedChargeAh)
    (hle : self.accumulatedChargeAh ≤ capacity)
    (hdisplays : ∀ soc, self.socPercent = some soc →
      soc = chargePercent self.accumulatedChargeAh capacity ∨
        soc = round2 (chargePercent self.accumulatedChargeAh capacity)) :
    self.Anchored := by
  have hunique : ∀ other, self.capacityAh = some other →
      other = capacity := by
    intro other hother
    rw [hconfigured] at hother
    exact (Option.some.inj hother).symm
  have hpercent := chargePercent_mem hcapacity hnonneg hle
  constructor
  · intro other hother
    rwa [hunique other hother]
  · intro other _
    exact hnonneg
  · intro other hother
    rwa [hunique other hother]
  · intro soc hsoc
    rcases hdisplays soc hsoc with rfl | rfl
    · exact hpercent
    · exact round2_mem hpercent
  · intro other soc hother hsoc
    rw [hunique other hother]
    exact hdisplays soc hsoc

/-- The invariant reads three fields only. -/
theorem SocEstimator.Anchored.of_fields_eq {self other : SocEstimator}
    (hanchored : self.Anchored)
    (hcapacity : other.capacityAh = self.capacityAh)
    (hcharge : other.accumulatedChargeAh = self.accumulatedChargeAh)
    (hsoc : other.socPercent = self.socPercent) :
    other.Anchored := by
  constructor
  · rw [hcapacity]
    exact hanchored.capacity_pos
  · rw [hcapacity, hcharge]
    exact hanchored.charge_nonneg
  · rw [hcapacity, hcharge]
    exact hanchored.charge_le
  · rw [hsoc]
    exact hanchored.soc_mem
  · rw [hcapacity, hcharge, hsoc]
    exact hanchored.displays

theorem SocEstimator.Anchored.forgetSoc {self : SocEstimator}
    (hanchored : self.Anchored) :
    ({ self with socPercent := none } : SocEstimator).Anchored where
  capacity_pos := hanchored.capacity_pos
  charge_nonneg := hanchored.charge_nonneg
  charge_le := hanchored.charge_le
  soc_mem := by simp
  displays := by simp

/-! ## Configuration calls -/

theorem SocEstimator.Anchored.setMode {self : SocEstimator}
    (hanchored : self.Anchored) (text : String) :
    (self.setMode text).Anchored := by
  obtain ⟨hcapacity, hcharge, hsoc⟩ := self.setMode_fields text
  exact hanchored.of_fields_eq hcapacity hcharge hsoc

theorem SocEstimator.Anchored.setDeadband {self : SocEstimator}
    (hanchored : self.Anchored) (enabled : Bool) (window noiseFloor : ℚ) :
    (self.setDeadband enabled window noiseFloor).Anchored :=
  hanchored.of_fields_eq rfl rfl rfl

theorem SocEstimator.Anchored.unconfigure {self : SocEstimator}
    (hanchored : self.Anchored) :
    ({ self with capacityAh := none } : SocEstimator).Anchored :=
  anchored_of_unconfigured rfl hanchored.soc_mem

theorem SocEstimator.Anchored.setCapacity {self : SocEstimator}
    (hanchored : self.Anchored) (value : Option ℚ) :
    ∃ next, self.setCapacity value = .ok next ∧ next.Anchored := by
  cases value with
  | none => exact ⟨_, rfl, hanchored.unconfigure⟩
  | some value =>
      by_cases hvalue : value ≤ 0
      · exact ⟨_, self.setCapacity_of_nonpos hvalue, hanchored.unconfigure⟩
      have hpos : 0 < value := not_le.mp hvalue
      have hnonneg : ∀ frac, 0 ≤ clamp frac 0 1 * value := fun frac =>
        mul_nonneg (le_clamp _ _ _) hpos.le
      have hle : ∀ frac, clamp frac 0 1 * value ≤ value := fun frac =>
        mul_le_of_le_one_left hpos.le (clamp_le zero_le_one _)
      cases hcapacity : self.capacityAh with
      | none =>
          cases hsoc : self.socPercent with
          | none =>
              refine ⟨_, setCapacity_default hpos hcapacity hsoc, ?_⟩
              apply anchored_of_configured rfl hpos hpos.le le_rfl
              intro shown hshown
              left
              rw [chargePercent, div_self hpos.ne', one_mul]
              exact (Option.some.inj hshown).symm
          | some soc =>
              refine ⟨_, setCapacity_anchor hpos hcapacity hsoc, ?_⟩
              apply anchored_of_configured rfl hpos (hnonneg _) (hle _)
              intro shown hshown
              left
              have hmem := hanchored.soc_mem soc hsoc
              have hclamp : clamp (soc / 100) 0 1 = soc / 100 := by
                apply clamp_of_mem <;> linarith
              have hsame : soc = shown :=
                Option.some.inj (hsoc.symm.trans hshown)
              rw [chargePercent_mul_self hpos, hclamp, ← hsame]
              ring
      | some old =>
          have hold := hanchored.capacity_pos old hcapacity
          refine ⟨_, setCapacity_edit hpos hold hcapacity, ?_⟩
          apply anchored_of_configured rfl hpos (hnonneg _) (hle _)
          intro shown hshown
          right
          rw [chargePercent_mul_self hpos]
          exact (Option.some.inj hshown).symm

/-! ## Ticks -/

@[simp] theorem SocEstimator.integrate_capacityAh (self : SocEstimator)
    (tick : Tick) (effective : ℚ) :
    (self.integrate tick effective).capacityAh = self.capacityAh := by
  unfold SocEstimator.integrate
  simp only
  split <;> rfl

/-- Whatever the integral did, settling restores the invariant. -/
theorem SocEstimator.settle_anchored (self : SocEstimator) {capacity : ℚ}
    (hcapacity : self.capacityAh = some capacity) (hpos : 0 < capacity)
    (ticks : ℕ) (tick : Tick) :
    ∃ next, self.settle capacity ticks tick = .ok next ∧ next.Anchored := by
  by_cases hsnap : syncDebounceTicks ≤ ticks
  · refine ⟨_, self.settle_snap capacity hsnap tick, ?_⟩
    refine anchored_of_configured ?_ hpos hpos.le le_rfl ?_
    · exact hcapacity
    · intro shown hshown
      right
      have hfull : clamp 100 0 100 = 100 := by
        apply clamp_of_mem <;> norm_num
      rw [chargePercent, div_self hpos.ne', one_mul, ← hfull]
      exact (Option.some.inj hshown).symm
  · have hnonneg := le_clamp self.accumulatedChargeAh 0 capacity
    have hle := clamp_le hpos.le self.accumulatedChargeAh
    have hpercent := chargePercent_mem hpos hnonneg hle
    refine ⟨_, self.settle_clamp hpos hsnap tick, ?_⟩
    refine anchored_of_configured ?_ hpos hnonneg hle ?_
    · exact hcapacity
    · intro shown hshown
      right
      calc
        shown = round2 (clamp (chargePercent
            (clamp self.accumulatedChargeAh 0 capacity) capacity) 0 100) :=
          (Option.some.inj hshown).symm
        _ = _ := by rw [clamp_of_mem hpercent.1 hpercent.2]

theorem SocEstimator.Anchored.mirrorBms {self : SocEstimator}
    {capacity bmsSoc : ℚ} (hcapacity : self.capacityAh = some capacity)
    (hpos : 0 < capacity) (hbms : 0 ≤ bmsSoc ∧ bmsSoc ≤ 100) (tick : Tick) :
    (self.mirrorBms capacity bmsSoc tick).Anchored := by
  have hnonneg : 0 ≤ bmsSoc / 100 := by linarith
  have hle : bmsSoc / 100 ≤ 1 := by linarith
  have hpercent : chargePercent (bmsSoc / 100 * capacity) capacity =
      bmsSoc := by
    rw [chargePercent_mul_self hpos]
    ring
  refine anchored_of_configured ?_ hpos ?_ ?_ ?_
  · exact hcapacity
  · exact mul_nonneg hnonneg hpos.le
  · exact mul_le_of_le_one_left hpos.le hle
  · intro shown hshown
    right
    calc
      shown = round2 bmsSoc := (Option.some.inj hshown).symm
      _ = round2 (chargePercent (bmsSoc / 100 * capacity) capacity) := by
        rw [hpercent]

/-- The BMS reports a percentage or nothing. -/
def Tick.Admissible (tick : Tick) : Prop :=
  ∀ bmsSoc, tick.bmsSoc = some bmsSoc → 0 ≤ bmsSoc ∧ bmsSoc ≤ 100

theorem SocEstimator.Anchored.update {self : SocEstimator}
    (hanchored : self.Anchored) {tick : Tick} (htick : tick.Admissible) :
    ∃ next, self.update tick = .ok next ∧ next.Anchored := by
  cases hcapacity : self.capacityAh with
  | none =>
      exact ⟨_, self.update_of_unconfigured hcapacity tick,
        hanchored.forgetSoc⟩
  | some capacity =>
      have hpos := hanchored.capacity_pos capacity hcapacity
      rcases self.update_of_configured hcapacity hpos tick with
        ⟨bmsSoc, hmirror, hupdate⟩ | ⟨_, _, hupdate⟩ |
        ⟨syncVoltage, effective, _, _, _, hupdate⟩
      · refine ⟨_, hupdate, ?_⟩
        apply Anchored.mirrorBms hcapacity hpos
        apply htick
        unfold SocEstimator.mirroredSoc at hmirror
        split at hmirror
        · exact hmirror
        · exact absurd hmirror (by simp)
      · exact ⟨_, hupdate, hanchored.forgetSoc⟩
      · rw [hupdate]
        apply settle_anchored _ _ hpos
        rw [integrate_capacityAh, hcapacity]

/-! ## Runs -/

theorem SocEstimator.Anchored.restore {self : SocEstimator}
    (hcapacity : self.capacityAh = none) {soc : ℚ}
    (hsoc : 0 ≤ soc ∧ soc ≤ 100) (accumulated : ℚ)
    (lastSync : Option WallTime) :
    (self.restore (some soc) accumulated lastSync).Anchored := by
  refine anchored_of_unconfigured ?_ ?_
  · exact hcapacity
  · intro shown hshown
    rwa [← Option.some.inj hshown]

/-- The calls an estimator in service receives: a restore only before a
capacity is set, with a percentage, and BMS readings that are percentages. -/
def SocEstimator.InService (est : SocEstimator) : Call → Prop
  | .restore socPercent _ _ =>
      est.capacityAh = none ∧
        ∃ soc, socPercent = some soc ∧ 0 ≤ soc ∧ soc ≤ 100
  | .update tick => tick.Admissible
  | _ => True

theorem SocEstimator.Anchored.call {self : SocEstimator}
    (hanchored : self.Anchored) {call : Call} (hcall : self.InService call) :
    ∃ next, self.call call = .ok next ∧ next.Anchored := by
  cases call with
  | setMode text => exact ⟨_, rfl, hanchored.setMode text⟩
  | setDeadband enabled window noiseFloor =>
      exact ⟨_, rfl, hanchored.setDeadband enabled window noiseFloor⟩
  | setCapacity value => exact hanchored.setCapacity value
  | restore socPercent accumulated lastSync =>
      obtain ⟨hcapacity, soc, rfl, hsoc⟩ := hcall
      exact ⟨_, rfl, Anchored.restore hcapacity hsoc accumulated lastSync⟩
  | update tick => exact hanchored.update hcall

theorem SocEstimator.fresh_anchored : fresh.Anchored := by
  apply anchored_of_unconfigured rfl
  intro soc hsoc
  simp [fresh] at hsoc

theorem SocEstimator.anchored_of_run {calls : List Call}
    {est : SocEstimator}
    (hrun : Run (guarded Called InService) fresh calls est) :
    est.Anchored := by
  apply hrun.invariant SocEstimator.Anchored fresh_anchored
  intro before call after hbefore hstep
  obtain ⟨hcalled, hservice⟩ := hstep
  obtain ⟨next, hnext, hanchored⟩ := hbefore.call hservice
  have hsame : after = next := Except.ok.inj (hcalled.symm.trans hnext)
  rwa [hsame]

/-- The guarantees the sensor entity reads off an estimator. -/
structure SocEstimator.Representation (est : SocEstimator) : Prop where
  capacity_pos : ∀ capacity, est.capacityAh = some capacity → 0 < capacity
  charge_mem : ∀ capacity, est.capacityAh = some capacity →
    0 ≤ est.accumulatedChargeAh ∧ est.accumulatedChargeAh ≤ capacity
  soc_mem : ∀ soc, est.socPercent = some soc → 0 ≤ soc ∧ soc ≤ 100
  consistent : ∀ capacity soc, est.capacityAh = some capacity →
    est.socPercent = some soc →
      |soc - 100 * est.accumulatedChargeAh / capacity| ≤ 1 / 200

theorem SocEstimator.Anchored.representation {self : SocEstimator}
    (hanchored : self.Anchored) : self.Representation where
  capacity_pos := hanchored.capacity_pos
  charge_mem := fun capacity hcapacity =>
    ⟨hanchored.charge_nonneg capacity hcapacity,
      hanchored.charge_le capacity hcapacity⟩
  soc_mem := hanchored.soc_mem
  consistent := by
    intro capacity soc hcapacity hsoc
    have hpercent : 100 * self.accumulatedChargeAh / capacity =
        chargePercent self.accumulatedChargeAh capacity := by
      unfold chargePercent
      ring
    rw [hpercent]
    rcases hanchored.displays capacity soc hcapacity hsoc with hexact | hround
    · rw [hexact, sub_self]
      norm_num
    · rw [hround]
      have hbound := abs_roundDecimals_sub_le 2
        (chargePercent self.accumulatedChargeAh capacity)
      norm_num at hbound
      exact hbound

/-- From a fresh estimator every run of calls leaves the representation
intact, and the next call succeeds whatever it is: nothing divides by zero. -/
theorem SocEstimator.representation_of_run {calls : List Call}
    {est : SocEstimator}
    (hrun : Run (guarded Called InService) fresh calls est) :
    est.Representation ∧
      ∀ call, est.InService call → ∃ next, est.call call = .ok next := by
  have hanchored := anchored_of_run hrun
  constructor
  · exact hanchored.representation
  · intro call hcall
    obtain ⟨next, hnext, _⟩ := hanchored.call hcall
    exact ⟨next, hnext⟩

/-- A call that an estimator in any state may receive. -/
def Call.AtAnyTime : Call → Prop
  | .restore _ _ _ => False
  | .update tick => tick.Admissible
  | _ => True

theorem Call.AtAnyTime.inService {call : Call} (hcall : call.AtAnyTime)
    (est : SocEstimator) : est.InService call := by
  cases call with
  | restore socPercent accumulated lastSync => exact hcall.elim
  | update tick => exact hcall
  | setMode text | setDeadband enabled window noiseFloor | setCapacity value =>
      trivial

/-- Calls that start with the restore of a percentage are in service. -/
theorem SocEstimator.run_of_restored {soc accumulated : ℚ}
    {lastSync : Option WallTime} {calls : List Call} {est : SocEstimator}
    (hsoc : 0 ≤ soc ∧ soc ≤ 100) (hcalls : ∀ call ∈ calls, call.AtAnyTime)
    (hexecute : execute next? fresh
      (.restore (some soc) accumulated lastSync :: calls) = some est) :
    Run (guarded Called InService) fresh
      (.restore (some soc) accumulated lastSync :: calls) est := by
  have hservice : fresh.InService (.restore (some soc) accumulated lastSync) :=
    ⟨rfl, soc, rfl, hsoc⟩
  have hfirst : Run (guarded Called InService) fresh
      ([] ++ [.restore (some soc) accumulated lastSync])
      (fresh.restore (some soc) accumulated lastSync) :=
    .extend .start ⟨rfl, hservice⟩
  have hrest : execute next? (fresh.restore (some soc) accumulated lastSync)
      calls = some est := hexecute
  have hlater : Run (guarded Called InService)
      (fresh.restore (some soc) accumulated lastSync) calls est := by
    apply ((run_of_execute hrest).guard hcalls).mono
    rintro before call after ⟨hnext, hcall⟩
    exact ⟨called_of_next? hnext, hcall.inService before⟩
  exact hfirst.append hlater

def loadTick (now signedCurrentA : ℚ) (bmsSoc : Option ℚ) : Tick where
  signedCurrentA := signedCurrentA
  voltage := 25
  now := now
  syncVoltage := some 28
  floatingVoltage := some 27
  bmsSoc := bmsSoc

/-- A lead-acid battery restored half full, drained for an hour, edited to a
smaller capacity and charged, and then a lithium one under its BMS. -/
def servedCalls : List Call :=
  [.setMode "Lead-acid", .setDeadband true 1 2, .setCapacity (some 200),
    .update (loadTick 0 (-38) none), .update (loadTick 3600 (-38) none),
    .setCapacity (some 100), .update (loadTick 5400 20 none),
    .setMode "Lithium (BMS)", .update (loadTick 7200 20 (some 61)),
    .setMode "Lithium (Voltage)", .update (loadTick 9000 20 none),
    .update (loadTick 9100 20 none)]

def SocEstimator.served : SocEstimator :=
  (execute next? fresh (.restore (some 50) 0 none :: servedCalls)).get
    (by decide +kernel)

theorem SocEstimator.representation_of_restored_run :
    served.Representation ∧
      ∀ call, served.InService call →
        ∃ next, served.call call = .ok next := by
  have hcalls : ∀ call ∈ servedCalls, call.AtAnyTime := by
    simp [servedCalls, Call.AtAnyTime, Tick.Admissible, loadTick]
    norm_num
  exact representation_of_run (run_of_restored (by norm_num) hcalls
    (Option.some_get _).symm)

end SocCore
end DessMonitor
