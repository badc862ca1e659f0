import DessMonitor.SocLastSync
import DessMonitor.SocSensorModel

/-!
# The forecasts come true

The time-to-floor and time-to-full sensors divide the charge that is missing
by the current of the moment, and the backup-time sensor by the current that
the load would take without the grid.  If the battery carries that current,
the estimator shows the target when the time is up, once the time is corrected
by the efficiency that the sensors leave out.
-/

namespace DessMonitor
namespace SocCore

open LabelledRun DecimalRounding

/-! ## The sensors -/

def idleCurrentThresholdA : ℚ := 1 / 10

/-- `float(section.get(key, 0) or 0)`. -/
def readNumber (qpigs : Direct.Section) (key : String) :
    Except PyValue.FloatError PyFloat :=
  let raw := (qpigs.get? key).getD (.int 0)
  if raw.truthy then raw.toFloat else .ok (.finite 0)

/-- `_read_current_a`. -/
def readCurrentA (qpigs : Direct.Section) (key : String) :
    Except Failure ℚ :=
  match readNumber qpigs key with
  | .ok current => finite current
  | .error .typeOrValue => .ok 0
  | .error .overflow => .error .overflowError

def defaultFloor : ℚ := 15

/-- `_read_target_floor`. -/
def readTargetFloor (state : Option String) : Except Failure ℚ :=
  match numberOf state with
  | none => .ok defaultFloor
  | some floor => finite floor

/-- Hours until a charge flows at a current; nothing for an idle battery. -/
def hoursFor (chargeAh currentA : ℚ) : ℚ :=
  roundDecimals 3 (chargeAh / currentA)

def timeToFloor (soc capacityAh : Option ℚ) (dischargeA target : ℚ) :
    Option ℚ :=
  match soc, capacityAh with
  | some soc, some capacityAh =>
      if capacityAh ≤ 0 then none
      else if dischargeA < idleCurrentThresholdA then none
      else if soc ≤ target then some 0
      else some (hoursFor ((soc - target) / 100 * capacityAh) dischargeA)
  | _, _ => none

def timeToFull (soc capacityAh : Option ℚ) (chargeA : ℚ) : Option ℚ :=
  match soc, capacityAh with
  | some soc, some capacityAh =>
      if capacityAh ≤ 0 then none
      else if chargeA < idleCurrentThresholdA then none
      else if 100 ≤ soc then some 0
      else some (hoursFor ((100 - soc) / 100 * capacityAh) chargeA)
  | _, _ => none

/-- The load that the sun does not cover, as a battery current. -/
def equivalentDischargeA (loadW pvW batteryV : ℚ) : ℚ :=
  if 0 < batteryV then max 0 (loadW - pvW) / batteryV else 0

/-- The sensors on an update; `none` is an unknown state. -/
def handleTimeToFloor (soc capacityAh : Option ℚ) (qpigs : Direct.Section)
    (floorState : Option String) : Except Failure (Option ℚ) := do
  let dischargeA ← readCurrentA qpigs "battery_discharge_current"
  let target ← readTargetFloor floorState
  return timeToFloor soc capacityAh dischargeA target

def handleTimeToFull (soc capacityAh : Option ℚ) (qpigs : Direct.Section) :
    Except Failure (Option ℚ) := do
  let chargeA ← readCurrentA qpigs "battery_charging_current"
  return timeToFull soc capacityAh chargeA

def loadNumbers (qpigs : Direct.Section) :
    Except PyValue.FloatError (PyFloat × PyFloat × PyFloat) := do
  let loadW ← readNumber qpigs "output_active_power"
  let pvW ← readNumber qpigs "pv_charging_power"
  let batteryV ← readNumber qpigs "battery_voltage"
  return (loadW, pvW, batteryV)

/-- The current of `DirectBatteryBackupTimeSensor`; nothing for a field that
is no number. -/
def backupCurrentA (qpigs : Direct.Section) : Except Failure (Option ℚ) :=
  match loadNumbers qpigs with
  | .ok (load, pv, battery) => do
      let loadW ← finite load
      let pvW ← finite pv
      let batteryV ← finite battery
      return some (equivalentDischargeA loadW pvW batteryV)
  | .error .typeOrValue => .ok none
  | .error .overflow => .error .overflowError

def handleBackupTime (soc capacityAh : Option ℚ) (qpigs : Direct.Section)
    (floorState : Option String) : Except Failure (Option ℚ) := do
  let target ← readTargetFloor floorState
  let dischargeA ← backupCurrentA qpigs
  return dischargeA.bind fun dischargeA =>
    timeToFloor soc capacityAh dischargeA target

/-! ## A steady current -/

/-- A later tick at the same current, which is integrated. -/
def SocEstimator.Steady (currentA : ℚ) (est : SocEstimator) : Call → Prop
  | .update tick =>
      tick.signedCurrentA = currentA ∧ tick.Admissible ∧
        est.mirroredSoc tick = none ∧ tick.syncVoltage.isSome = true ∧
        est.inFloatDeadband tick = false ∧
        ∀ now, est.prevTs = some now → now ≤ tick.now
  | _ => False

/-- Where a steady current has brought the estimator. -/
structure SocEstimator.Carried (start est : SocEstimator)
    (capacity currentA effective : ℚ) (begun : ℚ) : Prop where
  anchored : est.Anchored
  capacityAh : est.capacityAh = some capacity
  mode : est.mode = start.mode
  ticks : est.atSyncTicks ≤ syncDebounceTicks ∨ currentA < 0
  baseline : est.prevEffectiveCurrentA = some effective
  shows : est.socPercent.isSome = true
  charge : ∃ now, est.prevTs = some now ∧ begun ≤ now ∧
    est.accumulatedChargeAh =
      clamp (start.accumulatedChargeAh + effective * (now - begun) / 3600) 0
        capacity

section Steady

variable {start est next : SocEstimator}
  {capacity currentA effective begun : ℚ} {tick : Tick}

/-- An integrated tick between the debounce and the deadband. -/
theorem SocEstimator.VoltageBranch.update_follows {syncVoltage : ℚ}
    (hbranch : est.VoltageBranch tick capacity syncVoltage)
    (heffective : effectiveCurrentA (chemistryParams est.mode)
      tick.signedCurrentA = .ok effective)
    (hcounted : est.countedTicks tick capacity syncVoltage <
      syncDebounceTicks)
    (hdeadband : est.inFloatDeadband tick = false) :
    ∃ next, est.update tick = .ok next ∧
      next.capacityAh = est.capacityAh ∧ next.mode = est.mode ∧
      next.atSyncTicks = est.countedTicks tick capacity syncVoltage ∧
      next.prevEffectiveCurrentA = some effective ∧
      next.prevTs = some tick.now ∧ next.socPercent.isSome = true ∧
      next.accumulatedChargeAh =
        clamp (est.integrate tick effective).accumulatedChargeAh 0 capacity := by
  refine ⟨_, (hbranch.update_eq heffective).trans
    (settle_clamp _ hbranch.positive (not_le.mpr hcounted) tick), ?_⟩
  simp [integrate, hdeadband]

/-- A current beyond the tail never counts as full. -/
theorem SocEstimator.countedTicks_lt_of_steady {syncVoltage : ℚ}
    (htail : est.tailCurrentA capacity < |tick.signedCurrentA|)
    (hticks : est.atSyncTicks ≤ syncDebounceTicks ∨ tick.signedCurrentA < 0) :
    est.countedTicks tick capacity syncVoltage < syncDebounceTicks := by
  have hfull : ¬ est.AtFull tick capacity syncVoltage :=
    fun hfull => absurd hfull.2 (not_le.mpr htail)
  by_cases hdischarge : tick.signedCurrentA < -est.tailCurrentA capacity
  · rw [countedTicks_of_discharge hfull hdischarge]
    decide
  · rw [countedTicks_of_decay hfull hdischarge]
    have hcharging : ¬ tick.signedCurrentA < 0 := by
      intro hnegative
      rw [abs_of_neg hnegative] at htail
      exact hdischarge (by linarith)
    have hbound := hticks.resolve_right hcharging
    simp only [syncDebounceTicks] at hbound ⊢
    omega

/-- Currents of one sign add up, also when they are stopped at a bound. -/
theorem clamp_clamp_add {charge first second : ℚ} (hcapacity : 0 ≤ capacity)
    (hcharge : 0 ≤ charge ∧ charge ≤ capacity)
    (hsign : (0 ≤ first ∧ 0 ≤ second) ∨ (first ≤ 0 ∧ second ≤ 0)) :
    clamp (clamp (charge + first) 0 capacity + second) 0 capacity =
      clamp (charge + (first + second)) 0 capacity := by
  have hlower : ∀ value, 0 ≤ value → clamp value 0 capacity =
      min capacity value :=
    fun value hvalue => max_eq_right (le_min hcapacity hvalue)
  have hupper : ∀ value, value ≤ capacity → clamp value 0 capacity =
      max 0 value :=
    fun value hvalue => congrArg (max 0) (min_eq_right hvalue)
  rcases hsign with ⟨hfirst, hsecond⟩ | ⟨hfirst, hsecond⟩
  · have hsum : 0 ≤ charge + first := add_nonneg hcharge.1 hfirst
    rw [hlower _ hsum, hlower _ (add_nonneg (le_min hcapacity hsum) hsecond),
      hlower _ (by linarith)]
    rcases le_total (charge + first) capacity with hle | hge
    · rw [min_eq_right hle, add_assoc]
    · rw [min_eq_left hge, min_eq_left (by linarith),
        min_eq_left (by linarith)]
  · have hsum : charge + first ≤ capacity := by linarith
    have hmax : max 0 (charge + first) ≤ capacity := max_le hcapacity hsum
    rw [hupper _ hsum, hupper _ (by linarith), hupper _ (by linarith)]
    rcases le_total 0 (charge + first) with hge | hle
    · rw [max_eq_right hge, add_assoc]
    · rw [max_eq_left hle, max_eq_left (by linarith),
        max_eq_left (by linarith)]

theorem SocEstimator.Carried.refl (hanchored : start.Anchored)
    (hcapacity : start.capacityAh = some capacity)
    (hticks : start.atSyncTicks ≤ syncDebounceTicks ∨ currentA < 0)
    (hbaseline : start.prevEffectiveCurrentA = some effective)
    (hbegun : start.prevTs = some begun)
    (hshows : start.socPercent.isSome = true) :
    start.Carried start capacity currentA effective begun where
  anchored := hanchored
  capacityAh := hcapacity
  mode := rfl
  ticks := hticks
  baseline := hbaseline
  shows := hshows
  charge := by
    refine ⟨begun, hbegun, le_rfl, ?_⟩
    rw [sub_self, mul_zero, zero_div, add_zero]
    exact (clamp_of_mem (hanchored.charge_nonneg capacity hcapacity)
      (hanchored.charge_le capacity hcapacity)).symm

theorem SocEstimator.Carried.after_call {call : Call}
    (hstart : start.Anchored) (hstartCapacity : start.capacityAh = some capacity)
    (heffective : effectiveCurrentA (chemistryParams start.mode) currentA =
      .ok effective)
    (hsign : (0 ≤ currentA ∧ 0 ≤ effective) ∨ (currentA < 0 ∧ effective ≤ 0))
    (htail : start.tailCurrentA capacity < |currentA|)
    (hcarried : start.Carried est capacity currentA effective begun)
    (hcalled : Called est call next) (hsteady : est.Steady currentA call) :
    start.Carried next capacity currentA effective begun := by
  cases call with
  | setMode text => cases hsteady
  | setDeadband enabled window noiseFloor => cases hsteady
  | setCapacity value => cases hsteady
  | restore socPercent accumulated lastSync => cases hsteady
  | update tick =>
      obtain ⟨rfl, hadmissible, hmirror, hreference, hdeadband, hlater⟩ :=
        hsteady
      obtain ⟨syncVoltage, hsync⟩ := Option.isSome_iff_exists.mp hreference
      obtain ⟨now, hnow, hbegun, hcharge⟩ := hcarried.charge
      have hpos := hcarried.anchored.capacity_pos capacity hcarried.capacityAh
      have hbranch : est.VoltageBranch tick capacity syncVoltage :=
        ⟨hcarried.capacityAh, hpos, hmirror, hsync⟩
      have hcounted : est.countedTicks tick capacity syncVoltage <
          syncDebounceTicks := by
        apply countedTicks_lt_of_steady _ hcarried.ticks
        rwa [tailCurrentA, hcarried.mode]
      rw [← hcarried.mode] at heffective
      obtain ⟨after, hupdate, hcapacity, hmode, hticks, hbaseline, hts, hshows,
        hintegral⟩ := hbranch.update_follows heffective hcounted hdeadband
      obtain rfl : next = after := Except.ok.inj (hcalled.symm.trans hupdate)
      obtain ⟨anchored, hanchoredUpdate, hanchored⟩ :=
        hcarried.anchored.update hadmissible
      obtain rfl : next = anchored :=
        Except.ok.inj (hcalled.symm.trans hanchoredUpdate)
      have helapsed := hlater now hnow
      have hstep : (est.integrate tick effective).accumulatedChargeAh =
          est.accumulatedChargeAh + effective * (tick.now - now) / 3600 := by
        simp only [integrate, hdeadband, hcarried.baseline, hnow]
        simp only [Bool.false_eq_true, if_false]
        ring
      have hsigns : (0 ≤ effective * (now - begun) / 3600 ∧
            0 ≤ effective * (tick.now - now) / 3600) ∨
          (effective * (now - begun) / 3600 ≤ 0 ∧
            effective * (tick.now - now) / 3600 ≤ 0) := by
        have hpast : 0 ≤ now - begun := sub_nonneg.mpr hbegun
        have hnext : 0 ≤ tick.now - now := sub_nonneg.mpr helapsed
        rcases hsign with ⟨-, hpositive⟩ | ⟨-, hnegative⟩
        · left
          constructor <;> positivity
        · right
          have hone := mul_nonpos_of_nonpos_of_nonneg hnegative hpast
          have htwo := mul_nonpos_of_nonpos_of_nonneg hnegative hnext
          constructor <;> linarith
      refine ⟨hanchored, hcapacity.trans hcarried.capacityAh,
        hmode.trans hcarried.mode, .inl ?_, hbaseline, hshows,
        tick.now, hts, hbegun.trans helapsed, ?_⟩
      · rw [hticks]
        exact hcounted.le
      · rw [hintegral, hstep, hcharge, clamp_clamp_add hpos.le
          ⟨hstart.charge_nonneg capacity hstartCapacity,
            hstart.charge_le capacity hstartCapacity⟩ hsigns]
        congr 2
        ring

/-! ## Runs at a steady current -/

theorem effectiveCurrentA_sign {mode : BatteryMode}
    (heffective : effectiveCurrentA (chemistryParams mode) currentA =
      .ok effective) :
    (0 ≤ currentA ∧ 0 ≤ effective) ∨ (currentA < 0 ∧ effective ≤ 0) := by
  unfold effectiveCurrentA at heffective
  split_ifs at heffective with hcharging
  · cases heffective
    have heff : 0 ≤ (chemistryParams mode).chargeEff := by
      cases mode <;> norm_num [chemistryParams]
    exact .inl ⟨hcharging, mul_nonneg hcharging heff⟩
  · have heff := chemistryParams_dischargeEff_pos mode
    rw [divide_of_pos _ heff] at heffective
    cases heffective
    have hdischarging := not_le.mp hcharging
    exact .inr ⟨hdischarging, div_nonpos_of_nonpos_of_nonneg hdischarging.le
      heff.le⟩

theorem SocEstimator.carried_of_run {calls : List Call}
    (heffective : effectiveCurrentA (chemistryParams start.mode) currentA =
      .ok effective)
    (htail : start.tailCurrentA capacity < |currentA|)
    (hcarried : start.Carried start capacity currentA effective begun)
    (hrun : Run (guarded Called (Steady currentA)) start calls est) :
    start.Carried est capacity currentA effective begun := by
  apply hrun.invariant
    (fun est => start.Carried est capacity currentA effective begun) hcarried
  rintro before call after hbefore ⟨hcalled, hsteady⟩
  exact hbefore.after_call hcarried.anchored hcarried.capacityAh heffective
    (effectiveCurrentA_sign heffective) htail hcalled hsteady

/-- The charge that flows at `rate` in the rounded time leads to the target,
but for the rounding of what was shown, of the time and of what is shown. -/
theorem SocEstimator.Carried.reaches
    {shown target rate hours ended : ℚ}
    (hcarried : start.Carried est capacity currentA effective begun)
    (hstart : start.Anchored)
    (hcapacity : start.capacityAh = some capacity)
    (hshown : start.socPercent = some shown)
    (htarget : 0 ≤ target ∧ target ≤ 100) (hrate : rate ≠ 0)
    (hhours : hours =
      roundDecimals 3 ((target - shown) / 100 * capacity / rate))
    (hended : est.prevTs = some ended)
    (hflow : effective * (ended - begun) / 3600 = rate * hours) :
    ∃ reached, est.socPercent = some reached ∧
      |reached - target| ≤ 1 / 100 + |rate| / (20 * capacity) := by
  have hpos := hstart.capacity_pos capacity hcapacity
  obtain ⟨reached, hreached⟩ := Option.isSome_iff_exists.mp hcarried.shows
  obtain ⟨now, hnow, -, hcharge⟩ := hcarried.charge
  obtain rfl : now = ended := Option.some.inj (hnow.symm.trans hended)
  rw [hflow] at hcharge
  refine ⟨reached, hreached, ?_⟩
  have hfirst := hstart.representation.consistent capacity shown hcapacity
    hshown
  have hlast := hcarried.anchored.representation.consistent capacity reached
    hcarried.capacityAh hreached
  -- in the range of the battery clamping only helps
  have hclamped : |100 * est.accumulatedChargeAh / capacity - target| ≤
      |100 * (start.accumulatedChargeAh + rate * hours) / capacity -
        target| := by
    have hgoal : clamp (target / 100 * capacity) 0 capacity =
        target / 100 * capacity := by
      apply clamp_of_mem
      · have hnonneg : 0 ≤ target / 100 := by linarith
        exact mul_nonneg hnonneg hpos.le
      · exact mul_le_of_le_one_left hpos.le (by linarith)
    have hclose := abs_clamp_sub_clamp_le
      (start.accumulatedChargeAh + rate * hours) (target / 100 * capacity) 0
      capacity
    rw [hgoal, ← hcharge] at hclose
    have hscale : ∀ charge : ℚ, 100 * charge / capacity - target =
        (charge - target / 100 * capacity) * (100 / capacity) := by
      intro charge
      field_simp
    rw [hscale, hscale, abs_mul, abs_mul]
    gcongr
  have hmissing : 100 * (start.accumulatedChargeAh + rate * hours) / capacity -
      target = (100 * start.accumulatedChargeAh / capacity - shown) +
        (hours - (target - shown) / 100 * capacity / rate) *
          (100 * rate / capacity) := by
    field_simp
    ring
  have hround : |(hours - (target - shown) / 100 * capacity / rate) *
      (100 * rate / capacity)| ≤ |rate| / (20 * capacity) := by
    have hbound := abs_roundDecimals_sub_le 3
      ((target - shown) / 100 * capacity / rate)
    rw [← hhours] at hbound
    rw [abs_mul, abs_div, abs_mul, abs_of_pos hpos,
      abs_of_pos (by norm_num : (0 : ℚ) < 100)]
    calc
      |hours - (target - shown) / 100 * capacity / rate| *
          (100 * |rate| / capacity) ≤
          1 / (2 * 10 ^ 3) * (100 * |rate| / capacity) := by
        gcongr
      _ = |rate| / (20 * capacity) := by
        field_simp
        norm_num
  have hbefore := abs_add_le
    (100 * start.accumulatedChargeAh / capacity - shown)
    ((hours - (target - shown) / 100 * capacity / rate) *
      (100 * rate / capacity))
  rw [← hmissing, abs_sub_comm (100 * start.accumulatedChargeAh / capacity)]
    at hbefore
  have hafter := abs_sub_le reached
    (100 * est.accumulatedChargeAh / capacity) target
  linarith

/-! ## What the sensors promise -/

theorem timeToFloor_eq {shown dischargeA target hours : ℚ}
    (hpos : 0 < capacity) (habove : target < shown)
    (hforecast : timeToFloor (some shown) (some capacity) dischargeA target =
      some hours) :
    idleCurrentThresholdA ≤ dischargeA ∧
      hours = roundDecimals 3
        ((target - shown) / 100 * capacity / -dischargeA) := by
  simp only [timeToFloor, not_le.mpr hpos, not_le.mpr habove, if_false]
    at hforecast
  split_ifs at hforecast with hidle
  refine ⟨not_lt.mp hidle, ?_⟩
  rw [← Option.some.inj hforecast, hoursFor]
  congr 1
  rw [div_neg]
  ring

theorem timeToFull_eq {shown chargeA hours : ℚ} (hpos : 0 < capacity)
    (hbelow : shown < 100)
    (hforecast : timeToFull (some shown) (some capacity) chargeA =
      some hours) :
    idleCurrentThresholdA ≤ chargeA ∧
      hours = roundDecimals 3 ((100 - shown) / 100 * capacity / chargeA) := by
  simp only [timeToFull, not_le.mpr hpos, not_le.mpr hbelow, if_false]
    at hforecast
  split_ifs at hforecast with hidle
  exact ⟨not_lt.mp hidle, (Option.some.inj hforecast).symm⟩

variable {calls more : List Call} {final : SocEstimator}

theorem SocEstimator.floor_reached {shown dischargeA floor hours : ℚ}
    (hreached : Run (guarded Called InService) fresh calls est)
    (hcapacity : est.capacityAh = some capacity)
    (hshown : est.socPercent = some shown)
    (hfloor : 0 ≤ floor ∧ floor < shown)
    (hforecast : timeToFloor est.socPercent est.capacityAh dischargeA floor =
      some hours)
    (htail : est.tailCurrentA capacity < dischargeA)
    (hbaseline : est.prevEffectiveCurrentA =
      some (-dischargeA / (chemistryParams est.mode).dischargeEff))
    (hbegun : est.prevTs = some begun)
    (hrun : Run (guarded Called (Steady (-dischargeA))) est more final)
    (hended : final.prevTs = some
      (begun + 3600 * hours * (chemistryParams est.mode).dischargeEff)) :
    ∃ reached, final.socPercent = some reached ∧
      |reached - floor| ≤ 1 / 100 + dischargeA / (20 * capacity) := by
  have hanchored := anchored_of_run hreached
  have hpos := hanchored.capacity_pos capacity hcapacity
  have hmem := hanchored.soc_mem shown hshown
  rw [hshown, hcapacity] at hforecast
  obtain ⟨hidle, hhours⟩ := timeToFloor_eq hpos hfloor.2 hforecast
  have hcurrent : 0 < dischargeA := by
    norm_num [idleCurrentThresholdA] at hidle
    linarith
  have heff := chemistryParams_dischargeEff_pos est.mode
  have heffective : effectiveCurrentA (chemistryParams est.mode) (-dischargeA) =
      .ok (-dischargeA / (chemistryParams est.mode).dischargeEff) := by
    rw [effectiveCurrentA, if_neg (by linarith), divide_of_pos _ heff]
  have habs : |-dischargeA| = dischargeA := by
    rw [abs_neg, abs_of_pos hcurrent]
  have hcarried := carried_of_run heffective (by rwa [habs])
    (Carried.refl hanchored hcapacity (.inr (by linarith)) hbaseline hbegun
      (by simp [hshown])) hrun
  have hreaches := hcarried.reaches hanchored hcapacity hshown
    ⟨hfloor.1, by linarith⟩ (by linarith : -dischargeA ≠ 0) hhours hended
    (by field_simp; ring)
  rwa [habs] at hreaches

/-- In every reachable state: while the battery discharges as it does, beyond
the absorption tail, the estimator shows the floor when the forecast time,
taken down to the discharge efficiency, is over. -/
theorem SocEstimator.time_to_floor_met {shown dischargeA floor hours : ℚ}
    {qpigs : Direct.Section} {floorState : Option String}
    (hreached : Run (guarded Called InService) fresh calls est)
    (hcapacity : est.capacityAh = some capacity)
    (hshown : est.socPercent = some shown)
    (hread : readCurrentA qpigs "battery_discharge_current" = .ok dischargeA)
    (htarget : readTargetFloor floorState = .ok floor)
    (hfloor : 0 ≤ floor ∧ floor < shown)
    (hforecast : handleTimeToFloor est.socPercent est.capacityAh qpigs
      floorState = .ok (some hours))
    (htail : est.tailCurrentA capacity < dischargeA)
    (hbaseline : est.prevEffectiveCurrentA =
      some (-dischargeA / (chemistryParams est.mode).dischargeEff))
    (hbegun : est.prevTs = some begun)
    (hrun : Run (guarded Called (Steady (-dischargeA))) est more final)
    (hended : final.prevTs = some
      (begun + 3600 * hours * (chemistryParams est.mode).dischargeEff)) :
    ∃ reached, final.socPercent = some reached ∧
      |reached - floor| ≤ 1 / 100 + dischargeA / (20 * capacity) := by
  have hhours : timeToFloor est.socPercent est.capacityAh dischargeA floor =
      some hours := by
    rw [handleTimeToFloor, hread, htarget] at hforecast
    exact Except.ok.inj hforecast
  exact floor_reached hreached hcapacity hshown hfloor hhours htail hbaseline
    hbegun hrun hended

/-- The same for the load that the battery has to carry without the grid. -/
theorem SocEstimator.backup_time_met {shown dischargeA floor hours : ℚ}
    {qpigs : Direct.Section} {floorState : Option String}
    (hreached : Run (guarded Called InService) fresh calls est)
    (hcapacity : est.capacityAh = some capacity)
    (hshown : est.socPercent = some shown)
    (hread : backupCurrentA qpigs = .ok (some dischargeA))
    (htarget : readTargetFloor floorState = .ok floor)
    (hfloor : 0 ≤ floor ∧ floor < shown)
    (hforecast : handleBackupTime est.socPercent est.capacityAh qpigs
      floorState = .ok (some hours))
    (htail : est.tailCurrentA capacity < dischargeA)
    (hbaseline : est.prevEffectiveCurrentA =
      some (-dischargeA / (chemistryParams est.mode).dischargeEff))
    (hbegun : est.prevTs = some begun)
    (hrun : Run (guarded Called (Steady (-dischargeA))) est more final)
    (hended : final.prevTs = some
      (begun + 3600 * hours * (chemistryParams est.mode).dischargeEff)) :
    ∃ reached, final.socPercent = some reached ∧
      |reached - floor| ≤ 1 / 100 + dischargeA / (20 * capacity) := by
  have hhours : timeToFloor est.socPercent est.capacityAh dischargeA floor =
      some hours := by
    rw [handleBackupTime, hread, htarget] at hforecast
    exact Except.ok.inj hforecast
  exact floor_reached hreached hcapacity hshown hfloor hhours htail hbaseline
    hbegun hrun hended

/-- The same for a charging battery and a hundred percent: the time is longer
by the charge efficiency. -/
theorem SocEstimator.time_to_full_met {shown chargeA hours : ℚ}
    {qpigs : Direct.Section}
    (hreached : Run (guarded Called InService) fresh calls est)
    (hcapacity : est.capacityAh = some capacity)
    (hshown : est.socPercent = some shown) (hbelow : shown < 100)
    (hread : readCurrentA qpigs "battery_charging_current" = .ok chargeA)
    (hforecast : handleTimeToFull est.socPercent est.capacityAh qpigs =
      .ok (some hours))
    (htail : est.tailCurrentA capacity < chargeA)
    (hticks : est.atSyncTicks ≤ syncDebounceTicks)
    (hbaseline : est.prevEffectiveCurrentA =
      some (chargeA * (chemistryParams est.mode).chargeEff))
    (hbegun : est.prevTs = some begun)
    (hrun : Run (guarded Called (Steady chargeA)) est more final)
    (hended : final.prevTs = some
      (begun + 3600 * hours / (chemistryParams est.mode).chargeEff)) :
    ∃ reached, final.socPercent = some reached ∧
      |reached - 100| ≤ 1 / 100 + chargeA / (20 * capacity) := by
  have hanchored := anchored_of_run hreached
  have hpos := hanchored.capacity_pos capacity hcapacity
  rw [handleTimeToFull, hread, hshown, hcapacity] at hforecast
  obtain ⟨hidle, hhours⟩ :=
    timeToFull_eq hpos hbelow (Except.ok.inj hforecast)
  have hcurrent : 0 < chargeA := by
    norm_num [idleCurrentThresholdA] at hidle
    linarith
  have heff : (chemistryParams est.mode).chargeEff ≠ 0 := by
    cases est.mode <;> norm_num [chemistryParams]
  have heffective : effectiveCurrentA (chemistryParams est.mode) chargeA =
      .ok (chargeA * (chemistryParams est.mode).chargeEff) :=
    if_pos hcurrent.le
  have habs : |chargeA| = chargeA := abs_of_pos hcurrent
  have hcarried := carried_of_run heffective (by rwa [habs])
    (Carried.refl hanchored hcapacity (.inl hticks) hbaseline hbegun
      (by simp [hshown])) hrun
  have hreaches := hcarried.reaches hanchored hcapacity hshown
    ⟨by norm_num, le_rfl⟩ hcurrent.ne' hhours hended
    (by field_simp; ring)
  rwa [habs] at hreaches

end Steady

/-! ## A battery of two hundred ampere-hours -/

def steadyTick (currentA now : ℚ) : Tick where
  signedCurrentA := currentA
  voltage := 25
  now := now
  syncVoltage := some 28
  floatingVoltage := none

theorem steadyTick_steady {est : SocEstimator} {currentA now last : ℚ}
    (hmode : est.mode ≠ .liBms) (hlast : est.prevTs = some last)
    (hlater : last ≤ now) :
    est.Steady currentA (.update (steadyTick currentA now)) := by
  refine ⟨rfl, ?_, by simp [SocEstimator.mirroredSoc, hmode], rfl, ?_, ?_⟩
  · intro soc hsoc
    cases hsoc
  · simp [SocEstimator.inFloatDeadband, steadyTick]
  · intro other hother
    rw [hlast] at hother
    cases hother
    exact hlater

/-- Restored half full, and one tick at the current. -/
def steadyCalls (currentA : ℚ) : List Call :=
  [.restore (some 50) 0 none, .setCapacity (some 200),
    .update (steadyTick currentA 0)]

def discharging : SocEstimator :=
  (execute SocEstimator.next? .fresh (steadyCalls (-20))).get
    (by decide +kernel)

def charging : SocEstimator :=
  (execute SocEstimator.next? .fresh (steadyCalls 20)).get
    (by decide +kernel)

theorem run_of_steadyCalls {currentA : ℚ} {est : SocEstimator}
    (hexecute : execute SocEstimator.next? .fresh (steadyCalls currentA) =
      some est) :
    Run (guarded Called SocEstimator.InService) .fresh (steadyCalls currentA)
      est := by
  apply SocEstimator.run_of_restored (by norm_num) _ hexecute
  simp [Call.AtAnyTime, Tick.Admissible, steadyTick]

/-- After three and a half hours at twenty amperes. -/
def discharged : SocEstimator :=
  (discharging.next? (.update (steadyTick (-20) 12600))).get
    (by decide +kernel)

theorem discharging_prevTs : discharging.prevTs = some 0 := by decide +kernel

theorem discharging_run :
    Run (guarded Called (SocEstimator.Steady (-20))) discharging
      ([] ++ [.update (steadyTick (-20) 12600)]) discharged := by
  have hcalled : Called discharging (.update (steadyTick (-20) 12600))
      discharged :=
    called_of_next? (Option.some_get _).symm
  have hsteady : discharging.Steady (-20) (.update (steadyTick (-20) 12600)) :=
    steadyTick_steady (by decide +kernel) discharging_prevTs (by norm_num)
  exact .extend .start ⟨hcalled, hsteady⟩

theorem SocEstimator.time_to_floor_met_discharging :
    ∃ reached, discharged.socPercent = some reached ∧
      |reached - 15| ≤ 1 / 100 + 20 / (20 * 200) := by
  let qpigs : Direct.Section :=
    Dict.empty.set "battery_discharge_current" (.int 20)
  have hforecast : handleTimeToFloor discharging.socPercent
      discharging.capacityAh qpigs none = .ok (some (7 / 2)) := by
    decide +kernel
  have hread : readCurrentA qpigs "battery_discharge_current" = .ok 20 := by
    decide +kernel
  have hcapacity : discharging.capacityAh = some 200 := by decide +kernel
  have hshown : discharging.socPercent = some 50 := by decide +kernel
  exact time_to_floor_met (run_of_steadyCalls (Option.some_get _).symm)
    hcapacity hshown hread rfl (by norm_num [defaultFloor]) hforecast
    (by decide +kernel) (by decide +kernel) discharging_prevTs discharging_run
    (by decide +kernel)

/-- The load leaves half a kilowatt to a battery of twenty-five volts. -/
theorem SocEstimator.backup_time_met_discharging :
    ∃ reached, discharged.socPercent = some reached ∧
      |reached - 15| ≤ 1 / 100 + 20 / (20 * 200) := by
  let qpigs : Direct.Section :=
    ((Dict.empty.set "output_active_power" (.str "0600")).set
      "pv_charging_power" (.str "00100")).set "battery_voltage" (.str "25.00")
  have hforecast : handleBackupTime discharging.socPercent
      discharging.capacityAh qpigs none = .ok (some (7 / 2)) := by
    decide +kernel
  have hread : backupCurrentA qpigs = .ok (some 20) := by
    decide +kernel
  have hcapacity : discharging.capacityAh = some 200 := by decide +kernel
  have hshown : discharging.socPercent = some 50 := by decide +kernel
  exact backup_time_met (run_of_steadyCalls (Option.some_get _).symm)
    hcapacity hshown hread rfl (by norm_num [defaultFloor]) hforecast
    (by decide +kernel) (by decide +kernel) discharging_prevTs discharging_run
    (by decide +kernel)

theorem SocEstimator.time_to_full_met_charging :
    ∃ final reached, Called charging
        (.update (steadyTick 20 (18000 / (99 / 100)))) final ∧
      final.socPercent = some reached ∧
      |reached - 100| ≤ 1 / 100 + 20 / (20 * 200) := by
  let final := (charging.next?
    (.update (steadyTick 20 (18000 / (99 / 100))))).get (by decide +kernel)
  have hcalled : Called charging
      (.update (steadyTick 20 (18000 / (99 / 100)))) final :=
    called_of_next? (Option.some_get _).symm
  have hlast : charging.prevTs = some 0 := by decide +kernel
  have hsteady : charging.Steady 20
      (.update (steadyTick 20 (18000 / (99 / 100)))) :=
    steadyTick_steady (by decide +kernel) hlast (by norm_num)
  have hrun : Run (guarded Called (Steady 20)) charging
      ([] ++ [.update (steadyTick 20 (18000 / (99 / 100)))]) final :=
    .extend .start ⟨hcalled, hsteady⟩
  have hcapacity : charging.capacityAh = some 200 := by decide +kernel
  have hshown : charging.socPercent = some 50 := by decide +kernel
  let qpigs : Direct.Section :=
    Dict.empty.set "battery_charging_current" (.int 20)
  have hread : readCurrentA qpigs "battery_charging_current" = .ok 20 := by
    decide +kernel
  have hforecast : handleTimeToFull charging.socPercent charging.capacityAh
      qpigs = .ok (some 5) := by
    decide +kernel
  obtain ⟨reached, hreached, hclose⟩ := time_to_full_met
    (run_of_steadyCalls (Option.some_get _).symm) hcapacity hshown
    (by norm_num) hread hforecast (by decide +kernel) (by decide +kernel)
    (by decide +kernel) hlast hrun (by decide +kernel)
  exact ⟨final, reached, hcalled, hreached, hclose⟩

end SocCore
end DessMonitor
