import DessMonitor.Foundation.DecimalRounding
import DessMonitor.Foundation.LabelledRun

/-!
# The state-of-charge estimator

`SocEstimator` with its configuration mutators, `restore` and the integrator
`update`, over exact rationals.  A division whose divisor the source does not
know to be nonzero goes through `divide`, which fails as Python does; a call
on the estimator is therefore a partial function and a run of calls succeeds
only when no call raises.

`update` is cut at the comments of the source: the BMS mirror, the trapezoid
with its float deadband, the debounce counter, and the snap to 100%.
-/

namespace DessMonitor
namespace SocCore

open DecimalRounding

/-! ## Chemistry presets -/

inductive PyError where
  | zeroDivisionError
  deriving DecidableEq, Repr

def divide (a b : ℚ) : Except PyError ℚ :=
  if b = 0 then .error .zeroDivisionError else .ok (a / b)

theorem divide_of_pos (a : ℚ) {b : ℚ} (hb : 0 < b) :
    divide a b = .ok (a / b) := by
  simp [divide, hb.ne']

inductive BatteryMode where
  | liVoltage
  | liBms
  | leadAcid
  deriving DecidableEq, Repr

def BatteryMode.text : BatteryMode → String
  | .liVoltage => "Lithium (Voltage)"
  | .liBms => "Lithium (BMS)"
  | .leadAcid => "Lead-acid"

/-- `mode in CHEMISTRY_PARAMS`, with the preset it names. -/
def BatteryMode.ofText? (text : String) : Option BatteryMode :=
  [BatteryMode.liVoltage, .leadAcid, .liBms].find? fun mode =>
    mode.text = text

structure ChemistryParams where
  chargeEff : ℚ
  dischargeEff : ℚ
  tailCRate : ℚ

def chemistryParams : BatteryMode → ChemistryParams
  | .liVoltage => ⟨99 / 100, 1, 5 / 100⟩
  | .leadAcid => ⟨90 / 100, 95 / 100, 2 / 100⟩
  | .liBms => ⟨1, 1, 5 / 100⟩

theorem chemistryParams_dischargeEff_pos (mode : BatteryMode) :
    0 < (chemistryParams mode).dischargeEff := by
  cases mode <;> norm_num [chemistryParams]

def defaultFloatVoltageWindowV : ℚ := 1 / 2
def defaultFloatNoiseFloorA : ℚ := 3 / 2
def syncDebounceTicks : ℕ := 3

/-! ## State -/

/-- A wall-clock stamp; the estimator only stores it. -/
abbrev WallTime := ℤ

structure SocEstimator where
  capacityAh : Option ℚ := none
  mode : BatteryMode := .liVoltage
  deadbandEnabled : Bool := true
  floatVoltageWindow : ℚ := defaultFloatVoltageWindowV
  floatNoiseFloor : ℚ := defaultFloatNoiseFloorA
  accumulatedChargeAh : ℚ := 0
  atSyncTicks : ℕ := 0
  prevCurrentA : Option ℚ := none
  prevEffectiveCurrentA : Option ℚ := none
  prevTs : Option ℚ := none
  lastSyncAt : Option WallTime := none
  socPercent : Option ℚ := none
  deriving DecidableEq

def SocEstimator.fresh : SocEstimator := {}

structure Tick where
  signedCurrentA : ℚ
  voltage : ℚ
  now : ℚ
  syncVoltage : Option ℚ
  floatingVoltage : Option ℚ
  bmsSoc : Option ℚ := none
  wallNow : Option WallTime := none

/-- `round(value, 2)`, as the published percentage is rounded. -/
abbrev round2 (value : ℚ) : ℚ := roundDecimals 2 value

@[simp] theorem round2_round2 (value : ℚ) :
    round2 (round2 value) = round2 value :=
  roundDecimals_roundDecimals 2 value

@[simp] theorem round2_hundred : round2 100 = 100 :=
  roundDecimals_hundred 2

/-! ## Configuration mutators -/

def SocEstimator.setMode (self : SocEstimator) (text : String) :
    SocEstimator :=
  match BatteryMode.ofText? text with
  | none => self
  | some mode =>
      if mode ≠ self.mode then { self with atSyncTicks := 0, mode := mode }
      else { self with mode := mode }

theorem SocEstimator.setMode_fields (self : SocEstimator) (text : String) :
    (self.setMode text).capacityAh = self.capacityAh ∧
      (self.setMode text).accumulatedChargeAh = self.accumulatedChargeAh ∧
      (self.setMode text).socPercent = self.socPercent := by
  unfold SocEstimator.setMode
  split
  · simp
  · split <;> simp

def SocEstimator.setDeadband (self : SocEstimator)
    (enabled : Bool) (window noiseFloor : ℚ) : SocEstimator :=
  { self with
    deadbandEnabled := enabled
    floatVoltageWindow := max 0 window
    floatNoiseFloor := max 0 noiseFloor }

def SocEstimator.editFraction (self : SocEstimator) (old : ℚ) :
    Except PyError ℚ :=
  if 0 < old then divide self.accumulatedChargeAh old
  else
    match self.socPercent with
    | some soc => .ok (soc / 100)
    | none => .ok 1

def SocEstimator.setCapacity (self : SocEstimator) (value : Option ℚ) :
    Except PyError SocEstimator :=
  match value with
  | none => .ok { self with capacityAh := none }
  | some value =>
      if value ≤ 0 then .ok { self with capacityAh := none }
      else
        match self.capacityAh with
        | none =>
            -- First time capacity becomes known: anchor to the SoC held.
            match self.socPercent with
            | some soc =>
                .ok { self with
                  capacityAh := some value
                  accumulatedChargeAh := clamp (soc / 100) 0 1 * value }
            | none =>
                .ok { self with
                  capacityAh := some value
                  accumulatedChargeAh := value
                  socPercent := some 100 }
        | some old => do
            -- The user edited the capacity: keep the charge fraction.
            let frac ← self.editFraction old
            return { self with
              capacityAh := some value
              accumulatedChargeAh := clamp frac 0 1 * value
              socPercent := some (round2 (clamp frac 0 1 * 100)) }

@[simp] theorem SocEstimator.setCapacity_none (self : SocEstimator) :
    self.setCapacity none = .ok { self with capacityAh := none } := rfl

theorem SocEstimator.setCapacity_of_nonpos (self : SocEstimator) {value : ℚ}
    (hvalue : value ≤ 0) :
    self.setCapacity (some value) = .ok { self with capacityAh := none } := by
  simp [SocEstimator.setCapacity, hvalue]

theorem SocEstimator.setCapacity_anchor {self : SocEstimator}
    {value soc : ℚ} (hvalue : 0 < value)
    (hcapacity : self.capacityAh = none) (hsoc : self.socPercent = some soc) :
    self.setCapacity (some value) = .ok { self with
      capacityAh := some value
      accumulatedChargeAh := clamp (soc / 100) 0 1 * value } := by
  simp [SocEstimator.setCapacity, not_le.mpr hvalue, hcapacity, hsoc]

theorem SocEstimator.setCapacity_default {self : SocEstimator}
    {value : ℚ} (hvalue : 0 < value)
    (hcapacity : self.capacityAh = none) (hsoc : self.socPercent = none) :
    self.setCapacity (some value) = .ok { self with
      capacityAh := some value
      accumulatedChargeAh := value
      socPercent := some 100 } := by
  simp [SocEstimator.setCapacity, not_le.mpr hvalue, hcapacity, hsoc]

theorem SocEstimator.setCapacity_edit {self : SocEstimator}
    {value old : ℚ} (hvalue : 0 < value) (hold : 0 < old)
    (hcapacity : self.capacityAh = some old) :
    self.setCapacity (some value) = .ok { self with
      capacityAh := some value
      accumulatedChargeAh := clamp (self.accumulatedChargeAh / old) 0 1 * value
      socPercent := some
        (round2 (clamp (self.accumulatedChargeAh / old) 0 1 * 100)) } := by
  have hfraction : self.editFraction old =
      .ok (self.accumulatedChargeAh / old) := by
    rw [SocEstimator.editFraction, if_pos hold, divide_of_pos _ hold]
  simp only [SocEstimator.setCapacity, if_neg (not_le.mpr hvalue), hcapacity,
    hfraction]
  rfl

theorem SocEstimator.setCapacity_capacityAh (self : SocEstimator)
    {next : SocEstimator} {value : ℚ} (hvalue : 0 < value)
    (hcalled : self.setCapacity (some value) = .ok next) :
    next.capacityAh = some value := by
  simp only [SocEstimator.setCapacity, if_neg (not_le.mpr hvalue)] at hcalled
  cases hcapacity : self.capacityAh with
  | none =>
      cases hsoc : self.socPercent <;>
      · simp only [hcapacity, hsoc] at hcalled
        rw [← Except.ok.inj hcalled]
  | some old =>
      simp only [hcapacity] at hcalled
      cases hfraction : self.editFraction old with
      | error err =>
          rw [hfraction] at hcalled
          exact absurd hcalled (by simp [bind, Except.bind])
      | ok frac =>
          rw [hfraction] at hcalled
          rw [← Except.ok.inj hcalled]

def SocEstimator.restore (self : SocEstimator) (socPercent : Option ℚ)
    (accumulatedChargeAh : ℚ) (lastSyncAt : Option WallTime) :
    SocEstimator :=
  { self with
    socPercent := socPercent
    accumulatedChargeAh := accumulatedChargeAh
    lastSyncAt := lastSyncAt }

/-! ## The integrator -/

def SocEstimator.mirrorBms (self : SocEstimator)
    (maxCapacityAh bmsSoc : ℚ) (tick : Tick) : SocEstimator :=
  { self with
    accumulatedChargeAh := bmsSoc / 100 * maxCapacityAh
    prevCurrentA := some tick.signedCurrentA
    prevEffectiveCurrentA := none
    prevTs := some tick.now
    atSyncTicks := 0
    socPercent := some (round2 bmsSoc) }

def effectiveCurrentA (params : ChemistryParams) (signedCurrentA : ℚ) :
    Except PyError ℚ :=
  if 0 ≤ signedCurrentA then .ok (signedCurrentA * params.chargeEff)
  else divide signedCurrentA params.dischargeEff

def SocEstimator.inFloatDeadband (self : SocEstimator) (tick : Tick) : Bool :=
  self.deadbandEnabled &&
    match tick.floatingVoltage with
    | none => false
    | some floating =>
        decide (|tick.voltage - floating| < self.floatVoltageWindow) &&
          decide (|tick.signedCurrentA| ≤ self.floatNoiseFloor)

def SocEstimator.integrate (self : SocEstimator) (tick : Tick)
    (effective : ℚ) : SocEstimator :=
  let elapsedSeconds :=
    match self.prevTs with
    | some prevTs => tick.now - prevTs
    | none => 0
  if self.inFloatDeadband tick then
    { self with
      prevCurrentA := some tick.signedCurrentA
      prevEffectiveCurrentA := none
      prevTs := some tick.now }
  else
    { self with
      accumulatedChargeAh :=
        match self.prevEffectiveCurrentA with
        | some previous =>
            self.accumulatedChargeAh +
              elapsedSeconds / 3600 * (previous + effective) / 2
        | none => self.accumulatedChargeAh
      prevCurrentA := some tick.signedCurrentA
      prevEffectiveCurrentA := some effective
      prevTs := some tick.now }

def vFullThreshold (syncVoltage : ℚ) (floatingVoltage : Option ℚ) : ℚ :=
  match floatingVoltage with
  | some floating =>
      if 0 < floating then min syncVoltage floating else syncVoltage
  | none => syncVoltage

/-- The asymmetric debounce: up at full, reset on real discharge, else down. -/
def nextSyncTicks (ticks : ℕ) (tick : Tick) (vFull tailCurrentA : ℚ) : ℕ :=
  if vFull ≤ tick.voltage ∧ |tick.signedCurrentA| ≤ tailCurrentA then ticks + 1
  else if tick.signedCurrentA < -tailCurrentA then 0
  else ticks - 1

def SocEstimator.settle (self : SocEstimator) (maxCapacityAh : ℚ)
    (ticks : ℕ) (tick : Tick) : Except PyError SocEstimator :=
  if syncDebounceTicks ≤ ticks then
    .ok { self with
      atSyncTicks := ticks
      accumulatedChargeAh := maxCapacityAh
      lastSyncAt :=
        if ticks = syncDebounceTicks then tick.wallNow.orElse
          fun _ => self.lastSyncAt
        else self.lastSyncAt
      socPercent := some (round2 (clamp 100 0 100)) }
  else do
    let charge := clamp self.accumulatedChargeAh 0 maxCapacityAh
    let frac ← divide charge maxCapacityAh
    return { self with
      atSyncTicks := ticks
      accumulatedChargeAh := charge
      socPercent := some (round2 (clamp (frac * 100) 0 100)) }

theorem SocEstimator.settle_snap (self : SocEstimator) (capacity : ℚ)
    {ticks : ℕ} (hticks : syncDebounceTicks ≤ ticks) (tick : Tick) :
    self.settle capacity ticks tick = .ok { self with
      atSyncTicks := ticks
      accumulatedChargeAh := capacity
      lastSyncAt :=
        if ticks = syncDebounceTicks then tick.wallNow.orElse
          fun _ => self.lastSyncAt
        else self.lastSyncAt
      socPercent := some (round2 (clamp 100 0 100)) } := by
  rw [SocEstimator.settle, if_pos hticks]

theorem SocEstimator.settle_clamp (self : SocEstimator) {capacity : ℚ}
    (hpos : 0 < capacity) {ticks : ℕ} (hticks : ¬syncDebounceTicks ≤ ticks)
    (tick : Tick) :
    self.settle capacity ticks tick = .ok { self with
      atSyncTicks := ticks
      accumulatedChargeAh := clamp self.accumulatedChargeAh 0 capacity
      socPercent := some (round2 (clamp
        (clamp self.accumulatedChargeAh 0 capacity / capacity * 100)
          0 100)) } := by
  simp only [SocEstimator.settle, if_neg hticks, divide_of_pos _ hpos]
  rfl

def SocEstimator.mirroredSoc (self : SocEstimator) (tick : Tick) : Option ℚ :=
  if self.mode = .liBms then tick.bmsSoc else none

/-- One tick.  The value the source returns is the new `socPercent`. -/
def SocEstimator.update (self : SocEstimator) (tick : Tick) :
    Except PyError SocEstimator :=
  match self.capacityAh with
  | none => .ok { self with socPercent := none }
  | some maxCapacityAh =>
      if maxCapacityAh ≤ 0 then .ok { self with socPercent := none }
      else
        let params := chemistryParams self.mode
        match self.mirroredSoc tick with
        | some bmsSoc => .ok (self.mirrorBms maxCapacityAh bmsSoc tick)
        | none =>
            match tick.syncVoltage with
            | none => .ok { self with socPercent := none }
            | some syncVoltage => do
                let effective ← effectiveCurrentA params tick.signedCurrentA
                let ticks := nextSyncTicks self.atSyncTicks tick
                  (vFullThreshold syncVoltage tick.floatingVoltage)
                  (maxCapacityAh * params.tailCRate)
                (self.integrate tick effective).settle maxCapacityAh ticks tick

theorem effectiveCurrentA_ok (mode : BatteryMode) (signedCurrentA : ℚ) :
    ∃ effective, effectiveCurrentA (chemistryParams mode) signedCurrentA =
      .ok effective := by
  unfold effectiveCurrentA
  split
  · exact ⟨_, rfl⟩
  · exact ⟨_, divide_of_pos _ (chemistryParams_dischargeEff_pos mode)⟩

theorem SocEstimator.update_of_unconfigured {self : SocEstimator}
    (hcapacity : self.capacityAh = none) (tick : Tick) :
    self.update tick = .ok { self with socPercent := none } := by
  simp [SocEstimator.update, hcapacity]

section Configured

variable {self : SocEstimator} {capacity : ℚ} {tick : Tick}

theorem SocEstimator.update_of_mirrored {bmsSoc : ℚ}
    (hcapacity : self.capacityAh = some capacity) (hpos : 0 < capacity)
    (hmirror : self.mirroredSoc tick = some bmsSoc) :
    self.update tick = .ok (self.mirrorBms capacity bmsSoc tick) := by
  simp [SocEstimator.update, hcapacity, not_le.mpr hpos, hmirror]

theorem SocEstimator.update_of_no_reference
    (hcapacity : self.capacityAh = some capacity) (hpos : 0 < capacity)
    (hmirror : self.mirroredSoc tick = none)
    (hreference : tick.syncVoltage = none) :
    self.update tick = .ok { self with socPercent := none } := by
  simp [SocEstimator.update, hcapacity, not_le.mpr hpos, hmirror, hreference]

theorem SocEstimator.update_of_reference {syncVoltage effective : ℚ}
    (hcapacity : self.capacityAh = some capacity) (hpos : 0 < capacity)
    (hmirror : self.mirroredSoc tick = none)
    (hreference : tick.syncVoltage = some syncVoltage)
    (heffective : effectiveCurrentA (chemistryParams self.mode)
      tick.signedCurrentA = .ok effective) :
    self.update tick =
      (self.integrate tick effective).settle capacity
        (nextSyncTicks self.atSyncTicks tick
          (vFullThreshold syncVoltage tick.floatingVoltage)
          (capacity * (chemistryParams self.mode).tailCRate)) tick := by
  simp only [SocEstimator.update, hcapacity, if_neg (not_le.mpr hpos),
    hmirror, hreference, heffective]
  rfl

end Configured

/-- What a tick of a configured estimator does: mirror the BMS, lose the
sync reference, or integrate and settle. -/
theorem SocEstimator.update_of_configured {self : SocEstimator}
    {capacity : ℚ} (hcapacity : self.capacityAh = some capacity)
    (hpos : 0 < capacity) (tick : Tick) :
    (∃ bmsSoc, self.mirroredSoc tick = some bmsSoc ∧
      self.update tick = .ok (self.mirrorBms capacity bmsSoc tick)) ∨
    (self.mirroredSoc tick = none ∧ tick.syncVoltage = none ∧
      self.update tick = .ok { self with socPercent := none }) ∨
    (∃ syncVoltage effective, self.mirroredSoc tick = none ∧
      tick.syncVoltage = some syncVoltage ∧
      effectiveCurrentA (chemistryParams self.mode) tick.signedCurrentA =
        .ok effective ∧
      self.update tick =
        (self.integrate tick effective).settle capacity
          (nextSyncTicks self.atSyncTicks tick
            (vFullThreshold syncVoltage tick.floatingVoltage)
            (capacity * (chemistryParams self.mode).tailCRate)) tick) := by
  cases hmirror : self.mirroredSoc tick with
  | some bmsSoc =>
      left
      exact ⟨bmsSoc, rfl, update_of_mirrored hcapacity hpos hmirror⟩
  | none =>
      right
      cases hsync : tick.syncVoltage with
      | none =>
          left
          exact ⟨rfl, rfl,
            update_of_no_reference hcapacity hpos hmirror hsync⟩
      | some syncVoltage =>
          right
          obtain ⟨effective, heffective⟩ :=
            effectiveCurrentA_ok self.mode tick.signedCurrentA
          exact ⟨syncVoltage, effective, rfl, rfl, heffective,
            update_of_reference hcapacity hpos hmirror hsync heffective⟩

/-! ## Calls -/

/-- The calls the sensor entity makes on its estimator. -/
inductive Call where
  | setMode (text : String)
  | setDeadband (enabled : Bool) (window noiseFloor : ℚ)
  | setCapacity (value : Option ℚ)
  | restore (socPercent : Option ℚ) (accumulatedChargeAh : ℚ)
      (lastSyncAt : Option WallTime)
  | update (tick : Tick)

def SocEstimator.call (self : SocEstimator) : Call → Except PyError SocEstimator
  | .setMode text => .ok (self.setMode text)
  | .setDeadband enabled window noiseFloor =>
      .ok (self.setDeadband enabled window noiseFloor)
  | .setCapacity value => self.setCapacity value
  | .restore socPercent accumulatedChargeAh lastSyncAt =>
      .ok (self.restore socPercent accumulatedChargeAh lastSyncAt)
  | .update tick => self.update tick

def Called (before : SocEstimator) (call : Call) (after : SocEstimator) :
    Prop :=
  before.call call = .ok after

def SocEstimator.next? (est : SocEstimator) (call : Call) :
    Option SocEstimator :=
  (est.call call).toOption

theorem called_of_next? {before after : SocEstimator} {call : Call}
    (hnext : before.next? call = some after) : Called before call after := by
  unfold SocEstimator.next? at hnext
  unfold Called
  cases hcall : before.call call with
  | error error =>
      rw [hcall] at hnext
      cases hnext
  | ok next =>
      rw [hcall] at hnext
      rw [Option.some.inj hnext]

end SocCore
end DessMonitor
