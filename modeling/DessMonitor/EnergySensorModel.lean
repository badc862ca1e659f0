import DessMonitor.DirectCoordinatorModel

/-!
# The energy sensors

`DirectEnergySensorBase` and its six sensors.  A handler reads a power out of
the device's data and passes it to one shared integrator; the handlers differ
in where the power comes from and in what a reading without one does to the
baseline of the integrator.

Numbers are the rationals the floats denote, and sums and products are exact.
-/

namespace DessMonitor
namespace Energy

open Direct (Section SectionName DeviceData)

/-! ## Plausibility -/

def maxPlausiblePowerW : ℚ := 50000

/-- `is_plausible_power`, with the number that passes it. -/
def plausiblePower? (value : PyFloat) : Option ℚ :=
  value.within (-maxPlausiblePowerW) maxPlausiblePowerW

def plausibleBatteryCurrent? (value : PyFloat) : Option ℚ :=
  value.within 0 Direct.maxBatteryCurrentA

def plausibleBatteryVoltage? (value : PyFloat) : Option ℚ :=
  value.within Direct.minBatteryVoltageV Direct.maxBatteryVoltageV

def maxStepWh (elapsedSeconds : ℚ) : ℚ :=
  max (maxPlausiblePowerW * elapsedSeconds / 3600) 100

/-! ## The integrator -/

structure EnergySensor where
  nativeValue : Option ℚ
  prevPower : Option ℚ
  prevTs : ℚ
  deriving DecidableEq

namespace EnergySensor

/-- `__init__` at `now`, then `async_added_to_hass`. -/
def added (restored : Option ℚ) (now : ℚ) : EnergySensor where
  nativeValue := some (restored.getD 0)
  prevPower := none
  prevTs := now

/-- The native value, where `None` counts as zero. -/
def energy (est : EnergySensor) : ℚ := est.nativeValue.getD 0

def updateEnergyValue (est : EnergySensor) (currentValue now : ℚ) :
    EnergySensor :=
  let elapsedSeconds := now - est.prevTs
  match est.prevPower with
  | none =>
      { nativeValue := some est.energy
        prevPower := some currentValue
        prevTs := now }
  | some prevPower =>
      let stepWh := elapsedSeconds / 3600 * (prevPower + currentValue) / 2
      if 0 ≤ stepWh ∧ stepWh ≤ maxStepWh elapsedSeconds then
        { nativeValue := some (est.energy + stepWh)
          prevPower := some currentValue
          prevTs := now }
      else
        -- One broken sample ends the trapezoid.
        { nativeValue := some est.energy
          prevPower := none
          prevTs := now }

def resetBaseline (est : EnergySensor) (now : ℚ) : EnergySensor :=
  { est with prevPower := none, prevTs := now }

end EnergySensor

/-! ## Readings -/

/-- What a handler finds in the data of its device. -/
inductive Reading where
  /-- A power for the integrator. -/
  | sample (watts : ℚ)
  /-- The handler resets the baseline. -/
  | rejected
  /-- The handler only publishes its state. -/
  | missing
  /-- The handler raises. -/
  | raised
  deriving DecidableEq

/-- The reading of a handler that resets on every error it catches. -/
def Reading.ofResult : Except PyValue.FloatError (Option ℚ) → Reading
  | .ok (some watts) => .sample watts
  | .ok none => .rejected
  | .error .typeOrValue => .rejected
  | .error .overflow => .raised

/-- `DirectEnergySensorBase._handle_coordinator_update`.  The device is absent
when `coordinator.data` has no entry for it. -/
def baseReading (dataSection : SectionName) (dataKey : String)
    (device : Option DeviceData) : Reading :=
  match device with
  | none => .raised
  | some device =>
      let raw := ((device.getSection dataSection).get? dataKey).getD .none
      match raw.toFloat with
      | .error .overflow => .raised
      | .error .typeOrValue => .missing
      | .ok power =>
          match plausiblePower? power with
          | none => .rejected
          | some watts => .sample watts

/-- `float(section[key])`; `KeyError` is caught where `TypeError` is. -/
def requiredFloat (values : Section) (key : String) :
    Except PyValue.FloatError PyFloat :=
  match values.get? key with
  | none => .error .typeOrValue
  | some raw => raw.toFloat

def pv2Power (device : Option DeviceData) :
    Except PyValue.FloatError (Option ℚ) :=
  match device.bind fun device => device.sections.get? .qpigs2 with
  | none => .error .typeOrValue
  | some sec => do
      let current ← requiredFloat sec "pv_current"
      let voltage ← requiredFloat sec "pv_voltage"
      return plausiblePower? (current.mul voltage)

def isNone : PyValue → Bool
  | .none => true
  | _ => false

/-- The plausible current and live voltage of a battery. -/
def batteryPair (qpigs : Section) (currentKey : String) :
    Except PyValue.FloatError (Option (ℚ × ℚ)) :=
  let currentRaw := (qpigs.get? currentKey).getD .none
  let voltageRaw := (qpigs.get? "battery_voltage").getD .none
  if isNone currentRaw || isNone voltageRaw then .ok none
  else do
    let current ← currentRaw.toFloat
    let voltage ← voltageRaw.toFloat
    if current = .nan ∨ voltage = .nan then return none
    -- All-zeros is an offline bridge.
    else if current = .finite 0 ∧ voltage = .finite 0 then return none
    else
      match plausibleBatteryCurrent? current,
          plausibleBatteryVoltage? voltage with
      | some amperes, some volts => return some (amperes, volts)
      | _, _ => return none

def batteryReading (currentKey : String) (power : ℚ → ℚ → ℚ)
    (device : Option DeviceData) : Reading :=
  match device with
  | none => .raised
  | some device =>
      .ofResult ((batteryPair (device.getSection .qpigs) currentKey).map
        fun pair => pair.map fun (current, voltage) => power current voltage)

/-! ## The six sensors -/

inductive EnergySensorKind where
  | pv
  | pv2
  | inverterOutput
  | outputApparent
  | batteryIn
  | batteryOut
  deriving DecidableEq

def batteryInPower (current voltage : ℚ) : ℚ :=
  if 0 < current then current * voltage else 0

def batteryOutPower (current voltage : ℚ) : ℚ :=
  let power := current * voltage
  if power ≤ 0 then 0 else power

def EnergySensorKind.reading : EnergySensorKind → Option DeviceData → Reading
  | .pv => baseReading .qpigs "pv_charging_power"
  | .pv2 => fun device => .ofResult (pv2Power device)
  | .inverterOutput => baseReading .qpigs "output_active_power"
  | .outputApparent => baseReading .qpigs "output_apparent_power"
  | .batteryIn => batteryReading "battery_charging_current" batteryInPower
  | .batteryOut => batteryReading "battery_discharge_current" batteryOutPower

/-- A coordinator update: the clock and the data of the device. -/
structure Update where
  now : ℚ
  device : Option DeviceData

def EnergySensorKind.handleCoordinatorUpdate (kind : EnergySensorKind)
    (est : EnergySensor) (update : Update) : EnergySensor :=
  match kind.reading update.device with
  | .sample watts => est.updateEnergyValue watts update.now
  | .rejected => est.resetBaseline update.now
  | .missing => est
  | .raised => est

def EnergySensorKind.run (kind : EnergySensorKind) (start : EnergySensor)
    (updates : List Update) : EnergySensor :=
  updates.foldl kind.handleCoordinatorUpdate start

@[simp] theorem EnergySensorKind.run_nil (kind : EnergySensorKind)
    (start : EnergySensor) : kind.run start [] = start := rfl

@[simp] theorem EnergySensorKind.run_cons (kind : EnergySensorKind)
    (start : EnergySensor) (update : Update) (updates : List Update) :
    kind.run start (update :: updates) =
      kind.run (kind.handleCoordinatorUpdate start update) updates := rfl

theorem EnergySensorKind.run_append (kind : EnergySensorKind)
    (start : EnergySensor) (earlier later : List Update) :
    kind.run start (earlier ++ later) =
      kind.run (kind.run start earlier) later :=
  List.foldl_append

/-! ## What an update does -/

/-- The three things an update can do to the integrator. -/
theorem EnergySensorKind.handle_cases (kind : EnergySensorKind)
    (est : EnergySensor) (update : Update) :
    (∃ watts, kind.reading update.device = .sample watts ∧
      kind.handleCoordinatorUpdate est update =
        est.updateEnergyValue watts update.now) ∨
    (kind.reading update.device = .rejected ∧
      kind.handleCoordinatorUpdate est update =
        est.resetBaseline update.now) ∨
    ((kind.reading update.device = .missing ∨
        kind.reading update.device = .raised) ∧
      kind.handleCoordinatorUpdate est update = est) := by
  unfold EnergySensorKind.handleCoordinatorUpdate
  cases kind.reading update.device with
  | sample watts => exact .inl ⟨watts, rfl, rfl⟩
  | rejected => exact .inr (.inl ⟨rfl, rfl⟩)
  | missing => exact .inr (.inr ⟨.inl rfl, rfl⟩)
  | raised => exact .inr (.inr ⟨.inr rfl, rfl⟩)

/-- A sample sets the baseline, closes a trapezoid, or is dropped with the
baseline. -/
theorem EnergySensor.update_cases (est : EnergySensor) (watts now : ℚ) :
    (est.prevPower = none ∧ est.updateEnergyValue watts now =
      ⟨some est.energy, some watts, now⟩) ∨
    (∃ prevPower, est.prevPower = some prevPower ∧
      0 ≤ (now - est.prevTs) / 3600 * (prevPower + watts) / 2 ∧
      est.updateEnergyValue watts now =
        ⟨some (est.energy +
          (now - est.prevTs) / 3600 * (prevPower + watts) / 2),
          some watts, now⟩) ∨
    est.updateEnergyValue watts now = ⟨some est.energy, none, now⟩ := by
  unfold EnergySensor.updateEnergyValue
  cases est.prevPower with
  | none => exact .inl ⟨rfl, rfl⟩
  | some prevPower =>
      dsimp only
      split
      next hstep => exact .inr (.inl ⟨prevPower, rfl, hstep.1, rfl⟩)
      next => exact .inr (.inr rfl)

end Energy
end DessMonitor
