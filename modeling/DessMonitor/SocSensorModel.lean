import DessMonitor.EnergySensorModel
import DessMonitor.SocEstimatorInvariant

/-!
# The state-of-charge entity

The entity resolves its inputs from the data of the device and the states of
other entities, hands them to its estimator and publishes the percentage that
comes out.  What it shows and the charge behind it are stored now and then; a
restart builds a new entity from what was stored last.
-/

namespace DessMonitor
namespace SocCore

open Direct (Section DeviceData)
open Energy (plausibleBatteryCurrent? plausibleBatteryVoltage?)

/-! ## Failures -/

/-- How a handler fails.  The estimator of the model calculates with exact
numbers, and ends where the source goes on with one that is not finite. -/
inductive Failure where
  | keyError
  | overflowError
  | zeroDivisionError
  | notFinite
  deriving DecidableEq

def Failure.ofPyError : PyError → Failure
  | .zeroDivisionError => .zeroDivisionError

def finite : PyFloat → Except Failure ℚ
  | .finite value => .ok value
  | .infinity _ => .error .notFinite
  | .nan => .error .notFinite

/-! ## Inputs -/

/-- The number in the state of another entity; the entity may be missing. -/
def numberOf (state : Option String) : Option PyFloat :=
  match state with
  | none => none
  | some text =>
      if text = "unknown" ∨ text = "unavailable" then none
      else PyFloat.ofText? text

/-- What `set_capacity` is called with, which takes minus infinity for no
capacity. -/
def capacityArgument (state : Option String) : Except Failure (Option ℚ) :=
  match numberOf state with
  | none => .ok none
  | some (.infinity true) => .ok none
  | some value => (finite value).map some

/-- `max(0.0, float(state.state))`, or the default of a state without a
number. -/
def positiveNumber (state : Option String) (default : ℚ) :
    Except Failure ℚ :=
  match numberOf state with
  | none => .ok default
  | some value => finite value.positivePart

/-- The states of the entities that configure the estimator. -/
structure Controls where
  capacity : Option String
  syncVoltage : Option String
  batteryMode : Option String
  deadbandSwitch : Option String
  voltageWindow : Option String
  noiseFloor : Option String

inductive SocReading where
  /-- A field is no number. -/
  | invalid
  | outOfBounds
  | sample (signedCurrentA voltage : ℚ)
  deriving DecidableEq

/-- `float(section.get(key, 0))`. -/
def floatOrZero (values : Section) (key : String) :
    Except PyValue.FloatError PyFloat :=
  ((values.get? key).getD (.int 0)).toFloat

def socFields (qpigs : Section) :
    Except PyValue.FloatError (PyFloat × PyFloat × PyFloat) := do
  let voltage ← floatOrZero qpigs "battery_voltage"
  let charging ← floatOrZero qpigs "battery_charging_current"
  let discharging ← floatOrZero qpigs "battery_discharge_current"
  return (voltage, charging, discharging)

def socReading (qpigs : Section) : Except Failure SocReading :=
  match socFields qpigs with
  | .error .overflow => .error .overflowError
  | .error .typeOrValue => .ok .invalid
  | .ok (voltage, charging, discharging) =>
      match plausibleBatteryVoltage? voltage,
          plausibleBatteryCurrent? charging,
          plausibleBatteryCurrent? discharging with
      | some volts, some intoBattery, some fromBattery =>
          .ok (.sample (intoBattery - fromBattery) volts)
      | _, _, _ => .ok .outOfBounds

/-- `get_bulk_charging_voltage` and `get_floating_charging_voltage`. -/
def chargingVoltage (qpiri : Section) (key : String) :
    Except Failure (Option ℚ) :=
  match ((qpiri.get? key).getD .none).toFloat with
  | .ok voltage =>
      if voltage.exceeds 0 then (finite voltage).map some else .ok none
  | .error .overflow => .error .overflowError
  | .error .typeOrValue => .ok none

/-- `_read_bms_soc`. -/
def readBmsSoc (qpigs : Section) : Except Failure (Option ℚ) :=
  match (qpigs.get? "battery_capacity").getD .none with
  | .none => .ok none
  | .str "" => .ok none
  | raw =>
      match raw.toFloat with
      | .ok (.finite value) => .ok (some (DecimalRounding.clamp value 0 100))
      | .ok (.infinity negative) => .ok (some (if negative then 0 else 100))
      | .ok .nan => .ok none
      | .error .overflow => .error .overflowError
      | .error .typeOrValue => .ok none

/-! ## The entity -/

structure SocSensor where
  estimator : SocEstimator
  nativeValue : Option ℚ
  fullChargeSyncVoltage : ℚ
  restored : Bool

/-- `BatteryStoredData`; data of older versions has no charge in Ah. -/
structure StoredData where
  nativeValue : Option ℚ
  accumulatedChargeAh : Option ℚ
  lastSyncAt : Option WallTime

namespace SocSensor

def created : SocSensor := ⟨.fresh, none, 0, false⟩

/-- `_update_battery_capacity_from_state`. -/
def updateBatteryCapacity (sensor : SocSensor) (state : Option String) :
    Except Failure SocSensor := do
  let capacity ← capacityArgument state
  let estimator ←
    (sensor.estimator.setCapacity capacity).mapError Failure.ofPyError
  return { sensor with
    estimator := estimator
    nativeValue :=
      if estimator.capacityAh.isSome then
        estimator.socPercent.orElse fun _ => sensor.nativeValue
      else sensor.nativeValue }

/-- `_update_sync_voltage_from_state`. -/
def updateSyncVoltage (sensor : SocSensor) (state : Option String) :
    Except Failure SocSensor := do
  let voltage ← positiveNumber state 0
  return { sensor with fullChargeSyncVoltage := voltage }

/-- `_update_battery_mode_from_state`. -/
def updateBatteryMode (sensor : SocSensor) (state : Option String) :
    SocSensor :=
  match state with
  | none => sensor
  | some text => { sensor with estimator := sensor.estimator.setMode text }

/-- `_refresh_float_deadband_config`. -/
def refreshFloatDeadband (sensor : SocSensor)
    (deadbandSwitch voltageWindow noiseFloor : Option String) :
    Except Failure SocSensor := do
  let window ← positiveNumber voltageWindow defaultFloatVoltageWindowV
  let floor ← positiveNumber noiseFloor defaultFloatNoiseFloorA
  return { sensor with
    estimator := sensor.estimator.setDeadband
      (decide (deadbandSwitch ≠ some "off")) window floor }

/-- The end of `async_added_to_hass`: every control but the capacity. -/
def readControls (sensor : SocSensor) (controls : Controls) :
    Except Failure SocSensor := do
  let synced ← sensor.updateSyncVoltage controls.syncVoltage
  let refreshed ←
    (synced.updateBatteryMode controls.batteryMode).refreshFloatDeadband
      controls.deadbandSwitch controls.voltageWindow controls.noiseFloor
  return { refreshed with restored := true }

/-- The start of `async_added_to_hass`.  Without a stored value the battery
counts as full. -/
def seeded (sensor : SocSensor) (stored : Option StoredData) : SocSensor :=
  let soc := (stored.bind StoredData.nativeValue).getD 100
  let accumulated := (stored.bind StoredData.accumulatedChargeAh).getD 0
  { sensor with
    estimator := sensor.estimator.restore (some soc) accumulated
      (stored.bind StoredData.lastSyncAt)
    nativeValue := some soc }

/-- `async_added_to_hass`. -/
def addedToHass (sensor : SocSensor) (stored : Option StoredData)
    (controls : Controls) : Except Failure SocSensor := do
  let configured ← (sensor.seeded stored).updateBatteryCapacity
    controls.capacity
  configured.readControls controls

/-- `async_get_extra_data`. -/
def extraData (sensor : SocSensor) : StoredData where
  nativeValue := sensor.nativeValue
  accumulatedChargeAh := some sensor.estimator.accumulatedChargeAh
  lastSyncAt := sensor.estimator.lastSyncAt

/-- `get_full_charge_sync_voltage`. -/
def syncVoltage (sensor : SocSensor) (qpiri : Section) :
    Except Failure (Option ℚ) :=
  if 0 < sensor.fullChargeSyncVoltage then
    .ok (some sensor.fullChargeSyncVoltage)
  else chargingVoltage qpiri "bulk_charging_voltage"

/-- The reading of the BMS, in the mode that mirrors it. -/
def bmsSoc (sensor : SocSensor) (qpigs : Section) :
    Except Failure (Option ℚ) :=
  if sensor.estimator.mode = .liBms then readBmsSoc qpigs else .ok none

/-- The inputs that `update_soc` hands to the estimator. -/
def tick (sensor : SocSensor) (device : DeviceData)
    (signedCurrentA voltage now : ℚ) (wallNow : WallTime) :
    Except Failure Tick := do
  let syncVoltage ← sensor.syncVoltage (device.getSection .qpiri)
  let floatingVoltage ←
    chargingVoltage (device.getSection .qpiri) "float_charging_voltage"
  let bmsSoc ← sensor.bmsSoc (device.getSection .qpigs)
  return {
    signedCurrentA := signedCurrentA
    voltage := voltage
    now := now
    syncVoltage := syncVoltage
    floatingVoltage := floatingVoltage
    bmsSoc := bmsSoc
    wallNow := some wallNow }

/-- `update_soc`. -/
def updateSoc (sensor : SocSensor) (device : DeviceData)
    (signedCurrentA voltage now : ℚ) (wallNow : WallTime) :
    Except Failure SocSensor := do
  let tick ← sensor.tick device signedCurrentA voltage now wallNow
  let estimator ← (sensor.estimator.update tick).mapError Failure.ofPyError
  return { sensor with
    estimator := estimator
    nativeValue := estimator.socPercent }

/-- `_handle_coordinator_update`; `none` is a device that the coordinator has
no data of. -/
def handleCoordinatorUpdate (sensor : SocSensor) (device : Option DeviceData)
    (now : ℚ) (wallNow : WallTime) : Except Failure SocSensor :=
  match device with
  | none => .error .keyError
  | some device => do
      match ← socReading (device.getSection .qpigs) with
      | .outOfBounds => return sensor
      | .invalid => return { sensor with nativeValue := none }
      | .sample signedCurrentA voltage =>
          sensor.updateSoc device signedCurrentA voltage now wallNow

end SocSensor

/-! ## Across restarts -/

/-- The entity of one battery with what was stored of it last. -/
structure SocWorld where
  sensor : SocSensor
  stored : Option StoredData

def SocWorld.installed (stored : Option StoredData) : SocWorld :=
  ⟨.created, stored⟩

/-- The states of other entities are followed from the creation of the entity
on, the coordinator and the store only once it is added. -/
inductive SensorEvent where
  | capacityChanged (state : Option String)
  | syncVoltageChanged (state : Option String)
  | batteryModeChanged (state : Option String)
  | floatDeadbandChanged (deadbandSwitch voltageWindow noiseFloor :
      Option String)
  | coordinatorUpdated (device : Option DeviceData) (now : ℚ)
      (wallNow : WallTime)
  | stored
  | restarted
  | addedToHass (controls : Controls)

namespace SocWorld

/-- `none` is an event that cannot happen now. -/
def handle (world : SocWorld) :
    SensorEvent → Option (Except Failure SocWorld)
  | .capacityChanged state =>
      some ((world.sensor.updateBatteryCapacity state).map fun sensor =>
        { world with sensor := sensor })
  | .syncVoltageChanged state =>
      some ((world.sensor.updateSyncVoltage state).map fun sensor =>
        { world with sensor := sensor })
  | .batteryModeChanged state =>
      some (.ok { world with
        sensor := world.sensor.updateBatteryMode state })
  | .floatDeadbandChanged deadbandSwitch voltageWindow noiseFloor =>
      some ((world.sensor.refreshFloatDeadband deadbandSwitch voltageWindow
        noiseFloor).map fun sensor => { world with sensor := sensor })
  | .coordinatorUpdated device now wallNow =>
      if world.sensor.restored then
        some ((world.sensor.handleCoordinatorUpdate device now wallNow).map
          fun sensor => { world with sensor := sensor })
      else none
  | .stored =>
      if world.sensor.restored then
        some (.ok { world with stored := some world.sensor.extraData })
      else none
  | .restarted => some (.ok { world with sensor := .created })
  | .addedToHass controls =>
      if world.sensor.restored then none
      else
        some ((world.sensor.addedToHass world.stored controls).map
          fun sensor => { world with sensor := sensor })

/-- What a handler raises is logged; it raises before it changes anything. -/
def step (world : SocWorld) (event : SensorEvent) : Option SocWorld :=
  match world.handle event with
  | none => none
  | some (.ok after) => some after
  | some (.error .notFinite) => none
  | some (.error _) => some world

end SocWorld

end SocCore
end DessMonitor
