import DessMonitor.AgentSnapshot
import DessMonitor.WarningSensors

/-!
# The sections of an agent snapshot

What each command gets of the flat dictionary: the warnings are in
`AgentSnapshot`, the ratings, the mode and the live readings are here.  The live
readings are completed with split battery currents and with status bits made
up from other fields.
-/

namespace DessMonitor
namespace Agent

open Direct (Section)

/-- A snapshot: each field with its text. -/
abbrev Snapshot := Dict String String

def Snapshot.raw (snapshot : Snapshot) : Section := snapshot.mapValues .str

/-! ## Routing of the keys -/

/-- `_QPIRI_FIELD_NAMES`. -/
def qpiriFieldNames : List String :=
  ["rated_grid_voltage", "rated_input_current", "rated_ac_output_voltage",
    "rated_output_frequency", "rated_output_current",
    "rated_output_apparent_power", "rated_output_active_power",
    "rated_battery_voltage", "low_battery_to_ac_bypass_voltage",
    "shut_down_battery_voltage", "bulk_charging_voltage",
    "float_charging_voltage", "battery_type",
    "max_utility_charging_current", "max_charging_current",
    "ac_input_voltage_range", "output_source_priority",
    "charger_source_priority", "parallel_max_number", "parallel_mode",
    "high_battery_voltage_to_battery_mode",
    "solar_work_condition_in_parallel",
    "solar_max_charging_power_auto_adjust", "rated_battery_capacity"]

/-- The entries under a prefix, without it. -/
def unprefixed (start : String) (raw : Section) : Section :=
  .ofPairs ((raw.entries.filter fun entry =>
    PyString.startsWith entry.1 start).map fun entry =>
      (String.ofList (entry.1.toList.drop start.length), entry.2))

/-- `split_raw_by_command(raw, "QPIRI")`. -/
def splitRawQpiri (raw : Section) : Section :=
  let prefixed := unprefixed "qpiri." raw
  if prefixed.isEmpty then
    raw.filterKeys fun key => decide (key ∈ qpiriFieldNames)
  else prefixed

/-- The keys of the live readings. -/
def isLiveKey (key : String) : Bool :=
  !(["qpiri.", "qmod.", "qpigs2.", "warn_"].any (PyString.startsWith key)) &&
    decide (key ∉ qpiriFieldNames) &&
    decide (key ∉ ["fault_code", "fault_description"])

/-! ## Split battery currents -/

/-- `float(value)` with zero for what is no number; `none` is the error that
is not caught. -/
def floatOrZero (value : PyValue) : Option PyFloat :=
  match value.toFloat with
  | .ok number => some number
  | .error .typeOrValue => some (.finite 0)
  | .error .overflow => none

/-- The currents of a signed one are set where they are missing. -/
def addSplitCurrents (qpigs : Section) : Option Section :=
  match qpigs.get? "battery_current" with
  | none => some qpigs
  | some value =>
      if qpigs.contains "battery_charging_current" &&
          qpigs.contains "battery_discharge_current" then
        some qpigs
      else
        (floatOrZero value).map fun signed =>
          let withCharging := Warnings.setDefault qpigs
            "battery_charging_current"
            (.str (PyFormat.fixed 2 signed.positivePart))
          Warnings.setDefault withCharging "battery_discharge_current"
            (.str (PyFormat.fixed 2 signed.neg.positivePart))

/-! ## Status bits -/

/-- `d.get(key, 0) or 0` as a float, zero for what is no number. -/
def safeFloat (d : Section) (key : String) : Option PyFloat :=
  let value := (d.get? key).getD (.int 0)
  floatOrZero (if value.truthy then value else .int 0)

/-- The operating mode in lower case; `none` is the error on a value that is
not a text. -/
def operatingMode (raw : Section) : Option String :=
  let plain := (raw.get? "operating_mode").getD .none
  let prefixed := (raw.get? "qmod.operating_mode").getD .none
  match if plain.truthy then plain
    else if prefixed.truthy then prefixed else .str "" with
  | .str mode => some mode.toLower
  | _ => none

def bitsText (bits : List Bool) : String :=
  .ofList (bits.map fun bit => if bit then '1' else '0')

/-- `_synth_b7_b0`. -/
def synthB7B0 (raw : Section) : Option String := do
  let mode ← operatingMode raw
  let gridVoltage ← safeFloat raw "grid_voltage"
  let loadPercent ← safeFloat raw "load_percent"
  let inverterOn :=
    decide (mode ∈ ["mains", "offgrid", "battery", "line", "bypass"])
  let lineFail := gridVoltage.below 50
  let overload := loadPercent.exceeds 100
  let fault := decide (mode = "fault")
  return bitsText
    [fault, false, false, lineFail, false, false, overload, inverterOn]

/-- The binary64 number of the literal `0.1`. -/
def tenth : ℚ := 3602879701896397 / 36028797018963968

example : PyFloat.ofRat (1 / 10) = .finite tenth := by decide +kernel

/-- `_synth_b10_b8`. -/
def synthB10B8 (qpigs raw : Section) : Option String := do
  let signed ← safeFloat qpigs "battery_current"
  let chargingToBattery := signed.exceeds tenth
  let gridVoltage ← safeFloat raw "grid_voltage"
  let acCharging := chargingToBattery && gridVoltage.exceeds 50
  let pvCharging ← safeFloat raw "pv_charging_power"
  let pvPower ← if pvCharging = .finite 0 then safeFloat raw "pv_input_power"
    else some pvCharging
  let sccCharging := pvPower.exceeds 5
  return bitsText [chargingToBattery, acCharging, sccCharging]

/-- `qpigs[key] = synthesised` where the key is missing. -/
def addBits (key : String) (synthesised : Option String) (qpigs : Section) :
    Option Section :=
  if qpigs.contains key then some qpigs
  else synthesised.map fun bits => qpigs.set key (.str bits)

/-- `split_raw_by_command(raw, "QPIGS")`. -/
def splitRawQpigs (raw : Section) : Option Section := do
  let split ← addSplitCurrents (raw.filterKeys isLiveKey)
  let withB7B0 ← addBits "device_status_bits_b7_b0" (synthB7B0 raw) split
  addBits "device_status_bits_b10_b8" (synthB10B8 withB7B0 raw) withB7B0

/-- `split_raw_by_command`; `none` is an error that is not caught. -/
def splitRawByCommand (raw : Section) (command : String) : Option Section :=
  if command = "QPIRI" then some (splitRawQpiri raw)
  else if command = "QFWS" then splitRawQfws raw
  else if command = "QPIGS" then splitRawQpigs raw
  else if command = "QMOD" then some (unprefixed "qmod." raw)
  else if command = "QPIGS2" then some (unprefixed "qpigs2." raw)
  else some .empty

end Agent
end DessMonitor
