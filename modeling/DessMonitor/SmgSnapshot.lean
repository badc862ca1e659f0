import DessMonitor.Foundation.PyFormat
import DessMonitor.ReadingPolicies

/-!
# The register snapshot of an SMG-II

Three blocks of 16-bit registers are decoded into sensors, configuration and
faults.  The adapter reads them at most once per time to live and serves every
command from the cached snapshot: QPIGS and QPIRI as projections in the shape
of a Voltronic reply, every other command as the three parts under their
names.
-/

namespace DessMonitor
namespace Smg

open Direct (Section)

/-- A function that reads a block of registers; `none` is any exception. -/
abbrev ReadBlock := ℕ → ℕ → Option (List UInt16)

/-! ## Registers -/

def i16 (v : ℕ) : ℤ := if 32768 ≤ v then v - 65536 else v

/-- A register of a block that is long enough. -/
def register (block : List UInt16) (start addr : ℕ) : ℕ :=
  (block.getD (addr - start) 0).toNat

def tenths (v : ℤ) : PyFloat := .ofRat (v / 10)
def hundredths (v : ℤ) : PyFloat := .ofRat (v / 100)

/-- Two registers as one double word, the high one first. -/
def dword (block : List UInt16) (start addr : ℕ) : ℕ :=
  register block start addr <<< 16 ||| register block start (addr + 1)

def operationModes : ℕ → Option String
  | 0 => some "Power On"
  | 1 => some "Standby"
  | 2 => some "Mains"
  | 3 => some "Off-Grid"
  | 4 => some "Bypass"
  | 5 => some "Charging"
  | 6 => some "Fault"
  | _ => none

/-! ## The three parts -/

structure Sensors where
  operationMode : Option String
  mainsVoltage : PyFloat
  mainsFrequency : PyFloat
  mainsPower : ℤ
  inverterVoltage : PyFloat
  inverterCurrent : PyFloat
  inverterFrequency : PyFloat
  inverterPower : ℤ
  inverterChargePower : ℤ
  outputVoltage : PyFloat
  outputCurrent : PyFloat
  outputFrequency : PyFloat
  outputActivePower : ℤ
  batteryVoltage : PyFloat
  batteryCurrent : PyFloat
  batteryPower : ℤ
  pvVoltage : PyFloat
  pvCurrent : PyFloat
  pvPower : ℤ
  pvChargePower : ℤ
  loadPercent : ℤ
  tempDcdc : ℤ
  tempInverter : ℤ
  deriving DecidableEq

/-- `none` is the `IndexError` of a short block. -/
def readSensors (block : List UInt16) : Option Sensors :=
  let r200 := register block 201
  if 227 - 201 < block.length then
    some
      { operationMode := operationModes (r200 201)
        mainsVoltage := tenths (r200 202)
        mainsFrequency := hundredths (r200 203)
        mainsPower := i16 (r200 204)
        inverterVoltage := tenths (r200 205)
        inverterCurrent := tenths (i16 (r200 206))
        inverterFrequency := hundredths (r200 207)
        inverterPower := i16 (r200 208)
        inverterChargePower := i16 (r200 209)
        outputVoltage := tenths (r200 210)
        outputCurrent := tenths (i16 (r200 211))
        outputFrequency := hundredths (r200 212)
        outputActivePower := i16 (r200 213)
        batteryVoltage := tenths (r200 215)
        batteryCurrent := tenths (i16 (r200 216))
        batteryPower := i16 (r200 217)
        pvVoltage := tenths (r200 219)
        pvCurrent := tenths (r200 220)
        pvPower := i16 (r200 223)
        pvChargePower := i16 (r200 224)
        loadPercent := r200 225
        tempDcdc := r200 226
        tempInverter := r200 227 }
  else none

def Sensors.toDict (s : Sensors) : Section :=
  .ofPairs
    [("operation_mode",
        match s.operationMode with
        | none => .none
        | some mode => .str mode),
      ("mains_voltage", .float s.mainsVoltage),
      ("mains_frequency", .float s.mainsFrequency),
      ("mains_power", .int s.mainsPower),
      ("inverter_voltage", .float s.inverterVoltage),
      ("inverter_current", .float s.inverterCurrent),
      ("inverter_frequency", .float s.inverterFrequency),
      ("inverter_power", .int s.inverterPower),
      ("inverter_charge_power", .int s.inverterChargePower),
      ("output_voltage", .float s.outputVoltage),
      ("output_current", .float s.outputCurrent),
      ("output_frequency", .float s.outputFrequency),
      ("output_active_power", .int s.outputActivePower),
      ("battery_voltage", .float s.batteryVoltage),
      ("battery_current", .float s.batteryCurrent),
      ("battery_power", .int s.batteryPower),
      ("pv_voltage", .float s.pvVoltage),
      ("pv_current", .float s.pvCurrent),
      ("pv_power", .int s.pvPower),
      ("pv_charge_power", .int s.pvChargePower),
      ("load_percent", .int s.loadPercent),
      ("temp_dcdc", .int s.tempDcdc),
      ("temp_inverter", .int s.tempInverter)]

structure Config where
  outputMode : ℤ
  outputPriority : ℤ
  inputVoltageRange : ℤ
  buzzerMode : ℤ
  lcdBacklight : ℤ
  lcdAutoReturn : ℤ
  energySavingMode : ℤ
  overloadAutoRestart : ℤ
  overtempAutoRestart : ℤ
  overloadTransferToBypass : ℤ
  batteryEqEnabled : ℤ
  outputVoltageSetting : PyFloat
  outputFreqSetting : PyFloat
  batteryOvp : PyFloat
  maxChargeVoltage : PyFloat
  floatChargeVoltage : PyFloat
  batteryDischargeRecoveryMains : PyFloat
  batteryLowProtectionMains : PyFloat
  batteryLowProtectionOffgrid : PyFloat
  batteryChargingPriority : ℤ
  maxChargingCurrent : PyFloat
  maxMainsChargingCurrent : PyFloat
  eqChargingVoltage : PyFloat
  eqTimeMinutes : ℤ
  eqTimeout : ℤ
  eqIntervalDays : ℤ
  deriving DecidableEq

/-- `none` is the `IndexError` of a short block. -/
def readConfig (block : List UInt16) : Option Config :=
  let r300 := register block 300
  if 337 - 300 < block.length then
    some
      { outputMode := r300 300
        outputPriority := r300 301
        inputVoltageRange := r300 302
        buzzerMode := r300 303
        lcdBacklight := r300 305
        lcdAutoReturn := r300 306
        energySavingMode := r300 307
        overloadAutoRestart := r300 308
        overtempAutoRestart := r300 309
        overloadTransferToBypass := r300 310
        batteryEqEnabled := r300 313
        outputVoltageSetting := tenths (r300 320)
        outputFreqSetting := hundredths (r300 321)
        batteryOvp := tenths (r300 323)
        maxChargeVoltage := tenths (r300 324)
        floatChargeVoltage := tenths (r300 325)
        batteryDischargeRecoveryMains := tenths (r300 326)
        batteryLowProtectionMains := tenths (r300 327)
        batteryLowProtectionOffgrid := tenths (r300 329)
        batteryChargingPriority := r300 331
        maxChargingCurrent := tenths (r300 332)
        maxMainsChargingCurrent := tenths (r300 333)
        eqChargingVoltage := tenths (r300 334)
        eqTimeMinutes := r300 335
        eqTimeout := r300 336
        eqIntervalDays := r300 337 }
  else none

def Config.toDict (c : Config) : Section :=
  .ofPairs
    [("output_mode", .int c.outputMode),
      ("output_priority", .int c.outputPriority),
      ("input_voltage_range", .int c.inputVoltageRange),
      ("buzzer_mode", .int c.buzzerMode),
      ("lcd_backlight", .int c.lcdBacklight),
      ("lcd_auto_return", .int c.lcdAutoReturn),
      ("energy_saving_mode", .int c.energySavingMode),
      ("overload_auto_restart", .int c.overloadAutoRestart),
      ("overtemp_auto_restart", .int c.overtempAutoRestart),
      ("overload_transfer_to_bypass", .int c.overloadTransferToBypass),
      ("battery_eq_enabled", .int c.batteryEqEnabled),
      ("output_voltage_setting", .float c.outputVoltageSetting),
      ("output_freq_setting", .float c.outputFreqSetting),
      ("battery_ovp", .float c.batteryOvp),
      ("max_charge_voltage", .float c.maxChargeVoltage),
      ("float_charge_voltage", .float c.floatChargeVoltage),
      ("battery_discharge_recovery_mains",
        .float c.batteryDischargeRecoveryMains),
      ("battery_low_protection_mains", .float c.batteryLowProtectionMains),
      ("battery_low_protection_offgrid",
        .float c.batteryLowProtectionOffgrid),
      ("battery_charging_priority", .int c.batteryChargingPriority),
      ("max_charging_current", .float c.maxChargingCurrent),
      ("max_mains_charging_current", .float c.maxMainsChargingCurrent),
      ("eq_charging_voltage", .float c.eqChargingVoltage),
      ("eq_time_minutes", .int c.eqTimeMinutes),
      ("eq_timeout", .int c.eqTimeout),
      ("eq_interval_days", .int c.eqIntervalDays)]

/-- Empty when the block could not be read or is too short. -/
def readFaults (block : Option (List UInt16)) : Section :=
  match block with
  | none => .empty
  | some block =>
      if 10 ≤ block.length then
        let faultCode := dword block 100 100
        let warningCode := dword block 100 108
        .ofPairs
          [("fault_code", .int faultCode),
            ("warning_code", .int warningCode),
            ("has_fault", .bool (decide (faultCode ≠ 0))),
            ("has_warning", .bool (decide (warningCode ≠ 0))),
            ("fault_description",
              if faultCode ≠ 0 then
                .str ("SMG-II fault 0x" ++ PyFormat.hex 8 faultCode)
              else .none)]
      else .empty

structure Snapshot where
  sensors : Sensors
  config : Config
  faults : Section

/-- `read_smg2_snapshot_via`; only the fault block may fail. -/
def readSmg2SnapshotVia (readBlock : ReadBlock) : Option Snapshot := do
  let faults := readFaults (readBlock 100 16)
  let block200 ← readBlock 201 31
  let sensors ← readSensors block200
  let block300 ← readBlock 300 38
  let config ← readConfig block300
  some ⟨sensors, config, faults⟩

/-! ## Projections -/

/-- `none` is the error of `int` on an infinity or NaN. -/
def smg2ToQpigs (s : Sensors) : Option Section := do
  let busVoltage : ℤ := 400
  let current ← PyFormat.truncate s.batteryCurrent
  let batteryChargingCurrent := max 0 current
  let batteryDischargeCurrent := max 0 (-current)
  some (.ofPairs
    [("grid_voltage", .str (PyFormat.fixed 1 s.mainsVoltage)),
      ("grid_frequency", .str (PyFormat.fixed 1 s.mainsFrequency)),
      ("ac_output_voltage", .str (PyFormat.fixed 1 s.outputVoltage)),
      ("ac_output_frequency", .str (PyFormat.fixed 2 s.outputFrequency)),
      ("output_apparent_power", .str (PyFormat.decimal 4 |s.outputActivePower|)),
      ("output_active_power", .str (PyFormat.decimal 4 |s.outputActivePower|)),
      ("load_percent", .str (PyFormat.decimal 3 s.loadPercent)),
      ("bus_voltage", .str (PyFormat.decimal 0 busVoltage)),
      ("battery_voltage", .str (PyFormat.fixed 2 s.batteryVoltage)),
      ("battery_charging_current",
        .str (PyFormat.decimal 3 batteryChargingCurrent)),
      ("battery_capacity", .str "100"),
      ("inverter_heat_sink_temperature",
        .str (PyFormat.fixed 1 (.ofRat s.tempInverter))),
      ("inverter_dcdc_module_temperature",
        .str (PyFormat.fixed 1 (.ofRat s.tempDcdc))),
      ("pv_input_current", .str (PyFormat.fixed 1 s.pvCurrent)),
      ("pv_input_voltage", .str (PyFormat.fixed 1 s.pvVoltage)),
      ("scc_battery_voltage", .str (PyFormat.fixed 2 s.batteryVoltage)),
      ("battery_discharge_current",
        .str (PyFormat.decimal 5 batteryDischargeCurrent)),
      ("device_status_bits_b7_b0", .str "00010000"),
      ("battery_voltage_offset", .str "00"),
      ("eeprom_version", .str "00"),
      ("pv_charging_power", .str (PyFormat.decimal 5 s.pvPower)),
      ("device_status_bits_b10_b8", .str "010"),
      ("grid_ac_in_power", .str (PyFormat.decimal 5 |s.mainsPower|))])

def outputPriorityMap : ℤ → String
  | 0 => "UtilityFirst"
  | 1 => "SolarFirst"
  | 2 => "SBU"
  | _ => "UtilityFirst"

def chargerPriorityMap : ℤ → String
  | 0 => "UtilityFirst"
  | 1 => "SolarFirst"
  | 2 => "SolarAndUtility"
  | 3 => "OnlySolar"
  | _ => "UtilityFirst"

/-- `none` is the error of `int` on an infinity or NaN. -/
def smg2ToQpiri (c : Config) : Option Section := do
  let acRangeName := if c.inputVoltageRange = 1 then "UPS" else "Appliance"
  let maxUtility ← PyFormat.truncate c.maxMainsChargingCurrent
  let maxCharging ← PyFormat.truncate c.maxChargingCurrent
  some (.ofPairs
    [("rated_grid_voltage", .str "230.0"),
      ("rated_input_current", .str "15.2"),
      ("rated_ac_output_voltage", .str "230.0"),
      ("rated_output_frequency", .str "50.0"),
      ("rated_output_current", .str "15.2"),
      ("rated_output_apparent_power", .str "4000"),
      ("rated_output_active_power", .str "4000"),
      ("rated_battery_voltage", .str "24.0"),
      ("low_battery_to_ac_bypass_voltage",
        .str (PyFormat.fixed 1 c.batteryLowProtectionMains)),
      ("shut_down_battery_voltage",
        .str (PyFormat.fixed 1 c.batteryLowProtectionOffgrid)),
      ("bulk_charging_voltage", .str (PyFormat.fixed 1 c.maxChargeVoltage)),
      ("float_charging_voltage",
        .str (PyFormat.fixed 1 c.floatChargeVoltage)),
      ("battery_type", .str "UserDefined"),
      ("max_utility_charging_current", .str (PyFormat.decimal 2 maxUtility)),
      ("max_charging_current", .str (PyFormat.decimal 3 maxCharging)),
      ("ac_input_voltage_range", .str acRangeName),
      ("output_source_priority", .str (outputPriorityMap c.outputPriority)),
      ("charger_source_priority",
        .str (chargerPriorityMap c.batteryChargingPriority)),
      ("parallel_max_number", .str "6"),
      ("reserved_uu", .str "01"),
      ("reserved_v", .str "0"),
      ("parallel_mode", .str "Master"),
      ("high_battery_voltage_to_battery_mode",
        .str (PyFormat.fixed 1 c.batteryDischargeRecoveryMains)),
      ("solar_work_condition_in_parallel", .str "0"),
      ("solar_max_charging_power_auto_adjust", .str "1_"),
      ("rated_battery_capacity", .str "200"),
      ("reserved_b", .str "0"),
      ("reserved_ccc", .str "0")])

/-! ## The adapter -/

/-- When a snapshot was asked for, and what was read; `none` is a failed read,
which is kept as well. -/
structure CacheEntry where
  time : ℚ
  snapshot : Option Snapshot

abbrev SnapshotCache := Dict String CacheEntry

def snapshotTtl : ℚ := 5

def SnapshotCache.fresh? (cache : SnapshotCache) (key : String) (now : ℚ) :
    Option CacheEntry :=
  (cache.get? key).filter fun entry => now - entry.time < snapshotTtl

/-- `_cached_snapshot` with nothing in between, and the cache after it. -/
def cachedSnapshot (cache : SnapshotCache) (key : String) (now : ℚ)
    (readBlock : ReadBlock) : Option Snapshot × SnapshotCache :=
  match cache.fresh? key now with
  | some entry => (entry.snapshot, cache)
  | none =>
      let snapshot := readSmg2SnapshotVia readBlock
      (snapshot, cache.set key ⟨now, snapshot⟩)

/-- The section of every command without a projection. -/
def Snapshot.sections (snapshot : Snapshot) : Section :=
  .ofPairs
    [("sensors", .dict snapshot.sensors.toDict.entries),
      ("config", .dict snapshot.config.toDict.entries),
      ("faults", .dict snapshot.faults.entries)]

/-- `ModbusAdapter.get_data`; `none` is an exception. -/
def getData (cache : SnapshotCache) (uri : String) (now : ℚ)
    (readBlock : ReadBlock) (command : String) :
    Option Section × SnapshotCache :=
  let (snapshot, cache) := cachedSnapshot cache uri now readBlock
  match snapshot with
  | none => (some .empty, cache)
  | some snapshot =>
      if command = "QPIGS" then (smg2ToQpigs snapshot.sensors, cache)
      else if command = "QPIRI" then (smg2ToQpiri snapshot.config, cache)
      else (some snapshot.sections, cache)

end Smg
end DessMonitor
