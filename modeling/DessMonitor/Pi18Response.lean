import DessMonitor.Enums
import DessMonitor.Foundation.PyBytes
import DessMonitor.Pi18Decoder
import DessMonitor.Pi18Frame

/-!
# Decoded PI18 responses

A response is an acknowledgement or a refusal of a set command, or a payload
that the decoder of the command projects onto the fields of a PI30 reply.  Most
payloads are numbers separated by commas.
-/

namespace DessMonitor
namespace Pi18

open DecimalRounding
open Direct (Section)
open Enums PyString

/-! ## Numbers -/

/-- An integer as a `float`; `none` is `OverflowError`. -/
def floatOf (value : ℤ) : Option ℚ :=
  match PyFloat.ofRat value with
  | .finite rounded => some rounded
  | _ => none

/-- `f"{value:.1f}"`. -/
def wholeText (value : ℤ) : Option PyValue :=
  (floatOf value).map fun number => .str (PyFormat.fixed 1 (.finite number))

/-- `value / 10.0`. -/
def tenth (value : ℤ) : Option PyFloat :=
  (floatOf value).map fun number => .ofRat (number / 10)

/-- `value / 10.0` with a fixed number of decimals. -/
def tenthText (places : ℕ) (value : ℤ) : Option PyValue :=
  (tenth value).map fun number => .str (PyFormat.fixed places number)

/-- `power / voltage if voltage else 0.0` with one decimal; nothing through a
negative voltage is a negative zero. -/
def currentText (power : ℤ) (voltage : PyFloat) : Option PyValue :=
  match voltage with
  | .finite 0 => some (.str "0.0")
  | .finite volts =>
      (floatOf power).map fun watts =>
        .str (if watts = 0 ∧ volts < 0 then "-0.0"
          else PyFormat.fixed 1 (.ofRat (watts / volts)))
  | _ => none

/-- `round(value * 0.1, 2)`. -/
def scaledTenth (value : ℤ) : Option PyValue :=
  match floatOf value, PyFloat.ofRat (1 / 10) with
  | some number, .finite scale =>
      match PyFloat.ofRat (number * scale) with
      | .finite product =>
          some (.float (.ofRat (roundHalfEven (product * 100) / 100)))
      | _ => none
  | _, _ => none

/-- `f"{value:0<width>d}"`. -/
def digitsText (width : ℕ) (value : ℤ) : Option PyValue :=
  some (.str (PyFormat.decimal width value))

/-- A field whose value may raise. -/
def evaluated (entry : String × Option PyValue) :
    Option (String × PyValue) :=
  entry.2.map fun value => (entry.1, value)

/-- The dict of these fields, if none of them raises. -/
def collected (entries : List (String × Option PyValue)) : Option Section :=
  (entries.mapM evaluated).map Dict.ofPairs

/-! ## Tokens -/

/-- Missing tokens are empty. -/
def padded (count : ℕ) (tokens : List String) : List String :=
  tokens ++ List.replicate (count - tokens.length) ""

/-- `dict(zip(fields, padded))[field]`. -/
def fieldToken (fields tokens : List String) (field : String) : String :=
  ((Dict.zipped fields (padded fields.length tokens)).get? field).getD ""

def logicalToNative : List (String × String) :=
  [("QPIGS", "GS"), ("QPIRI", "PIRI"), ("QMOD", "MOD"), ("QPI", "PI"),
    ("QID", "ID"), ("QVFW", "VFW"), ("QFWS", "FWS"), ("QFLAG", "FLAG"),
    ("QDI", "DI"), ("QMCHGCR", "MCHGCR"), ("QMUCHGCR", "MUCHGCR")]

/-! ## General status -/

def mpptStatus : TextEnum :=
  [("0", "Abnormal"), ("1", "NotCharging"), ("2", "Charging")]

def batteryPowerDirection : TextEnum :=
  [("0", "Idle"), ("1", "Charging"), ("2", "Discharging")]

def dcacPowerDirection : TextEnum :=
  [("0", "Idle"), ("1", "ACtoDC"), ("2", "DCtoAC")]

def linePowerDirection : TextEnum :=
  [("0", "Idle"), ("1", "Input"), ("2", "Output")]

def gsFields : List String :=
  ["grid_voltage", "grid_frequency", "ac_output_voltage",
    "ac_output_frequency", "output_apparent_power", "output_active_power",
    "load_percent", "battery_voltage", "scc_battery_voltage",
    "_battery_voltage_scc2", "battery_discharge_current",
    "battery_charging_current", "battery_capacity",
    "inverter_heat_sink_temperature", "_mppt1_temp", "_mppt2_temp",
    "pv_charging_power", "_pv2_input_power", "pv_input_voltage",
    "_pv2_input_voltage", "_settings_changed", "_mppt1_status",
    "_mppt2_status", "_load_connected", "_battery_power_dir",
    "_dcac_power_dir", "_line_power_dir", "_local_parallel_id"]

/-- `_enum_name`. -/
def enumName (members : TextEnum) (code default : String) :
    Option PyValue :=
  some (.str ((members.name? code).getD default))

def gsEntries (tokens : List String) : List (String × Option PyValue) :=
  let raw := fieldToken gsFields tokens
  let number field := safeInt (raw field) 0
  let current power voltage :=
    (tenth (number voltage)).bind fun volts =>
      currentText (number power) volts
  [("grid_voltage", tenthText 1 (number "grid_voltage")),
    ("grid_frequency", tenthText 1 (number "grid_frequency")),
    ("ac_output_voltage", tenthText 1 (number "ac_output_voltage")),
    ("ac_output_frequency", tenthText 1 (number "ac_output_frequency")),
    ("output_apparent_power", digitsText 4 (number "output_apparent_power")),
    ("output_active_power", digitsText 4 (number "output_active_power")),
    ("load_percent", digitsText 3 (number "load_percent")),
    ("bus_voltage", some (.str "400")),
    ("battery_voltage", tenthText 2 (number "battery_voltage")),
    ("battery_charging_current",
      digitsText 3 (number "battery_charging_current")),
    ("battery_capacity", digitsText 3 (number "battery_capacity")),
    ("inverter_heat_sink_temperature",
      wholeText (number "inverter_heat_sink_temperature")),
    ("pv_input_current", current "pv_charging_power" "pv_input_voltage"),
    ("pv_input_voltage", tenthText 1 (number "pv_input_voltage")),
    ("scc_battery_voltage", tenthText 2 (number "scc_battery_voltage")),
    ("battery_discharge_current",
      digitsText 5 (number "battery_discharge_current")),
    ("device_status_bits_b7_b0", some (.str "00010001")),
    ("battery_voltage_offset", some (.str "00")),
    ("eeprom_version", some (.str "00")),
    ("pv_charging_power", digitsText 5 (number "pv_charging_power")),
    ("device_status_bits_b10_b8", some (.str "010")),
    ("pv2_input_power", digitsText 5 (number "_pv2_input_power")),
    ("pv2_input_voltage", tenthText 1 (number "_pv2_input_voltage")),
    ("pv2_input_current", current "_pv2_input_power" "_pv2_input_voltage"),
    ("mppt1_temperature", wholeText (number "_mppt1_temp")),
    ("mppt2_temperature", wholeText (number "_mppt2_temp")),
    ("scc2_battery_voltage", tenthText 2 (number "_battery_voltage_scc2")),
    ("mppt1_status", enumName mpptStatus (raw "_mppt1_status") "Abnormal"),
    ("mppt2_status", enumName mpptStatus (raw "_mppt2_status") "Abnormal"),
    ("battery_power_direction",
      enumName batteryPowerDirection (raw "_battery_power_dir") "Idle"),
    ("dcac_power_direction",
      enumName dcacPowerDirection (raw "_dcac_power_dir") "Idle"),
    ("line_power_direction",
      enumName linePowerDirection (raw "_line_power_dir") "Idle")]

/-- `_decode_gs`. -/
def decodeGs (tokens : List String) : Option Section :=
  collected (gsEntries tokens)

/-! ## Rated information -/

def piriFields : List String :=
  ["rated_grid_voltage", "rated_input_current", "rated_ac_output_voltage",
    "rated_output_frequency", "rated_output_current",
    "rated_output_apparent_power", "rated_output_active_power",
    "rated_battery_voltage", "battery_recharge_voltage",
    "battery_redischarge_voltage", "battery_under_voltage",
    "battery_bulk_voltage", "battery_float_voltage", "battery_type_code",
    "max_ac_charging_current", "max_charging_current",
    "input_voltage_range_code", "output_priority_code",
    "charger_priority_code", "parallel_max", "machine_type", "topology",
    "output_model_setting", "solar_power_priority_code", "mppt_string"]

def pi18OutputPriority : List (ℤ × String) :=
  [(0, "SolarFirst"), (1, "SBU")]

def pi18ChargerPriority : List (ℤ × String) :=
  [(0, "SolarFirst"), (1, "SolarAndUtility"), (2, "OnlySolar")]

def piriEntries (tokens : List String) : List (String × Option PyValue) :=
  let raw := fieldToken piriFields tokens
  let number field := safeInt (raw field) 0
  let priority (names : List (ℤ × String)) (code : String) :=
    (names.lookup (safeInt code (-1))).getD code
  let text (value : String) : Option PyValue := some (.str value)
  [("rated_grid_voltage", tenthText 1 (number "rated_grid_voltage")),
    ("rated_input_current", tenthText 1 (number "rated_input_current")),
    ("rated_ac_output_voltage",
      tenthText 1 (number "rated_ac_output_voltage")),
    ("rated_output_frequency",
      tenthText 1 (number "rated_output_frequency")),
    ("rated_output_current", tenthText 1 (number "rated_output_current")),
    ("rated_output_apparent_power",
      digitsText 4 (number "rated_output_apparent_power")),
    ("rated_output_active_power",
      digitsText 4 (number "rated_output_active_power")),
    ("rated_battery_voltage", tenthText 1 (number "rated_battery_voltage")),
    ("low_battery_to_ac_bypass_voltage",
      tenthText 1 (number "battery_redischarge_voltage")),
    ("shut_down_battery_voltage",
      tenthText 1 (number "battery_under_voltage")),
    ("bulk_charging_voltage", tenthText 1 (number "battery_bulk_voltage")),
    ("float_charging_voltage", tenthText 1 (number "battery_float_voltage")),
    ("battery_type",
      enumName batteryType (raw "battery_type_code")
        (raw "battery_type_code")),
    ("max_utility_charging_current",
      digitsText 2 (number "max_ac_charging_current")),
    ("max_charging_current", digitsText 3 (number "max_charging_current")),
    ("ac_input_voltage_range",
      enumName acInputVoltageRange (raw "input_voltage_range_code")
        (raw "input_voltage_range_code")),
    ("output_source_priority",
      text (priority pi18OutputPriority (raw "output_priority_code"))),
    ("charger_source_priority",
      text (priority pi18ChargerPriority (raw "charger_priority_code"))),
    ("parallel_max_number", text (orElse (raw "parallel_max") "0")),
    ("reserved_uu", text "00"),
    ("reserved_v", text "0"),
    ("parallel_mode", text "Standalone"),
    ("high_battery_voltage_to_battery_mode",
      tenthText 1 (number "battery_recharge_voltage")),
    ("solar_work_condition_in_parallel", text "0"),
    ("solar_max_charging_power_auto_adjust", text "1_"),
    ("rated_battery_capacity", text "200"),
    ("reserved_b", text "0"),
    ("reserved_ccc", text "0")]

/-- `_decode_piri`. -/
def decodePiri (tokens : List String) : Option Section :=
  collected (piriEntries tokens)

/-! ## Other payloads -/

def pi18ModeToOperatingMode : List (ℤ × OperatingMode) :=
  [(0, .powerOn), (1, .standby), (2, .line), (3, .battery), (4, .fault),
    (5, .line)]

/-- `_decode_mod`. -/
def decodeMod (payload : String) : Decoded :=
  match pi18ModeToOperatingMode.lookup (safeInt (strip payload) (-1)) with
  | some mode => .operatingMode mode
  | none => .fields (.ofPairs [("operating_mode", .str "Unknown")])

def flagFields : List String :=
  ["flag_silence_buzzer", "flag_overload_bypass", "flag_lcd_escape_default",
    "flag_overload_restart", "flag_over_temperature_restart",
    "flag_backlight_on", "flag_alarm_primary_source_interrupt",
    "flag_fault_code_record", "flag_reserved"]

/-- `bool(_safe_int(token, 0))`. -/
def flagValue (token : String) : PyValue := .bool (decide (safeInt token 0 ≠ 0))

/-- `_decode_flag`. -/
def decodeFlag (tokens : List String) : Section :=
  .zipped flagFields ((padded flagFields.length tokens).map flagValue)

/-- How a default is read: a scaled number, a number or a flag. -/
inductive Scale where
  | tenth
  | plain
  | flag

def Scale.read (token : String) : Scale → Option PyValue
  | .tenth => scaledTenth (safeInt token 0)
  | .plain => some (.int (safeInt token 0))
  | .flag => some (flagValue token)

def diFields : List (String × Scale) :=
  [("default_ac_output_voltage", .tenth),
    ("default_ac_output_frequency", .tenth),
    ("default_ac_input_voltage_range", .plain),
    ("default_battery_under_voltage", .tenth),
    ("default_charging_float_voltage", .tenth),
    ("default_charging_bulk_voltage", .tenth),
    ("default_battery_recharge_voltage", .tenth),
    ("default_battery_redischarge_voltage", .tenth),
    ("default_max_charging_current", .plain),
    ("default_max_ac_charging_current", .plain),
    ("default_battery_type", .plain),
    ("default_output_source_priority", .plain),
    ("default_charger_source_priority", .plain),
    ("default_solar_power_priority", .plain),
    ("default_machine_type", .plain),
    ("default_output_model_setting", .plain),
    ("default_flag_silence_buzzer", .flag),
    ("default_flag_overload_restart", .flag),
    ("default_flag_over_temperature_restart", .flag),
    ("default_flag_lcd_backlight_on", .flag),
    ("default_flag_alarm_primary_source_interrupt", .flag),
    ("default_flag_fault_code_record", .flag),
    ("default_flag_overload_bypass", .flag),
    ("default_flag_lcd_escape_default", .flag)]

def diEntries (tokens : List String) : List (String × Option PyValue) :=
  (diFields.zip (padded diFields.length tokens)).map fun field =>
    (field.1.1, field.1.2.read field.2)

/-- `_decode_di`. -/
def decodeDi (tokens : List String) : Option Section :=
  collected (diEntries tokens)

/-- `_decode_id`. -/
def decodeId (payload : List Char) : Section :=
  let serial :=
    if payload.length < 2 then payload
    else
      let digits := payload.drop 2
      match toInt? (payload.take 2) with
      | none =>
          let trimmed := (digits.reverse.dropWhile (· = '0')).reverse
          if trimmed = [] then payload else trimmed
      | some length =>
          if 0 < length ∧ length ≤ digits.length then
            digits.take length.toNat
          else digits
  .ofPairs [("serial_number", .str (.ofList serial))]

/-- `_decode_t`. -/
def decodeT (payload : List Char) : Section :=
  let part start stop := (payload.take stop).drop start
  let time :=
    if payload.length < 14 then payload
    else
      part 0 4 ++ '-' :: part 4 6 ++ '-' :: part 6 8 ++ ' ' :: part 8 10 ++
        ':' :: part 10 12 ++ ':' :: part 12 14
  .ofPairs [("device_time", .str (.ofList time))]

/-- `_decode_vfw`. -/
def decodeVfw (tokens : List String) : Section :=
  .zipped ["cpu_main_version", "cpu_slave1_version", "cpu_slave2_version"]
    ((padded 3 tokens).map .str)

/-- `_decode_selectable_currents`. -/
def decodeSelectableCurrents (tokens : List String) (key : String) :
    Section :=
  .ofPairs
    [(key, .list ((tokens.filter (· ≠ "")).map fun token =>
      .int (safeInt token 0)))]

/-- `_decode_energy`. -/
def decodeEnergy (native payload : String) : Section :=
  let value : PyValue := .int (safeInt (strip payload) 0)
  let period : PyValue := .str (.ofList (native.toList.drop 2))
  if native = "ET" then .ofPairs [("total_energy_kwh", value)]
  else if startsWith native "EY" then
    .ofPairs [("yearly_energy_kwh", value), ("energy_period", period)]
  else if startsWith native "EM" then
    .ofPairs [("monthly_energy_kwh", value), ("energy_period", period)]
  else if startsWith native "ED" then
    .ofPairs [("daily_energy_wh", value), ("energy_period", period)]
  else .ofPairs [("energy_value", value)]

/-! ## `decode_pi18_response` -/

def errorFields (message : String) : Section :=
  .ofPairs [("error", .str message)]

def statusFields (status : String) : Section :=
  .ofPairs [("status", .str status)]

/-- The decoders of payloads with several tokens. -/
def decodeTokens (native : String) (tokens : List String) : Option Section :=
  match native with
  | "GS" => decodeGs tokens
  | "PIRI" => decodePiri tokens
  | "FWS" => some (decodeFws tokens)
  | "FLAG" => some (decodeFlag tokens)
  | "DI" => decodeDi tokens
  | "VFW" => some (decodeVfw tokens)
  | "MCHGCR" =>
      some (decodeSelectableCurrents tokens "max_charging_current_options")
  | "MUCHGCR" =>
      some (decodeSelectableCurrents tokens "max_ac_charging_current_options")
  | _ => some (.ofPairs [("raw_tokens", .list (tokens.map .str))])

/-- The decoder of a native command; `none` is an exception. -/
def decodePayload (native payload : String) : Option Decoded :=
  if native = "MOD" then some (decodeMod payload)
  else if native = "PI" then
    some (.fields (.ofPairs [("protocol_id", .str payload)]))
  else if native = "ID" then some (.fields (decodeId payload.toList))
  else if native = "T" then some (.fields (decodeT payload.toList))
  else if native = "ET" ∨ startsWith native "ED" ∨ startsWith native "EM" ∨
      startsWith native "EY" then
    some (.fields (decodeEnergy native payload))
  else
    (decodeTokens native
      ((split ',' payload.toList).map fun token =>
        strip (.ofList token))).map .fields

/-- Commands are ASCII. -/
def decodePi18Response (command : String) (raw : List UInt8) :
    Option Decoded :=
  if raw = [] ∨ raw = PyBytes.ascii "null" then
    some (.fields
      (errorFields "null response received. Command not accepted."))
  else if raw.take 2 = PyBytes.ascii "^1" then
    some (.fields (statusFields "ACK"))
  else if raw.take 2 = PyBytes.ascii "^0" then
    some (.fields (statusFields "NAK"))
  else
    let payload := stripChars isSpace
      (PyBytes.decodeAscii (stripPi18Frame raw))
    if payload = [] then
      some (.fields (errorFields "empty PI18 payload"))
    else
      let cmd := String.ofList (command.toList.map Char.toUpper)
      let native := (logicalToNative.lookup cmd).getD cmd
      decodePayload native (.ofList payload)

/-! ## Payloads have no status -/

theorem keys_of_mapM_evaluated {entries : List (String × Option PyValue)}
    {pairs : List (String × PyValue)}
    (hpairs : entries.mapM evaluated = some pairs) :
    pairs.map Prod.fst = entries.map Prod.fst := by
  induction entries generalizing pairs with
  | nil =>
      obtain rfl := Option.some.inj hpairs
      rfl
  | cons entry entries ih =>
      rw [List.mapM_cons, Option.bind_eq_bind,
        Option.bind_eq_some_iff] at hpairs
      obtain ⟨pair, hpair, hpairs⟩ := hpairs
      rw [Option.bind_eq_bind, Option.bind_eq_some_iff] at hpairs
      obtain ⟨rest, hrest, hpairs⟩ := hpairs
      obtain rfl := Option.some.inj hpairs
      obtain ⟨value, -, rfl⟩ := Option.map_eq_some_iff.mp hpair
      rw [List.map_cons, List.map_cons, ih hrest]

theorem get?_collected_of_notMem {entries : List (String × Option PyValue)}
    {result : Section} {key : String}
    (hcollected : collected entries = some result)
    (hkey : key ∉ entries.map Prod.fst) : result.get? key = none := by
  obtain ⟨pairs, hpairs, rfl⟩ := Option.map_eq_some_iff.mp hcollected
  apply Dict.get?_ofPairs_of_notMem
  rw [keys_of_mapM_evaluated hpairs]
  exact hkey

theorem status_notMem_gsEntries (tokens : List String) :
    "status" ∉ (gsEntries tokens).map Prod.fst := by
  simp [gsEntries]

theorem status_notMem_piriEntries (tokens : List String) :
    "status" ∉ (piriEntries tokens).map Prod.fst := by
  simp [piriEntries]

theorem status_notMem_diEntries (tokens : List String) :
    "status" ∉ (diEntries tokens).map Prod.fst := by
  intro hmem
  obtain ⟨entry, hentry, hstatus⟩ := List.mem_map.mp hmem
  obtain ⟨field, hfield, rfl⟩ := List.mem_map.mp hentry
  have hname : "status" ∈ diFields.map Prod.fst := by
    rw [← hstatus]
    exact List.mem_map_of_mem (List.of_mem_zip hfield).1
  revert hname
  decide +kernel

theorem get?_status_decodeFws (tokens : List String) :
    (decodeFws tokens).get? "status" = none := by
  cases tokens with
  | nil => rfl
  | cons first rest =>
      apply Dict.get?_ofPairs_of_notMem
      have hwarn : "status" ∉ (warningPairs rest).map Prod.fst := by
        intro hmem
        obtain ⟨entry, hentry, hkey⟩ := List.mem_map.mp hmem
        have hstarts := startsWith_fwsWarningFields _
          (mem_warningPairs hentry).1
        rw [hkey] at hstarts
        revert hstarts
        decide
      simpa using hwarn

theorem get?_status_decodeTokens {native : String} {tokens : List String}
    {result : Section} (hresult : decodeTokens native tokens = some result) :
    result.get? "status" = none := by
  unfold decodeTokens at hresult
  split at hresult
  · exact get?_collected_of_notMem hresult (status_notMem_gsEntries tokens)
  · exact get?_collected_of_notMem hresult (status_notMem_piriEntries tokens)
  · obtain rfl := Option.some.inj hresult
    exact get?_status_decodeFws tokens
  · obtain rfl := Option.some.inj hresult
    exact Dict.get?_zipped_of_notMem (by decide) _
  · exact get?_collected_of_notMem hresult (status_notMem_diEntries tokens)
  · obtain rfl := Option.some.inj hresult
    exact Dict.get?_zipped_of_notMem (by decide) _
  · obtain rfl := Option.some.inj hresult
    rfl
  · obtain rfl := Option.some.inj hresult
    rfl
  · obtain rfl := Option.some.inj hresult
    rfl

theorem get?_status_decodeEnergy (native payload : String) :
    (decodeEnergy native payload).get? "status" = none := by
  unfold decodeEnergy
  dsimp only
  split
  · rfl
  · split
    · rfl
    · split
      · rfl
      · split
        · rfl
        · rfl

/-- Only an acknowledgement and a refusal have a status. -/
theorem get?_status_decodePayload {native payload : String}
    {result : Section}
    (hresult : decodePayload native payload = some (.fields result)) :
    result.get? "status" = none := by
  unfold decodePayload at hresult
  split at hresult
  · have hmode := Option.some.inj hresult
    unfold decodeMod at hmode
    split at hmode
    · cases hmode
    · obtain rfl := Decoded.fields.inj hmode
      rfl
  · split at hresult
    · obtain rfl := Decoded.fields.inj (Option.some.inj hresult)
      rfl
    · split at hresult
      · obtain rfl := Decoded.fields.inj (Option.some.inj hresult)
        rfl
      · split at hresult
        · obtain rfl := Decoded.fields.inj (Option.some.inj hresult)
          rfl
        · split at hresult
          · obtain rfl := Decoded.fields.inj (Option.some.inj hresult)
            exact get?_status_decodeEnergy native payload
          · obtain ⟨tokens, htokens, hfields⟩ :=
              Option.map_eq_some_iff.mp hresult
            obtain rfl := Decoded.fields.inj hfields
            exact get?_status_decodeTokens htokens

end Pi18
end DessMonitor
