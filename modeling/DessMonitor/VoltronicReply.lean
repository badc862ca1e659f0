import DessMonitor.Enums
import DessMonitor.Foundation.PyBytes

/-!
# Decoded PI30 replies

A reply reaches its decoder with the parenthesis before it and the checksum
behind it.  It may also be a hexadecimal dump of itself.  Every command has its
own decoder; most of them name the words of the reply.
-/

namespace DessMonitor
namespace Voltronic

open Direct (Section)
open Enums PyString

/-! ## The decoders -/

def qpigsFields : List String :=
  ["grid_voltage", "grid_frequency", "ac_output_voltage",
    "ac_output_frequency", "output_apparent_power", "output_active_power",
    "load_percent", "bus_voltage", "battery_voltage",
    "battery_charging_current", "battery_capacity",
    "inverter_heat_sink_temperature", "pv_input_current", "pv_input_voltage",
    "scc_battery_voltage", "battery_discharge_current",
    "device_status_bits_b7_b0", "battery_voltage_offset", "eeprom_version",
    "pv_charging_power", "device_status_bits_b10_b8", "reserved_a",
    "reserved_bb", "reserved_cccc"]

/-- `dict(zip(fields, text.split()))`. -/
def namedWords (fields : List String) (text : String) : Section :=
  .zipped fields ((words text.toList).map fun word => .str (.ofList word))

/-- `_clean_bits`. -/
def cleanBits (raw : String) (width : ℕ) : String :=
  .ofList ((raw.toList.filter isBit).take width)

/-- A field that is there is cleaned. -/
def sanitized (result : Section) (field : String) (width : ℕ) : Section :=
  match result.get? field with
  | some (.str raw) => result.set field (.str (cleanBits raw width))
  | _ => result

def decodeQpigs (asciiStr : String) : Section :=
  let result := namedWords qpigsFields asciiStr
  let result := sanitized result "device_status_bits_b10_b8" 3
  sanitized result "device_status_bits_b7_b0" 8

/-- What the fields of a general status reply are made of its words. -/
def statusField (index : ℕ) (raw : String) : String :=
  if index = 16 then cleanBits raw 8
  else if index = 20 then cleanBits raw 3
  else raw

theorem get?_namedWords {fields : List String} (hnodup : fields.Nodup)
    (text : String) (index : ℕ) (hindex : index < fields.length) :
    (namedWords fields text).get? fields[index] =
      (words text.toList)[index]?.map fun word => .str (.ofList word) := by
  unfold namedWords
  rw [Dict.get?_zipped hnodup, List.getElem?_map]

/-- Only the field is cleaned. -/
theorem get?_sanitized {result : Section} (field : String) {key : String}
    (width : ℕ) {raw : Option String}
    (hraw : result.get? key = raw.map PyValue.str) :
    (sanitized result field width).get? key =
      (raw.map fun text =>
        if key = field then cleanBits text width else text).map
          PyValue.str := by
  by_cases hkey : key = field
  · subst hkey
    unfold sanitized
    cases raw with
    | none =>
        rw [hraw]
        exact hraw
    | some text =>
        rw [hraw, Option.map_some, Option.map_some, Option.map_some,
          if_pos rfl]
        exact Dict.get?_set_self _ _ _
  · have hkept : (sanitized result field width).get? key =
        result.get? key := by
      unfold sanitized
      split
      · exact Dict.get?_set_of_ne _ hkey _
      · rfl
    have hsame : (fun text => if key = field then cleanBits text width
        else text) = id := by
      funext text
      rw [if_neg hkey]
      rfl
    rw [hkept, hraw, hsame, Option.map_id]
    rfl

theorem get?_decodeQpigs (text : String) (index : ℕ)
    (hindex : index < qpigsFields.length) :
    (decodeQpigs text).get? qpigsFields[index] =
      (words text.toList)[index]?.map fun word =>
        .str (statusField index (.ofList word)) := by
  have hnodup : qpigsFields.Nodup := by
    decide +kernel
  have hb7 : qpigsFields[index] = qpigsFields[16] ↔ index = 16 :=
    List.Nodup.getElem_inj_iff hnodup
  have hb10 : qpigsFields[index] = qpigsFields[20] ↔ index = 20 :=
    List.Nodup.getElem_inj_iff hnodup
  have hnamed : (namedWords qpigsFields text).get? qpigsFields[index] =
      ((words text.toList)[index]?.map String.ofList).map PyValue.str := by
    rw [get?_namedWords hnodup, Option.map_map]
    rfl
  have hfirst := get?_sanitized qpigsFields[20] 3 hnamed
  have hsecond := get?_sanitized qpigsFields[16] 8 hfirst
  simp only [hb7, hb10, Option.map_map] at hsecond
  have hdecoded : decodeQpigs text =
      sanitized (sanitized (namedWords qpigsFields text) qpigsFields[20] 3)
        qpigsFields[16] 8 := rfl
  rw [hdecoded, hsecond]
  apply Option.map_congr
  intro word _
  dsimp only [Function.comp_apply]
  apply congrArg PyValue.str
  unfold statusField
  by_cases hlast : index = 20
  · have hother : index ≠ 16 := by omega
    rw [if_pos hlast, if_neg hother, if_neg hother]
  · rw [if_neg hlast]

def decodeQpigs2 (asciiStr : String) : Section :=
  namedWords ["pv_current", "pv_voltage", "pv_daily_energy"] asciiStr

def qpiriFields : List String :=
  ["rated_grid_voltage", "rated_input_current", "rated_ac_output_voltage",
    "rated_output_frequency", "rated_output_current",
    "rated_output_apparent_power", "rated_output_active_power",
    "rated_battery_voltage", "low_battery_to_ac_bypass_voltage",
    "shut_down_battery_voltage", "bulk_charging_voltage",
    "float_charging_voltage", "battery_type", "max_utility_charging_current",
    "max_charging_current", "ac_input_voltage_range",
    "output_source_priority", "charger_source_priority",
    "parallel_max_number", "reserved_uu", "reserved_v", "parallel_mode",
    "high_battery_voltage_to_battery_mode",
    "solar_work_condition_in_parallel",
    "solar_max_charging_power_auto_adjust", "rated_battery_capacity",
    "reserved_b", "reserved_ccc"]

def transformQpiriValue (index : ℕ) (value : String) : String :=
  match index with
  | 12 => (batteryType.name? value).getD value
  | 15 => (acInputVoltageRange.name? value).getD value
  | 16 => (outputSourcePriority.name? value).getD value
  | 17 => (chargerSourcePriority.name? value).getD value
  | 21 => (parallelMode.name? value).getD value
  | _ => value

def decodeQpiri (asciiStr : String) : Section :=
  .ofPairs
    ((qpiriFields.zip (words asciiStr.toList)).zipIdx.map fun field =>
      (field.1.1, .str (transformQpiriValue field.2 (.ofList field.1.2))))

def decodeQmod (asciiStr : String) : Decoded :=
  let code := String.ofList ((strip asciiStr).toList.take 1)
  match OperatingMode.ofCode? code with
  | some mode => .operatingMode mode
  | none => .fields (.ofPairs [("operating_mode", .str "Unknown")])

/-- A decoder that keeps the text under one key. -/
def decodeText (key : String) (asciiStr : String) : Section :=
  .ofPairs [(key, .str (strip asciiStr))]

def decodeQmn : String → Section := decodeText "Model"
def decodeQid : String → Section := decodeText "Device ID"
def decodeQflag : String → Section := decodeText "Enabled/Disabled Flags"

/-- `text.replace(marker, "")`; `skipped` more characters are left out. -/
def without (marker : List Char) (skipped : ℕ) : List Char → List Char
  | [] => []
  | c :: rest =>
      match skipped with
      | skipped + 1 => without marker skipped rest
      | 0 =>
          if marker.isPrefixOf (c :: rest) then
            without marker (marker.length - 1) rest
          else c :: without marker 0 rest

def decodeQvfw (asciiStr : String) : Section :=
  decodeText "Firmware Version"
    (.ofList (without "VERFW:".toList 0 asciiStr.toList))

def decodeQbeqi (asciiStr : String) : Section :=
  namedWords
    ["equalization_function", "equalization_time", "interval_days",
      "max_charging_current", "float_voltage", "reserved_1",
      "equalization_timeout", "immediate_activation_flag", "elapsed_time"]
    asciiStr

/-! ## `decode_direct_response` -/

/-- `is_hex_string`. -/
def isHexString (text : List Char) : Bool :=
  let digits := (stripChars isSpace text).filter (· ≠ ' ')
  digits ≠ [] && digits.all Url.isHexDigit && digits.length % 2 == 0

/-- `int(word, 16)` of hexadecimal digits. -/
def hexWordValue (word : List Char) : ℕ :=
  word.foldl (fun value c => value * 16 + Url.hexValue c) 0

/-- `decode_ascii_response` of words of hexadecimal digits; `none` if one is
not the value of a byte. -/
def decodeAsciiResponse (hexString : List Char) : Option (List Char) :=
  let byteValues :=
    (words (stripChars isSpace hexString)).map hexWordValue
  if byteValues.all (· < 256) then
    let asciiStr := stripChars isSpace
      (PyBytes.decodeAscii (byteValues.map UInt8.ofNat))
    some (if "(".toList.isPrefixOf asciiStr then asciiStr.drop 1
      else asciiStr)
  else none

/-- Parentheses and line ends, which are taken out of a reply. -/
def isFraming (c : Char) : Bool :=
  c == '(' || c == ')' || c == '\r' || c == '\n'

def errorFields (message : String) : Decoded :=
  .fields (.ofPairs [("error", .str message)])

/-- The decoder of a command in capitals. -/
def decodeCommand (command asciiStr : String) : Decoded :=
  match command with
  | "QPIGS" => .fields (decodeQpigs asciiStr)
  | "QPIGS2" => .fields (decodeQpigs2 asciiStr)
  | "QPIRI" => .fields (decodeQpiri asciiStr)
  | "QMOD" => decodeQmod asciiStr
  | "QMN" => .fields (decodeQmn asciiStr)
  | "QID" | "QSID" => .fields (decodeQid asciiStr)
  | "QFLAG" => .fields (decodeQflag asciiStr)
  | "QVFW" => .fields (decodeQvfw asciiStr)
  | "QBEQI" => .fields (decodeQbeqi asciiStr)
  | "QPIWS" => .fields (decodeQpiws asciiStr)
  | _ => .fields (.ofPairs [("Raw", .str asciiStr)])

theorem decodeCommand_qpigs (asciiStr : String) :
    decodeCommand "QPIGS" asciiStr = .fields (decodeQpigs asciiStr) := rfl

theorem decodeCommand_qpiws (asciiStr : String) :
    decodeCommand "QPIWS" asciiStr = .fields (decodeQpiws asciiStr) := rfl

/-- The text that the decoder of the command gets. -/
def unframed (asciiStr : List Char) : List Char :=
  (stripChars isSpace asciiStr).filter fun c => !isFraming c

/-- Commands are ASCII; `none` is an exception. -/
def decodeDirectResponse (command inputStr : String) : Option Decoded :=
  if inputStr = "" then some (errorFields "empty response")
  else if inputStr = "null" then
    some (errorFields "null response received. Command not accepted.")
  else do
    let text := inputStr.toList
    let asciiStr ←
      if isHexString text then decodeAsciiResponse text
      else some (stripChars isSpace text)
    let asciiStr := unframed asciiStr
    if "NAK".toList.isPrefixOf asciiStr || contains asciiStr "NAK".toList then
      some (errorFields "NAK response received. Command not accepted.")
    else
      some (decodeCommand (.ofList (command.toList.map Char.toUpper))
        (.ofList asciiStr))

example : (namedWords qpigsFields "239.3 50.0").get? "grid_frequency" =
    some (.str "50.0") := rfl

end Voltronic
end DessMonitor
