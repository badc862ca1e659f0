import DessMonitor.Foundation.PyString
import DessMonitor.ReadingPolicies

/-!
# Decoded Voltronic replies

The warning status of a PI30 device is a text of bits, each with the name of
a warning.
-/

namespace DessMonitor
namespace Voltronic

open Direct (Section)

/-- `_QPIWS_FIELDS`. -/
def qpiwsFields : List String :=
  ["_reserved_0", "inverter_fault", "bus_over", "bus_under",
    "bus_soft_fail", "line_fail", "opv_short", "inverter_voltage_too_low",
    "inverter_voltage_too_high", "over_temperature", "fan_locked",
    "battery_voltage_high", "battery_low_alarm", "_reserved_13",
    "battery_under_shutdown", "_reserved_15", "overload", "eeprom_fault",
    "inverter_over_current", "inverter_soft_fail", "self_test_fail",
    "op_dc_voltage_over", "battery_open", "current_sensor_fail",
    "battery_short", "power_limit", "pv_voltage_high",
    "mppt_overload_fault", "mppt_overload_warning",
    "battery_too_low_to_charge", "_reserved_30", "_reserved_31"]

def isBit (c : Char) : Bool := c == '0' || c == '1'

/-- `decode_qpiws`: a missing bit is clear. -/
def decodeQpiws (asciiStr : String) : Section :=
  let bits := asciiStr.toList.filter isBit
  .ofPairs (qpiwsFields.zipIdx.map fun field =>
    (field.1, .bool (bits[field.2]? == some '1')))

example : (decodeQpiws "(0100000x").get? "inverter_fault" =
    some (.bool true) := rfl

theorem mem_decodeQpiws {asciiStr : String} {entry : String × PyValue}
    (hmem : entry ∈ (decodeQpiws asciiStr).entries) :
    entry.1 ∈ qpiwsFields ∧ ∃ bit, entry.2 = .bool bit := by
  have hget := (Dict.get?_eq_some_iff _).mpr hmem
  have hpair := Dict.mem_of_get?_ofPairs hget
  obtain ⟨field, hfield, heq⟩ := List.mem_map.mp hpair
  obtain ⟨hkey, hvalue⟩ := Prod.mk.inj heq
  constructor
  · rw [← hkey]
    exact List.fst_mem_of_mem_zipIdx hfield
  · exact ⟨_, hvalue.symm⟩

end Voltronic
end DessMonitor
