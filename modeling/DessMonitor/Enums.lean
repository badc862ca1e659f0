import DessMonitor.Foundation.NamedWords
import DessMonitor.VoltronicDecoder

/-!
# Enumerations of the inverter protocols

Codes of the devices and the names of what they stand for, and the status bits
of a general status reply.
-/

namespace DessMonitor
namespace Enums

open Direct (Section)

/-! ## Codes with names -/

/-- The values of an enumeration of texts, each with the name of its member. -/
abbrev TextEnum := List (String × String)

/-- `enum_cls(value).name`; `none` is `ValueError`. -/
def TextEnum.name? (members : TextEnum) (value : String) : Option String :=
  members.lookup value

def batteryType : TextEnum :=
  [("0", "AGM"), ("1", "Flooded"), ("2", "UserDefined"), ("3", "LIB"),
    ("4", "LIC"), ("5", "RESERVED"), ("6", "RESERVED_1"),
    ("7", "RESERVED_2")]

def acInputVoltageRange : TextEnum := [("0", "Appliance"), ("1", "UPS")]

def outputSourcePriority : TextEnum :=
  [("0", "UtilityFirst"), ("1", "SolarFirst"), ("2", "SBU"),
    ("4", "BatteryOnly"), ("5", "UtilityOnly"), ("6", "SolarAndUtility"),
    ("7", "Smart")]

def chargerSourcePriority : TextEnum :=
  [("0", "UtilityFirst"), ("1", "SolarFirst"), ("2", "SolarAndUtility"),
    ("3", "OnlySolar")]

def parallelMode : TextEnum :=
  [("0", "Master"), ("1", "Slave"), ("2", "Standalone"),
    ("3", "PARALLEL_1_PHASE"), ("4", "PARALLEL_3_PHASE")]

inductive OperatingMode where
  | powerOn
  | standby
  | line
  | battery
  | shutdownApproaching
  | fault
  deriving DecidableEq

/-- `OperatingMode(code)`; `none` is `ValueError`. -/
def OperatingMode.ofCode? : String → Option OperatingMode
  | "P" => some .powerOn
  | "S" => some .standby
  | "L" => some .line
  | "B" => some .battery
  | "D" => some .shutdownApproaching
  | "F" => some .fault
  | _ => none

/-- What a decoder returns.  An operating mode is a member of its enumeration
in the dict, every other value is a plain one. -/
inductive Decoded where
  | fields (result : Section)
  | operatingMode (mode : OperatingMode)

/-! ## Status bits -/

inductive DeviceStatusBitsB7B0 where
  | fault
  | reservedB6
  | busOver
  | lineFail
  | batteryLow
  | batteryHigh
  | inverterOverload
  | inverterOn
  deriving DecidableEq

def DeviceStatusBitsB7B0.mask : DeviceStatusBitsB7B0 → ℕ
  | .fault => 1 <<< 7
  | .reservedB6 => 1 <<< 6
  | .busOver => 1 <<< 5
  | .lineFail => 1 <<< 4
  | .batteryLow => 1 <<< 3
  | .batteryHigh => 1 <<< 2
  | .inverterOverload => 1 <<< 1
  | .inverterOn => 1 <<< 0

/-- `_extract_bits`. -/
def extractBits (raw : String) (count : ℕ) : List Char :=
  let bits := (raw.toList.filter Voltronic.isBit).take count
  List.replicate (count - bits.length) '0' ++ bits

/-- `int(bits, 2)` of binary digits. -/
def bitsValue (bits : List Char) : ℕ :=
  bits.foldl (fun value bit => value * 2 + (if bit = '1' then 1 else 0)) 0

/-- The status bit of a raw field. -/
def hasStatusBit (raw : String) (bit : DeviceStatusBitsB7B0) : Bool :=
  decide (bitsValue (extractBits raw 8) &&& bit.mask ≠ 0)

/-- `parse_device_status_bits_b7_b0`. -/
def parseDeviceStatusBitsB7B0 (raw : String) : Section :=
  .ofPairs
    [("fault", .bool (hasStatusBit raw .fault)),
      ("line_fail", .bool (hasStatusBit raw .lineFail)),
      ("bus_over", .bool (hasStatusBit raw .busOver)),
      ("battery_low", .bool (hasStatusBit raw .batteryLow)),
      ("battery_high", .bool (hasStatusBit raw .batteryHigh)),
      ("inverter_overload", .bool (hasStatusBit raw .inverterOverload)),
      ("inverter_on", .bool (hasStatusBit raw .inverterOn)),
      ("_raw_b7_b0", .str (.ofList (extractBits raw 8)))]

inductive DeviceStatusBitsB10B8 where
  | chargingToBattery
  | chargingAcActive
  | chargingSccActive
  deriving DecidableEq

def DeviceStatusBitsB10B8.mask : DeviceStatusBitsB10B8 → ℕ
  | .chargingToBattery => 1 <<< 2
  | .chargingAcActive => 1 <<< 1
  | .chargingSccActive => 1 <<< 0

/-- The charging bit of a raw field. -/
def hasChargingBit (raw : String) (bit : DeviceStatusBitsB10B8) : Bool :=
  decide (bitsValue (extractBits raw 3) &&& bit.mask ≠ 0)

/-- `parse_device_status_bits_b10_b8`. -/
def parseDeviceStatusBitsB10B8 (raw : String) : Section :=
  .ofPairs
    [("charging_to_battery", .bool (hasChargingBit raw .chargingToBattery)),
      ("charging_scc_active", .bool (hasChargingBit raw .chargingSccActive)),
      ("charging_ac_active", .bool (hasChargingBit raw .chargingAcActive)),
      ("_raw_b10_b8", .str (.ofList (extractBits raw 3)))]

example : (parseDeviceStatusBitsB7B0 "10010000s").get? "line_fail" =
    some (.bool true) := rfl

end Enums
end DessMonitor
