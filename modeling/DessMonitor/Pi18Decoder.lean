import DessMonitor.Foundation.PyFormat
import DessMonitor.Foundation.PyString
import DessMonitor.ReadingPolicies

/-!
# Decoded PI18 replies

The fault and warning status of a PI18 device: a fault code and sixteen
warning bits, separated by commas.
-/

namespace DessMonitor
namespace Pi18

open Direct (Section)

/-- `_safe_int` of a text. -/
def safeInt (token : String) (default : ℤ) : ℤ :=
  (PyString.toInt? token.toList).getD default

/-- `_PI18_FAULT_CODES`. -/
def pi18FaultCodes : Dict ℤ String :=
  .ofPairs
    [(0, "No fault"),
      (1, "Fan is locked"),
      (2, "Over temperature"),
      (3, "Battery voltage is too high"),
      (4, "Battery voltage is too low"),
      (5, "Output short circuited or over temperature"),
      (6, "Output voltage is too high"),
      (7, "Over load time out"),
      (8, "Bus voltage is too high"),
      (9, "Bus soft start failed"),
      (11, "Main relay failed"),
      (51, "Over current inverter"),
      (52, "Bus soft start failed"),
      (53, "Inverter soft start failed"),
      (54, "Self-test failed"),
      (55, "Over DC voltage on output of inverter"),
      (56, "Battery connection is open"),
      (57, "Current sensor failed"),
      (58, "Output voltage is too low"),
      (60, "Inverter negative power"),
      (71, "Parallel version different"),
      (72, "Output circuit failed"),
      (80, "CAN communication failed"),
      (81, "Parallel host line lost"),
      (82, "Parallel synchronized signal lost"),
      (83, "Parallel battery voltage detect different"),
      (84, "Parallel line voltage or frequency detect different"),
      (85, "Parallel line input current unbalanced"),
      (86, "Parallel output setting different")]

/-- `_FWS_WARNING_FIELDS`. -/
def fwsWarningFields : List String :=
  ["warn_line_fail", "warn_output_short", "warn_inverter_over_temperature",
    "warn_fan_lock", "warn_battery_voltage_high", "warn_battery_low",
    "warn_battery_under", "warn_overload", "warn_eeprom_fail",
    "warn_power_limit", "warn_pv1_voltage_high", "warn_pv2_voltage_high",
    "warn_mppt1_overload", "warn_mppt2_overload", "warn_battery_too_low_scc1",
    "warn_battery_too_low_scc2"]

def faultDescription (faultCode : ℤ) : String :=
  (pi18FaultCodes.get? faultCode).getD
    ("Unknown (" ++ PyFormat.decimal 0 faultCode ++ ")")

def warningPairs (tokens : List String) : List (String × PyValue) :=
  let padded := tokens ++
    List.replicate (fwsWarningFields.length - tokens.length) ""
  (fwsWarningFields.zip padded).map fun field =>
    (field.1, .bool (decide (safeInt field.2 0 ≠ 0)))

/-- `_decode_fws`. -/
def decodeFws : List String → Section
  | [] => .empty
  | first :: rest =>
      let faultCode := safeInt first 0
      .ofPairs
        (("fault_code", .int faultCode) ::
          ("fault_description", .str (faultDescription faultCode)) ::
          ("has_fault", .bool (decide (faultCode ≠ 0))) ::
          warningPairs rest)

example : (decodeFws ["07", "1"]).get? "fault_description" =
    some (.str "Over load time out") := rfl

example : (decodeFws ["07", "1"]).get? "warn_line_fail" =
    some (.bool true) := rfl

theorem mem_warningPairs {tokens : List String} {entry : String × PyValue}
    (hmem : entry ∈ warningPairs tokens) :
    entry.1 ∈ fwsWarningFields ∧ ∃ flag, entry.2 = .bool flag := by
  obtain ⟨field, hfield, rfl⟩ := List.mem_map.mp hmem
  exact ⟨(List.of_mem_zip hfield).1, _, rfl⟩

theorem startsWith_fwsWarningFields :
    ∀ key ∈ fwsWarningFields, PyString.startsWith key "warn_" = true := by
  decide

theorem mem_decodeFws {first : String} {rest : List String}
    {entry : String × PyValue}
    (hmem : entry ∈ (decodeFws (first :: rest)).entries) :
    entry ∈ ("fault_code", .int (safeInt first 0)) ::
      ("fault_description", .str (faultDescription (safeInt first 0))) ::
      ("has_fault", .bool (decide (safeInt first 0 ≠ 0))) ::
      warningPairs rest :=
  Dict.mem_of_get?_ofPairs ((Dict.get?_eq_some_iff _).mpr hmem)

/-- The code is under its key whatever the other tokens are. -/
theorem get?_decodeFws_faultCode (first : String) (rest : List String) :
    (decodeFws (first :: rest)).get? "fault_code" =
      some (.int (safeInt first 0)) := by
  have hne : "fault_code" ∉ (warningPairs rest).map Prod.fst := by
    intro hmem
    obtain ⟨entry, hentry, hkey⟩ := List.mem_map.mp hmem
    have hwarn := startsWith_fwsWarningFields _ (mem_warningPairs hentry).1
    rw [hkey] at hwarn
    revert hwarn
    decide
  have hhas : "fault_code" ≠ "has_fault" := by
    decide
  have hdescription : "fault_code" ≠ "fault_description" := by
    decide
  unfold decodeFws Dict.ofPairs
  dsimp only
  rw [List.foldl_cons, List.foldl_cons, List.foldl_cons,
    Dict.get?_foldl_set_of_notMem _ _ hne, Dict.get?_set_of_ne _ hhas,
    Dict.get?_set_of_ne _ hdescription, Dict.get?_set_self]

end Pi18
end DessMonitor
