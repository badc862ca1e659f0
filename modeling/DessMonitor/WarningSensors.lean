import DessMonitor.Foundation.PyFormat
import DessMonitor.Foundation.PyString
import DessMonitor.ReadingPolicies

/-!
# Warnings and faults as the user sees them

Two entities look at the QPIWS and QFWS sections of a device: a binary sensor
that is on when anything is reported, and a summary which shows the worst
warning as text.  Each does its own lookups.
-/

namespace DessMonitor
namespace Warnings

open Direct (Section)

/-! ## Explicit codes -/

/-- `isinstance(value, (int, float))`; a boolean is an integer. -/
def isNumber : PyValue → Bool
  | .bool _ => true
  | .int _ => true
  | .float _ => true
  | _ => false

def isBool : PyValue → Bool
  | .bool _ => true
  | _ => false

/-- `int(value)` of a number; `none` is the error on an infinity or NaN. -/
def toInt : PyValue → Option ℤ
  | .bool value => some (if value then 1 else 0)
  | .int value => some value
  | .float value => PyFormat.truncate value
  | _ => none

/-- A code is given when it is a number other than zero. -/
def codeGiven (flags : Section) (key : String) : Bool :=
  (flags.get? key).any fun value => isNumber value && value.truthy

/-- `bool(flags.get(key))`. -/
def flagGiven (flags : Section) (key : String) : Bool :=
  (flags.get? key).any PyValue.truthy

/-! ## The binary sensor -/

/-- `_AnyWarningBinarySensor._handle_coordinator_update`. -/
def anyWarning (qpiws qfws : Section) : Bool :=
  if codeGiven qfws "fault_code" || codeGiven qfws "warning_code" ||
      flagGiven qfws "has_fault" || flagGiven qfws "has_warning" then
    true
  else
    (qpiws.entries.any fun entry =>
      isBool entry.2 && !PyString.startsWith entry.1 "_reserved_" &&
        entry.2.truthy) ||
    (qfws.entries.any fun entry =>
      isBool entry.2 && PyString.startsWith entry.1 "warn_" &&
        entry.2.truthy)

/-! ## The summary -/

def warningSeverityOrder : List (String × String) :=
  [("fault_active", "Fault Active"),
    ("inverter_fault", "Inverter Fault"),
    ("battery_under_shutdown", "Battery Shutdown"),
    ("battery_open", "Battery Disconnected"),
    ("battery_short", "Battery Short Circuit"),
    ("battery_over_current", "Battery Overcurrent"),
    ("self_test_fail", "Self-test Fail"),
    ("inverter_over_current", "Inverter Overcurrent"),
    ("inverter_negative_power", "Inverter Negative Power"),
    ("bus_over", "Bus Overvoltage"),
    ("bus_under", "Bus Undervoltage"),
    ("bus_soft_fail", "Bus Soft-start Fail"),
    ("over_temperature", "Over Temperature"),
    ("inverter_over_temperature", "Inverter Over Temperature"),
    ("dcdc_over_temperature", "DC-DC Over Temperature"),
    ("pv_over_temperature", "PV Over Temperature"),
    ("eeprom_fault", "EEPROM Fault"),
    ("current_sensor_fail", "Current Sensor Fail"),
    ("fan_locked", "Fan Locked"),
    ("overload", "Overload"),
    ("battery_voltage_high", "Battery Overvoltage"),
    ("battery_low_alarm", "Battery Low"),
    ("battery_too_low_to_charge", "Battery Too Low to Charge"),
    ("battery_type_incompatible", "Battery Type Mismatch"),
    ("inverter_voltage_too_high", "Inverter Output Overvoltage"),
    ("inverter_voltage_too_low", "Inverter Output Undervoltage"),
    ("op_dc_voltage_over", "Output DC Overvoltage"),
    ("pv_voltage_high", "PV Overvoltage"),
    ("pv_low_voltage", "PV Voltage Too Low"),
    ("pv_over_current", "PV Overcurrent"),
    ("mppt_overload_fault", "MPPT Overload"),
    ("opv_short", "Output Short"),
    ("inverter_soft_fail", "Inverter Soft-start Fail"),
    ("mains_low_frequency", "Grid Low Frequency"),
    ("mains_over_frequency", "Grid Over Frequency"),
    ("mains_waveform_abnormal", "Grid Waveform Abnormal"),
    ("parallel_host_lost", "Parallel Host Lost"),
    ("parallel_sync_abnormal", "Parallel Sync Lost"),
    ("parallel_battery_diff", "Parallel Battery Mismatch"),
    ("parallel_mode_inconsistent", "Parallel Mode Mismatch"),
    ("parallel_version_incompatible", "Parallel Version Mismatch"),
    ("parallel_comm_interrupted", "Parallel Comm Lost"),
    ("battery_eq_charging", "Battery Equalize Charging"),
    ("pv_energy_low", "PV Energy Low"),
    ("power_limit", "Power Limiting"),
    ("mppt_overload_warning", "MPPT Overload Warning"),
    ("line_fail", "Line Fail"),
    ("battery_current_bias", "Battery Current Bias"),
    ("inverter_current_bias", "Inverter Current Bias"),
    ("output_current_bias", "Output Current Bias"),
    ("pv_current_bias", "PV Current Bias")]

/-- `_flag_set`: under the bare name or under `warn_`. -/
def flagSet (flags : Section) (baseName : String) : Bool :=
  flagGiven flags baseName || flagGiven flags ("warn_" ++ baseName)

/-- `merged.setdefault(key, value)`. -/
def setDefault (merged : Section) (key : String) (value : PyValue) : Section :=
  if merged.contains key then merged else merged.set key value

theorem get?_setDefault (merged : Section) (key other : String)
    (value : PyValue) :
    (setDefault merged key value).get? other =
      (merged.get? other).or (if other = key then some value else none) := by
  unfold setDefault Dict.contains
  cases hget : merged.get? key with
  | none =>
      simp only [Option.isSome_none, Bool.false_eq_true, if_false]
      rw [Dict.get?_set]
      split
      next heq =>
        rw [heq, hget]
        rfl
      next =>
        rw [Option.or_none]
  | some old =>
      simp only [Option.isSome_some, if_true]
      split
      next heq =>
        rw [heq, hget]
        rfl
      next =>
        rw [Option.or_none]

/-- `_merged_warnings`: the QPIWS section wins. -/
def mergedWarnings (qpiws qfws : Section) : Section :=
  qfws.entries.foldl (fun merged entry => setDefault merged entry.1 entry.2)
    qpiws

/-- What the summary shows; `shown` is the description or the code. -/
inductive Summary where
  | ok
  | fault (shown : PyValue)
  | smgWarning (code : ℤ)
  | active (first : Option String) (total : ℕ)

def firstActive (flags : Section) : Option String :=
  (warningSeverityOrder.find? fun entry => flagSet flags entry.1).map Prod.snd

/-- The catalogued flags that are set, and the truthy `warn_` ones that are
not in the catalogue. -/
def activeKeys (flags : Section) : List String :=
  let cataloged := (warningSeverityOrder.filter fun entry =>
    flagSet flags entry.1).map Prod.fst
  let catalogedWarn := warningSeverityOrder.map fun entry => "warn_" ++ entry.1
  let others := (flags.entries.filter fun entry =>
    PyString.startsWith entry.1 "warn_" && entry.2.truthy &&
      decide (entry.1 ∉ catalogedWarn)).map Prod.fst
  (cataloged ++ others).dedup

/-- `DirectInverterFaultSummarySensor._handle_coordinator_update`; `none` is
the error of `int(warning_code)`. -/
def summarize (flags : Section) : Option Summary :=
  if codeGiven flags "fault_code" then
    let description := (flags.get? "fault_description").getD .none
    some (.fault (if description.truthy then description
      else (flags.get? "fault_code").getD .none))
  else if codeGiven flags "warning_code" then
    (toInt ((flags.get? "warning_code").getD .none)).map .smgWarning
  else
    let total := (activeKeys flags).length
    if total = 0 then some .ok
    else some (.active (firstActive flags) total)

/-- The text of the state; `str` is Python's conversion to text. -/
def Summary.text (str : PyValue → String) : Summary → String
  | .ok => "OK"
  | .fault shown => "Fault: " ++ str shown
  | .smgWarning code => "Warning: SMG-II code 0x" ++ PyFormat.hex 8 code
  | .active none total =>
      "Warning: " ++ PyFormat.decimal 0 total ++ " active"
  | .active (some first) total =>
      if 1 < total then
        "Warning: " ++ first ++ " (+" ++ PyFormat.decimal 0 (total - 1) ++
          " more)"
      else "Warning: " ++ first

def faultSummary (str : PyValue → String) (qpiws qfws : Section) :
    Option String :=
  (summarize (mergedWarnings qpiws qfws)).map (Summary.text str)

/-! ## Sections without a warning -/

/-- The keys that either entity asks for by name, the `warn_` ones apart. -/
def lookedUp : List String :=
  ["fault_code", "warning_code", "has_fault", "has_warning"] ++
    warningSeverityOrder.map Prod.fst

/-- A section with nothing that either entity looks at. -/
structure Silent (flags : Section) : Prop where
  notLookedUp : ∀ key ∈ flags.keys, key ∉ lookedUp
  notWarn : ∀ key ∈ flags.keys, PyString.startsWith key "warn_" = false
  notBool : ∀ entry ∈ flags.entries, isBool entry.2 = false

section Silent

variable {flags qpiws qfws : Section}

theorem Silent.get?_eq_none (hsilent : Silent flags) {key : String}
    (hkey : key ∈ lookedUp ∨ PyString.startsWith key "warn_" = true) :
    flags.get? key = none := by
  apply Dict.get?_eq_none_of_notMem
  intro hmem
  rcases hkey with hlooked | hwarn
  · exact hsilent.notLookedUp key hmem hlooked
  · have hnot := hsilent.notWarn key hmem
    rw [hwarn] at hnot
    cases hnot

theorem Silent.codeGiven (hsilent : Silent flags) {key : String}
    (hkey : key ∈ lookedUp) : codeGiven flags key = false := by
  unfold Warnings.codeGiven
  rw [hsilent.get?_eq_none (.inl hkey)]
  rfl

theorem Silent.flagGiven (hsilent : Silent flags) {key : String}
    (hkey : key ∈ lookedUp ∨ PyString.startsWith key "warn_" = true) :
    flagGiven flags key = false := by
  unfold Warnings.flagGiven
  rw [hsilent.get?_eq_none hkey]
  rfl

theorem Silent.flagSet (hsilent : Silent flags) {entry : String × String}
    (hmem : entry ∈ warningSeverityOrder) :
    flagSet flags entry.1 = false := by
  have hlooked : entry.1 ∈ lookedUp := by
    apply List.mem_append_right
    exact List.mem_map_of_mem hmem
  have hwarn : PyString.startsWith ("warn_" ++ entry.1) "warn_" = true := by
    unfold PyString.startsWith
    rw [String.toList_append, List.isPrefixOf_iff_prefix]
    exact List.prefix_append _ _
  unfold Warnings.flagSet
  rw [hsilent.flagGiven (.inl hlooked), hsilent.flagGiven (.inr hwarn)]
  rfl

theorem Silent.setDefault (hsilent : Silent flags) {key : String}
    {value : PyValue} (hlooked : key ∉ lookedUp)
    (hwarn : PyString.startsWith key "warn_" = false)
    (hbool : isBool value = false) : Silent (setDefault flags key value) := by
  unfold Warnings.setDefault
  split
  · exact hsilent
  · constructor
    · intro other hmem
      rcases Dict.mem_keys_set.mp hmem with rfl | hold
      · exact hlooked
      · exact hsilent.notLookedUp other hold
    · intro other hmem
      rcases Dict.mem_keys_set.mp hmem with rfl | hold
      · exact hwarn
      · exact hsilent.notWarn other hold
    · intro entry hmem
      rcases Dict.mem_entries_set hmem with rfl | hold
      · exact hbool
      · exact hsilent.notBool entry hold

/-- The sections of a silent device are silent together. -/
theorem Silent.merged (hqpiws : Silent qpiws) (hqfws : Silent qfws) :
    Silent (mergedWarnings qpiws qfws) := by
  have hentries : ∀ entry ∈ qfws.entries, entry.1 ∉ lookedUp ∧
      PyString.startsWith entry.1 "warn_" = false ∧
        isBool entry.2 = false := by
    intro entry hmem
    have hkey : entry.1 ∈ qfws.keys := List.mem_map_of_mem hmem
    exact ⟨hqfws.notLookedUp _ hkey, hqfws.notWarn _ hkey,
      hqfws.notBool entry hmem⟩
  unfold mergedWarnings
  generalize qfws.entries = entries at hentries
  induction entries generalizing qpiws with
  | nil => exact hqpiws
  | cons entry entries ih =>
      obtain ⟨hlooked, hwarn, hbool⟩ := hentries entry List.mem_cons_self
      rw [List.foldl_cons]
      apply ih (hqpiws.setDefault hlooked hwarn hbool)
      intro other hmem
      exact hentries other (List.mem_cons_of_mem entry hmem)

theorem anyWarning_of_silent (hqpiws : Silent qpiws) (hqfws : Silent qfws) :
    anyWarning qpiws qfws = false := by
  have hfault : codeGiven qfws "fault_code" = false :=
    hqfws.codeGiven (by decide)
  have hwarning : codeGiven qfws "warning_code" = false :=
    hqfws.codeGiven (by decide)
  have hhasFault : flagGiven qfws "has_fault" = false :=
    hqfws.flagGiven (by decide)
  have hhasWarning : flagGiven qfws "has_warning" = false :=
    hqfws.flagGiven (by decide)
  unfold anyWarning
  rw [hfault, hwarning, hhasFault, hhasWarning]
  simp only [Bool.or_self, Bool.false_eq_true, if_false,
    Bool.or_eq_false_iff, List.any_eq_false]
  constructor
  · intro entry hmem
    rw [hqpiws.notBool entry hmem]
    simp
  · intro entry hmem
    rw [hqfws.notBool entry hmem]
    simp

theorem activeKeys_of_silent (hsilent : Silent flags) :
    activeKeys flags = [] := by
  have hcataloged : (warningSeverityOrder.filter fun entry =>
      Warnings.flagSet flags entry.1) = [] := by
    rw [List.filter_eq_nil_iff]
    intro entry hmem
    rw [hsilent.flagSet hmem]
    simp
  have hothers : ∀ catalogedWarn : List String,
      (flags.entries.filter fun entry =>
        PyString.startsWith entry.1 "warn_" && entry.2.truthy &&
          decide (entry.1 ∉ catalogedWarn)) = [] := by
    intro catalogedWarn
    rw [List.filter_eq_nil_iff]
    intro entry hmem
    rw [hsilent.notWarn entry.1 (List.mem_map_of_mem hmem)]
    simp
  unfold activeKeys
  dsimp only
  rw [hcataloged, hothers]
  rfl

theorem summarize_of_silent (hsilent : Silent flags) :
    summarize flags = some .ok := by
  have hfault : codeGiven flags "fault_code" = false :=
    hsilent.codeGiven (by decide)
  have hwarning : codeGiven flags "warning_code" = false :=
    hsilent.codeGiven (by decide)
  unfold summarize
  rw [hfault, hwarning, activeKeys_of_silent hsilent]
  rfl

end Silent

end Warnings
end DessMonitor
