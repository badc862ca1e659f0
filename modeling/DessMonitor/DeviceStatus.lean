import DessMonitor.VoltronicReply
import DessMonitor.WarningSensors

/-!
# The device status

The status field of a general status reply is eight binary digits.  The sensor
that sums it up reads them as a decimal number and shows `OK` in the end
whatever they are; the sensors of the single bits read them as what they are.
-/

namespace DessMonitor
namespace DeviceStatus

open Direct (Section)
open Enums PyString Voltronic

def statusKey : String := "device_status_bits_b7_b0"

/-! ## The summary sensor -/

/-- `int(value)`; `none` is an exception. -/
def toInt : PyValue → Option ℤ
  | .str text => toInt? text.toList
  | value => Warnings.toInt value

/-- `flags & bit` is not zero. -/
def isSet (flags : ℤ) (bit : DeviceStatusBitsB7B0) : Bool :=
  flags / bit.mask % 2 == 1

/-- The branches over the flags, for a sensor that showed `shown`. -/
def branchState (flags : ℤ) (shown : String) : String :=
  if isSet flags .fault then "FAULT"
  else if isSet flags .lineFail then "LINE_FAIL"
  else if isSet flags .inverterOverload then "INVERTER_OVERLOAD"
  else if isSet flags .batteryLow then "BATTERY_LOW"
  else shown

/-- The assignment behind the branches, which stands in none of them. -/
def afterBranches (_ : String) : String := "OK"

/-- `DirectDeviceStatusSensor._handle_coordinator_update`; `none` is an
exception. -/
def handleCoordinatorUpdate (shown : String) (qpigs : Section) :
    Option String := do
  let flags ← toInt ((qpigs.get? statusKey).getD (.int 0))
  some (afterBranches (branchState flags shown))

/-! ## The single bits -/

/-- `parse_device_status_bits_b7_b0(raw)[flag]`. -/
def reported (raw flag : String) : Bool :=
  ((parseDeviceStatusBitsB7B0 raw).get? flag).any PyValue.truthy

/-- The flags of the summary with what it is to show, the first one first. -/
def summaryFlags : List (String × String) :=
  [("fault", "FAULT"), ("line_fail", "LINE_FAIL"),
    ("inverter_overload", "INVERTER_OVERLOAD"),
    ("battery_low", "BATTERY_LOW")]

/-- The first flag of the summary that is reported, or `OK`. -/
def flagSummary (raw : String) : String :=
  ((summaryFlags.find? fun entry => reported raw entry.1).map
    Prod.snd).getD "OK"

/-- The section of a reply, or an empty one. -/
def sectionOf : Option String → Section
  | some text => decodeQpigs text
  | none => .empty

/-- The raw field of a section, where one is; the parser takes a missing one
for an empty text. -/
def rawStatus (qpigs : Section) : Option String :=
  match qpigs.get? statusKey with
  | some (.str raw) => some raw
  | _ => none

/-- The summary does not raise and agrees with the bits. -/
def SummaryAgrees (shown : String) (reply : Option String) : Prop :=
  handleCoordinatorUpdate shown (sectionOf reply) =
    some (flagSummary ((rawStatus (sectionOf reply)).getD ""))

/-- No flag of the summary is set. -/
def AllClear (raw : String) : Prop :=
  ∀ entry ∈ summaryFlags, reported raw entry.1 = false

instance (raw : String) : Decidable (AllClear raw) :=
  inferInstanceAs (Decidable (∀ entry ∈ summaryFlags,
    reported raw entry.1 = false))

/-- The field is missing, or it has a binary digit and no flag of the summary is
set. -/
def OkShown (reply : Option String) : Prop :=
  ∀ raw, rawStatus (sectionOf reply) = some raw → raw ≠ "" ∧ AllClear raw

/-! ## The status field -/

theorem get?_sectionOf (reply : Option String) :
    (sectionOf reply).get? statusKey = none ∨
      ∃ word : List Char, (sectionOf reply).get? statusKey =
        some (.str (cleanBits (.ofList word) 8)) := by
  cases reply with
  | none => exact Or.inl rfl
  | some text =>
      have hfield := get?_decodeQpigs text 16 (by decide)
      have hkey : qpigsFields[16] = statusKey := rfl
      have hget : (sectionOf (some text)).get? statusKey =
          (words text.toList)[16]?.map fun word =>
            .str (statusField 16 (.ofList word)) := by
        rw [← hkey]
        exact hfield
      rw [hget]
      cases (words text.toList)[16]? with
      | none => exact Or.inl rfl
      | some word => exact Or.inr ⟨word, rfl⟩

/-- Binary digits are a decimal number if there is one. -/
theorem toInt_cleanBits (word : List Char)
    (hne : cleanBits (.ofList word) 8 ≠ "") :
    (toInt (.str (cleanBits (.ofList word) 8))).isSome = true := by
  have hbits : (cleanBits (.ofList word) 8).toList =
      (word.filter isBit).take 8 := by
    unfold cleanBits
    rw [String.toList_ofList, String.toList_ofList]
  have hnonempty : (word.filter isBit).take 8 ≠ [] := by
    intro hempty
    apply hne
    unfold cleanBits
    rw [String.toList_ofList, hempty]
  have hdigits : ∀ c ∈ (word.filter isBit).take 8, c.isDigit = true := by
    intro c hmem
    have hbit := (List.mem_filter.1 (List.mem_of_mem_take hmem)).2
    have hdigit : c = '0' ∨ c = '1' := by
      unfold isBit at hbit
      simpa using hbit
    rcases hdigit with rfl | rfl <;> decide
  have hlength : ((word.filter isBit).take 8).length ≤ 4300 := by
    rw [List.length_take]
    omega
  unfold toInt
  dsimp only
  rw [hbits, toInt?_of_digits hnonempty hlength hdigits]
  rfl

theorem flagSummary_eq_ok_iff (raw : String) :
    flagSummary raw = "OK" ↔ AllClear raw := by
  unfold flagSummary
  constructor
  · intro hok entry hmem
    cases hfound : summaryFlags.find? fun entry => reported raw entry.1 with
    | none =>
        have hclear := List.find?_eq_none.1 hfound entry hmem
        simpa using hclear
    | some found =>
        rw [hfound] at hok
        have hnames : ∀ entry ∈ summaryFlags, entry.2 ≠ "OK" := by
          decide
        exact absurd hok (hnames found (List.mem_of_find?_eq_some hfound))
  · intro hclear
    have hnone : summaryFlags.find? (fun entry => reported raw entry.1) =
        none := by
      apply List.find?_eq_none.2
      intro entry hmem
      rw [hclear entry hmem]
      exact Bool.false_ne_true
    rw [hnone]
    rfl

section Update

variable {qpigs : Section}

theorem handleCoordinatorUpdate_of_none (shown : String)
    (hfield : qpigs.get? statusKey = none) :
    handleCoordinatorUpdate shown qpigs = some "OK" := by
  unfold handleCoordinatorUpdate
  rw [hfield]
  rfl

theorem handleCoordinatorUpdate_of_empty (shown : String)
    (hfield : qpigs.get? statusKey = some (.str "")) :
    handleCoordinatorUpdate shown qpigs = none := by
  have hraises : toInt (.str "") = none := by
    decide +kernel
  unfold handleCoordinatorUpdate
  rw [hfield, Option.getD_some, hraises]
  rfl

/-- Whatever the digits are, the sensor shows `OK`. -/
theorem handleCoordinatorUpdate_of_digits (shown : String)
    {word : List Char}
    (hfield : qpigs.get? statusKey =
      some (.str (cleanBits (.ofList word) 8)))
    (hne : cleanBits (.ofList word) 8 ≠ "") :
    handleCoordinatorUpdate shown qpigs = some "OK" := by
  obtain ⟨flags, hflags⟩ :=
    Option.isSome_iff_exists.1 (toInt_cleanBits word hne)
  unfold handleCoordinatorUpdate
  rw [hfield, Option.getD_some, hflags]
  rfl

theorem rawStatus_of_str {raw : String}
    (hfield : qpigs.get? statusKey = some (.str raw)) :
    rawStatus qpigs = some raw := by
  unfold rawStatus
  rw [hfield]

theorem rawStatus_of_none (hfield : qpigs.get? statusKey = none) :
    rawStatus qpigs = none := by
  unfold rawStatus
  rw [hfield]

end Update

/-- The summary agrees with the bits exactly when it is right to show `OK`. -/
theorem summaryAgrees_iff (shown : String) (reply : Option String) :
    SummaryAgrees shown reply ↔ OkShown reply := by
  unfold SummaryAgrees OkShown
  rcases get?_sectionOf reply with hfield | ⟨word, hfield⟩
  · have hclear : AllClear "" := by
      decide +kernel
    rw [handleCoordinatorUpdate_of_none shown hfield,
      rawStatus_of_none hfield, Option.getD_none]
    apply iff_of_true
    · exact congrArg some ((flagSummary_eq_ok_iff "").2 hclear).symm
    · intro raw hraw
      cases hraw
  · rw [rawStatus_of_str hfield, Option.getD_some]
    by_cases hempty : cleanBits (.ofList word) 8 = ""
    · rw [hempty] at hfield
      rw [hempty, handleCoordinatorUpdate_of_empty shown hfield]
      apply iff_of_false
      · intro hagrees
        cases hagrees
      · intro hshown
        exact (hshown "" rfl).1 rfl
    · rw [handleCoordinatorUpdate_of_digits shown hfield hempty,
        Option.some_inj, eq_comm, flagSummary_eq_ok_iff]
      constructor
      · intro hclear raw hraw
        obtain rfl := Option.some.inj hraw
        exact ⟨hempty, hclear⟩
      · intro hshown
        exact (hshown _ rfl).2

/-- A fault in the seventeenth word. -/
def faultReply : String :=
  "0 0 0 0 0 0 0 0 0 0 0 0 0 0 0 0 10000000"

theorem faultReply_shown_ok :
    ¬ ∀ (shown : String) (reply : Option String),
      SummaryAgrees shown reply := by
  intro hall
  have hagrees := hall "OK" (some faultReply)
  revert hagrees
  unfold SummaryAgrees
  decide +kernel

end DeviceStatus
end DessMonitor
