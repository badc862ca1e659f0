import DessMonitor.Foundation.PythonValue

/-!
# Judging one decoded reply

The pure policies the coordinator applies to a reply: the plausibility bounds
of a QPIGS reading, the error and NAK tests, and the consecutive-failure
counter which decides between freezing a section and dropping it.
-/

namespace DessMonitor
namespace Direct

abbrev Section := Dict String PyValue

/-! ## Plausibility bounds -/

def minBatteryVoltageV : ℚ := 10
def maxBatteryVoltageV : ℚ := 120
def maxBatteryCurrentA : ℚ := 300

def isPlausibleBatteryCurrent (value : PyFloat) : Bool :=
  value.between 0 maxBatteryCurrentA

def isPlausibleBatteryVoltage (value : PyFloat) : Bool :=
  value.between minBatteryVoltageV maxBatteryVoltageV

/-- `float` raises `OverflowError` on an integer beyond binary64, and nothing
catches it. -/
inductive Uncaught where
  | overflowError
  deriving DecidableEq

def floatField (data : Section) (key : String) :
    Except Uncaught (Option PyFloat) :=
  match data.get? key with
  | none => .ok none
  | some .none => .ok none
  | some raw =>
      if raw.eqText "" then .ok none
      else
        match raw.toFloat with
        | .ok value => .ok (some value)
        | .error .typeOrValue => .ok none
        | .error .overflow => .error .overflowError

def currentsPlausible (data : Section) : List String → Except Uncaught Bool
  | [] => .ok true
  | key :: keys => do
      let current ← floatField data key
      if current.any fun value => !isPlausibleBatteryCurrent value then
        return false
      else currentsPlausible data keys

def isPlausibleQpigs (data : Section) : Except Uncaught Bool := do
  if data.contains "error" then return false
  else
    let voltage ← floatField data "battery_voltage"
    if voltage.any fun value => !isPlausibleBatteryVoltage value then
      return false
    else
      currentsPlausible data
        ["battery_charging_current", "battery_discharge_current"]

/-! ## Errors and NAKs -/

def hasNakStatus (result : Section) : Bool :=
  (result.get? "status").any (PyValue.eqText "NAK")

/-- `"NAK" in text`. -/
def mentionsNak (text : String) : Bool :=
  decide ("NAK".toList <:+: text.toList)

/-- `None` and the empty reply count as errors. -/
def isErrorResult (result : Option Section) : Bool :=
  match result with
  | none => true
  | some result =>
      result.isEmpty || result.contains "error" || hasNakStatus result

def isNakResult (result : Section) : Bool :=
  hasNakStatus result ||
    match result.get? "error" with
    | some (.str text) => mentionsNak text
    | _ => false

theorem isErrorResult_eq_false {result : Section}
    (hresult : isErrorResult (some result) = false) :
    result.isEmpty = false ∧ result.contains "error" = false ∧
      hasNakStatus result = false := by
  simpa [isErrorResult, and_assoc] using hresult

/-! ## The failure tracker -/

inductive FailureOutcome where
  | freeze
  | noData
  | unavailable
  deriving DecidableEq

structure FailureTracker (Command : Type) where
  maxConsecutive : ℕ
  counts : Dict String (Dict Command ℕ)

namespace FailureTracker

variable {Command : Type}

def resolve (tracker : FailureTracker Command) (count : ℕ)
    (lastKnown : Section) : Section × FailureOutcome :=
  if count < tracker.maxConsecutive then
    if lastKnown.isEmpty then (.empty, .noData) else (lastKnown, .freeze)
  else (.empty, .unavailable)

/-- What a failed read surfaces is the last known section or nothing. -/
theorem resolve_section (tracker : FailureTracker Command) (count : ℕ)
    (lastKnown : Section) :
    (tracker.resolve count lastKnown).1 =
      if count < tracker.maxConsecutive then lastKnown else .empty := by
  unfold resolve
  by_cases hlt : count < tracker.maxConsecutive
  · rw [if_pos hlt, if_pos hlt]
    by_cases hempty : lastKnown.isEmpty
    · rw [if_pos hempty, Dict.eq_empty_of_isEmpty hempty]
    · rw [if_neg hempty]
  · rw [if_neg hlt, if_neg hlt]

variable [DecidableEq Command]

def perDevice (tracker : FailureTracker Command) (device : String) :
    Dict Command ℕ :=
  (tracker.counts.get? device).getD .empty

def count (tracker : FailureTracker Command) (device : String)
    (command : Command) : ℕ :=
  ((tracker.perDevice device).get? command).getD 0

def setCount (tracker : FailureTracker Command) (device : String)
    (command : Command) (value : ℕ) : FailureTracker Command :=
  { tracker with
    counts := tracker.counts.set device
      ((tracker.perDevice device).set command value) }

def onSuccess (tracker : FailureTracker Command) (device : String)
    (command : Command) : FailureTracker Command :=
  tracker.setCount device command 0

def onFailure (tracker : FailureTracker Command) (device : String)
    (command : Command) : FailureTracker Command × ℕ :=
  let value := tracker.count device command + 1
  (tracker.setCount device command value, value)

@[simp] theorem count_setCount_self (tracker : FailureTracker Command)
    (device : String) (command : Command) (value : ℕ) :
    (tracker.setCount device command value).count device command =
      value := by
  simp [setCount, count, perDevice]

theorem count_setCount_of_ne (tracker : FailureTracker Command)
    {device other : String} {command otherCommand : Command}
    (hne : (other, otherCommand) ≠ (device, command)) (value : ℕ) :
    (tracker.setCount device command value).count other otherCommand =
      tracker.count other otherCommand := by
  by_cases hdevice : other = device
  · subst other
    have hcommand : otherCommand ≠ command := fun heq => hne (by rw [heq])
    simp [setCount, count, perDevice, Dict.get?_set_of_ne _ hcommand]
  · simp [setCount, count, perDevice, Dict.get?_set_of_ne _ hdevice]

end FailureTracker

end Direct
end DessMonitor
