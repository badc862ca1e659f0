import DessMonitor.DirectCoordinatorModel
import DessMonitor.Foundation.PyFormat
import DessMonitor.Foundation.PyString
import DessMonitor.ModbusAdapterModel

/-!
# The select entities

A select entity shows one setting of an inverter and writes it when the user
chooses an option.  A call writes until the inverter acknowledges, at most
three times, and then waits for a reading that shows the new value.  All calls
of one entity share its pending option.  Their writes are executed one at a
time in the order in which they were enqueued.
-/

namespace DessMonitor
namespace Select

open Direct Smg

/-! ## Reading the options -/

/-- `_read_current` is given the value of `field` in the section `qpiri`; it
yields `none` where it raises. -/
structure SelectBase where
  options : List String
  field : String
  readCurrent : PyValue → Option PyValue
  request : String → Option Setter

/-- `(device_data.get('qpiri') or {}).get(field)`. -/
def SelectBase.resolve (base : SelectBase) (device : DeviceData) : PyValue :=
  ((device.getSection .qpiri).get? base.field).getD .none

/-- `str(int(float(raw)))`, or `None` if that is a type or value error. -/
def normalizeAmps (raw : PyValue) : Option PyValue :=
  match raw.toFloat with
  | .ok (.infinity _) => none
  | .ok value =>
      some (((PyFormat.truncate value).map fun amps =>
        PyValue.str (PyFormat.decimal 1 amps)).getD .none)
  | .error .typeOrValue => some .none
  | .error .overflow => none

def inverterOutputPrioritySelect : SelectBase where
  options := ["UtilityFirst", "SBU", "Solar"]
  field := "output_source_priority"
  readCurrent
    | .str "SolarFirst" => some (.str "Solar")
    | priority => some priority
  request
    | "UtilityFirst" => some (.outputSourcePriority .utilityFirst)
    | "SBU" => some (.outputSourcePriority .sbuPriority)
    | "Solar" => some (.outputSourcePriority .solarFirst)
    | _ => none

def inverterChargeSourcePrioritySelect : SelectBase where
  options := ["UtilityFirst", "SolarFirst", "SolarAndUtility"]
  field := "charger_source_priority"
  readCurrent := some
  request
    | "UtilityFirst" => some (.chargeSourcePriority .utilityFirst)
    | "SolarFirst" => some (.chargeSourcePriority .solarFirst)
    | "SolarAndUtility" => some (.chargeSourcePriority .solarAndUtility)
    | _ => none

def inverterMaxUtilityChargingCurrentNumber : SelectBase where
  options := ["2", "10", "20", "30", "40", "50", "60", "70", "80", "90", "100",
    "110", "120"]
  field := "max_utility_charging_current"
  readCurrent := normalizeAmps
  request option :=
    (PyString.toInt? option.toList).map .maxUtilityChargeCurrent

def inverterMaxChargingCurrentSelect : SelectBase where
  options := ["10", "20", "30", "40", "50", "60", "70", "80"]
  field := "max_charging_current"
  readCurrent := normalizeAmps
  request option :=
    (PyString.toInt? option.toList).map fun amps =>
      .maxCombinedChargeCurrent amps

/-- `_is_ack`; `none` is a result that is not a dict. -/
def isAck : Option Section → Bool
  | none => false
  | some result =>
      if (result.get? "status").any (PyValue.eqText "ACK") then true
      else if hasNakStatus result || result.contains "error" then false
      else
        result.values.any fun value =>
          match value with
          | .str text =>
              PyString.contains text.toList "ACK".toList &&
                !PyString.contains text.toList "NAK".toList
          | _ => false

/-! ## The entity -/

structure Entity where
  pendingOption : Option String
  pendingSince : ℚ
  currentOption : PyValue

def pendingTtl : ℚ := 150

/-- The start of `_set_and_confirm`. -/
def Entity.choose (option : String) (time : ℚ) : Entity :=
  ⟨some option, time, .str option⟩

/-- `_handle_coordinator_update`, with what `_read_current` returned. -/
def Entity.handleCoordinatorUpdate (entity : Entity) (current : PyValue)
    (time : ℚ) : Entity :=
  match entity.pendingOption with
  | some option =>
      if current.eqText option || decide (pendingTtl < time - entity.pendingSince)
      then { entity with pendingOption := none, currentOption := current }
      else { entity with currentOption := .str option }
  | none => { entity with currentOption := current }

/-! ## Calls -/

def setAttempts : ℕ := 3
def confirmAttempts : ℕ := 4

/-- Where in `_set_and_confirm` a call is: its write number `attempt` is
enqueued, it sleeps after that write was not acknowledged, or it awaits round
`round` of the confirmation. -/
inductive Phase where
  | sending (attempt : ℕ)
  | pausing (attempt : ℕ)
  | confirming (round : ℕ)
  | returned
  deriving DecidableEq

structure Call where
  option : String
  phase : Phase
  acked : Bool
  deriving DecidableEq

/-- The rest of the write loop's body, when a write was answered. -/
def Call.answered (call : Call) (attempt : ℕ) (acked : Bool) : Call :=
  if acked then { call with phase := .confirming 0, acked := true }
  else { call with phase := .pausing attempt }

/-- The confirmation loop, when a reading is over. -/
def Call.checked (call : Call) (round : ℕ) (pendingOption : Option String) :
    Call :=
  if pendingOption.isNone || decide (confirmAttempts ≤ round + 1) then
    { call with phase := .returned }
  else { call with phase := .confirming (round + 1) }

/-! ## The system -/

/-- A write as the inverter received it. -/
structure Sent where
  cid : ℕ
  setter : Setter
  acked : Bool
  deriving DecidableEq

structure World where
  entity : Entity
  calls : List Call
  queue : List ℕ
  running : Option ℕ
  sent : List Sent
  clock : ℚ

def World.initial (currentOption : PyValue) : World :=
  ⟨⟨none, 0, currentOption⟩, [], [], none, [], 0⟩

/-- What a call does between two awaits: `answer` and `raised` end the write
that is running, `wake` ends a pause and `check` a round of confirmation. -/
inductive Event where
  | select (option : String) (time : ℚ)
  | update (device : DeviceData) (time : ℚ)
  | start
  | answer (result : Option Section)
  | raised
  | wake (cid : ℕ)
  | check (cid : ℕ)

namespace World

/-- `async_select_option`, up to the write that it enqueues. -/
def select (world : World) (option : String) (time : ℚ) : World :=
  { world with
    entity := .choose option time
    calls := world.calls ++ [⟨option, .sending 0, false⟩]
    queue := world.queue ++ [world.calls.length]
    clock := time }

/-- The calls whose writes are running or queued, in the order of execution. -/
def enqueued (world : World) : List ℕ :=
  world.running.toList ++ world.queue

def setCall (world : World) (cid : ℕ) (call : Call) : World :=
  { world with calls := world.calls.set cid call }

/-- The running write is over. -/
def finish (world : World) (cid : ℕ) (call : Call) (setter : Setter)
    (acked : Bool) : World :=
  { world.setCall cid call with
    running := none
    sent := world.sent ++ [⟨cid, setter, acked⟩] }

/-- The write loop after its sleep. -/
def wake (world : World) (cid : ℕ) (call : Call) (attempt : ℕ) : World :=
  if attempt + 1 < setAttempts then
    { world.setCall cid { call with phase := .sending (attempt + 1) } with
      queue := world.queue ++ [cid] }
  else world.setCall cid { call with phase := .confirming 0 }

def step (base : SelectBase) (world : World) : Event → Option World
  | .select option time =>
      if world.clock ≤ time ∧ option ∈ base.options then
        some (world.select option time)
      else none
  | .update device time =>
      if world.clock ≤ time then
        match base.readCurrent (base.resolve device) with
        | some current =>
            some { world with
              entity := world.entity.handleCoordinatorUpdate current time
              clock := time }
        | none => some { world with clock := time }
      else none
  | .start =>
      match world.running, world.queue with
      | none, cid :: queue =>
          some { world with running := some cid, queue := queue }
      | _, _ => none
  | .answer result => do
      let cid ← world.running
      let call ← world.calls[cid]?
      let setter ← base.request call.option
      match call.phase with
      | .sending attempt =>
          some (world.finish cid (call.answered attempt (isAck result)) setter
            (isAck result))
      | _ => none
  | .raised => do
      let cid ← world.running
      let call ← world.calls[cid]?
      let setter ← base.request call.option
      match call.phase with
      | .sending _ =>
          some (world.finish cid { call with phase := .returned } setter false)
      | _ => none
  | .wake cid => do
      let call ← world.calls[cid]?
      match call.phase with
      | .pausing attempt => some (world.wake cid call attempt)
      | _ => none
  | .check cid => do
      let call ← world.calls[cid]?
      match call.phase with
      | .confirming round =>
          some (world.setCall cid
            (call.checked round world.entity.pendingOption))
      | _ => none

end World

/-! ## The entities -/

/-- The subclasses of `SelectBase`. -/
def selects : List SelectBase :=
  [inverterOutputPrioritySelect, inverterChargeSourcePrioritySelect,
    inverterMaxUtilityChargingCurrentNumber, inverterMaxChargingCurrentSelect]

theorem request_isSome_of_mem {base : SelectBase} (hmem : base ∈ selects) :
    ∀ option ∈ base.options, (base.request option).isSome = true := by
  simp only [selects, List.mem_cons, List.not_mem_nil, or_false] at hmem
  rcases hmem with rfl | rfl | rfl | rfl
  · decide +kernel
  · decide +kernel
  · decide +kernel
  · decide +kernel

end Select
end DessMonitor
