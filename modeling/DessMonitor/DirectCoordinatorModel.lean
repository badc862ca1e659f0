import DessMonitor.Foundation.LabelledRun
import DessMonitor.ReadingPolicies
import Mathlib.Data.Finset.Insert

/-!
# The polling coordinator

One coordinator polls a list of devices.  A cycle takes a snapshot of the
published data, runs one task per device, and publishes the map built by the
tasks when all of them are done.  A targeted refresh reads one command and
publishes it at once.  Tasks and refreshes are suspended only while a reply is
awaited, so every event below is the code between two awaits.

Cycles do not overlap, and publishing from a refresh does not cancel a cycle
in flight.
-/

namespace DessMonitor
namespace Direct

/-! ## Devices, commands and sections -/

structure DeviceTarget where
  id : String
  uri : String
  protocol : String
  name : String
  deriving DecidableEq

inductive Command where
  | qpigs
  | qmod
  | qpigs2
  | qpiws
  | qfws
  | qpiri
  deriving DecidableEq

inductive SectionName where
  | qpigs
  | qmod
  | qpigs2
  | qpiws
  | qfws
  | qpiri
  deriving DecidableEq

structure ScheduleEntry where
  command : Command
  name : SectionName
  cadence : ℕ
  deriving DecidableEq

def cmdSchedule : List ScheduleEntry :=
  [⟨.qpigs, .qpigs, 1⟩, ⟨.qmod, .qmod, 2⟩, ⟨.qpigs2, .qpigs2, 2⟩,
    ⟨.qpiws, .qpiws, 3⟩, ⟨.qfws, .qfws, 3⟩, ⟨.qpiri, .qpiri, 6⟩]

/-- The section a command is published under. -/
def Command.sectionName : Command → SectionName
  | .qpigs => .qpigs
  | .qmod => .qmod
  | .qpigs2 => .qpigs2
  | .qpiws => .qpiws
  | .qfws => .qfws
  | .qpiri => .qpiri

theorem Command.sectionName_injective :
    Function.Injective Command.sectionName := by
  intro left right heq
  cases left <;> cases right <;> first | rfl | cases heq

theorem name_of_mem_cmdSchedule {entry : ScheduleEntry}
    (hentry : entry ∈ cmdSchedule) :
    entry.name = entry.command.sectionName := by
  simp only [cmdSchedule, List.mem_cons, List.not_mem_nil, or_false] at hentry
  rcases hentry with rfl | rfl | rfl | rfl | rfl | rfl <;> rfl

structure DeviceData where
  timestamp : Option ℤ
  sections : Dict SectionName Section

namespace DeviceData

def empty : DeviceData := ⟨none, .empty⟩

/-- `sections.get(name) or {}`. -/
def getSection (device : DeviceData) (name : SectionName) : Section :=
  (device.sections.get? name).getD .empty

def setSection (device : DeviceData) (name : SectionName)
    (value : Section) : DeviceData :=
  { device with sections := device.sections.set name value }

@[simp] theorem getSection_empty (name : SectionName) :
    empty.getSection name = .empty := rfl

@[simp] theorem getSection_setSection_self (device : DeviceData)
    (name : SectionName) (value : Section) :
    (device.setSection name value).getSection name = value := by
  simp [getSection, setSection]

theorem getSection_setSection_of_ne (device : DeviceData)
    {name other : SectionName} (hne : other ≠ name) (value : Section) :
    (device.setSection name value).getSection other =
      device.getSection other := by
  simp [getSection, setSection, Dict.get?_set_of_ne _ hne]

end DeviceData

abbrev DataMap := Dict String DeviceData

/-- `(data or {}).get(key) or {}`. -/
def deviceOf (data : Option DataMap) (key : String) : DeviceData :=
  ((data.getD .empty).get? key).getD .empty

/-! ## The coordinator -/

def maxConsecutiveFailures : ℕ := 6
def nakSuppressThreshold : ℕ := 2

structure Coordinator where
  devices : List DeviceTarget
  data : Option DataMap
  failures : FailureTracker Command
  unsupported : Finset (String × Command)
  nakCounts : Dict (String × Command) ℕ
  cycle : ℕ

namespace Coordinator

def initial (devices : List DeviceTarget) : Coordinator where
  devices := devices
  data := none
  failures := ⟨maxConsecutiveFailures, .empty⟩
  unsupported := ∅
  nakCounts := .empty
  cycle := 0

def isUnsupported (coord : Coordinator) (key : String)
    (command : Command) : Bool :=
  decide ((key, command) ∈ coord.unsupported)

/-- The flag is true once the command is marked unsupported. -/
def noteNak (coord : Coordinator) (key : String) (command : Command) :
    Coordinator × Bool :=
  if coord.isUnsupported key command then (coord, true)
  else
    let count := (coord.nakCounts.get? (key, command)).getD 0 + 1
    let counted :=
      { coord with nakCounts := coord.nakCounts.set (key, command) count }
    if nakSuppressThreshold ≤ count then
      ({ counted with
        unsupported := insert (key, command) counted.unsupported }, true)
    else (counted, false)

def clearNakStreak (coord : Coordinator) (key : String)
    (command : Command) : Coordinator :=
  { coord with nakCounts := coord.nakCounts.erase (key, command) }

def recordSuccess (coord : Coordinator) (key : String)
    (command : Command) : Coordinator :=
  { coord with failures := coord.failures.onSuccess key command }

def recordFailure (coord : Coordinator) (key : String)
    (command : Command) : Coordinator × ℕ :=
  let (failures, count) := coord.failures.onFailure key command
  ({ coord with failures := failures }, count)

def acceptResult (coord : Coordinator) (key : String) (command : Command)
    (result : Section) :
    Except Uncaught (Coordinator × Option Section) := do
  if isNakResult result then return ((coord.noteNak key command).1, none)
  else if isErrorResult (some result) then return (coord, none)
  else
    let inBounds ←
      if command = .qpigs then isPlausibleQpigs result else .ok true
    if inBounds then
      return ((coord.clearNakStreak key command).recordSuccess key command,
        some result)
    else return (coord, none)

/-- `data[key][section] = accepted` on copies of the published map. -/
def publish (coord : Coordinator) (key : String) (name : SectionName)
    (accepted : Section) : Coordinator :=
  { coord with
    data := some ((coord.data.getD .empty).set key
      ((deviceOf coord.data key).setSection name accepted)) }

def setTargets (coord : Coordinator) (targets : List DeviceTarget) :
    Coordinator :=
  { coord with devices := targets }

end Coordinator

/-! ## Reads -/

inductive Outcome where
  | returned (result : Option Section)
  | raised

/-- A transport exception is caught and becomes `None`. -/
def Outcome.result : Outcome → Option Section
  | .returned result => result
  | .raised => none

/-- `prev_section if "error" not in prev_section else {}`. -/
def withoutError (prevSection : Section) : Section :=
  if prevSection.contains "error" then .empty else prevSection

namespace Coordinator

/-- After a failed attempt: retry once, then freeze or drop. -/
def attemptFailed (coord : Coordinator) (key : String) (command : Command)
    (attempt : ℕ) (prevSection : Section) : Coordinator × Option Section :=
  if attempt = 0 then (coord, none)
  else
    let (counted, count) := coord.recordFailure key command
    (counted, some
      (counted.failures.resolve count (withoutError prevSection)).1)

/-- The rest of one attempt of `fetch_with_retry`, from the reply on.  No
section means that a second attempt follows. -/
def fetchAttempt (coord : Coordinator) (key : String) (command : Command)
    (attempt : ℕ) (prevSection : Section) (outcome : Outcome) :
    Except Uncaught (Coordinator × Option Section) :=
  match outcome.result with
  | none => .ok (coord.attemptFailed key command attempt prevSection)
  | some result =>
      if isNakResult result then
        let (noted, suppressed) := coord.noteNak key command
        if suppressed then .ok (noted, some (withoutError prevSection))
        else .ok (noted.attemptFailed key command attempt prevSection)
      else do
        let (judged, accepted) ← coord.acceptResult key command result
        match accepted with
        | some value => return (judged, some value)
        | none =>
            return judged.attemptFailed key command attempt prevSection

end Coordinator

/-! ## Device tasks -/

inductive TaskPhase where
  | created
  | reading (entry : ScheduleEntry) (attempt : ℕ)
      (todo : List ScheduleEntry) (sections : DeviceData)
  | finished (published : DeviceData)

/-- `fetch_device_guarded(target)` with the snapshot it reads. -/
structure DeviceTask where
  target : DeviceTarget
  prev : DeviceData
  cycle : ℕ
  capped : Bool
  phase : TaskPhase

namespace DeviceTask

/-- The schedule up to the next command that is really sent. -/
def advance (task : DeviceTask) (coord : Coordinator) :
    List ScheduleEntry → DeviceData → TaskPhase
  | [], sections => .finished sections
  | entry :: todo, sections =>
      let prevSection := task.prev.getSection entry.name
      if task.cycle % entry.cadence = 0 then
        if coord.isUnsupported task.target.id entry.command then
          task.advance coord todo
            (sections.setSection entry.name (withoutError prevSection))
        else .reading entry 0 todo sections
      else
        task.advance coord todo (sections.setSection entry.name prevSection)

def begin (task : DeviceTask) (coord : Coordinator) (now : ℤ) : DeviceTask :=
  { task with phase := task.advance coord cmdSchedule ⟨some now, .empty⟩ }

/-- The task after a read: on to the second attempt or to the next command. -/
def resume (task : DeviceTask) (coord : Coordinator) (entry : ScheduleEntry)
    (todo : List ScheduleEntry) (sections : DeviceData) :
    Option Section → DeviceTask
  | none => { task with phase := .reading entry 1 todo sections }
  | some value =>
      { task with
        phase := task.advance coord todo
          (sections.setSection entry.name value) }

/-- Feed the awaited reply to the task; nothing when it awaits none. -/
def complete (task : DeviceTask) (coord : Coordinator) (outcome : Outcome) :
    Option (Except Uncaught (Coordinator × DeviceTask)) :=
  match task.phase with
  | .reading entry attempt todo sections =>
      some <| do
        let (after, value) ← coord.fetchAttempt task.target.id entry.command
          attempt (task.prev.getSection entry.name) outcome
        return (after, task.resume after entry todo sections value)
  | _ => none

def timeOut (task : DeviceTask) : DeviceTask :=
  { task with phase := .finished task.prev }

def published? (task : DeviceTask) : Option (String × DeviceData) :=
  match task.phase with
  | .finished published => some (task.target.id, published)
  | _ => none

def isFinished (task : DeviceTask) : Bool :=
  task.published?.isSome

end DeviceTask

/-! ## The interleaving -/

/-- A suspended `async_refresh_command`. -/
structure Refresh where
  key : String
  command : Command
  deriving DecidableEq

/-- `cycle` is the running cycle; `abandoned` holds the device tasks of cycles
that an uncaught exception of a sibling ended. -/
structure World where
  coord : Coordinator
  cycle : Option (List DeviceTask)
  refreshes : List Refresh
  abandoned : List DeviceTask

def World.initial (devices : List DeviceTarget) : World :=
  ⟨.initial devices, none, [], []⟩

inductive Event where
  | startCycle
  | beginDevice (index : ℕ) (now : ℤ)
  | completeRead (index : ℕ) (outcome : Outcome)
  | timeOutDevice (index : ℕ)
  | finishCycle
  | abortCycle
  | beginAbandoned (index : ℕ) (now : ℤ)
  | completeAbandoned (index : ℕ) (outcome : Outcome)
  | startRefresh (key : String) (command : Command)
  | completeRefresh (index : ℕ) (outcome : Outcome)
  | setTargets (targets : List DeviceTarget)

namespace World

def deviceTask (world : World) (target : DeviceTarget) : DeviceTask where
  target := target
  prev := deviceOf world.coord.data target.id
  cycle := world.coord.cycle
  capped := decide (1 < world.coord.devices.length)
  phase := .created

def startCycle (world : World) : Option World :=
  match world.cycle with
  | some _ => none
  | none =>
      some { world with
        cycle := some (world.coord.devices.map world.deviceTask) }

def beginDevice (world : World) (index : ℕ) (now : ℤ) : Option World := do
  let tasks ← world.cycle
  let task ← tasks[index]?
  match task.phase with
  | .created =>
      some { world with
        cycle := some (tasks.set index (task.begin world.coord now)) }
  | _ => none

/-- An uncaught exception ends the cycle; the sibling tasks keep running. -/
def completeRead (world : World) (index : ℕ) (outcome : Outcome) :
    Option World := do
  let tasks ← world.cycle
  let task ← tasks[index]?
  match task.complete world.coord outcome with
  | some (.ok (coord, task)) =>
      some { world with coord := coord, cycle := some (tasks.set index task) }
  | some (.error _) =>
      some { world with
        cycle := none
        abandoned := world.abandoned ++ tasks.eraseIdx index }
  | none => none

def beginAbandoned (world : World) (index : ℕ) (now : ℤ) : Option World := do
  let task ← world.abandoned[index]?
  match task.phase with
  | .created =>
      some { world with
        abandoned := world.abandoned.set index (task.begin world.coord now) }
  | _ => none

def completeAbandoned (world : World) (index : ℕ) (outcome : Outcome) :
    Option World := do
  let task ← world.abandoned[index]?
  match task.complete world.coord outcome with
  | some (.ok (coord, task)) =>
      some { world with
        coord := coord
        abandoned := world.abandoned.set index task }
  | some (.error _) =>
      some { world with abandoned := world.abandoned.eraseIdx index }
  | none => none

/-- The per-device bound, only with several devices. -/
def timeOutDevice (world : World) (index : ℕ) : Option World := do
  let tasks ← world.cycle
  let task ← tasks[index]?
  match task.phase with
  | .reading _ _ _ _ =>
      if task.capped then
        some { world with cycle := some (tasks.set index task.timeOut) }
      else none
  | _ => none

def finishCycle (world : World) : Option World := do
  let tasks ← world.cycle
  if tasks.all DeviceTask.isFinished then
    some { world with
      coord := { world.coord with
        data := some (Dict.ofPairs (tasks.filterMap DeviceTask.published?))
        cycle := world.coord.cycle + 1 }
      cycle := none }
  else none

/-- The bound on the whole cycle cancels its tasks. -/
def abortCycle (world : World) : Option World := do
  let _ ← world.cycle
  some { world with cycle := none }

def startRefresh (world : World) (key : String) (command : Command) : World :=
  if world.coord.devices.any fun target => target.id = key then
    { world with refreshes := world.refreshes ++ [⟨key, command⟩] }
  else world

def completeRefresh (world : World) (index : ℕ) (outcome : Outcome) :
    Option World := do
  let refresh ← world.refreshes[index]?
  let left := { world with refreshes := world.refreshes.eraseIdx index }
  match outcome.result with
  | none => some left
  | some result =>
      if result.isEmpty then some left
      else
        match world.coord.acceptResult refresh.key refresh.command result with
        | .error _ => some left
        | .ok (coord, none) => some { left with coord := coord }
        | .ok (coord, some accepted) =>
            some { left with
              coord := coord.publish refresh.key refresh.command.sectionName
                accepted }

def step (world : World) : Event → Option World
  | .startCycle => world.startCycle
  | .beginDevice index now => world.beginDevice index now
  | .completeRead index outcome => world.completeRead index outcome
  | .timeOutDevice index => world.timeOutDevice index
  | .finishCycle => world.finishCycle
  | .abortCycle => world.abortCycle
  | .beginAbandoned index now => world.beginAbandoned index now
  | .completeAbandoned index outcome => world.completeAbandoned index outcome
  | .startRefresh key command => some (world.startRefresh key command)
  | .completeRefresh index outcome => world.completeRefresh index outcome
  | .setTargets targets =>
      some { world with coord := world.coord.setTargets targets }

end World

end Direct
end DessMonitor
