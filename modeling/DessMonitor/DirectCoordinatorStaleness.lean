import DessMonitor.DirectCoordinatorPublished

/-!
# How stale published telemetry can get

Every cycle reads QPIGS, and a section survives a failed read only while the
failure counter is below its limit.  The counter covers the cycles since the
last accepted reading or the last time-out of the device, so a published
section is recent unless one of two paths was taken which do not count: the
time-out of a device republishes its previous data, and a command that was
NAK'd twice is carried forward forever.
-/

namespace DessMonitor
namespace Direct

open LabelledRun

/-! ## The history of readings -/

/-- Accepted readings and time-outs, each with the number of cycles that had
begun. -/
structure Telemetry where
  accepted : List (String × Command × ℕ)
  timedOut : List (String × ℕ)

def Telemetry.empty : Telemetry := ⟨[], []⟩

def World.cyclesBegun (world : World) : ℕ :=
  if world.cycle.isSome then world.coord.cycle + 1 else world.coord.cycle

def Telemetry.observe (world : World) (event : Event)
    (trace : Telemetry) : Telemetry where
  accepted :=
    match world.acceptedBy event with
    | some reading =>
        (reading.key, reading.command, world.cyclesBegun) :: trace.accepted
    | none => trace.accepted
  timedOut :=
    match world.timedOutBy event with
    | some key => (key, world.cyclesBegun) :: trace.timedOut
    | none => trace.timedOut

/-- The device delivered a QPIGS reading, or timed out, when `n` cycles had
begun. -/
def Telemetry.Touched (trace : Telemetry) (key : String) (n : ℕ) : Prop :=
  (key, Command.qpigs, n) ∈ trace.accepted ∨ (key, n) ∈ trace.timedOut

theorem Telemetry.Touched.observe {trace : Telemetry} {key : String} {n : ℕ}
    (htouched : trace.Touched key n) (world : World) (event : Event) :
    (Telemetry.observe world event trace).Touched key n := by
  unfold Telemetry.observe
  rcases htouched with haccepted | htimedOut
  · left
    dsimp only
    split
    · exact List.mem_cons_of_mem _ haccepted
    · exact haccepted
  · right
    dsimp only
    split
    · exact List.mem_cons_of_mem _ htimedOut
    · exact htimedOut

theorem Telemetry.touched_of_accepted {world : World} {event : Event}
    (trace : Telemetry) {key : String} {value : Section}
    (haccepted : world.acceptedBy event = some ⟨key, .qpigs, value⟩) :
    (Telemetry.observe world event trace).Touched key world.cyclesBegun := by
  left
  simp [Telemetry.observe, haccepted]

/-! ## Coverage -/

/-- The failure counter accounts for the cycles since the last touch. -/
def Covered (coord : Coordinator) (trace : Telemetry) (key : String)
    (limit : ℕ) : Prop :=
  ∃ n, trace.Touched key n ∧ limit ≤ n + coord.failures.count key .qpigs

def Recent (trace : Telemetry) (key : String) (limit : ℕ) : Prop :=
  ∃ n, trace.Touched key n ∧ limit < n + maxConsecutiveFailures

theorem Recent.observe {trace : Telemetry} {key : String} {limit : ℕ}
    (hrecent : Recent trace key limit) (world : World) (event : Event) :
    Recent (Telemetry.observe world event trace) key limit := by
  obtain ⟨n, htouched, hlimit⟩ := hrecent
  exact ⟨n, htouched.observe world event, hlimit⟩

/-- The counter of a device only drops when a reading is accepted. -/
def CountKept (key : String) (before after : Coordinator) : Prop :=
  before.failures.count key .qpigs ≤ after.failures.count key .qpigs

theorem Covered.of_count {before after : Coordinator} {trace : Telemetry}
    {key : String} {limit : ℕ} (hcovered : Covered before trace key limit)
    (hkept : CountKept key before after) (world : World) (event : Event) :
    Covered after (Telemetry.observe world event trace) key limit := by
  obtain ⟨n, htouched, hlimit⟩ := hcovered
  refine ⟨n, htouched.observe world event, ?_⟩
  have hcount := hkept
  unfold CountKept at hcount
  omega

theorem covered_of_touched (coord : Coordinator) {trace : Telemetry}
    {key : String} {n limit : ℕ} (htouched : trace.Touched key n)
    (hlimit : limit ≤ n) : Covered coord trace key limit :=
  ⟨n, htouched, by omega⟩

theorem recent_of_touched {trace : Telemetry} {key : String} {n limit : ℕ}
    (htouched : trace.Touched key n) (hlimit : limit ≤ n) :
    Recent trace key limit :=
  ⟨n, htouched, by unfold maxConsecutiveFailures; omega⟩

theorem Noted.countKept {before after : Coordinator}
    (hnoted : Noted before after) (key : String) :
    CountKept key before after := by
  unfold CountKept
  rw [hnoted.failures]

theorem afterAccept_countKept (coord : Coordinator) {key other : String}
    {command : Command} (hne : (key, Command.qpigs) ≠ (other, command)) :
    CountKept key coord (coord.afterAccept other command) := by
  unfold CountKept Coordinator.afterAccept Coordinator.recordSuccess
    FailureTracker.onSuccess
  dsimp only
  rw [FailureTracker.count_setCount_of_ne _ hne]
  exact le_refl _

theorem recordFailure_countKept (coord : Coordinator) (key other : String)
    (command : Command) :
    CountKept key coord (coord.recordFailure other command).1 := by
  by_cases heq : (key, Command.qpigs) = (other, command)
  · obtain ⟨rfl, rfl⟩ := Prod.mk.inj heq
    have hcount := recordFailure_count coord key .qpigs
    unfold CountKept
    omega
  · unfold CountKept Coordinator.recordFailure FailureTracker.onFailure
    dsimp only
    rw [FailureTracker.count_setCount_of_ne _ heq]

theorem Fetched.countKept_or_accepted {coord after : Coordinator}
    {other : String} {command : Command} {attempt : ℕ}
    {prevSection : Section} {outcome : Outcome} {value : Option Section}
    (hfetched : Fetched coord other command attempt prevSection outcome after
      value) (key : String) :
    CountKept key coord after ∨
      (other = key ∧ command = .qpigs ∧
        ∃ reading, coord.accepts other command outcome = some reading) := by
  cases hfetched with
  | @accepted reading haccepts =>
      by_cases heq : (key, Command.qpigs) = (other, command)
      · right
        obtain ⟨rfl, rfl⟩ := Prod.mk.inj heq
        exact ⟨rfl, rfl, reading, haccepts⟩
      · left
        exact afterAccept_countKept coord heq
  | suppressed _ hnoted => exact .inl (hnoted.countKept key)
  | retried _ hnoted => exact .inl (hnoted.countKept key)
  | @failed noted _ hnoted _ =>
      left
      have hbefore := hnoted.countKept key
      have hafter := recordFailure_countKept noted key other command
      unfold CountKept at hbefore hafter ⊢
      omega

/-! ## What a step does to the counter -/

theorem Fetched.unsupported_subset {coord after : Coordinator}
    {key : String} {command : Command} {attempt : ℕ}
    {prevSection : Section} {outcome : Outcome} {value : Option Section}
    (hfetched : Fetched coord key command attempt prevSection outcome after
      value) : coord.unsupported ⊆ after.unsupported := by
  cases hfetched with
  | accepted => exact subset_rfl
  | suppressed _ hnoted => exact hnoted.unsupported
  | retried _ hnoted => exact hnoted.unsupported
  | failed _ hnoted => exact hnoted.unsupported

theorem Stepped.unsupported_subset {world after : World} {event : Event}
    (hstepped : Stepped world event after) :
    world.coord.unsupported ⊆ after.coord.unsupported := by
  cases hstepped with
  | completeRead _ _ hcomplete =>
      obtain ⟨_, _, _, _, _, _, hfetched, _⟩ :=
        DeviceTask.complete_eq_ok hcomplete
      exact hfetched.unsupported_subset
  | completeAbandoned _ hcomplete =>
      obtain ⟨_, _, _, _, _, _, hfetched, _⟩ :=
        DeviceTask.complete_eq_ok hcomplete
      exact hfetched.unsupported_subset
  | refreshDropped _ _ hnoted => exact hnoted.unsupported
  | _ => exact subset_rfl

/-- A step lowers the counter only by accepting a reading of the device. -/
theorem Stepped.countKept_or_accepted {world after : World} {event : Event}
    (hstepped : Stepped world event after) (key : String) :
    CountKept key world.coord after.coord ∨
      ∃ value, world.acceptedBy event = some ⟨key, .qpigs, value⟩ := by
  cases hstepped with
  | @completeRead tasks index task _ _ _ hcycle htask hcomplete =>
      obtain ⟨entry, _, _, _, _, hphase, hfetched, _⟩ :=
        DeviceTask.complete_eq_ok hcomplete
      rcases hfetched.countKept_or_accepted key with
        hkept | ⟨rfl, hcommand, reading, haccepts⟩
      · exact .inl hkept
      · right
        refine ⟨reading, ?_⟩
        rw [hcommand] at haccepts
        simp [World.acceptedBy, DeviceTask.acceptedBy, hcycle, htask, hphase,
          haccepts, hcommand]
  | @completeAbandoned index task _ _ _ htask hcomplete =>
      obtain ⟨entry, _, _, _, _, hphase, hfetched, _⟩ :=
        DeviceTask.complete_eq_ok hcomplete
      rcases hfetched.countKept_or_accepted key with
        hkept | ⟨rfl, hcommand, reading, haccepts⟩
      · exact .inl hkept
      · right
        refine ⟨reading, ?_⟩
        rw [hcommand] at haccepts
        simp [World.acceptedBy, DeviceTask.acceptedBy, htask, hphase,
          haccepts, hcommand]
  | refreshDropped _ _ hnoted => exact .inl (hnoted.countKept key)
  | @refreshPublished index refresh _ value hrefresh haccepts =>
      by_cases heq : (key, Command.qpigs) = (refresh.key, refresh.command)
      · right
        obtain ⟨hkey, hcommand⟩ := Prod.mk.inj heq
        refine ⟨value, ?_⟩
        simp [World.acceptedBy, hrefresh, haccepts, hkey, hcommand]
      · left
        exact afterAccept_countKept world.coord heq
  | _ => exact .inl (le_refl _)

theorem Covered.after_step {world after : World} {event : Event}
    {trace : Telemetry} {key : String} {limit : ℕ}
    (hcovered : Covered world.coord trace key limit)
    (hstepped : Stepped world event after)
    (hlimit : limit ≤ world.cyclesBegun) :
    Covered after.coord (Telemetry.observe world event trace) key limit := by
  rcases hstepped.countKept_or_accepted key with hkept | ⟨value, haccepted⟩
  · exact hcovered.of_count hkept world event
  · exact covered_of_touched _ (trace.touched_of_accepted haccepted) hlimit

/-! ## The invariant -/

def Shows (device : DeviceData) : Prop :=
  (device.getSection .qpigs).isEmpty = false

/-- The schedule loop has not reached QPIGS, or its section is recent. -/
def Timely (coord : Coordinator) (trace : Telemetry) (key : String)
    (todo : List ScheduleEntry) (sections : DeviceData) : Prop :=
  todo ⊆ cmdSchedule ∧
    (.qpigs ∈ todo.map ScheduleEntry.name ∨
      (Shows sections →
        Covered coord trace key (coord.cycle + 1) ∧
          Recent trace key (coord.cycle + 1)))

structure TaskBounded (coord : Coordinator) (trace : Telemetry)
    (key : String) (task : DeviceTask) : Prop where
  prev : Shows task.prev → Covered coord trace key coord.cycle
  phase : task.phase.Holds (Timely coord trace key)

structure Bounded (key : String) (world : World) (trace : Telemetry) :
    Prop where
  maxConsecutive :
    world.coord.failures.maxConsecutive = maxConsecutiveFailures
  data : Shows (deviceOf world.coord.data key) →
    Covered world.coord trace key world.coord.cycle
  tasks : ∀ tasks, world.cycle = some tasks → ∀ task ∈ tasks,
    task.target.id = key → TaskBounded world.coord trace key task

theorem Timely.other {coord : Coordinator} {trace : Telemetry} {key : String}
    {entry : ScheduleEntry} {todo : List ScheduleEntry}
    {sections : DeviceData}
    (htimely : Timely coord trace key (entry :: todo) sections)
    (hname : entry.name ≠ .qpigs) (value : Section) :
    Timely coord trace key todo (sections.setSection entry.name value) := by
  refine ⟨(List.cons_subset.mp htimely.1).2, ?_⟩
  rcases htimely.2 with hmem | hrecent
  · rw [List.map_cons, List.mem_cons] at hmem
    rcases hmem with heq | hmem
    · exact absurd heq.symm hname
    · exact .inl hmem
  · right
    unfold Shows
    rw [DeviceData.getSection_setSection_of_ne _ (Ne.symm hname)]
    exact hrecent

theorem entry_of_qpigs {entry : ScheduleEntry} (hentry : entry ∈ cmdSchedule)
    (hname : entry.name = .qpigs) : entry = ⟨.qpigs, .qpigs, 1⟩ := by
  simp only [cmdSchedule, List.mem_cons, List.not_mem_nil, or_false] at hentry
  rcases hentry with rfl | rfl | rfl | rfl | rfl | rfl <;> simp_all

/-- QPIGS is always due, so it is skipped only when unsupported. -/
theorem Timely.skip {coord : Coordinator} {trace : Telemetry} {key : String}
    {task : DeviceTask} (htarget : task.target.id = key)
    (hsupported : (key, Command.qpigs) ∉ coord.unsupported)
    (entry : ScheduleEntry) (todo : List ScheduleEntry)
    (sections : DeviceData) (value : Section)
    (htimely : Timely coord trace key (entry :: todo) sections)
    (hskips : task.Skips coord entry value) :
    Timely coord trace key todo (sections.setSection entry.name value) := by
  by_cases hname : entry.name = .qpigs
  · have hentry := entry_of_qpigs (htimely.1 List.mem_cons_self) hname
    subst hentry
    rcases hskips with ⟨hdue, _⟩ | ⟨hmem, _⟩
    · exact absurd (Nat.mod_one task.cycle) hdue
    · rw [htarget] at hmem
      exact absurd hmem hsupported
  · exact htimely.other hname value

theorem TaskBounded.begin {coord : Coordinator} {trace : Telemetry}
    {key : String} {task : DeviceTask}
    (hbounded : TaskBounded coord trace key task)
    (htarget : task.target.id = key)
    (hsupported : (key, Command.qpigs) ∉ coord.unsupported) (now : ℤ) :
    TaskBounded coord trace key (task.begin coord now) := by
  refine ⟨hbounded.prev, ?_⟩
  apply task.advance_holds (Timely.skip htarget hsupported)
  exact ⟨List.Subset.refl _, .inl (by decide)⟩

theorem withoutError_nonempty {value : Section}
    (hnonempty : (withoutError value).isEmpty = false) :
    value.isEmpty = false := by
  unfold withoutError at hnonempty
  split at hnonempty
  · cases hnonempty
  · exact hnonempty

/-- A settled QPIGS read surfaces a recent section: the reading just accepted,
or the frozen one while the counter is below its limit. -/
theorem Fetched.timely {coord after : Coordinator} {trace trace' : Telemetry}
    {key : String} {attempt : ℕ} {prevSection value : Section}
    {outcome : Outcome}
    (hfetched : Fetched coord key .qpigs attempt prevSection outcome after
      (some value))
    (hmax : coord.failures.maxConsecutive = maxConsecutiveFailures)
    (hprev : prevSection.isEmpty = false →
      Covered coord trace key coord.cycle)
    (hkeep : ∀ n, trace.Touched key n → trace'.Touched key n)
    (haccepted : ∀ reading,
      coord.accepts key .qpigs outcome = some reading →
        trace'.Touched key (coord.cycle + 1))
    (hsupported : (key, Command.qpigs) ∉ after.unsupported)
    (hnonempty : value.isEmpty = false) :
    Covered after trace' key (coord.cycle + 1) ∧
      Recent trace' key (coord.cycle + 1) := by
  cases hfetched with
  | accepted haccepts =>
      have htouched := haccepted _ haccepts
      exact ⟨covered_of_touched _ htouched (le_refl _),
        recent_of_touched htouched (le_refl _)⟩
  | suppressed _ _ hmem => exact absurd hmem hsupported
  | @failed noted _ hnoted _ =>
      by_cases hbelow : noted.failures.count key .qpigs + 1 <
          noted.failures.maxConsecutive
      · rw [if_pos hbelow] at hnonempty
        obtain ⟨n, htouched, hlimit⟩ :=
          hprev (withoutError_nonempty hnonempty)
        rw [hnoted.failures, hmax] at hbelow
        constructor
        · refine ⟨n, hkeep n htouched, ?_⟩
          rw [recordFailure_count, hnoted.failures]
          omega
        · refine ⟨n, hkeep n htouched, ?_⟩
          omega
      · rw [if_neg hbelow] at hnonempty
        cases hnonempty

theorem Timely.after_step {world after : World} {event : Event}
    {trace : Telemetry} {key : String} {tasks : List DeviceTask}
    (hcycle : world.cycle = some tasks)
    (hstepped : Stepped world event after)
    (hsame : after.coord.cycle = world.coord.cycle)
    (todo : List ScheduleEntry) (sections : DeviceData)
    (htimely : Timely world.coord trace key todo sections) :
    Timely after.coord (Telemetry.observe world event trace) key
      todo sections := by
  have hbegun : world.cyclesBegun = world.coord.cycle + 1 := by
    simp [World.cyclesBegun, hcycle]
  refine ⟨htimely.1, ?_⟩
  rcases htimely.2 with hmem | hrecent
  · exact .inl hmem
  · right
    intro hshows
    obtain ⟨hcovered, hlast⟩ := hrecent hshows
    rw [hsame]
    exact ⟨hcovered.after_step hstepped (by omega),
      hlast.observe world event⟩

/-- Frame rule: a task that an event does not touch stays bounded. -/
theorem TaskBounded.after_step {world after : World} {event : Event}
    {trace : Telemetry} {key : String} {task : DeviceTask}
    {tasks : List DeviceTask}
    (hbounded : TaskBounded world.coord trace key task)
    (hcycle : world.cycle = some tasks)
    (hstepped : Stepped world event after)
    (hsame : after.coord.cycle = world.coord.cycle) :
    TaskBounded after.coord (Telemetry.observe world event trace) key
      task := by
  have hbegun : world.cyclesBegun = world.coord.cycle + 1 := by
    simp [World.cyclesBegun, hcycle]
  constructor
  · intro hshows
    rw [hsame]
    exact (hbounded.prev hshows).after_step hstepped (by omega)
  · exact hbounded.phase.mono (Timely.after_step hcycle hstepped hsame)

theorem TaskBounded.complete {world after : World} {trace : Telemetry}
    {key : String} {tasks : List DeviceTask} {index : ℕ}
    {task resumed : DeviceTask} {outcome : Outcome}
    (hbounded : TaskBounded world.coord trace key task)
    (htarget : task.target.id = key)
    (hmax : world.coord.failures.maxConsecutive = maxConsecutiveFailures)
    (hcycle : world.cycle = some tasks)
    (htask : tasks[index]? = some task)
    (hcomplete : task.complete world.coord outcome =
      some (.ok (after.coord, resumed)))
    (hstepped : Stepped world (.completeRead index outcome) after)
    (hsupported : (key, Command.qpigs) ∉ after.coord.unsupported) :
    TaskBounded after.coord
      (Telemetry.observe world (.completeRead index outcome) trace) key
      resumed := by
  obtain ⟨entry, attempt, todo, sections, value, hphase, hfetched, rfl⟩ :=
    task.complete_eq_ok hcomplete
  have hsame := hfetched.cycle_eq
  have hframe := hbounded.after_step hcycle hstepped hsame
  have htimely : Timely after.coord
      (Telemetry.observe world (.completeRead index outcome) trace) key
      (entry :: todo) sections := by
    have hholds := hframe.phase
    rwa [hphase] at hholds
  constructor
  · cases value <;> exact hframe.prev
  · apply task.resume_holds (Timely.skip htarget hsupported) htimely
    intro section' hvalue
    subst hvalue
    by_cases hname : entry.name = .qpigs
    · have hentry := entry_of_qpigs (htimely.1 List.mem_cons_self) hname
      subst hentry
      refine ⟨(List.cons_subset.mp htimely.1).2, .inr ?_⟩
      intro hshows
      rw [Shows, DeviceData.getSection_setSection_self] at hshows
      rw [hsame]
      rw [htarget] at hfetched
      refine hfetched.timely hmax hbounded.prev
        (fun n htouched => htouched.observe world _) ?_ hsupported hshows
      intro reading haccepts
      have hbegun : world.cyclesBegun = world.coord.cycle + 1 := by
        simp [World.cyclesBegun, hcycle]
      have haccepted : world.acceptedBy (.completeRead index outcome) =
          some ⟨key, .qpigs, reading⟩ := by
        simp [World.acceptedBy, DeviceTask.acceptedBy, hcycle, htask, hphase,
          htarget, haccepts]
      rw [← hbegun]
      exact trace.touched_of_accepted haccepted
    · exact htimely.other hname section'

/-- A time-out counts as a touch of the device. -/
theorem TaskBounded.timeOut {world after : World} {trace : Telemetry}
    {key : String} {tasks : List DeviceTask} {index : ℕ} {task : DeviceTask}
    (hbounded : TaskBounded world.coord trace key task)
    (htarget : task.target.id = key)
    (hcycle : world.cycle = some tasks)
    (htask : tasks[index]? = some task)
    (hstepped : Stepped world (.timeOutDevice index) after)
    (hsame : after.coord.cycle = world.coord.cycle) :
    TaskBounded after.coord
      (Telemetry.observe world (.timeOutDevice index) trace) key
      task.timeOut := by
  refine ⟨(hbounded.after_step hcycle hstepped hsame).prev, by simp, ?_⟩
  right
  intro _
  have htouched : (Telemetry.observe world (.timeOutDevice index)
      trace).Touched key (world.coord.cycle + 1) := by
    right
    simp [Telemetry.observe, World.timedOutBy, World.cyclesBegun, hcycle,
      htask, htarget]
  rw [hsame]
  exact ⟨covered_of_touched _ htouched (le_refl _),
    recent_of_touched htouched (le_refl _)⟩

theorem TaskBounded.published {coord : Coordinator} {trace : Telemetry}
    {key : String} {task : DeviceTask} {device : DeviceData}
    (hbounded : TaskBounded coord trace key task)
    (hpublished : task.published? = some (key, device))
    (hshows : Shows device) :
    Covered coord trace key (coord.cycle + 1) ∧
      Recent trace key (coord.cycle + 1) := by
  unfold DeviceTask.published? at hpublished
  split at hpublished
  next published hphase =>
    obtain ⟨_, rfl⟩ := Prod.mk.inj (Option.some.inj hpublished)
    have hholds := hbounded.phase
    rw [hphase] at hholds
    rcases hholds.2 with hmem | hrecent
    · cases hmem
    · exact hrecent hshows
  next => cases hpublished

/-- The map a finished cycle publishes shows only recent QPIGS sections. -/
theorem finished_recent {coord : Coordinator} {trace : Telemetry}
    {key : String} {tasks : List DeviceTask}
    (hbounded : ∀ task ∈ tasks, task.target.id = key →
      TaskBounded coord trace key task)
    (hshows : Shows (deviceOf
      (some (Dict.ofPairs (tasks.filterMap DeviceTask.published?))) key)) :
    Covered coord trace key (coord.cycle + 1) ∧
      Recent trace key (coord.cycle + 1) := by
  unfold deviceOf at hshows
  rw [Option.getD_some] at hshows
  cases hget : (Dict.ofPairs
      (tasks.filterMap DeviceTask.published?)).get? key with
  | none =>
      rw [hget] at hshows
      cases hshows
  | some device =>
      rw [hget, Option.getD_some] at hshows
      obtain ⟨task, htask, hpublished⟩ :=
        List.mem_filterMap.mp (Dict.mem_of_get?_ofPairs hget)
      have htarget := target_of_published hpublished
      exact (hbounded task htask htarget).published hpublished hshows

/-- Frame rule: what is published stays covered unless it is replaced. -/
theorem Bounded.data_after_step {key : String} {world after : World}
    {event : Event} {trace : Telemetry} (hbounded : Bounded key world trace)
    (hstepped : Stepped world event after)
    (hdata : (deviceOf after.coord.data key).getSection .qpigs =
      (deviceOf world.coord.data key).getSection .qpigs)
    (hsame : after.coord.cycle = world.coord.cycle)
    (hshows : Shows (deviceOf after.coord.data key)) :
    Covered after.coord (Telemetry.observe world event trace) key
      after.coord.cycle := by
  have hbegun : world.coord.cycle ≤ world.cyclesBegun := by
    unfold World.cyclesBegun
    split <;> omega
  unfold Shows at hshows
  rw [hdata] at hshows
  rw [hsame]
  exact (hbounded.data hshows).after_step hstepped hbegun

theorem Bounded.tasks_after_step {key : String} {world after : World}
    {event : Event} {trace : Telemetry} (hbounded : Bounded key world trace)
    (hstepped : Stepped world event after)
    (htasks : after.cycle = world.cycle)
    (hsame : after.coord.cycle = world.coord.cycle) :
    ∀ tasks, after.cycle = some tasks → ∀ task ∈ tasks,
      task.target.id = key →
        TaskBounded after.coord (Telemetry.observe world event trace) key
          task := by
  intro tasks hcycle task hmem htarget
  rw [htasks] at hcycle
  exact (hbounded.tasks tasks hcycle task hmem htarget).after_step hcycle
    hstepped hsame

theorem Bounded.after_step {key : String} {world after : World}
    {event : Event} {trace : Telemetry} (hbounded : Bounded key world trace)
    (hstep : world.step event = some after)
    (hsupported : (key, Command.qpigs) ∉ after.coord.unsupported) :
    Bounded key after (Telemetry.observe world event trace) := by
  have hstepped := stepped_of_step hstep
  have hmax : after.coord.failures.maxConsecutive = maxConsecutiveFailures :=
    hstepped.maxConsecutive.trans hbounded.maxConsecutive
  cases hcase : hstepped with
  | startCycle hidle =>
      refine ⟨hmax, hbounded.data_after_step hstepped rfl rfl, ?_⟩
      intro tasks htasks task hmem htarget
      obtain rfl := Option.some.inj htasks
      obtain ⟨target, _, rfl⟩ := List.mem_map.mp hmem
      refine ⟨?_, trivial⟩
      intro hshows
      rw [← htarget] at hbounded ⊢
      exact hbounded.data_after_step hstepped rfl rfl hshows
  | beginDevice hcycle htask hphase =>
      refine ⟨hmax, hbounded.data_after_step hstepped rfl rfl, ?_⟩
      intro tasks htasks task hmem htarget
      obtain rfl := Option.some.inj htasks
      rcases List.mem_or_eq_of_mem_set hmem with hold | rfl
      · exact (hbounded.tasks _ hcycle task hold htarget).after_step hcycle
          hstepped rfl
      · have hmemOld := List.mem_of_getElem? htask
        have hframe := (hbounded.tasks _ hcycle _ hmemOld htarget).after_step
          hcycle hstepped rfl
        exact hframe.begin htarget hsupported _
  | completeRead hcycle htask hcomplete =>
      obtain ⟨_, _, _, _, _, _, hfetched, _⟩ :=
        DeviceTask.complete_eq_ok hcomplete
      have hdata := DeviceTask.complete_data_eq hcomplete
      refine ⟨hmax, hbounded.data_after_step hstepped (by rw [hdata])
        hfetched.cycle_eq, ?_⟩
      intro tasks htasks task hmem htarget
      obtain rfl := Option.some.inj htasks
      rcases List.mem_or_eq_of_mem_set hmem with hold | rfl
      · exact (hbounded.tasks _ hcycle task hold htarget).after_step hcycle
          hstepped hfetched.cycle_eq
      · have hmemOld := List.mem_of_getElem? htask
        have hsameTarget := DeviceTask.complete_target_eq hcomplete
        rw [hsameTarget] at htarget
        exact (hbounded.tasks _ hcycle _ hmemOld htarget).complete htarget
          hbounded.maxConsecutive hcycle htask hcomplete hstepped hsupported
  | cycleRaised hcycle htask hcomplete =>
      refine ⟨hmax, hbounded.data_after_step hstepped rfl rfl, ?_⟩
      intro tasks htasks
      cases htasks
  | timeOutDevice hcycle htask hcapped hphase hunfinished =>
      refine ⟨hmax, hbounded.data_after_step hstepped rfl rfl, ?_⟩
      intro tasks htasks task hmem htarget
      obtain rfl := Option.some.inj htasks
      rcases List.mem_or_eq_of_mem_set hmem with hold | rfl
      · exact (hbounded.tasks _ hcycle task hold htarget).after_step hcycle
          hstepped rfl
      · have hmemOld := List.mem_of_getElem? htask
        exact (hbounded.tasks _ hcycle _ hmemOld htarget).timeOut htarget
          hcycle htask hstepped rfl
  | @finishCycle tasks hcycle hfinished =>
      refine ⟨hmax, ?_, ?_⟩
      · intro hshows
        have htasks := hbounded.tasks tasks hcycle
        obtain ⟨n, htouched, hlimit⟩ := (finished_recent htasks hshows).1
        exact ⟨n, htouched.observe world _, hlimit⟩
      · intro tasks htasks
        cases htasks
  | abortCycle hcycle =>
      refine ⟨hmax, hbounded.data_after_step hstepped rfl rfl, ?_⟩
      intro tasks htasks
      cases htasks
  | completeAbandoned htask hcomplete =>
      obtain ⟨_, _, _, _, _, _, hfetched, _⟩ :=
        DeviceTask.complete_eq_ok hcomplete
      have hdata := DeviceTask.complete_data_eq hcomplete
      exact ⟨hmax, hbounded.data_after_step hstepped (by rw [hdata])
        hfetched.cycle_eq,
        hbounded.tasks_after_step hstepped rfl hfetched.cycle_eq⟩
  | refreshDropped hrefresh haccepts hnoted =>
      exact ⟨hmax, hbounded.data_after_step hstepped (by rw [hnoted.data])
        hnoted.cycle, hbounded.tasks_after_step hstepped rfl hnoted.cycle⟩
  | @refreshPublished index refresh outcome value hrefresh haccepts =>
      refine ⟨hmax, ?_, hbounded.tasks_after_step hstepped rfl rfl⟩
      by_cases heq : (key, SectionName.qpigs) =
          (refresh.key, refresh.command.sectionName)
      · intro _
        obtain ⟨hkey, hname⟩ := Prod.mk.inj heq
        have hcommand : refresh.command = .qpigs :=
          Command.sectionName_injective hname.symm
        have haccepted : world.acceptedBy (.completeRefresh index outcome) =
            some ⟨key, .qpigs, value⟩ := by
          rw [hcommand] at haccepts
          simp [World.acceptedBy, hrefresh, haccepts, hkey, hcommand]
        apply covered_of_touched _ (trace.touched_of_accepted haccepted)
        unfold World.cyclesBegun
        split
        · exact Nat.le_succ _
        · exact le_refl _
      · apply hbounded.data_after_step hstepped _ rfl
        exact deviceOf_publish_of_ne (world.coord.afterAccept _ _) heq value
  | _ =>
      exact ⟨hmax, hbounded.data_after_step hstepped rfl rfl,
        hbounded.tasks_after_step hstepped rfl rfl⟩

/-! ## Bounded staleness -/

abbrev World.trackedStep : World × Telemetry → Event → World × Telemetry → Prop :=
  tracked (graph World.step) Telemetry.observe

theorem Bounded.initial (key : String) (devices : List DeviceTarget) :
    Bounded key (World.initial devices) .empty := by
  refine ⟨rfl, ?_, ?_⟩
  · intro hshows
    cases hshows
  · intro tasks htasks
    cases htasks

def BoundedWhileSupported (key : String) (state : World × Telemetry) : Prop :=
  (key, Command.qpigs) ∉ state.1.coord.unsupported →
    Bounded key state.1 state.2

theorem BoundedWhileSupported.after_step {key : String}
    (before : World × Telemetry) (event : Event) (after : World × Telemetry)
    (hbounded : BoundedWhileSupported key before)
    (hstep : World.trackedStep before event after) :
    BoundedWhileSupported key after := by
  intro hsupported
  obtain ⟨hnext, htrace⟩ := hstep
  have hsubset := (stepped_of_step hnext).unsupported_subset
  have hbefore := hbounded fun hmem => hsupported (hsubset hmem)
  rw [htrace]
  exact hbefore.after_step hnext hsupported

theorem bounded_of_run {devices : List DeviceTarget} {events : List Event}
    {final : World × Telemetry}
    (hrun : Run World.trackedStep (World.initial devices, .empty) events final)
    (key : String) : BoundedWhileSupported key final := by
  apply hrun.invariant (BoundedWhileSupported key) _
    BoundedWhileSupported.after_step
  intro _
  exact Bounded.initial key devices

/-- A cycle publishes a non-empty QPIGS section only if a QPIGS reading of the
device was accepted within the last six cycles, provided the device did not
time out within them and the command is not marked unsupported. -/
theorem telemetry_recent_of_run {devices : List DeviceTarget}
    {events : List Event} {final : World} {trace : Telemetry}
    (hrun : Run World.trackedStep (World.initial devices, .empty)
      (events ++ [.finishCycle]) (final, trace))
    {key : String}
    (hsupported : (key, Command.qpigs) ∉ final.coord.unsupported)
    (htimedOut : ∀ n, (key, n) ∈ trace.timedOut →
      n + maxConsecutiveFailures ≤ final.coord.cycle)
    (hnonempty : ((deviceOf final.coord.data key).getSection
      .qpigs).isEmpty = false) :
    ∃ n, (key, .qpigs, n) ∈ trace.accepted ∧
      final.coord.cycle < n + maxConsecutiveFailures := by
  obtain ⟨⟨world, before⟩, hprefix, hnext, htrace⟩ := hrun.last
  have hsame : trace = before := htrace
  subst hsame
  cases stepped_of_step hnext with
  | @finishCycle tasks hcycle hfinished =>
      have hbounded := bounded_of_run hprefix key hsupported
      have htasks := hbounded.tasks tasks hcycle
      obtain ⟨n, htouched, hlimit⟩ := (finished_recent htasks hnonempty).2
      rcases htouched with haccepted | htimed
      · exact ⟨n, haccepted, hlimit⟩
      · exact absurd hlimit (not_lt.mpr (htimedOut n htimed))

def pollCycle (replies : List Outcome) : List Event :=
  [.startCycle, .beginDevice 0 0] ++ replies.map (.completeRead 0) ++
    [.finishCycle]

def nakReply : Outcome :=
  .returned (some (.ofPairs [("status", .str "NAK")]))

/-- A first cycle in which only QPIGS is supported. -/
def qpigsOnlyCycle : List Event :=
  pollCycle (.returned (some batteryReading) :: .replicate 10 nakReply)

def replay (events : List Event) : Option (World × Telemetry) :=
  execute (trackedNext World.step Telemetry.observe)
    (World.initial [inverterTarget], .empty) events

def frozenCycles : List Event :=
  qpigsOnlyCycle ++
    (List.replicate 4 (pollCycle [.raised, .raised])).flatten ++
    [.startCycle, .beginDevice 0 0, .completeRead 0 .raised,
      .completeRead 0 .raised]

/-- Five failed cycles after the accepted reading are still covered. -/
theorem telemetry_recent_of_frozen_cycles :
    let final := (replay (frozenCycles ++ [.finishCycle])).get
      (by decide +kernel)
    ∃ n, (inverterTarget.id, .qpigs, n) ∈ final.2.accepted ∧
      final.1.coord.cycle < n + maxConsecutiveFailures := by
  intro final
  have hrun : Run World.trackedStep (World.initial [inverterTarget], .empty)
      (frozenCycles ++ [.finishCycle]) (final.1, final.2) :=
    tracked_run_of_execute (Option.some_get _).symm
  have htimedOut : final.2.timedOut = [] := by decide +kernel
  apply telemetry_recent_of_run hrun
  · decide +kernel
  · intro n hmem
    rw [htimedOut] at hmem
    cases hmem
  · decide +kernel

/-! ## Staleness without a bound -/

def BoundedStaleness : Prop :=
  ∀ (devices : List DeviceTarget) (events : List Event) (final : World)
    (trace : Telemetry) (key : String),
    Run World.trackedStep (World.initial devices, .empty)
      (events ++ [.finishCycle]) (final, trace) →
    ((deviceOf final.coord.data key).getSection .qpigs).isEmpty = false →
    ∃ n, (key, .qpigs, n) ∈ trace.accepted ∧
      final.coord.cycle < n + maxConsecutiveFailures

/-- One good cycle, one cycle with two NAKs, and five cycles that no longer
read anything. -/
def suppressedCycles : List Event :=
  qpigsOnlyCycle ++ pollCycle [nakReply, nakReply] ++
    (List.replicate 4 (pollCycle [])).flatten ++
    [.startCycle, .beginDevice 0 0]

theorem not_boundedStaleness_suppressed : ¬BoundedStaleness := by
  intro hbounded
  let final := (replay (suppressedCycles ++ [.finishCycle])).get
    (by decide +kernel)
  have hrun : Run World.trackedStep (World.initial [inverterTarget], .empty)
      (suppressedCycles ++ [.finishCycle]) (final.1, final.2) :=
    tracked_run_of_execute (Option.some_get _).symm
  have hnonempty : ((deviceOf final.1.coord.data
      inverterTarget.id).getSection .qpigs).isEmpty = false := by
    decide +kernel
  obtain ⟨n, haccepted, hrecent⟩ :=
    hbounded _ _ _ _ inverterTarget.id hrun hnonempty
  have honly : final.2.accepted = [(inverterTarget.id, .qpigs, 1)] := by
    decide +kernel
  have hcycle : final.1.coord.cycle = 7 := by decide +kernel
  rw [honly, List.mem_singleton] at haccepted
  have hn : n = 1 := (Prod.mk.inj (Prod.mk.inj haccepted).2).2
  rw [hcycle, hn] at hrecent
  exact absurd hrecent (by decide)

end Direct
end DessMonitor
