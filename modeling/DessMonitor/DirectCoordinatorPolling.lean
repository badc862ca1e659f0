import DessMonitor.DirectCoordinatorStaleness
import DessMonitor.Foundation.ListUpdate

/-!
# What a cycle reads

Every command has a cadence, and a device task sends a command only in the
cycles that its cadence divides.  A command that is due is sent once, and once
more when the first reply was of no use, unless the device has refused it
before.  The bus time of a cycle is bounded by this, and nothing that is due
is left out.
-/

namespace DessMonitor
namespace Direct

open LabelledRun ListUpdate

/-! ## Reading a schedule -/

/-- The reads of a schedule up to some entry: none, one or two for each. -/
inductive Polls (due suppressed : ScheduleEntry → Prop) :
    List ScheduleEntry → List Command → Prop where
  | start : Polls due suppressed [] []
  | skip {done : List ScheduleEntry} {reads : List Command}
      {entry : ScheduleEntry} (hpolls : Polls due suppressed done reads)
      (hskip : due entry → suppressed entry) :
      Polls due suppressed (done ++ [entry]) reads
  | read {done : List ScheduleEntry} {reads : List Command}
      {entry : ScheduleEntry} {attempts : ℕ}
      (hpolls : Polls due suppressed done reads) (hdue : due entry)
      (hattempts : 1 ≤ attempts ∧ attempts ≤ 2) :
      Polls due suppressed (done ++ [entry])
        (reads ++ .replicate attempts entry.command)

section Polls

variable {due suppressed later : ScheduleEntry → Prop}
  {done : List ScheduleEntry} {reads : List Command}

theorem Polls.mono (hpolls : Polls due suppressed done reads)
    (hlater : ∀ entry, suppressed entry → later entry) :
    Polls due later done reads := by
  induction hpolls with
  | start => exact .start
  | skip _ hskip ih =>
      exact .skip ih fun hdue => hlater _ (hskip hdue)
  | read _ hdue hattempts ih => exact .read ih hdue hattempts

def twice (entries : List ScheduleEntry) : List Command :=
  entries.flatMap fun entry => [entry.command, entry.command]

theorem twice_append (entries more : List ScheduleEntry) :
    twice (entries ++ more) = twice entries ++ twice more := by
  simp [twice]

theorem Polls.sublist (hpolls : Polls due suppressed done reads) :
    reads.Sublist (twice done) := by
  induction hpolls with
  | start => simp [twice]
  | skip _ _ ih =>
      rw [twice_append]
      exact ih.trans (List.sublist_append_left _ _)
  | @read _ _ entry attempts _ _ hattempts ih =>
      have hboth : List.Sublist (.replicate attempts entry.command)
          (List.replicate 2 entry.command) :=
        (List.replicate_sublist_replicate _).mpr hattempts.2
      rw [twice_append]
      exact ih.append (by simpa [twice] using hboth)

theorem Polls.due_of_mem (hpolls : Polls due suppressed done reads)
    {command : Command} (hmem : command ∈ reads) :
    ∃ entry ∈ done, entry.command = command ∧ due entry := by
  induction hpolls with
  | start => simp at hmem
  | skip _ _ ih =>
      obtain ⟨entry, hentry, hrest⟩ := ih hmem
      exact ⟨entry, List.mem_append_left _ hentry, hrest⟩
  | @read _ _ last _ _ hdue _ ih =>
      rcases List.mem_append.mp hmem with hold | hnew
      · obtain ⟨entry, hentry, hrest⟩ := ih hold
        exact ⟨entry, List.mem_append_left _ hentry, hrest⟩
      · exact ⟨last, by simp, (List.eq_of_mem_replicate hnew).symm, hdue⟩

theorem Polls.mem_of_due (hpolls : Polls due suppressed done reads)
    {entry : ScheduleEntry} (hentry : entry ∈ done) (hdue : due entry)
    (hsupported : ¬ suppressed entry) : entry.command ∈ reads := by
  induction hpolls with
  | start => simp at hentry
  | skip _ hskip ih =>
      rcases List.mem_append.mp hentry with hold | hlast
      · exact ih hold
      · rw [List.mem_singleton] at hlast
        subst hlast
        exact absurd (hskip hdue) hsupported
  | read _ _ hattempts ih =>
      rcases List.mem_append.mp hentry with hold | hlast
      · exact List.mem_append_left _ (ih hold)
      · rw [List.mem_singleton] at hlast
        subst hlast
        apply List.mem_append_right
        rw [List.mem_replicate]
        exact ⟨by omega, rfl⟩

end Polls

/-! ## Reading by a task -/

def DeviceTask.Due (task : DeviceTask) (entry : ScheduleEntry) : Prop :=
  task.cycle % entry.cadence = 0

def DeviceTask.Suppressed (task : DeviceTask) (coord : Coordinator)
    (entry : ScheduleEntry) : Prop :=
  (task.target.id, entry.command) ∈ coord.unsupported

/-- How far the reads of a task have come in the schedule. -/
def DeviceTask.Polled (task : DeviceTask) (coord : Coordinator)
    (reads : List Command) (timedOut : Bool) : TaskPhase → Prop
  | .created => reads = []
  | .reading entry attempt todo _ =>
      task.Due entry ∧ attempt ≤ 1 ∧ ∃ done earlier,
        cmdSchedule = done ++ entry :: todo ∧
          Polls task.Due (task.Suppressed coord) done earlier ∧
          reads = earlier ++ .replicate attempt entry.command
  | .finished _ =>
      ∃ done rest, cmdSchedule = done ++ rest ∧
        (timedOut = false → rest = []) ∧
        Polls task.Due (task.Suppressed coord) done reads

section Tasks

variable {task resumed : DeviceTask} {coord after : Coordinator}
  {reads : List Command} {timedOut : Bool}

theorem DeviceTask.Polled.mono {phase : TaskPhase}
    (hpolled : task.Polled coord reads timedOut phase)
    (hunsupported : coord.unsupported ⊆ after.unsupported) :
    task.Polled after reads timedOut phase := by
  have hlater : ∀ entry, task.Suppressed coord entry →
      task.Suppressed after entry := fun _ hmem => hunsupported hmem
  cases phase with
  | created => exact hpolled
  | reading entry attempt todo sections =>
      obtain ⟨hdue, hattempt, done, earlier, hschedule, hpolls, hreads⟩ :=
        hpolled
      exact ⟨hdue, hattempt, done, earlier, hschedule, hpolls.mono hlater,
        hreads⟩
  | finished published =>
      obtain ⟨done, rest, hschedule, hrest, hpolls⟩ := hpolled
      exact ⟨done, rest, hschedule, hrest, hpolls.mono hlater⟩

theorem DeviceTask.advance_polled {done todo : List ScheduleEntry}
    {sections : DeviceData} (hschedule : cmdSchedule = done ++ todo)
    (hpolls : Polls task.Due (task.Suppressed coord) done reads) :
    task.Polled coord reads timedOut (task.advance coord todo sections) := by
  induction todo generalizing done sections with
  | nil => exact ⟨done, [], hschedule, fun _ => rfl, hpolls⟩
  | cons entry todo ih =>
      have hshifted : cmdSchedule = (done ++ [entry]) ++ todo := by
        simpa using hschedule
      unfold DeviceTask.advance
      by_cases hdue : task.cycle % entry.cadence = 0
      · simp only [if_pos hdue]
        by_cases hunsupported :
            coord.isUnsupported task.target.id entry.command = true
        · rw [if_pos hunsupported]
          apply ih hshifted
          apply hpolls.skip
          intro _
          simpa [Coordinator.isUnsupported, DeviceTask.Suppressed] using
            hunsupported
        · rw [if_neg hunsupported]
          exact ⟨hdue, by simp, done, reads, hschedule, hpolls, by simp⟩
      · simp only [if_neg hdue]
        exact ih hshifted (hpolls.skip fun hwanted => absurd hwanted hdue)

theorem DeviceTask.begin_polled (task : DeviceTask) (coord : Coordinator)
    (now : ℤ) (timedOut : Bool) :
    task.Polled coord [] timedOut (task.begin coord now).phase :=
  task.advance_polled (by simp) .start

theorem DeviceTask.complete_polled {outcome : Outcome}
    {entry : ScheduleEntry} {attempt : ℕ} {todo : List ScheduleEntry}
    {sections : DeviceData}
    (hpolled : task.Polled coord reads timedOut task.phase)
    (hcomplete : task.complete coord outcome = some (.ok (after, resumed)))
    (hphase : task.phase = .reading entry attempt todo sections) :
    task.Polled after (reads ++ [entry.command]) timedOut resumed.phase := by
  obtain ⟨_, _, _, _, value, hreading, hfetched, rfl⟩ :=
    task.complete_eq_ok hcomplete
  rw [hphase] at hreading hpolled
  cases hreading
  obtain ⟨hdue, hattempt, done, earlier, hschedule, hpolls, rfl⟩ := hpolled
  have hpolled : Polls task.Due (task.Suppressed after) done earlier :=
    hpolls.mono fun _ hmem => hfetched.unsupported_subset hmem
  rw [List.append_assoc, ← List.replicate_succ']
  cases value with
  | none =>
      have hfirst : attempt = 0 := by
        cases hfetched with
        | retried _ _ hattempt => exact hattempt
      subst hfirst
      exact ⟨hdue, le_refl _, done, earlier, hschedule, hpolled, rfl⟩
  | some section' =>
      have hshifted : cmdSchedule = (done ++ [entry]) ++ todo := by
        simpa using hschedule
      exact task.advance_polled hshifted
        (hpolled.read hdue ⟨by omega, by omega⟩)

/-- The part of the schedule that is done, whatever the task waits for. -/
theorem DeviceTask.Polled.split {phase : TaskPhase}
    (hpolled : task.Polled coord reads timedOut phase) :
    ∃ done rest, cmdSchedule = done ++ rest ∧
      Polls task.Due (task.Suppressed coord) done reads ∧
      ∀ published, phase = .finished published → timedOut = false →
        rest = [] := by
  cases phase with
  | created => exact ⟨[], cmdSchedule, rfl, hpolled ▸ .start, by simp⟩
  | reading entry attempt todo sections =>
      obtain ⟨hdue, hattempt, done, earlier, hschedule, hpolls, rfl⟩ :=
        hpolled
      rcases Nat.eq_zero_or_pos attempt with rfl | hpos
      · exact ⟨done, entry :: todo, hschedule, by simpa using hpolls, by simp⟩
      · exact ⟨done ++ [entry], todo, by simpa using hschedule,
          hpolls.read hdue ⟨hpos, by omega⟩, by simp⟩
  | finished published =>
      obtain ⟨done, rest, hschedule, hrest, hpolls⟩ := hpolled
      exact ⟨done, rest, hschedule, hpolls, fun _ _ => hrest⟩

theorem DeviceTask.timeOut_polled
    (hpolled : task.Polled coord reads timedOut task.phase) :
    task.Polled coord reads true task.timeOut.phase := by
  obtain ⟨done, rest, hschedule, hpolls, -⟩ := hpolled.split
  exact ⟨done, rest, hschedule, by simp, hpolls⟩

end Tasks

/-! ## Reading by a cycle -/

/-- What the tasks of the running cycle have read, and which timed out. -/
structure PollLog where
  reads : ℕ → List Command
  timedOut : ℕ → Bool

namespace PollLog

def empty : PollLog := ⟨fun _ => [], fun _ => false⟩

def observe (world : World) (event : Event) (log : PollLog) : PollLog :=
  match event with
  | .startCycle => .empty
  | .completeRead index _ =>
      match ((world.cycle.getD [])[index]?).map DeviceTask.phase with
      | some (.reading entry _ _ _) =>
          { log with
            reads := Function.update log.reads index
              (log.reads index ++ [entry.command]) }
      | _ => log
  | .timeOutDevice index =>
      { log with timedOut := Function.update log.timedOut index true }
  | _ => log

end PollLog

structure TaskPolled (coord : Coordinator) (reads : List Command)
    (timedOut : Bool) (task : DeviceTask) : Prop where
  cycle : task.cycle = coord.cycle
  polled : task.Polled coord reads timedOut task.phase

def Polled (world : World) (log : PollLog) : Prop :=
  ∀ tasks, world.cycle = some tasks →
    ∀ (index : ℕ) (task : DeviceTask), tasks[index]? = some task →
      TaskPolled world.coord (log.reads index) (log.timedOut index) task

section Steps

variable {world after : World} {event : Event} {log : PollLog}

theorem TaskPolled.mono {coord later : Coordinator} {reads : List Command}
    {timedOut : Bool} {task : DeviceTask}
    (hpolled : TaskPolled coord reads timedOut task)
    (hcycle : later.cycle = coord.cycle)
    (hunsupported : coord.unsupported ⊆ later.unsupported) :
    TaskPolled later reads timedOut task :=
  ⟨hpolled.cycle.trans hcycle.symm, hpolled.polled.mono hunsupported⟩

/-- A step that leaves the tasks and the log alone. -/
theorem Polled.frame (hpolled : Polled world log)
    (htasks : ∀ tasks, after.cycle = some tasks → world.cycle = some tasks)
    (hcycle : after.coord.cycle = world.coord.cycle)
    (hunsupported : world.coord.unsupported ⊆ after.coord.unsupported) :
    Polled after log := by
  intro tasks hsome index task htask
  exact (hpolled tasks (htasks tasks hsome) index task htask).mono hcycle
    hunsupported

/-- A step that replaces one task and its part of the log. -/
theorem Polled.replace {tasks : List DeviceTask} {index : ℕ}
    {replacement : DeviceTask} {later : PollLog}
    (hpolled : Polled world log) (htasks : world.cycle = some tasks)
    (hafter : after.cycle = some (tasks.set index replacement))
    (hcycle : after.coord.cycle = world.coord.cycle)
    (hunsupported : world.coord.unsupported ⊆ after.coord.unsupported)
    (hreplaced : TaskPolled after.coord (later.reads index)
      (later.timedOut index) replacement)
    (hothers : ∀ other, other ≠ index →
      later.reads other = log.reads other ∧
        later.timedOut other = log.timedOut other) :
    Polled after later := by
  intro found hfound other task htask
  rw [hafter] at hfound
  cases hfound
  rcases getElem?_set_cases htask with ⟨rfl, rfl⟩ | ⟨hne, hkept⟩
  · exact hreplaced
  · obtain ⟨hreads, htimedOut⟩ := hothers other hne
    rw [hreads, htimedOut]
    exact (hpolled tasks htasks other task hkept).mono hcycle hunsupported

theorem Polled.after_step (hpolled : Polled world log)
    (hstepped : Stepped world event after) :
    Polled after (log.observe world event) := by
  have hunsupported := hstepped.unsupported_subset
  cases hstepped with
  | startCycle hidle =>
      rintro tasks ⟨⟩ index task htask
      obtain ⟨target, -, rfl⟩ := List.mem_map.mp (List.mem_of_getElem? htask)
      exact ⟨rfl, rfl⟩
  | @beginDevice tasks index task now hcycle htask hphase =>
      have hbefore := hpolled tasks hcycle index task htask
      have hnothing : log.reads index = [] := by
        simpa [hphase, DeviceTask.Polled] using hbefore.polled
      have hbegun : TaskPolled world.coord (log.reads index)
          (log.timedOut index) (task.begin world.coord now) := by
        constructor
        · exact hbefore.cycle
        · rw [hnothing]
          exact task.begin_polled world.coord now (log.timedOut index)
      exact hpolled.replace hcycle rfl rfl hunsupported hbegun
        fun _ _ => ⟨rfl, rfl⟩
  | @completeRead tasks index task resumed coord outcome hcycle htask
      hcomplete =>
      have hbefore := hpolled tasks hcycle index task htask
      obtain ⟨entry, attempt, todo, sections, value, hphase, hfetched,
        hresumed⟩ := task.complete_eq_ok hcomplete
      have hlog : log.observe world (.completeRead index outcome) =
          { log with
            reads := Function.update log.reads index
              (log.reads index ++ [entry.command]) } := by
        simp [PollLog.observe, hcycle, htask, hphase]
      have hafter := task.complete_polled hbefore.polled hcomplete hphase
      have hreplaced : TaskPolled coord (log.reads index ++ [entry.command])
          (log.timedOut index) resumed := by
        subst hresumed
        have hnumber := hbefore.cycle.trans hfetched.cycle_eq.symm
        cases value with
        | none => exact ⟨hnumber, hafter⟩
        | some => exact ⟨hnumber, hafter⟩
      rw [hlog]
      refine hpolled.replace hcycle rfl hfetched.cycle_eq hunsupported
        (by simpa using hreplaced) ?_
      intro other hne
      simp [Function.update_of_ne hne]
  | @timeOutDevice tasks index task hcycle htask =>
      have hbefore := hpolled tasks hcycle index task htask
      have htimedOut : TaskPolled world.coord (log.reads index) true
          task.timeOut :=
        ⟨hbefore.cycle, task.timeOut_polled hbefore.polled⟩
      refine hpolled.replace hcycle rfl rfl hunsupported
        (by simpa [PollLog.observe] using htimedOut) ?_
      intro other hne
      simp [PollLog.observe, Function.update_of_ne hne]
  | completeAbandoned htask hcomplete =>
      obtain ⟨_, _, _, _, _, _, hfetched, _⟩ :=
        DeviceTask.complete_eq_ok hcomplete
      exact hpolled.frame (fun _ hsome => hsome) hfetched.cycle_eq
        hunsupported
  | refreshDropped _ _ hnoted =>
      exact hpolled.frame (fun _ hsome => hsome) hnoted.cycle hunsupported
  | cycleRaised => rintro _ ⟨⟩
  | finishCycle => rintro _ ⟨⟩
  | abortCycle => rintro _ ⟨⟩
  | _ => exact hpolled.frame (fun _ hsome => hsome) rfl hunsupported

end Steps

theorem eq_of_command {entry other : ScheduleEntry}
    (hentry : entry ∈ cmdSchedule) (hother : other ∈ cmdSchedule)
    (hcommand : entry.command = other.command) : entry = other :=
  List.inj_on_of_nodup_map (by decide) hentry hother hcommand

theorem finished_of_isFinished {task : DeviceTask}
    (hfinished : task.isFinished = true) :
    ∃ published, task.phase = .finished published := by
  cases hphase : task.phase with
  | finished published => exact ⟨published, rfl⟩
  | _ => simp [DeviceTask.isFinished, DeviceTask.published?, hphase] at hfinished

/-- At every moment of every run, what a task of the running cycle has read is
in the order of the schedule, at most twice each, and only what the number of
the cycle makes due.  A task that has finished without a time-out has read
everything that is due and not refused by the device. -/
theorem cycle_reads_due {devices : List DeviceTarget} {events : List Event}
    {world : World} {log : PollLog} {tasks : List DeviceTask} {index : ℕ}
    {task : DeviceTask}
    (hrun : Run (tracked (graph World.step) PollLog.observe)
      (World.initial devices, .empty) events (world, log))
    (hcycle : world.cycle = some tasks) (htask : tasks[index]? = some task) :
    (log.reads index).Sublist (twice cmdSchedule) ∧
      ∀ entry ∈ cmdSchedule,
        (entry.command ∈ log.reads index →
          world.coord.cycle % entry.cadence = 0) ∧
        (task.isFinished = true → log.timedOut index = false →
          world.coord.cycle % entry.cadence = 0 →
          (task.target.id, entry.command) ∉ world.coord.unsupported →
          entry.command ∈ log.reads index) := by
  have hpolled : Polled world log := by
    apply hrun.invariant fun state => Polled state.1 state.2
    · rintro tasks ⟨⟩
    · rintro ⟨world, log⟩ event ⟨after, later⟩ hbefore ⟨hstep, rfl⟩
      exact hbefore.after_step (stepped_of_step hstep)
  have hown := hpolled tasks hcycle index task htask
  obtain ⟨done, rest, hschedule, hpolls, hcomplete⟩ := hown.polled.split
  constructor
  · rw [hschedule, twice_append]
    exact hpolls.sublist.trans (List.sublist_append_left _ _)
  · intro entry hentry
    rw [← hown.cycle]
    constructor
    · intro hmem
      obtain ⟨other, hother, hsame, hdue⟩ := hpolls.due_of_mem hmem
      have hscheduled : other ∈ cmdSchedule := by
        rw [hschedule]
        exact List.mem_append_left rest hother
      rw [← eq_of_command hscheduled hentry hsame]
      exact hdue
    · intro hfinished htimedOut hdue hsupported
      obtain ⟨published, hphase⟩ := finished_of_isFinished hfinished
      rw [hcomplete published hphase htimedOut, List.append_nil] at hschedule
      exact hpolls.mem_of_due (hschedule ▸ hentry) hdue hsupported

/-- A first cycle in which only QPIGS is answered. -/
def onlyQpigsAnswered : List Event :=
  [.startCycle, .beginDevice 0 0,
    .completeRead 0 (.returned (some batteryReading))] ++
  .replicate 10 (.completeRead 0 .raised)

def afterOnlyQpigs : World × PollLog :=
  (execute (trackedNext World.step PollLog.observe)
    (.initial [inverterTarget], .empty) onlyQpigsAnswered).get
    (by decide +kernel)

theorem cycle_reads_due_only_qpigs :
    afterOnlyQpigs.2.reads 0 =
        [.qpigs, .qmod, .qmod, .qpigs2, .qpigs2, .qpiws, .qpiws, .qfws,
          .qfws, .qpiri, .qpiri] ∧
      (afterOnlyQpigs.2.reads 0).Sublist (twice cmdSchedule) := by
  have hrun : Run (tracked (graph World.step) PollLog.observe)
      (.initial [inverterTarget], .empty) onlyQpigsAnswered
      afterOnlyQpigs :=
    tracked_run_of_execute (Option.some_get _).symm
  have hrunning : (afterOnlyQpigs.1.cycle).isSome = true := by
    decide +kernel
  have hfirst : ((afterOnlyQpigs.1.cycle.get hrunning)[0]?).isSome = true := by
    decide +kernel +revert
  constructor
  · decide +kernel
  · exact (cycle_reads_due hrun (Option.some_get hrunning).symm
      (Option.some_get hfirst).symm).1

end Direct
end DessMonitor
