import DessMonitor.DirectCoordinatorPublished
import DessMonitor.Foundation.ListUpdate

/-!
# Lost updates between cycles and refreshes

A running cycle publishes the snapshot it started from, completed by its own
reads, and replaces the whole map.  A reading accepted by a refresh during the
cycle is therefore overtaken by an older one, unless the cycle reads the same
command afterwards.  A reading accepted by the cycle is lost when its device
times out or the cycle ends without publishing.  In every run in which a pair
of device and command meets neither fate, its published section is the latest
accepted reading, or empty after the failures reached their limit.
-/

namespace DessMonitor
namespace Direct

open LabelledRun

/-! ## Where the latest reading is -/

/-- The latest accepted reading of one device and command.  `overtaken`: the
running cycle is about to publish something older.  `unpublished`: only a task
of the running cycle holds it. -/
structure Provenance where
  latest : Section
  dropped : Bool
  overtaken : Bool
  unpublished : Bool

def Provenance.initial : Provenance := ⟨.empty, false, false, false⟩

/-- The published section is the latest reading, unless failed reads emptied
it. -/
def Provenance.Shown (history : Provenance) (published : Section) : Prop :=
  published = history.latest ∨
    (history.dropped = true ∧ published = .empty)

def World.acceptedFor (world : World) (key : String) (command : Command)
    (event : Event) : Option Section := do
  let reading ← world.acceptedBy event
  if reading.key = key ∧ reading.command = command then some reading.value
  else none

/-- The event is a failed read that reached the limit. -/
def World.exhaustedBy (world : World) (key : String) (command : Command)
    (event : Event) : Bool :=
  match world.step event with
  | some after =>
      decide (world.coord.failures.count key command <
          after.coord.failures.count key command ∧
        maxConsecutiveFailures ≤ after.coord.failures.count key command)
  | none => false

def World.raisedBy (world : World) : Event → Bool
  | .completeRead index outcome =>
      match (do
        let tasks ← world.cycle
        let task ← tasks[index]?
        task.complete world.coord outcome) with
      | some (.error _) => true
      | _ => false
  | _ => false

def Provenance.observe (key : String) (command : Command) (world : World)
    (event : Event) (history : Provenance) : Provenance :=
  match world.acceptedFor key command event with
  | some value =>
      { latest := value
        dropped := false
        overtaken :=
          match event with
          | .completeRead _ _ => false
          | _ => world.cycle.isSome
        unpublished :=
          match event with
          | .completeRefresh _ _ => false
          | _ => true }
  | none =>
      { latest := history.latest
        dropped := history.dropped || world.exhaustedBy key command event
        overtaken :=
          match event with
          | .startCycle => false
          | .timeOutDevice _ =>
              history.overtaken ||
                (decide (world.timedOutBy event = some key) &&
                  history.unpublished)
          | _ => history.overtaken
        unpublished :=
          match event with
          | .startCycle => false
          | .finishCycle => false
          | _ => history.unpublished }

/-- The event does not lose the latest reading. -/
def Keeps (key : String) (command : Command) (state : World × Provenance)
    (event : Event) : Bool :=
  match event with
  | .finishCycle => !state.2.overtaken
  | .abortCycle => !state.2.unpublished
  | .completeRead _ _ => !(state.1.raisedBy event && state.2.unpublished)
  | .completeAbandoned _ _ => (state.1.acceptedFor key command event).isNone
  | .setTargets _ => false
  | _ => true

section Pair

variable {key : String} {command : Command}

theorem acceptedFor_eq_some {world : World} {event : Event}
    {value : Section} :
    world.acceptedFor key command event = some value ↔
      world.acceptedBy event = some ⟨key, command, value⟩ := by
  unfold World.acceptedFor
  cases haccepted : world.acceptedBy event with
  | none => simp
  | some reading =>
      rcases reading with ⟨otherKey, otherCommand, otherValue⟩
      simp [and_assoc]

/-! ## Events that accept nothing for the pair -/

/-- What such an event can do to the history. -/
structure Provenance.Passes (before after : Provenance) : Prop where
  latest : after.latest = before.latest
  dropped : before.dropped = true → after.dropped = true
  overtaken : after.overtaken = false → before.overtaken = false
  unpublished : after.unpublished = before.unpublished

theorem Provenance.Shown.mono {before after : Provenance}
    (hpasses : before.Passes after) {published : Section}
    (hshown : before.Shown published) : after.Shown published := by
  rcases hshown with heq | ⟨hdropped, hempty⟩
  · exact .inl (heq.trans hpasses.latest.symm)
  · exact .inr ⟨hpasses.dropped hdropped, hempty⟩

theorem observe_passes {world : World} {event : Event}
    (history : Provenance)
    (hnone : world.acceptedFor key command event = none)
    (hstart : event ≠ .startCycle) (hfinish : event ≠ .finishCycle) :
    history.Passes (Provenance.observe key command world event history) := by
  unfold Provenance.observe
  rw [hnone]
  constructor
  · rfl
  · intro hdropped
    simp [hdropped]
  · intro hovertaken
    cases event <;> simp_all
  · cases event <;> simp_all

theorem exhausted_dropped {world after : World} {event : Event}
    (history : Provenance)
    (hnone : world.acceptedFor key command event = none)
    (hstep : world.step event = some after)
    (hcount : world.coord.failures.count key command <
      after.coord.failures.count key command)
    (hlimit : maxConsecutiveFailures ≤
      after.coord.failures.count key command) :
    (Provenance.observe key command world event history).dropped = true := by
  unfold Provenance.observe
  rw [hnone]
  simp [World.exhaustedBy, hstep, hcount, hlimit]

/-! ## The invariant -/

/-- Before the loop reaches the section the reading is published; after it the
loop holds it, unless it was overtaken. -/
def Progress (history : Provenance) (name : SectionName)
    (todo : List ScheduleEntry) (sections : DeviceData) : Prop :=
  todo ⊆ cmdSchedule ∧ (todo.map ScheduleEntry.name).Nodup ∧
    ((name ∈ todo.map ScheduleEntry.name ∧ history.unpublished = false) ∨
      (name ∉ todo.map ScheduleEntry.name ∧
        (history.overtaken = false →
          history.Shown (sections.getSection name))))

structure TaskTracks (history : Provenance) (name : SectionName)
    (task : DeviceTask) : Prop where
  created : task.phase = .created → history.unpublished = false
  prev : history.overtaken = false → history.unpublished = false →
    history.Shown (task.prev.getSection name)
  phase : task.phase.Holds (Progress history name)

structure Tracks (key : String) (command : Command) (world : World)
    (history : Provenance) : Prop where
  clean : world.Clean
  distinct : (world.coord.devices.map DeviceTarget.id).Nodup
  maxConsecutive :
    world.coord.failures.maxConsecutive = maxConsecutiveFailures
  targets : ∀ tasks, world.cycle = some tasks →
    tasks.map DeviceTask.target = world.coord.devices
  refreshes : ∀ refresh ∈ world.refreshes,
    refresh.key ∈ world.coord.devices.map DeviceTarget.id
  unknown : key ∉ world.coord.devices.map DeviceTarget.id →
    history.latest = .empty
  idle : world.cycle = none → history.unpublished = false
  data : history.unpublished = false →
    history.Shown ((deviceOf world.coord.data key).getSection
      command.sectionName)
  tasks : ∀ tasks, world.cycle = some tasks → ∀ task ∈ tasks,
    task.target.id = key → TaskTracks history command.sectionName task

theorem Progress.mono {before after : Provenance} {name : SectionName}
    (hpasses : before.Passes after) (todo : List ScheduleEntry)
    (sections : DeviceData) (hprogress : Progress before name todo sections) :
    Progress after name todo sections := by
  refine ⟨hprogress.1, hprogress.2.1, ?_⟩
  rcases hprogress.2.2 with ⟨hmem, hunpublished⟩ | ⟨hnotMem, hshown⟩
  · exact .inl ⟨hmem, hpasses.unpublished.trans hunpublished⟩
  · right
    refine ⟨hnotMem, ?_⟩
    intro hovertaken
    exact (hshown (hpasses.overtaken hovertaken)).mono hpasses

theorem TaskTracks.mono {before after : Provenance} {name : SectionName}
    {task : DeviceTask} (hpasses : before.Passes after)
    (htracks : TaskTracks before name task) :
    TaskTracks after name task := by
  constructor
  · intro hphase
    exact hpasses.unpublished.trans (htracks.created hphase)
  · intro hovertaken hunpublished
    rw [hpasses.unpublished] at hunpublished
    exact (htracks.prev (hpasses.overtaken hovertaken) hunpublished).mono
      hpasses
  · exact htracks.phase.mono (Progress.mono hpasses)

/-! ## The schedule loop -/

theorem Progress.tail {history : Provenance} {name : SectionName}
    {entry : ScheduleEntry} {todo : List ScheduleEntry}
    {sections : DeviceData}
    (hprogress : Progress history name (entry :: todo) sections)
    {value : Section}
    (hown : entry.name = name → history.unpublished = false →
      history.overtaken = false → history.Shown value) :
    Progress history name todo (sections.setSection entry.name value) := by
  have hnodup := hprogress.2.1
  rw [List.map_cons, List.nodup_cons] at hnodup
  refine ⟨(List.cons_subset.mp hprogress.1).2, hnodup.2, ?_⟩
  by_cases hname : entry.name = name
  · subst hname
    right
    refine ⟨hnodup.1, ?_⟩
    intro hovertaken
    rw [DeviceData.getSection_setSection_self]
    rcases hprogress.2.2 with ⟨_, hunpublished⟩ | ⟨hnotMem, _⟩
    · exact hown rfl hunpublished hovertaken
    · exact absurd List.mem_cons_self hnotMem
  · rw [DeviceData.getSection_setSection_of_ne _ (Ne.symm hname)]
    rcases hprogress.2.2 with ⟨hmem, hunpublished⟩ | ⟨hnotMem, hshown⟩
    · left
      rw [List.map_cons, List.mem_cons] at hmem
      rcases hmem with heq | hmem
      · exact absurd heq.symm hname
      · exact ⟨hmem, hunpublished⟩
    · right
      rw [List.map_cons, List.mem_cons, not_or] at hnotMem
      exact ⟨hnotMem.2, hshown⟩

theorem withoutError_of_clean {name : SectionName} {value : Section}
    (hclean : CleanSection name value) : withoutError value = value := by
  unfold withoutError
  rw [hclean.noError]
  rfl

theorem Progress.skip {history : Provenance} {name : SectionName}
    {task : DeviceTask} {coord : Coordinator} (hclean : task.Clean)
    (hprev : history.overtaken = false → history.unpublished = false →
      history.Shown (task.prev.getSection name))
    (entry : ScheduleEntry) (todo : List ScheduleEntry)
    (sections : DeviceData) (value : Section)
    (hprogress : Progress history name (entry :: todo) sections)
    (hskips : task.Skips coord entry value) :
    Progress history name todo (sections.setSection entry.name value) := by
  apply hprogress.tail
  intro hname hunpublished hovertaken
  have hshown := hprev hovertaken hunpublished
  rcases hskips with ⟨_, rfl⟩ | ⟨_, rfl⟩
  · rwa [hname]
  · rwa [withoutError_of_clean (hclean.prev.getSection _), hname]

theorem DeviceTask.advance_ne_created (task : DeviceTask)
    (coord : Coordinator) (todo : List ScheduleEntry)
    (sections : DeviceData) :
    task.advance coord todo sections ≠ .created := by
  induction todo generalizing sections with
  | nil => simp [DeviceTask.advance]
  | cons entry todo ih =>
      unfold DeviceTask.advance
      dsimp only
      split
      · split
        · exact ih _
        · simp
      · exact ih _

theorem DeviceTask.resume_ne_created (task : DeviceTask)
    (coord : Coordinator) (entry : ScheduleEntry)
    (todo : List ScheduleEntry) (sections : DeviceData)
    (value : Option Section) :
    (task.resume coord entry todo sections value).phase ≠ .created := by
  cases value with
  | none => simp [DeviceTask.resume]
  | some section' => exact task.advance_ne_created coord todo _

theorem TaskTracks.begin {history : Provenance} {name : SectionName}
    {task : DeviceTask} (htracks : TaskTracks history name task)
    (hclean : task.Clean) (hphase : task.phase = .created)
    (coord : Coordinator) (now : ℤ) :
    TaskTracks history name (task.begin coord now) := by
  constructor
  · intro hcreated
    exact absurd hcreated (task.advance_ne_created coord _ _)
  · exact htracks.prev
  · apply task.advance_holds (Progress.skip hclean htracks.prev)
    refine ⟨List.Subset.refl _, by decide, .inl ⟨?_, htracks.created hphase⟩⟩
    cases name <;> decide

theorem TaskTracks.timeOut {before after : Provenance} {name : SectionName}
    {task : DeviceTask} (htracks : TaskTracks before name task)
    (hpasses : before.Passes after)
    (hovertaken : after.overtaken = false → before.unpublished = false) :
    TaskTracks after name task.timeOut := by
  have hmono := htracks.mono hpasses
  constructor
  · intro hcreated
    cases hcreated
  · exact hmono.prev
  · refine ⟨by simp, by simp, .inr ⟨by simp, ?_⟩⟩
    intro hfalse
    exact hmono.prev hfalse (hpasses.unpublished.trans (hovertaken hfalse))

/-! ## Reads of the cycle -/

theorem DeviceTask.Clean.progress_section {task : DeviceTask}
    (hclean : task.Clean) {entry : ScheduleEntry} {attempt : ℕ}
    {todo : List ScheduleEntry} {sections : DeviceData}
    (hphase : task.phase = .reading entry attempt todo sections) :
    entry.name = entry.command.sectionName := by
  have hholds := hclean.phase
  rw [hphase] at hholds
  exact name_of_mem_cmdSchedule (hholds.1 List.mem_cons_self)

/-- A settled read that accepts nothing records the previous section, or
nothing once the failures reached the limit. -/
theorem Fetched.frozen_or_exhausted {coord after : Coordinator}
    {attempt : ℕ} {prevSection value : Section} {outcome : Outcome}
    (hfetched : Fetched coord key command attempt prevSection outcome after
      (some value))
    (haccepts : coord.accepts key command outcome = none)
    (hclean : CleanSection command.sectionName prevSection)
    (hmax : coord.failures.maxConsecutive = maxConsecutiveFailures) :
    value = prevSection ∨
      (value = .empty ∧
        coord.failures.count key command <
          after.failures.count key command ∧
        maxConsecutiveFailures ≤ after.failures.count key command) := by
  cases hfetched with
  | accepted hsome =>
      rw [haccepts] at hsome
      cases hsome
  | suppressed => exact .inl (withoutError_of_clean hclean)
  | @failed noted _ hnoted _ =>
      have hcount : (noted.recordFailure key command).1.failures.count key
          command = coord.failures.count key command + 1 := by
        rw [recordFailure_count, hnoted.failures]
      rw [hcount, hnoted.failures, hmax]
      by_cases hbelow :
          coord.failures.count key command + 1 < maxConsecutiveFailures
      · rw [if_pos hbelow]
        exact .inl (withoutError_of_clean hclean)
      · rw [if_neg hbelow]
        exact .inr ⟨rfl, by omega, by omega⟩

theorem TaskTracks.complete_other {world after : World}
    {history : Provenance} {tasks : List DeviceTask} {index : ℕ}
    {task resumed : DeviceTask} {outcome : Outcome}
    (htracks : TaskTracks history command.sectionName task)
    (htarget : task.target.id = key) (hclean : task.Clean)
    (hmax : world.coord.failures.maxConsecutive = maxConsecutiveFailures)
    (hcycle : world.cycle = some tasks)
    (htask : tasks[index]? = some task)
    (hcomplete : task.complete world.coord outcome =
      some (.ok (after.coord, resumed)))
    (hstep : world.step (.completeRead index outcome) = some after)
    (hnone : world.acceptedFor key command (.completeRead index outcome) =
      none) :
    TaskTracks
      (Provenance.observe key command world (.completeRead index outcome)
        history)
      command.sectionName resumed := by
  have hpasses := observe_passes history hnone (by simp) (by simp)
  have hmono := htracks.mono hpasses
  obtain ⟨entry, attempt, todo, sections, value, hphase, hfetched, rfl⟩ :=
    task.complete_eq_ok hcomplete
  have hname := hclean.progress_section hphase
  have hprogress := hmono.phase
  rw [hphase] at hprogress
  constructor
  · intro hcreated
    exact absurd hcreated (task.resume_ne_created _ _ _ _ _)
  · cases value <;> exact hmono.prev
  · apply task.resume_holds (Progress.skip hclean hmono.prev) hprogress
    intro section' hvalue
    subst hvalue
    apply hprogress.tail
    intro heq hunpublished hovertaken
    have hcommand : entry.command = command := by
      rw [hname] at heq
      exact Command.sectionName_injective heq
    subst hcommand
    rw [htarget] at hfetched
    have haccepts :
        world.coord.accepts key entry.command outcome = none := by
      cases hsome : world.coord.accepts key entry.command outcome with
      | none => rfl
      | some reading =>
          have haccepted : world.acceptedFor key entry.command
              (.completeRead index outcome) = some reading := by
            rw [acceptedFor_eq_some]
            simp [World.acceptedBy, DeviceTask.acceptedBy, hcycle, htask,
              hphase, htarget, hsome]
          rw [hnone] at haccepted
          cases haccepted
    have hprevClean := hclean.prev.getSection entry.command.sectionName
    rw [← hname] at hprevClean
    rcases hfetched.frozen_or_exhausted haccepts (hname ▸ hprevClean) hmax with
      rfl | ⟨rfl, hcount, hlimit⟩
    · rw [hname]
      exact hmono.prev hovertaken hunpublished
    · exact .inr ⟨exhausted_dropped history hnone hstep hcount hlimit, rfl⟩

/-- The task whose own read was accepted holds the latest reading. -/
theorem TaskTracks.complete_own {world : World} {history : Provenance}
    {after : Coordinator} {index : ℕ} {task resumed : DeviceTask}
    {outcome : Outcome} {reading : Section}
    (htracks : TaskTracks history command.sectionName task)
    (hclean : task.Clean)
    (hcomplete : task.complete world.coord outcome =
      some (.ok (after, resumed)))
    (hsome : task.acceptedBy world.coord outcome =
      some ⟨key, command, reading⟩)
    (haccepted : world.acceptedFor key command (.completeRead index outcome) =
      some reading) :
    TaskTracks
      (Provenance.observe key command world (.completeRead index outcome)
        history)
      command.sectionName resumed := by
  obtain ⟨entry, attempt, todo, sections, value, hphase, hfetched, rfl⟩ :=
    task.complete_eq_ok hcomplete
  have hname := hclean.progress_section hphase
  have hprogress := htracks.phase
  rw [hphase] at hprogress
  simp only [DeviceTask.acceptedBy, hphase, Option.map_eq_some_iff,
    Reading.mk.injEq] at hsome
  obtain ⟨found, haccepts, rfl, rfl, rfl⟩ := hsome
  have hlatest : Provenance.observe task.target.id entry.command world
      (.completeRead index outcome) history = ⟨found, false, false, true⟩ := by
    unfold Provenance.observe
    rw [haccepted]
  rw [hlatest]
  constructor
  · intro hcreated
    exact absurd hcreated (task.resume_ne_created _ _ _ _ _)
  · intro _ hunpublished
    cases hunpublished
  · have hnodup := hprogress.2.1
    rw [List.map_cons, List.nodup_cons] at hnodup
    have hdone : Progress ⟨found, false, false, true⟩
        entry.command.sectionName todo
        (sections.setSection entry.name found) := by
      refine ⟨(List.cons_subset.mp hprogress.1).2, hnodup.2, .inr ⟨?_, ?_⟩⟩
      · rw [← hname]
        exact hnodup.1
      · intro _
        left
        rw [← hname, DeviceData.getSection_setSection_self]
    have hskip : ∀ next more (built : DeviceData) skipped,
        Progress ⟨found, false, false, true⟩ entry.command.sectionName
          (next :: more) built →
        task.Skips after next skipped →
        Progress ⟨found, false, false, true⟩ entry.command.sectionName more
          (built.setSection next.name skipped) := by
      apply Progress.skip hclean
      intro _ hunpublished
      cases hunpublished
    cases hfetched with
    | accepted hfound =>
        rw [haccepts] at hfound
        obtain rfl := Option.some.inj hfound
        exact task.advance_holds hskip hdone
    | suppressed hfound =>
        rw [haccepts] at hfound
        cases hfound
    | retried hfound =>
        rw [haccepts] at hfound
        cases hfound
    | failed hfound =>
        rw [haccepts] at hfound
        cases hfound

/-! ## Steps of the invariant -/

/-- Distinct device ids leave one task for each key. -/
theorem eq_of_target_id {devices : List DeviceTarget}
    (hdistinct : (devices.map DeviceTarget.id).Nodup)
    {tasks : List DeviceTask}
    (htargets : tasks.map DeviceTask.target = devices)
    {left right : DeviceTask} (hleft : left ∈ tasks) (hright : right ∈ tasks)
    (hid : left.target.id = right.target.id) : left = right := by
  rw [← htargets, List.map_map] at hdistinct
  exact List.inj_on_of_nodup_map hdistinct hleft hright hid

theorem Tracks.known {world : World} {history : Provenance}
    (htracks : Tracks key command world history) {tasks : List DeviceTask}
    (hcycle : world.cycle = some tasks) {task : DeviceTask}
    (htask : task ∈ tasks) :
    task.target.id ∈ world.coord.devices.map DeviceTarget.id := by
  rw [← htracks.targets tasks hcycle]
  exact List.mem_map.mpr
    ⟨task.target, List.mem_map.mpr ⟨task, htask, rfl⟩, rfl⟩

/-- Frame rule for events that accept nothing for the pair and publish
nothing. -/
theorem Tracks.frame {world after : World} {before history : Provenance}
    (htracks : Tracks key command world before)
    (hpasses : before.Passes history) (hclean : after.Clean)
    (hdevices : after.coord.devices = world.coord.devices)
    (hmax : after.coord.failures.maxConsecutive =
      world.coord.failures.maxConsecutive)
    (hdata : (deviceOf after.coord.data key).getSection command.sectionName =
      (deviceOf world.coord.data key).getSection command.sectionName)
    (htargets : ∀ tasks, after.cycle = some tasks →
      tasks.map DeviceTask.target = world.coord.devices)
    (hrefreshes : ∀ refresh ∈ after.refreshes,
      refresh.key ∈ world.coord.devices.map DeviceTarget.id)
    (hidle : after.cycle = none → before.unpublished = false)
    (htasks : ∀ tasks, after.cycle = some tasks → ∀ task ∈ tasks,
      task.target.id = key → TaskTracks history command.sectionName task) :
    Tracks key command after history := by
  constructor
  · exact hclean
  · rw [hdevices]
    exact htracks.distinct
  · exact hmax.trans htracks.maxConsecutive
  · rw [hdevices]
    exact htargets
  · rw [hdevices]
    exact hrefreshes
  · intro hunknown
    rw [hdevices] at hunknown
    exact hpasses.latest.trans (htracks.unknown hunknown)
  · intro hnone
    exact hpasses.unpublished.trans (hidle hnone)
  · intro hunpublished
    rw [hdata]
    exact (htracks.data (hpasses.unpublished.symm.trans hunpublished)).mono
      hpasses
  · exact htasks

/-- Frame rule for events that leave the running cycle alone as well. -/
theorem Tracks.frame_cycle {world after : World} {before history : Provenance}
    (htracks : Tracks key command world before)
    (hpasses : before.Passes history) (hclean : after.Clean)
    (hdevices : after.coord.devices = world.coord.devices)
    (hmax : after.coord.failures.maxConsecutive =
      world.coord.failures.maxConsecutive)
    (hdata : (deviceOf after.coord.data key).getSection command.sectionName =
      (deviceOf world.coord.data key).getSection command.sectionName)
    (hcycle : after.cycle = world.cycle)
    (hrefreshes : ∀ refresh ∈ after.refreshes,
      refresh.key ∈ world.coord.devices.map DeviceTarget.id) :
    Tracks key command after history := by
  apply htracks.frame hpasses hclean hdevices hmax hdata _ hrefreshes
  · intro hnone
    rw [hcycle] at hnone
    exact htracks.idle hnone
  · intro tasks htasks task hmem htarget
    rw [hcycle] at htasks
    exact (htracks.tasks tasks htasks task hmem htarget).mono hpasses
  · intro tasks htasks
    rw [hcycle] at htasks
    exact htracks.targets tasks htasks

/-- Frame rule for events that drop the running cycle. -/
theorem Tracks.frame_dropped {world after : World} {before history : Provenance}
    (htracks : Tracks key command world before)
    (hpasses : before.Passes history) (hclean : after.Clean)
    (hcoord : after.coord = world.coord) (hcycle : after.cycle = none)
    (hrefreshes : after.refreshes = world.refreshes)
    (hunpublished : before.unpublished = false) :
    Tracks key command after history := by
  apply htracks.frame hpasses hclean (by rw [hcoord]) (by rw [hcoord])
    (by rw [hcoord])
  · intro tasks htasks
    rw [hcycle] at htasks
    cases htasks
  · rw [hrefreshes]
    exact htracks.refreshes
  · exact fun _ => hunpublished
  · intro tasks htasks
    rw [hcycle] at htasks
    cases htasks

/-- Frame rule for events that replace one task of the running cycle. -/
theorem Tracks.frame_task {world after : World} {before history : Provenance}
    {tasks : List DeviceTask} {index : ℕ} {task replacement : DeviceTask}
    (htracks : Tracks key command world before)
    (hpasses : before.Passes history) (hclean : after.Clean)
    (hdevices : after.coord.devices = world.coord.devices)
    (hmax : after.coord.failures.maxConsecutive =
      world.coord.failures.maxConsecutive)
    (hdata : after.coord.data = world.coord.data)
    (hcycle : world.cycle = some tasks)
    (htask : tasks[index]? = some task)
    (hafter : after.cycle = some (tasks.set index replacement))
    (hrefreshes : after.refreshes = world.refreshes)
    (htarget : replacement.target = task.target)
    (hreplacement : task.target.id = key →
      TaskTracks history command.sectionName replacement) :
    Tracks key command after history := by
  apply htracks.frame hpasses hclean hdevices hmax (by rw [hdata])
  · intro others hothers
    rw [hafter] at hothers
    obtain rfl := Option.some.inj hothers
    rw [ListUpdate.map_set_of_eq htask htarget]
    exact htracks.targets tasks hcycle
  · rw [hrefreshes]
    exact htracks.refreshes
  · intro hnone
    rw [hafter] at hnone
    cases hnone
  · intro others hothers other hmem hother
    rw [hafter] at hothers
    obtain rfl := Option.some.inj hothers
    rcases List.mem_or_eq_of_mem_set hmem with hold | rfl
    · exact (htracks.tasks tasks hcycle other hold hother).mono hpasses
    · rw [htarget] at hother
      exact hreplacement hother

theorem Tracks.startCycle {world after : World} {history : Provenance}
    (htracks : Tracks key command world history)
    (hidle : world.cycle = none) (hclean : after.Clean)
    (hafter : after = { world with
      cycle := some (world.coord.devices.map world.deviceTask) }) :
    Tracks key command after
      (Provenance.observe key command world .startCycle history) := by
  have hnone : world.acceptedFor key command .startCycle = none := rfl
  have hunpublished := htracks.idle hidle
  have hpasses : Provenance.Passes { history with overtaken := false }
      (Provenance.observe key command world .startCycle history) := by
    unfold Provenance.observe
    rw [hnone]
    constructor
    · rfl
    · intro hdropped
      simpa using Or.inl hdropped
    · intro _
      rfl
    · exact hunpublished.symm
  have hbase : Tracks key command world { history with overtaken := false } :=
    ⟨htracks.clean, htracks.distinct, htracks.maxConsecutive,
      htracks.targets, htracks.refreshes, htracks.unknown, htracks.idle,
      htracks.data, by
        intro tasks hcycle
        rw [hidle] at hcycle
        cases hcycle⟩
  subst hafter
  apply hbase.frame hpasses hclean rfl rfl rfl
  · intro tasks htasks
    obtain rfl := Option.some.inj htasks
    rw [List.map_map]
    exact List.map_id _
  · exact htracks.refreshes
  · intro hfalse
    cases hfalse
  · intro tasks htasks task hmem htarget
    obtain rfl := Option.some.inj htasks
    obtain ⟨target, _, rfl⟩ := List.mem_map.mp hmem
    have hkey : target.id = key := htarget
    have hmono := hbase.data hunpublished
    constructor
    · intro _
      exact hpasses.unpublished.trans hunpublished
    · intro _ _
      rw [← hkey] at hmono ⊢
      exact Provenance.Shown.mono (hkey ▸ hpasses) hmono
    · trivial

theorem TaskTracks.published {history : Provenance} {name : SectionName}
    {task : DeviceTask} {otherKey : String} {device : DeviceData}
    (htracks : TaskTracks history name task)
    (hpublished : task.published? = some (otherKey, device))
    (hovertaken : history.overtaken = false) :
    history.Shown (device.getSection name) := by
  unfold DeviceTask.published? at hpublished
  split at hpublished
  next published hphase =>
    obtain ⟨_, rfl⟩ := Prod.mk.inj (Option.some.inj hpublished)
    have hholds := htracks.phase
    rw [hphase] at hholds
    rcases hholds.2.2 with ⟨hmem, _⟩ | ⟨_, hshown⟩
    · cases hmem
    · exact hshown hovertaken
  next => cases hpublished

theorem published_of_isFinished {task : DeviceTask}
    (hfinished : task.isFinished = true) :
    ∃ device, task.published? = some (task.target.id, device) := by
  unfold DeviceTask.isFinished at hfinished
  obtain ⟨⟨otherKey, device⟩, hpublished⟩ :=
    Option.isSome_iff_exists.mp hfinished
  have htarget := target_of_published hpublished
  exact ⟨device, by rw [htarget]; exact hpublished⟩

/-- The map of a finished cycle holds the latest reading of a pair that was
not overtaken. -/
theorem Tracks.finished_shown {world : World} {history : Provenance}
    (htracks : Tracks key command world history) {tasks : List DeviceTask}
    (hcycle : world.cycle = some tasks)
    (hfinished : ∀ task ∈ tasks, task.isFinished = true)
    (hovertaken : history.overtaken = false) :
    history.Shown ((deviceOf
      (some (Dict.ofPairs (tasks.filterMap DeviceTask.published?)))
        key).getSection command.sectionName) := by
  unfold deviceOf
  rw [Option.getD_some]
  cases hget : (Dict.ofPairs
      (tasks.filterMap DeviceTask.published?)).get? key with
  | some device =>
      rw [Option.getD_some]
      obtain ⟨task, htask, hpublished⟩ :=
        List.mem_filterMap.mp (Dict.mem_of_get?_ofPairs hget)
      have htarget := target_of_published hpublished
      exact (htracks.tasks tasks hcycle task htask htarget).published
        hpublished hovertaken
  | none =>
      have hunknown : key ∉ world.coord.devices.map DeviceTarget.id := by
        intro hknown
        rw [← htracks.targets tasks hcycle, List.map_map] at hknown
        obtain ⟨task, htask, htarget⟩ := List.mem_map.mp hknown
        obtain ⟨device, hpublished⟩ :=
          published_of_isFinished (hfinished task htask)
        have hmem : key ∈ (tasks.filterMap DeviceTask.published?).map
            Prod.fst := by
          refine List.mem_map.mpr ⟨(task.target.id, device), ?_, htarget⟩
          exact List.mem_filterMap.mpr ⟨task, htask, hpublished⟩
        exact Dict.get?_ofPairs_ne_none hmem hget
      left
      rw [htracks.unknown hunknown]
      rfl

theorem Tracks.finishCycle {world after : World} {history : Provenance}
    (htracks : Tracks key command world history) {tasks : List DeviceTask}
    (hcycle : world.cycle = some tasks)
    (hfinished : ∀ task ∈ tasks, task.isFinished = true)
    (hovertaken : history.overtaken = false) (hclean : after.Clean)
    (hafter : after = { world with
      coord := { world.coord with
        data := some (Dict.ofPairs (tasks.filterMap DeviceTask.published?))
        cycle := world.coord.cycle + 1 }
      cycle := none }) :
    Tracks key command after
      (Provenance.observe key command world .finishCycle history) := by
  have hnone : world.acceptedFor key command .finishCycle = none := rfl
  have hlatest : (Provenance.observe key command world .finishCycle
      history).latest = history.latest := by
    unfold Provenance.observe
    rw [hnone]
  have hunpublished : (Provenance.observe key command world .finishCycle
      history).unpublished = false := by
    unfold Provenance.observe
    rw [hnone]
  have hdropped : history.dropped = true →
      (Provenance.observe key command world .finishCycle
        history).dropped = true := by
    intro htrue
    unfold Provenance.observe
    rw [hnone]
    simp [htrue]
  subst hafter
  refine ⟨hclean, htracks.distinct, htracks.maxConsecutive, ?_,
    htracks.refreshes, ?_, fun _ => hunpublished, ?_, ?_⟩
  · intro others hothers
    cases hothers
  · intro hunknown
    exact hlatest.trans (htracks.unknown hunknown)
  · intro _
    rcases htracks.finished_shown hcycle hfinished hovertaken with
      heq | ⟨htrue, hempty⟩
    · exact .inl (heq.trans hlatest.symm)
    · exact .inr ⟨hdropped htrue, hempty⟩
  · intro others hothers
    cases hothers

/-- The running cycle accepts the reading: only its task holds it now. -/
theorem Tracks.complete_own {world after : World} {history : Provenance}
    (htracks : Tracks key command world history) {tasks : List DeviceTask}
    {index : ℕ} {task resumed : DeviceTask} {outcome : Outcome}
    {reading : Section} (hcycle : world.cycle = some tasks)
    (htask : tasks[index]? = some task)
    (hcomplete : task.complete world.coord outcome =
      some (.ok (after.coord, resumed)))
    (hdevices : after.coord.devices = world.coord.devices)
    (hmax : after.coord.failures.maxConsecutive =
      world.coord.failures.maxConsecutive)
    (hafter : after.cycle = some (tasks.set index resumed))
    (hrefreshes : after.refreshes = world.refreshes) (hclean : after.Clean)
    (haccepted : world.acceptedFor key command (.completeRead index outcome) =
      some reading) :
    Tracks key command after
      (Provenance.observe key command world (.completeRead index outcome)
        history) := by
  have hmem := List.mem_of_getElem? htask
  have htarget := DeviceTask.complete_target_eq hcomplete
  have hsome : task.acceptedBy world.coord outcome =
      some ⟨key, command, reading⟩ := by
    have hworld := acceptedFor_eq_some.mp haccepted
    simpa [World.acceptedBy, hcycle, htask] using hworld
  have hkey : task.target.id = key := by
    unfold DeviceTask.acceptedBy at hsome
    split at hsome
    · obtain ⟨_, _, hreading⟩ := Option.map_eq_some_iff.mp hsome
      exact congrArg Reading.key hreading
    · cases hsome
  have hresumed := (htracks.tasks tasks hcycle task hmem hkey).complete_own
    (htracks.clean.tasks tasks hcycle task hmem) hcomplete hsome haccepted
  have hunpublished : (Provenance.observe key command world
      (.completeRead index outcome) history).unpublished = true := by
    unfold Provenance.observe
    rw [haccepted]
  have htargets : (tasks.set index resumed).map DeviceTask.target =
      world.coord.devices := by
    rw [ListUpdate.map_set_of_eq htask htarget]
    exact htracks.targets tasks hcycle
  constructor
  · exact hclean
  · rw [hdevices]
    exact htracks.distinct
  · exact hmax.trans htracks.maxConsecutive
  · intro others hothers
    rw [hafter] at hothers
    obtain rfl := Option.some.inj hothers
    rw [hdevices]
    exact htargets
  · rw [hdevices, hrefreshes]
    exact htracks.refreshes
  · intro hunknown
    rw [hdevices, ← hkey] at hunknown
    exact absurd (htracks.known hcycle hmem) hunknown
  · intro hnone
    rw [hafter] at hnone
    cases hnone
  · intro hfalse
    rw [hunpublished] at hfalse
    cases hfalse
  · intro others hothers other hother hid
    rw [hafter] at hothers
    obtain rfl := Option.some.inj hothers
    have hindex : index < tasks.length :=
      (List.getElem?_eq_some_iff.mp htask).1
    have hresumedMem : resumed ∈ tasks.set index resumed :=
      List.mem_set hindex resumed
    have heq : other = resumed := by
      apply eq_of_target_id htracks.distinct htargets hother hresumedMem
      rw [hid, htarget, hkey]
    rw [heq]
    exact hresumed

/-- A refresh publishes the reading at once; a running cycle will overtake
it. -/
theorem Tracks.refresh_own {world after : World} {history : Provenance}
    (htracks : Tracks key command world history) {index : ℕ}
    {outcome : Outcome} {value : Section}
    (hknown : key ∈ world.coord.devices.map DeviceTarget.id)
    (haccepted : world.acceptedFor key command
      (.completeRefresh index outcome) = some value)
    (hcoord : after.coord = (world.coord.afterAccept key command).publish key
      command.sectionName value)
    (hcycle : after.cycle = world.cycle)
    (hrefreshes : ∀ refresh ∈ after.refreshes, refresh ∈ world.refreshes)
    (hclean : after.Clean) :
    Tracks key command after
      (Provenance.observe key command world (.completeRefresh index outcome)
        history) := by
  have hhistory : Provenance.observe key command world
      (.completeRefresh index outcome) history =
        ⟨value, false, world.cycle.isSome, false⟩ := by
    unfold Provenance.observe
    rw [haccepted]
  have hdevices : after.coord.devices = world.coord.devices := by
    rw [hcoord]
    rfl
  rw [hhistory]
  constructor
  · exact hclean
  · rw [hdevices]
    exact htracks.distinct
  · rw [hcoord]
    exact htracks.maxConsecutive
  · rw [hdevices, hcycle]
    exact htracks.targets
  · rw [hdevices]
    intro refresh hmem
    exact htracks.refreshes refresh (hrefreshes refresh hmem)
  · intro hunknown
    rw [hdevices] at hunknown
    exact absurd hknown hunknown
  · intro _
    rfl
  · intro _
    rw [hcoord, deviceOf_publish_self]
    exact .inl rfl
  · intro tasks htasks task hmem htarget
    rw [hcycle] at htasks
    have hold := htracks.tasks tasks htasks task hmem htarget
    have hrunning : world.cycle.isSome = true := by rw [htasks]; rfl
    rw [hrunning]
    constructor
    · intro _
      rfl
    · intro hfalse
      cases hfalse
    · apply hold.phase.mono
      intro todo sections hprogress
      refine ⟨hprogress.1, hprogress.2.1, ?_⟩
      rcases hprogress.2.2 with ⟨hin, _⟩ | ⟨hout, _⟩
      · exact .inl ⟨hin, rfl⟩
      · exact .inr ⟨hout, fun hfalse => by cases hfalse⟩

theorem acceptedFor_of_error {world : World} {task : DeviceTask}
    {outcome : Outcome} {error : Uncaught}
    (hcomplete : task.complete world.coord outcome = some (.error error)) :
    task.acceptedBy world.coord outcome = none := by
  obtain ⟨entry, attempt, todo, sections, hphase, haccepts⟩ :=
    task.complete_eq_error hcomplete
  simp [DeviceTask.acceptedBy, hphase, haccepts]

/-- A refresh of another section leaves this one as it is. -/
theorem Tracks.refresh_other {world : World} {history : Provenance}
    (htracks : Tracks key command world history) {index : ℕ}
    {refresh : Refresh} {outcome : Outcome} {value : Section}
    (hrefresh : world.refreshes[index]? = some refresh)
    (haccepts : world.coord.accepts refresh.key refresh.command outcome =
      some value)
    (hother : (key, command) ≠ (refresh.key, refresh.command))
    (hclean : World.Clean { world with
      coord :=
        (world.coord.afterAccept refresh.key refresh.command).publish
          refresh.key refresh.command.sectionName value
      refreshes := world.refreshes.eraseIdx index }) :
    Tracks key command { world with
        coord :=
          (world.coord.afterAccept refresh.key refresh.command).publish
            refresh.key refresh.command.sectionName value
        refreshes := world.refreshes.eraseIdx index }
      (Provenance.observe key command world (.completeRefresh index outcome)
        history) := by
  have hne : ¬(refresh.key = key ∧ refresh.command = command) := by
    rintro ⟨rfl, rfl⟩
    exact hother rfl
  have hnone : world.acceptedFor key command
      (.completeRefresh index outcome) = none := by
    simp [World.acceptedFor, World.acceptedBy, hrefresh, haccepts, hne]
  have hneSection : (key, command.sectionName) ≠
      (refresh.key, refresh.command.sectionName) := by
    intro hsame
    obtain ⟨hkey, hname⟩ := Prod.mk.inj hsame
    exact hother (Prod.ext hkey (Command.sectionName_injective hname))
  apply htracks.frame_cycle
    (observe_passes history hnone (by simp) (by simp)) hclean rfl rfl
    (deviceOf_publish_of_ne _ hneSection value) rfl
  intro other hmem
  exact htracks.refreshes other (List.mem_of_mem_eraseIdx hmem)

theorem Tracks.after_step {world after : World} {history : Provenance}
    {event : Event} (htracks : Tracks key command world history)
    (hstep : world.step event = some after)
    (hkeeps : Keeps key command (world, history) event = true) :
    Tracks key command after
      (Provenance.observe key command world event history) := by
  have hclean := htracks.clean.after_step hstep
  have hstepped := stepped_of_step hstep
  have hmax := hstepped.maxConsecutive
  cases hstepped with
  | startCycle hidle => exact htracks.startCycle hidle hclean rfl
  | @beginDevice tasks index task now hcycle htask hphase =>
      have hpasses : history.Passes (Provenance.observe key command world
          (.beginDevice index now) history) :=
        observe_passes history rfl (by simp) (by simp)
      have hmem := List.mem_of_getElem? htask
      apply htracks.frame_task hpasses hclean rfl hmax rfl hcycle htask rfl
        rfl rfl
      intro htarget
      have hold := htracks.tasks tasks hcycle task hmem htarget
      exact (hold.mono hpasses).begin (htracks.clean.tasks tasks hcycle task
        hmem) hphase _ _
  | @completeRead tasks index task resumed coord outcome hcycle htask
      hcomplete =>
      have hmem := List.mem_of_getElem? htask
      have htaskClean := htracks.clean.tasks tasks hcycle task hmem
      obtain ⟨_, _, _, _, _, _, hfetched, _⟩ :=
        DeviceTask.complete_eq_ok hcomplete
      cases haccepted : world.acceptedFor key command
          (.completeRead index outcome) with
      | some reading =>
          exact htracks.complete_own hcycle htask hcomplete
            hfetched.devices_eq hmax rfl rfl hclean haccepted
      | none =>
          have hpasses := observe_passes history haccepted (by simp) (by simp)
          apply htracks.frame_task hpasses hclean hfetched.devices_eq hmax
            hfetched.data_eq hcycle htask rfl rfl
            (DeviceTask.complete_target_eq hcomplete)
          intro htarget
          exact (htracks.tasks tasks hcycle task hmem htarget).complete_other
            htarget htaskClean htracks.maxConsecutive hcycle htask hcomplete
            hstep haccepted
  | @cycleRaised tasks index task outcome error hcycle htask hcomplete =>
      have hnone : world.acceptedFor key command
          (.completeRead index outcome) = none := by
        simp [World.acceptedFor, World.acceptedBy, hcycle, htask,
          acceptedFor_of_error hcomplete]
      have hpasses := observe_passes history hnone (by simp) (by simp)
      have hraised : world.raisedBy (.completeRead index outcome) = true := by
        simp [World.raisedBy, hcycle, htask, hcomplete]
      have hunpublished : history.unpublished = false := by
        simpa [Keeps, hraised] using hkeeps
      exact htracks.frame_dropped hpasses hclean rfl rfl rfl hunpublished
  | @timeOutDevice tasks index task hcycle htask hcapped hphase
      hunfinished =>
      have hpasses : history.Passes (Provenance.observe key command world
          (.timeOutDevice index) history) :=
        observe_passes history rfl (by simp) (by simp)
      have hmem := List.mem_of_getElem? htask
      apply htracks.frame_task hpasses hclean rfl hmax rfl hcycle htask rfl
        rfl rfl
      intro htarget
      apply (htracks.tasks tasks hcycle task hmem htarget).timeOut hpasses
      intro hovertaken
      have htimed : world.timedOutBy (.timeOutDevice index) = some key := by
        simp [World.timedOutBy, hcycle, htask, htarget]
      have hnone : world.acceptedFor key command (.timeOutDevice index) =
          none := rfl
      unfold Provenance.observe at hovertaken
      rw [hnone] at hovertaken
      simp only [htimed, decide_true, Bool.true_and,
        Bool.or_eq_false_iff] at hovertaken
      exact hovertaken.2
  | @finishCycle tasks hcycle hfinished =>
      have hovertaken : history.overtaken = false := by
        simpa [Keeps] using hkeeps
      exact htracks.finishCycle hcycle hfinished hovertaken hclean rfl
  | @abortCycle tasks hcycle =>
      have hpasses : history.Passes (Provenance.observe key command world
          .abortCycle history) :=
        observe_passes history rfl (by simp) (by simp)
      have hunpublished : history.unpublished = false := by
        simpa [Keeps] using hkeeps
      exact htracks.frame_dropped hpasses hclean rfl rfl rfl hunpublished
  | beginAbandoned =>
      exact htracks.frame_cycle
        (observe_passes history rfl (by simp) (by simp)) hclean rfl hmax rfl
        rfl htracks.refreshes
  | @completeAbandoned index task resumed coord outcome htask hcomplete =>
      obtain ⟨_, _, _, _, _, _, hfetched, _⟩ :=
        DeviceTask.complete_eq_ok hcomplete
      have hnone : world.acceptedFor key command
          (.completeAbandoned index outcome) = none := by
        simpa [Keeps] using hkeeps
      exact htracks.frame_cycle
        (observe_passes history hnone (by simp) (by simp)) hclean
        hfetched.devices_eq hmax (by rw [hfetched.data_eq]) rfl
        htracks.refreshes
  | @abandonedRaised index task outcome error htask hcomplete =>
      have hnone : world.acceptedFor key command
          (.completeAbandoned index outcome) = none := by
        simp [World.acceptedFor, World.acceptedBy, htask,
          acceptedFor_of_error hcomplete]
      exact htracks.frame_cycle
        (observe_passes history hnone (by simp) (by simp)) hclean rfl hmax
        rfl rfl htracks.refreshes
  | @startRefresh other otherCommand hdevice =>
      apply htracks.frame_cycle
        (observe_passes history rfl (by simp) (by simp)) hclean rfl hmax rfl
        rfl
      intro refresh hmem
      rcases List.mem_append.mp hmem with hold | hnew
      · exact htracks.refreshes refresh hold
      · obtain ⟨target, htarget, rfl⟩ := hdevice
        rw [List.mem_singleton] at hnew
        rw [hnew]
        exact List.mem_map.mpr ⟨target, htarget, rfl⟩
  | unknownRefresh =>
      exact htracks.frame_cycle
        (observe_passes history rfl (by simp) (by simp)) hclean rfl hmax rfl
        rfl htracks.refreshes
  | @refreshDropped index refresh outcome coord hrefresh haccepts hnoted =>
      have hnone : world.acceptedFor key command
          (.completeRefresh index outcome) = none := by
        simp [World.acceptedFor, World.acceptedBy, hrefresh, haccepts]
      apply htracks.frame_cycle
        (observe_passes history hnone (by simp) (by simp)) hclean
        hnoted.devices hmax (by rw [hnoted.data]) rfl
      intro other hmem
      exact htracks.refreshes other (List.mem_of_mem_eraseIdx hmem)
  | @refreshPublished index refresh outcome value hrefresh haccepts =>
      have hrefreshMem := List.mem_of_getElem? hrefresh
      by_cases heq : (key, command) = (refresh.key, refresh.command)
      · obtain ⟨rfl, rfl⟩ := Prod.mk.inj heq
        have haccepted : world.acceptedFor refresh.key refresh.command
            (.completeRefresh index outcome) = some value := by
          rw [acceptedFor_eq_some]
          simp [World.acceptedBy, hrefresh, haccepts]
        exact htracks.refresh_own (htracks.refreshes refresh hrefreshMem)
          haccepted (by rfl) (by rfl)
          (fun _ hmem => List.mem_of_mem_eraseIdx hmem) hclean
      · exact htracks.refresh_other hrefresh haccepts heq hclean
  | setTargets targets => cases hkeeps

/-! ## No lost update -/

theorem Tracks.initial {devices : List DeviceTarget}
    (hdistinct : (devices.map DeviceTarget.id).Nodup) :
    Tracks key command (World.initial devices) .initial := by
  refine ⟨World.initial_clean devices, hdistinct, rfl, ?_, ?_, fun _ => rfl,
    fun _ => rfl, fun _ => .inl rfl, ?_⟩
  · intro tasks htasks
    cases htasks
  · intro refresh hmem
    cases hmem
  · intro tasks htasks
    cases htasks

abbrev World.provenanceStep (key : String) (command : Command) :
    World × Provenance → Event → World × Provenance → Prop :=
  tracked (graph World.step) (Provenance.observe key command)

def TracksState (key : String) (command : Command)
    (state : World × Provenance) : Prop :=
  Tracks key command state.1 state.2

theorem TracksState.after_step (before : World × Provenance) (event : Event)
    (after : World × Provenance) (htracks : TracksState key command before)
    (hstep : guarded (World.provenanceStep key command)
      (fun state event => Keeps key command state event = true) before event
        after) :
    TracksState key command after := by
  obtain ⟨⟨hnext, hhistory⟩, hkeeps⟩ := hstep
  unfold TracksState
  rw [hhistory]
  exact Tracks.after_step htracks hnext hkeeps

/-- In every run that does not overtake or discard the latest reading of a
device and command, the section published between two cycles is that reading,
or empty once the failures reached their limit. -/
theorem published_latest_of_run {devices : List DeviceTarget}
    (hdistinct : (devices.map DeviceTarget.id).Nodup)
    {events : List Event} {final : World} {history : Provenance}
    (hrun : Run (guarded (World.provenanceStep key command)
      fun state event => Keeps key command state event = true)
      (World.initial devices, .initial) events (final, history))
    (hidle : final.cycle = none) :
    history.Shown ((deviceOf final.coord.data key).getSection
      command.sectionName) := by
  have hstart : TracksState key command (World.initial devices, .initial) :=
    Tracks.initial hdistinct
  have htracks : Tracks key command final history :=
    hrun.invariant (TracksState key command) hstart TracksState.after_step
  exact htracks.data (htracks.idle hidle)

end Pair

def ratings (priority : String) : Section :=
  .ofPairs [("output_source_priority", .str priority)]

/-- A first cycle in which every command is answered. -/
def answeredCycle : List Event :=
  [.startCycle, .beginDevice 0 0] ++
    List.replicate 6
      (.completeRead 0 (.returned (some (ratings "UtilityFirst")))) ++
    [.finishCycle]

/-- A refresh between two cycles, carried forward by the second one. -/
def refreshBetweenCycles : List Event :=
  answeredCycle ++
    [.startRefresh inverterTarget.id .qpiri,
      .completeRefresh 0 (.returned (some (ratings "SolarFirst"))),
      .startCycle, .beginDevice 0 0,
      .completeRead 0 (.returned (some batteryReading)), .finishCycle]

theorem published_latest_of_refresh_between_cycles :
    let final := (execute (guardedNext (trackedNext World.step
        (Provenance.observe inverterTarget.id .qpiri))
        (Keeps inverterTarget.id .qpiri))
      (World.initial [inverterTarget], .initial) refreshBetweenCycles).get
        (by decide +kernel)
    final.2.Shown ((deviceOf final.1.coord.data
      inverterTarget.id).getSection .qpiri) := by
  intro final
  have hrun : Run (guarded (World.provenanceStep inverterTarget.id .qpiri)
      fun state event => Keeps inverterTarget.id .qpiri state event = true)
      (World.initial [inverterTarget], .initial) refreshBetweenCycles
      (final.1, final.2) :=
    guarded_run_of_execute (Option.some_get _).symm
  have hidle : final.1.cycle = none := by
    rw [← Option.isNone_iff_eq_none]
    decide +kernel
  exact published_latest_of_run (by decide) hrun hidle

/-! ## A lost update -/

def NoLostUpdate : Prop :=
  ∀ (devices : List DeviceTarget) (key : String) (command : Command)
    (events : List Event) (final : World) (history : Provenance),
    (devices.map DeviceTarget.id).Nodup →
    (∀ targets, .setTargets targets ∉ events) →
    Run (World.provenanceStep key command) (World.initial devices, .initial)
      events (final, history) →
    final.cycle = none → final.refreshes = [] → final.abandoned = [] →
    history.Shown ((deviceOf final.coord.data key).getSection
      command.sectionName)

/-- The same refresh, completed while the second cycle is running. -/
def refreshDuringCycle : List Event :=
  answeredCycle ++
    [.startCycle, .beginDevice 0 0,
      .startRefresh inverterTarget.id .qpiri,
      .completeRefresh 0 (.returned (some (ratings "SolarFirst"))),
      .completeRead 0 (.returned (some batteryReading)), .finishCycle]

def overtakenWorld : World × Provenance :=
  (execute (trackedNext World.step
      (Provenance.observe inverterTarget.id .qpiri))
    (World.initial [inverterTarget], .initial) refreshDuringCycle).get
      (by decide +kernel)

theorem overtakenWorld_published :
    (deviceOf overtakenWorld.1.coord.data inverterTarget.id).getSection
      .qpiri = ratings "UtilityFirst" := by
  with_unfolding_all rfl

theorem overtakenWorld_latest :
    overtakenWorld.2.latest = ratings "SolarFirst" := by
  with_unfolding_all rfl

theorem not_noLostUpdate_refreshDuringCycle : ¬NoLostUpdate := by
  intro hclaim
  have hrun : Run (World.provenanceStep inverterTarget.id .qpiri)
      (World.initial [inverterTarget], .initial) refreshDuringCycle
      (overtakenWorld.1, overtakenWorld.2) :=
    tracked_run_of_execute (Option.some_get _).symm
  have hshown := hclaim [inverterTarget] inverterTarget.id .qpiri
    refreshDuringCycle overtakenWorld.1 overtakenWorld.2 (by decide)
    (by simp [refreshDuringCycle, answeredCycle]) hrun
    (by rw [← Option.isNone_iff_eq_none]; decide +kernel)
    (by rw [← List.isEmpty_iff]; decide +kernel)
    (by rw [← List.isEmpty_iff]; decide +kernel)
  have hname : Command.qpiri.sectionName = .qpiri := rfl
  rcases hshown with hlatest | ⟨hdropped, _⟩
  · rw [hname, overtakenWorld_published, overtakenWorld_latest] at hlatest
    have hvalue := congrArg (fun section' : Section =>
      (section'.get? "output_source_priority").map
        (PyValue.eqText "SolarFirst")) hlatest
    exact absurd hvalue (by decide)
  · exact absurd hdropped (by decide +kernel)

end Direct
end DessMonitor
