import DessMonitor.DirectCoordinatorSteps

/-!
# Nothing bad is published

A section reaches the published map as an accepted reading, as a copy of the
section it replaces, or empty.  All three are free of errors and NAKs, and a
QPIGS section among them is plausible, so the map stays clean over every
history of cycles, refreshes, time-outs and target swaps.
-/

namespace DessMonitor
namespace Direct

open LabelledRun

/-! ## Clean data -/

def DeviceData.Clean (device : DeviceData) : Prop :=
  ∀ name value, device.sections.get? name = some value →
    CleanSection name value

def CleanMap (map : DataMap) : Prop :=
  ∀ key device, map.get? key = some device → device.Clean

theorem CleanSection.withoutError {name : SectionName} {value : Section}
    (hclean : CleanSection name value) :
    CleanSection name (Direct.withoutError value) := by
  unfold Direct.withoutError
  rw [hclean.noError]
  exact hclean

theorem DeviceData.Clean.getSection {device : DeviceData}
    (hclean : device.Clean) (name : SectionName) :
    CleanSection name (device.getSection name) := by
  unfold DeviceData.getSection
  cases hget : device.sections.get? name with
  | none => exact CleanSection.empty name
  | some value => exact hclean name value hget

theorem DeviceData.Clean.setSection {device : DeviceData}
    (hclean : device.Clean) {name : SectionName} {value : Section}
    (hvalue : CleanSection name value) :
    (device.setSection name value).Clean := by
  intro other section' hget
  rw [DeviceData.setSection, Dict.get?_set] at hget
  by_cases heq : other = name
  · rw [if_pos heq] at hget
    obtain rfl := Option.some.inj hget
    rw [heq]
    exact hvalue
  · rw [if_neg heq] at hget
    exact hclean other section' hget

theorem DeviceData.clean_fresh (now : Option ℤ) :
    DeviceData.Clean ⟨now, .empty⟩ := by
  intro name value hget
  simp at hget

theorem deviceOf_clean {data : Option DataMap}
    (hdata : ∀ map, data = some map → CleanMap map) (key : String) :
    (deviceOf data key).Clean := by
  unfold deviceOf
  cases data with
  | none => exact DeviceData.clean_fresh none
  | some map =>
      cases hget : map.get? key with
      | none =>
          rw [Option.getD_some, hget]
          exact DeviceData.clean_fresh none
      | some device =>
          rw [Option.getD_some, hget]
          exact hdata map rfl key device hget

theorem Coordinator.publish_clean (coord : Coordinator)
    (hdata : ∀ map, coord.data = some map → CleanMap map) (key : String)
    {name : SectionName} {value : Section} (hvalue : CleanSection name value)
    {map : DataMap} (hmap : (coord.publish key name value).data = some map) :
    CleanMap map := by
  obtain rfl := Option.some.inj hmap
  intro other device hget
  rw [Dict.get?_set] at hget
  by_cases heq : other = key
  · rw [if_pos heq] at hget
    obtain rfl := Option.some.inj hget
    exact (deviceOf_clean hdata key).setSection hvalue
  · rw [if_neg heq] at hget
    cases hold : coord.data with
    | none => simp [hold] at hget
    | some old =>
        rw [hold] at hget
        exact hdata old hold other device hget

/-! ## Clean tasks -/

def CleanProgress (todo : List ScheduleEntry) (sections : DeviceData) : Prop :=
  todo ⊆ cmdSchedule ∧ sections.Clean

structure DeviceTask.Clean (task : DeviceTask) : Prop where
  prev : task.prev.Clean
  phase : task.phase.Holds CleanProgress

theorem DeviceTask.Clean.skip {task : DeviceTask} (hclean : task.Clean)
    (coord : Coordinator) (entry : ScheduleEntry) (todo : List ScheduleEntry)
    (sections : DeviceData) (value : Section)
    (hprogress : CleanProgress (entry :: todo) sections)
    (hskips : task.Skips coord entry value) :
    CleanProgress todo (sections.setSection entry.name value) := by
  have hprev := hclean.prev.getSection entry.name
  refine ⟨(List.cons_subset.mp hprogress.1).2, hprogress.2.setSection ?_⟩
  rcases hskips with ⟨_, rfl⟩ | ⟨_, rfl⟩
  · exact hprev
  · exact hprev.withoutError

theorem DeviceTask.Clean.begin {task : DeviceTask} (hclean : task.Clean)
    (coord : Coordinator) (now : ℤ) : (task.begin coord now).Clean := by
  refine ⟨hclean.prev, ?_⟩
  apply task.advance_holds (hclean.skip coord)
  exact ⟨List.Subset.refl _, DeviceData.clean_fresh _⟩

/-- A settled read is an accepted reading, a copy, or empty. -/
theorem Fetched.clean {coord after : Coordinator} {key : String}
    {command : Command} {attempt : ℕ} {prevSection value : Section}
    {outcome : Outcome}
    (hfetched : Fetched coord key command attempt prevSection outcome after
      (some value))
    (hprev : CleanSection command.sectionName prevSection) :
    CleanSection command.sectionName value := by
  cases hfetched with
  | accepted haccepts => exact accepts_clean haccepts
  | suppressed => exact hprev.withoutError
  | failed =>
      split
      · exact hprev.withoutError
      · exact CleanSection.empty _

theorem DeviceTask.Clean.complete {task resumed : DeviceTask}
    {coord after : Coordinator} {outcome : Outcome} (hclean : task.Clean)
    (hcomplete : task.complete coord outcome = some (.ok (after, resumed))) :
    resumed.Clean := by
  obtain ⟨entry, attempt, todo, sections, value, hphase, hfetched, rfl⟩ :=
    task.complete_eq_ok hcomplete
  have hprogress : CleanProgress (entry :: todo) sections := by
    have hholds := hclean.phase
    rwa [hphase] at hholds
  have hname : entry.name = entry.command.sectionName :=
    name_of_mem_cmdSchedule (hprogress.1 List.mem_cons_self)
  have hprev : CleanSection entry.command.sectionName
      (task.prev.getSection entry.name) := by
    rw [← hname]
    exact hclean.prev.getSection entry.name
  constructor
  · cases value <;> exact hclean.prev
  · apply task.resume_holds (hclean.skip after) hprogress
    intro section' hvalue
    subst hvalue
    refine ⟨(List.cons_subset.mp hprogress.1).2, hprogress.2.setSection ?_⟩
    rw [hname]
    exact hfetched.clean hprev

theorem DeviceTask.Clean.timeOut {task : DeviceTask} (hclean : task.Clean) :
    task.timeOut.Clean :=
  ⟨hclean.prev, by simp, hclean.prev⟩

theorem DeviceTask.Clean.published {task : DeviceTask} (hclean : task.Clean)
    {key : String} {device : DeviceData}
    (hpublished : task.published? = some (key, device)) : device.Clean := by
  unfold DeviceTask.published? at hpublished
  split at hpublished
  next published hphase =>
    obtain ⟨_, rfl⟩ := Prod.mk.inj (Option.some.inj hpublished)
    have hholds := hclean.phase
    rw [hphase] at hholds
    exact hholds.2
  next => cases hpublished

/-! ## Clean worlds -/

structure World.Clean (world : World) : Prop where
  data : ∀ map, world.coord.data = some map → CleanMap map
  tasks : ∀ tasks, world.cycle = some tasks → ∀ task ∈ tasks, task.Clean

theorem World.initial_clean (devices : List DeviceTarget) :
    (World.initial devices).Clean := by
  constructor
  · intro map hmap
    cases hmap
  · intro tasks htasks
    cases htasks

theorem mem_set_clean {tasks : List DeviceTask} {index : ℕ}
    {replacement : DeviceTask} (hclean : ∀ task ∈ tasks, task.Clean)
    (hreplacement : replacement.Clean) :
    ∀ task ∈ tasks.set index replacement, task.Clean := by
  intro task hmem
  rcases List.mem_or_eq_of_mem_set hmem with hold | rfl
  · exact hclean task hold
  · exact hreplacement

theorem finished_map_clean {tasks : List DeviceTask}
    (hclean : ∀ task ∈ tasks, task.Clean) :
    CleanMap (Dict.ofPairs (tasks.filterMap DeviceTask.published?)) := by
  intro key device hget
  have hmem := Dict.mem_of_get?_ofPairs hget
  obtain ⟨task, htask, hpublished⟩ := List.mem_filterMap.mp hmem
  exact (hclean task htask).published hpublished

theorem World.Clean.after_step {world after : World} {event : Event}
    (hclean : world.Clean) (hstep : world.step event = some after) :
    after.Clean := by
  cases stepped_of_step hstep with
  | startCycle hidle =>
      refine ⟨hclean.data, ?_⟩
      intro tasks htasks task hmem
      obtain rfl := Option.some.inj htasks
      obtain ⟨target, _, rfl⟩ := List.mem_map.mp hmem
      exact ⟨deviceOf_clean hclean.data target.id, trivial⟩
  | beginDevice hcycle htask hphase =>
      refine ⟨hclean.data, ?_⟩
      intro tasks htasks
      obtain rfl := Option.some.inj htasks
      have hold := hclean.tasks _ hcycle
      exact mem_set_clean hold
        ((hold _ (List.mem_of_getElem? htask)).begin _ _)
  | completeRead hcycle htask hcomplete =>
      constructor
      · intro map hmap
        rw [DeviceTask.complete_data_eq hcomplete] at hmap
        exact hclean.data map hmap
      · intro tasks htasks
        obtain rfl := Option.some.inj htasks
        have hold := hclean.tasks _ hcycle
        exact mem_set_clean hold
          ((hold _ (List.mem_of_getElem? htask)).complete hcomplete)
  | cycleRaised hcycle htask hcomplete =>
      refine ⟨hclean.data, ?_⟩
      intro tasks htasks
      cases htasks
  | timeOutDevice hcycle htask hcapped hphase hunfinished =>
      refine ⟨hclean.data, ?_⟩
      intro tasks htasks
      obtain rfl := Option.some.inj htasks
      have hold := hclean.tasks _ hcycle
      exact mem_set_clean hold (hold _ (List.mem_of_getElem? htask)).timeOut
  | finishCycle hcycle hfinished =>
      constructor
      · intro map hmap
        obtain rfl := Option.some.inj hmap
        exact finished_map_clean (hclean.tasks _ hcycle)
      · intro tasks htasks
        cases htasks
  | abortCycle hcycle =>
      refine ⟨hclean.data, ?_⟩
      intro tasks htasks
      cases htasks
  | beginAbandoned => exact ⟨hclean.data, hclean.tasks⟩
  | completeAbandoned htask hcomplete =>
      refine ⟨?_, hclean.tasks⟩
      intro map hmap
      rw [DeviceTask.complete_data_eq hcomplete] at hmap
      exact hclean.data map hmap
  | abandonedRaised => exact ⟨hclean.data, hclean.tasks⟩
  | startRefresh => exact ⟨hclean.data, hclean.tasks⟩
  | unknownRefresh => exact hclean
  | refreshDropped hrefresh haccepts hnoted =>
      refine ⟨?_, hclean.tasks⟩
      intro map hmap
      rw [hnoted.data] at hmap
      exact hclean.data map hmap
  | refreshPublished hrefresh haccepts =>
      refine ⟨?_, hclean.tasks⟩
      intro map hmap
      exact (world.coord.afterAccept _ _).publish_clean hclean.data _
        (accepts_clean haccepts) hmap
  | setTargets => exact ⟨hclean.data, hclean.tasks⟩

/-! ## The published map -/

/-- In every run, whatever the transport returns, every published section is
free of errors and NAKs and a non-empty QPIGS section is plausible. -/
theorem published_clean_of_run {devices : List DeviceTarget}
    {events : List Event} {final : World}
    (hrun : Run (graph World.step) (World.initial devices) events final)
    {map : DataMap} (hmap : final.coord.data = some map)
    {key : String} {device : DeviceData} (hdevice : map.get? key = some device)
    {name : SectionName} {value : Section}
    (hvalue : device.sections.get? name = some value) :
    value.contains "error" = false ∧
      hasNakStatus value = false ∧
      (name = .qpigs → value.isEmpty = false →
        isPlausibleQpigs value = .ok true) := by
  have hclean : final.Clean := by
    apply hrun.invariant World.Clean (World.initial_clean devices)
    intro before event after hbefore hstep
    exact hbefore.after_step hstep
  have hsection := hclean.data map hmap key device hdevice name value hvalue
  exact ⟨hsection.noError, hsection.noNak, hsection.withinBounds⟩

def inverterTarget : DeviceTarget :=
  ⟨"tcp://10.0.0.9:8899", "tcp://10.0.0.9:8899", "voltronic", "Inverter"⟩

def batteryReading : Section :=
  .ofPairs [("battery_voltage", .str "26.50"),
    ("battery_charging_current", .str "12")]

/-- A first cycle: a good QPIGS reading, a NAK, then nothing but failures. -/
def firstCycle : List Event :=
  let nak := .returned (some (.ofPairs [("status", .str "NAK")]))
  [.startCycle, .beginDevice 0 0,
    .completeRead 0 (.returned (some batteryReading)),
    .completeRead 0 nak, .completeRead 0 nak] ++
  .replicate 8 (.completeRead 0 .raised) ++ [.finishCycle]

def firstWorld : World :=
  (execute World.step (World.initial [inverterTarget]) firstCycle).get
    (by decide +kernel)

theorem published_clean_of_first_cycle :
    batteryReading.contains "error" = false ∧
      hasNakStatus batteryReading = false ∧
      (SectionName.qpigs = .qpigs → batteryReading.isEmpty = false →
        isPlausibleQpigs batteryReading = .ok true) := by
  have hrun : Run (graph World.step) (World.initial [inverterTarget])
      firstCycle firstWorld :=
    run_of_execute (Option.some_get _).symm
  have hmap : firstWorld.coord.data = some
      (firstWorld.coord.data.get (by decide +kernel)) :=
    (Option.some_get _).symm
  have hdevice : (firstWorld.coord.data.get (by decide +kernel)).get?
      inverterTarget.id =
        some (deviceOf firstWorld.coord.data inverterTarget.id) := by
    with_unfolding_all rfl
  have hvalue : (deviceOf firstWorld.coord.data
      inverterTarget.id).sections.get? .qpigs = some batteryReading := by
    with_unfolding_all rfl
  exact published_clean_of_run hrun hmap hdevice hvalue

end Direct
end DessMonitor
