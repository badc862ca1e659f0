import DessMonitor.DirectCoordinatorSteps
import DessMonitor.Foundation.ListUpdate

/-!
# The devices that are published

A cycle replaces the published map by one entry for each device that was a
target when it began, and a refresh adds the device it was asked for.  The
target list can be replaced at any moment, so a device that is removed stays
published until the first cycle that begins without it has ended, and no
longer.
-/

namespace DessMonitor
namespace Direct

open LabelledRun ListUpdate

def World.publishedKeys (world : World) : List String :=
  (world.coord.data.getD .empty).keys

/-- The devices of the running cycle, those of the cycle that published last,
and those refreshed since. -/
structure Roster where
  running : List String
  listed : List String
  refreshed : List String
  deriving DecidableEq

namespace Roster

def empty : Roster := ⟨[], [], []⟩

def observe (world : World) (event : Event) (roster : Roster) : Roster :=
  match event with
  | .startCycle =>
      { roster with running := world.coord.devices.map DeviceTarget.id }
  | .finishCycle =>
      { roster with listed := roster.running, refreshed := [] }
  | .completeRefresh index outcome =>
      match world.acceptedBy (.completeRefresh index outcome) with
      | some reading =>
          { roster with refreshed := roster.refreshed ++ [reading.key] }
      | none => roster
  | _ => roster

end Roster

/-! ## Keys of the published map -/

theorem mem_keys_publish {coord : Coordinator} {key other : String}
    {name : SectionName} {value : Section} :
    other ∈ ((coord.publish key name value).data.getD .empty).keys ↔
      other = key ∨ other ∈ (coord.data.getD .empty).keys :=
  Dict.mem_keys_set

theorem keys_of_finished {tasks : List DeviceTask}
    (hfinished : ∀ task ∈ tasks, task.isFinished = true) :
    (tasks.filterMap DeviceTask.published?).map Prod.fst =
      tasks.map fun task => task.target.id := by
  induction tasks with
  | nil => rfl
  | cons task tasks ih =>
      have hrest := ih fun other hmem =>
        hfinished other (List.mem_cons_of_mem task hmem)
      obtain ⟨⟨key, device⟩, hpublished⟩ :=
        Option.isSome_iff_exists.mp (hfinished task List.mem_cons_self)
      have hkey := target_of_published hpublished
      simp [hpublished, hrest, hkey]

/-! ## What a step lists -/

def World.cycleIds (world : World) : Option (List String) :=
  world.cycle.map fun tasks => tasks.map fun task => task.target.id

/-- The events a roster does not write down. -/
def Unlisted (world : World) (event : Event) : Prop :=
  match event with
  | .startCycle | .finishCycle => False
  | .completeRefresh index outcome =>
      world.acceptedBy (.completeRefresh index outcome) = none
  | _ => True

theorem Unlisted.observe {world : World} {event : Event}
    (hevent : Unlisted world event) (roster : Roster) :
    roster.observe world event = roster := by
  cases event with
  | completeRefresh index outcome =>
      simp only [Unlisted] at hevent
      simp [Roster.observe, hevent]
  | startCycle | finishCycle => cases hevent
  | _ => rfl

/-- The ways a step can change the devices of the running cycle and the keys
of the published map. -/
inductive Listing (world : World) (event : Event) (after : World) : Prop where
  | began (hevent : event = .startCycle)
      (hids : after.cycleIds = some (world.coord.devices.map DeviceTarget.id))
      (hkeys : after.publishedKeys = world.publishedKeys)
  | finished (ids : List String) (hevent : event = .finishCycle)
      (hids : world.cycleIds = some ids) (hnone : after.cycleIds = none)
      (hkeys : ∀ key, key ∈ after.publishedKeys ↔ key ∈ ids)
  | refreshed (refresh : Refresh) (hrefresh : refresh ∈ world.refreshes)
      (hobserve : ∀ roster : Roster, roster.observe world event =
        { roster with refreshed := roster.refreshed ++ [refresh.key] })
      (hids : after.cycleIds = world.cycleIds)
      (hkeys : ∀ key, key ∈ after.publishedKeys ↔
        key ∈ world.publishedKeys ∨ key = refresh.key)
  | other (hevent : Unlisted world event)
      (hids : after.cycleIds = none ∨ after.cycleIds = world.cycleIds)
      (hkeys : after.publishedKeys = world.publishedKeys)

section Steps

variable {world after : World} {event : Event} {roster : Roster}
  {key : String}

theorem cycleIds_of_replace {tasks : List DeviceTask} {index : ℕ}
    {task replacement : DeviceTask} (hcycle : world.cycle = some tasks)
    (htask : tasks[index]? = some task)
    (htarget : replacement.target = task.target)
    (hafter : after.cycle = some (tasks.set index replacement)) :
    after.cycleIds = world.cycleIds := by
  have hsame : ((tasks.set index replacement).map fun task =>
      task.target.id) = tasks.map fun task => task.target.id :=
    map_set_of_eq htask (by rw [htarget])
  simp [World.cycleIds, hcycle, hafter, hsame]

theorem publishedKeys_of_data (hdata : after.coord.data = world.coord.data) :
    after.publishedKeys = world.publishedKeys := by
  rw [World.publishedKeys, hdata, World.publishedKeys]

theorem Stepped.listing (hstepped : Stepped world event after) :
    Listing world event after := by
  cases hstepped with
  | startCycle hidle =>
      apply Listing.began rfl
      · simp [World.cycleIds, World.deviceTask, Function.comp_def]
      · rfl
  | @beginDevice _ _ task now hcycle htask hphase =>
      have htarget : (task.begin world.coord now).target = task.target := rfl
      apply Listing.other
      · simp [Unlisted]
      · exact .inr (cycleIds_of_replace hcycle htask htarget rfl)
      · rfl
  | completeRead hcycle htask hcomplete =>
      have htarget := DeviceTask.complete_target_eq hcomplete
      apply Listing.other
      · simp [Unlisted]
      · exact .inr (cycleIds_of_replace hcycle htask htarget rfl)
      · exact publishedKeys_of_data (DeviceTask.complete_data_eq hcomplete)
  | @timeOutDevice _ _ task hcycle htask =>
      have htarget : task.timeOut.target = task.target := rfl
      apply Listing.other
      · simp [Unlisted]
      · exact .inr (cycleIds_of_replace hcycle htask htarget rfl)
      · rfl
  | @finishCycle tasks hcycle hfinished =>
      apply Listing.finished (tasks.map fun task => task.target.id) rfl
      · simp [World.cycleIds, hcycle]
      · rfl
      · intro key
        simp [World.publishedKeys, Dict.mem_keys_ofPairs,
          keys_of_finished hfinished]
  | completeAbandoned htask hcomplete =>
      apply Listing.other
      · simp [Unlisted]
      · exact .inr rfl
      · exact publishedKeys_of_data (DeviceTask.complete_data_eq hcomplete)
  | refreshDropped hrefresh haccepts hnoted =>
      apply Listing.other
      · simp [Unlisted, World.acceptedBy, hrefresh, haccepts]
      · exact .inr rfl
      · exact publishedKeys_of_data hnoted.data
  | @refreshPublished index refresh outcome value hrefresh haccepts =>
      apply Listing.refreshed refresh
      · exact List.mem_of_getElem? hrefresh
      · intro roster
        simp [Roster.observe, World.acceptedBy, hrefresh, haccepts]
      · rfl
      · intro key
        rw [World.publishedKeys, mem_keys_publish, or_comm]
        rfl
  | _ =>
      apply Listing.other
      · simp [Unlisted]
      · simp [World.cycleIds]
      · rfl

/-! ## Exactly the listed and the refreshed devices -/

/-- The rows of the running cycle and of the published map. -/
structure Rostered (world : World) (roster : Roster) : Prop where
  ids : ∀ ids, world.cycleIds = some ids → ids = roster.running
  keys : ∀ key, key ∈ world.publishedKeys ↔
    key ∈ roster.listed ∨ key ∈ roster.refreshed

theorem Rostered.initial (devices : List DeviceTarget) :
    Rostered (.initial devices) .empty := by
  constructor
  · simp [World.initial, World.cycleIds]
  · simp [World.initial, World.publishedKeys, Coordinator.initial,
      Roster.empty, Dict.keys, Dict.empty]

theorem Rostered.after_step (hrostered : Rostered world roster)
    (hlisting : Listing world event after) :
    Rostered after (roster.observe world event) := by
  cases hlisting with
  | began hevent hids hkeys =>
      subst hevent
      constructor
      · simp [hids, Roster.observe]
      · simpa [hkeys, Roster.observe] using hrostered.keys
  | finished ids hevent hids hnone hkeys =>
      subst hevent
      constructor
      · simp [hnone]
      · simp [hkeys, Roster.observe, hrostered.ids ids hids]
  | refreshed refresh _ hobserve hids hkeys =>
      rw [hobserve]
      constructor
      · simpa [hids] using hrostered.ids
      · intro key
        simp [hkeys, hrostered.keys, or_assoc]
  | other hevent hids hkeys =>
      rw [hevent.observe]
      constructor
      · intro ids hsome
        rcases hids with hnone | hsame
        · rw [hnone] at hsome
          cases hsome
        · exact hrostered.ids ids (hsame ▸ hsome)
      · simpa [hkeys] using hrostered.keys

end Steps

/-- In every run a device is published exactly when it was a target at the
start of the last cycle that ended, or a refresh published it since. -/
theorem published_keys_of_run {devices : List DeviceTarget}
    {events : List Event} {final : World} {roster : Roster}
    (hrun : Run (tracked (graph World.step) Roster.observe)
      (World.initial devices, .empty) events (final, roster)) (key : String) :
    key ∈ final.publishedKeys ↔
      key ∈ roster.listed ∨ key ∈ roster.refreshed := by
  have hrostered : Rostered final roster := by
    apply hrun.invariant fun state => Rostered state.1 state.2
    · exact .initial devices
    · rintro ⟨world, roster⟩ event ⟨after, later⟩ hbefore ⟨hstep, rfl⟩
      exact hbefore.after_step (stepped_of_step hstep).listing
  exact hrostered.keys key

def firstChild : DeviceTarget :=
  ⟨"Q001", "eybond://0.0.0.0:8899?pn=Q001", "voltronic", "Roof"⟩

def secondChild : DeviceTarget :=
  ⟨"Q002", "eybond://0.0.0.0:8899?pn=Q002", "voltronic", "Garage"⟩

/-- Both devices time out, and the first is removed. -/
def firstRemoved : List Event :=
  [.startCycle, .beginDevice 0 0, .beginDevice 1 0, .timeOutDevice 0,
    .timeOutDevice 1, .finishCycle, .setTargets [secondChild]]

def firstRemovedRoster : World × Roster :=
  (execute (trackedNext World.step Roster.observe)
    (.initial [firstChild, secondChild], .empty) firstRemoved).get
    (by decide +kernel)

theorem firstRemoved_run :
    Run (tracked (graph World.step) Roster.observe)
      (.initial [firstChild, secondChild], .empty) firstRemoved
      (firstRemovedRoster.1, firstRemovedRoster.2) := by
  have hrun : Run (tracked (graph World.step) Roster.observe)
      (.initial [firstChild, secondChild], .empty) firstRemoved
      firstRemovedRoster :=
    tracked_run_of_execute (Option.some_get _).symm
  exact hrun

theorem published_keys_of_run_first_removed :
    "Q001" ∈ firstRemovedRoster.1.publishedKeys ↔
      "Q001" ∈ ["Q001", "Q002"] ∨ "Q001" ∈ ([] : List String) := by
  have hroster : firstRemovedRoster.2 =
      ⟨["Q001", "Q002"], ["Q001", "Q002"], []⟩ := by decide +kernel
  have hkeys := published_keys_of_run firstRemoved_run "Q001"
  rwa [hroster] at hkeys

/-! ## A removed device -/

/-- No new target list brings the device back. -/
def StaysOut (key : String) (_ : World) (event : Event) : Prop :=
  ∀ targets, event = .setTargets targets → ∀ target ∈ targets,
    target.id ≠ key

structure Removed (key : String) (world : World) : Prop where
  devices : ∀ target ∈ world.coord.devices, target.id ≠ key
  refreshes : ∀ refresh ∈ world.refreshes, refresh.key ≠ key

/-- The running cycle does not poll the device, either. -/
structure Unpolled (key : String) (world : World) : Prop
    extends Removed key world where
  cycle : ∀ ids, world.cycleIds = some ids → key ∉ ids

structure Unpublished (key : String) (world : World) : Prop
    extends Unpolled key world where
  published : key ∉ world.publishedKeys

section Removal

variable {world after : World} {event : Event} {key : String}

theorem Removed.after_step (hremoved : Removed key world)
    (hstepped : Stepped world event after) (hout : StaysOut key world event) :
    Removed key after := by
  cases hstepped with
  | completeRead _ _ hcomplete =>
      obtain ⟨_, _, _, _, _, _, hfetched, _⟩ :=
        DeviceTask.complete_eq_ok hcomplete
      exact ⟨hfetched.devices_eq ▸ hremoved.devices, hremoved.refreshes⟩
  | completeAbandoned _ hcomplete =>
      obtain ⟨_, _, _, _, _, _, hfetched, _⟩ :=
        DeviceTask.complete_eq_ok hcomplete
      exact ⟨hfetched.devices_eq ▸ hremoved.devices, hremoved.refreshes⟩
  | startRefresh hdevice =>
      obtain ⟨target, htarget, rfl⟩ := hdevice
      constructor
      · exact hremoved.devices
      · intro refresh hmem
        rcases List.mem_append.mp hmem with hold | hnew
        · exact hremoved.refreshes refresh hold
        · rw [List.mem_singleton] at hnew
          subst hnew
          exact hremoved.devices target htarget
  | refreshDropped _ _ hnoted =>
      constructor
      · exact hnoted.devices ▸ hremoved.devices
      · intro refresh hmem
        exact hremoved.refreshes refresh (List.mem_of_mem_eraseIdx hmem)
  | refreshPublished =>
      constructor
      · exact hremoved.devices
      · intro refresh hmem
        exact hremoved.refreshes refresh (List.mem_of_mem_eraseIdx hmem)
  | setTargets targets => exact ⟨hout targets rfl, hremoved.refreshes⟩
  | _ => exact ⟨hremoved.devices, hremoved.refreshes⟩

theorem Removed.startCycle (hremoved : Removed key world)
    (hstepped : Stepped world .startCycle after) : Unpolled key after := by
  have hafter := hremoved.after_step hstepped (by simp [StaysOut])
  constructor
  · exact hafter
  · intro ids hids hmem
    cases hstepped
    simp only [World.cycleIds, Option.map_some, Option.some.injEq] at hids
    subst hids
    obtain ⟨target, htarget, hid⟩ := by
      simpa [World.deviceTask] using hmem
    exact hremoved.devices target htarget hid

theorem Unpolled.after_step (hunpolled : Unpolled key world)
    (hstepped : Stepped world event after) (hout : StaysOut key world event) :
    Unpolled key after := by
  have hafter := hunpolled.toRemoved.after_step hstepped hout
  cases hstepped.listing with
  | began hevent =>
      subst hevent
      exact hunpolled.toRemoved.startCycle hstepped
  | finished ids _ _ hnone => exact ⟨hafter, by simp [hnone]⟩
  | refreshed _ _ _ hids => exact ⟨hafter, by simpa [hids] using hunpolled.cycle⟩
  | other _ hids =>
      rcases hids with hnone | hsame
      · exact ⟨hafter, by simp [hnone]⟩
      · exact ⟨hafter, by simpa [hsame] using hunpolled.cycle⟩

theorem Unpolled.finishCycle (hunpolled : Unpolled key world)
    (hstepped : Stepped world .finishCycle after) : Unpublished key after := by
  have hafter := hunpolled.after_step hstepped (by simp [StaysOut])
  constructor
  · exact hafter
  · cases hstepped.listing with
    | began hevent => cases hevent
    | finished ids _ hids _ hkeys =>
        rw [hkeys]
        exact hunpolled.cycle ids hids
    | refreshed _ _ hobserve =>
        have hrefreshed := congrArg Roster.refreshed (hobserve ⟨[], [], []⟩)
        simp [Roster.observe] at hrefreshed
    | other hevent => cases hevent

theorem Unpublished.after_step (hunpublished : Unpublished key world)
    (hstepped : Stepped world event after) (hout : StaysOut key world event) :
    Unpublished key after := by
  have hafter := hunpublished.toUnpolled.after_step hstepped hout
  constructor
  · exact hafter
  · cases hstepped.listing with
    | began _ _ hkeys => rw [hkeys]; exact hunpublished.published
    | finished ids _ hids _ hkeys =>
        rw [hkeys]
        exact hunpublished.cycle ids hids
    | refreshed refresh hmem _ _ hkeys =>
        rw [hkeys, not_or]
        exact ⟨hunpublished.published,
          (hunpublished.refreshes refresh hmem).symm⟩
    | other _ _ hkeys => rw [hkeys]; exact hunpublished.published

end Removal

/-- A device that is no target, with no refresh under way, is gone for good
once a cycle that began afterwards has ended, whatever else happens. -/
theorem removed_device_leaves {key : String} {world final : World}
    {waiting polling rest : List Event}
    (hdevices : ∀ target ∈ world.coord.devices, target.id ≠ key)
    (hrefreshes : ∀ refresh ∈ world.refreshes, refresh.key ≠ key)
    (hrun : Run (guarded (graph World.step) (StaysOut key)) world
      (waiting ++ .startCycle :: (polling ++ .finishCycle :: rest)) final) :
    key ∉ final.publishedKeys := by
  obtain ⟨idle, begun, hwaiting, ⟨hstart, -⟩, hbegun⟩ := hrun.split
  obtain ⟨done, ended, hpolling, ⟨hfinish, -⟩, hrest⟩ := hbegun.split
  have hidle : Removed key idle := by
    apply hwaiting.invariant (Removed key) ⟨hdevices, hrefreshes⟩
    rintro before event after hbefore ⟨hstep, hout⟩
    exact hbefore.after_step (stepped_of_step hstep) hout
  have hdone : Unpolled key done := by
    apply hpolling.invariant (Unpolled key)
    · exact hidle.startCycle (stepped_of_step hstart)
    · rintro before event after hbefore ⟨hstep, hout⟩
      exact hbefore.after_step (stepped_of_step hstep) hout
  have hfinal : Unpublished key final := by
    apply hrest.invariant (Unpublished key)
    · exact hdone.finishCycle (stepped_of_step hfinish)
    · rintro before event after hbefore ⟨hstep, hout⟩
      exact hbefore.after_step (stepped_of_step hstep) hout
  exact hfinal.published

/-- One cycle that reads nothing, without the first device. -/
def failedReads : List Event :=
  [.beginDevice 0 1, .completeRead 0 .raised, .completeRead 0 .raised]

def withoutFirst : List Event :=
  [] ++ .startCycle :: (failedReads ++ .finishCycle :: [])

def withoutFirstWorld : World :=
  (execute World.step firstRemovedRoster.1 withoutFirst).get
    (by decide +kernel)

theorem removed_device_leaves_first :
    "Q001" ∈ firstRemovedRoster.1.publishedKeys ∧
      "Q001" ∉ withoutFirstWorld.publishedKeys := by
  have hrun : Run (graph World.step) firstRemovedRoster.1 withoutFirst
      withoutFirstWorld :=
    run_of_execute (Option.some_get _).symm
  have hallowed : ∀ event ∈ withoutFirst, ∀ targets,
      event = .setTargets targets → ∀ target ∈ targets,
        target.id ≠ "Q001" := by
    simp [withoutFirst, failedReads]
  have hguarded : Run (guarded (graph World.step) (StaysOut "Q001"))
      firstRemovedRoster.1 withoutFirst withoutFirstWorld :=
    hrun.guard hallowed
  constructor
  · decide +kernel
  · exact removed_device_leaves (by decide +kernel) (by decide +kernel)
      hguarded

end Direct
end DessMonitor
