import DessMonitor.DirectCoordinatorModel

/-!
# What one step of the coordinator can do

Inversion rules for the coordinator: which verdicts a read can have, and which
changes an event can make to the world.  Every invariant of the coordinator is
a case analysis over these rules.
-/

namespace DessMonitor
namespace Direct

open LabelledRun

/-! ## Counting NAKs -/

/-- NAK bookkeeping touches nothing that is published. -/
structure Noted (before after : Coordinator) : Prop where
  devices : after.devices = before.devices
  data : after.data = before.data
  failures : after.failures = before.failures
  cycle : after.cycle = before.cycle
  unsupported : before.unsupported ⊆ after.unsupported

theorem Noted.refl (coord : Coordinator) : Noted coord coord := by
  constructor <;> simp

theorem Coordinator.noteNak_noted (coord : Coordinator) (key : String)
    (command : Command) : Noted coord (coord.noteNak key command).1 := by
  unfold Coordinator.noteNak
  split
  · exact Noted.refl coord
  · dsimp only
    split
    · constructor <;> simp
    · constructor <;> simp

theorem Coordinator.noteNak_suppressed (coord : Coordinator) (key : String)
    (command : Command)
    (hsuppressed : (coord.noteNak key command).2 = true) :
    (key, command) ∈ (coord.noteNak key command).1.unsupported := by
  unfold Coordinator.noteNak at hsuppressed ⊢
  split at hsuppressed
  next hmem =>
    rw [if_pos hmem]
    simpa [Coordinator.isUnsupported] using hmem
  next hmem =>
    rw [if_neg hmem]
    dsimp only at hsuppressed ⊢
    split at hsuppressed
    next hcount => simp [hcount]
    next => simp at hsuppressed

/-! ## Accepting a reading -/

def Coordinator.afterAccept (coord : Coordinator) (key : String)
    (command : Command) : Coordinator :=
  (coord.clearNakStreak key command).recordSuccess key command

/-- The section the checks let through, if any. -/
def Coordinator.accepts (coord : Coordinator) (key : String)
    (command : Command) (outcome : Outcome) : Option Section :=
  match outcome.result with
  | none => none
  | some result =>
      match coord.acceptResult key command result with
      | .ok (_, accepted) => accepted
      | .error _ => none

/-- No error, no NAK, and plausible when it is a QPIGS reading. -/
structure CleanSection (name : SectionName) (value : Section) : Prop where
  noError : value.contains "error" = false
  noNak : hasNakStatus value = false
  withinBounds : name = .qpigs → value.isEmpty = false →
    isPlausibleQpigs value = .ok true

theorem CleanSection.empty (name : SectionName) :
    CleanSection name .empty := by
  refine ⟨rfl, rfl, ?_⟩
  intro _ hnonempty
  exact absurd hnonempty (by decide)

theorem acceptResult_cases {coord after : Coordinator} {key : String}
    {command : Command} {result : Section} {accepted : Option Section}
    (haccept : coord.acceptResult key command result =
      .ok (after, accepted)) :
    (accepted = some result ∧ after = coord.afterAccept key command ∧
      CleanSection command.sectionName result ∧ result.isEmpty = false) ∨
    (accepted = none ∧ Noted coord after) := by
  unfold Coordinator.acceptResult at haccept
  by_cases hnak : isNakResult result = true
  · right
    simp only [hnak, if_true] at haccept
    obtain ⟨rfl, rfl⟩ := Prod.mk.inj (Except.ok.inj haccept)
    exact ⟨rfl, coord.noteNak_noted key command⟩
  by_cases herror : isErrorResult (some result) = true
  · right
    simp only [hnak, herror, if_true] at haccept
    obtain ⟨rfl, rfl⟩ := Prod.mk.inj (Except.ok.inj haccept)
    exact ⟨rfl, Noted.refl coord⟩
  obtain ⟨hnonempty, hnoError, hnoNak⟩ :=
    isErrorResult_eq_false (Bool.eq_false_iff.mpr herror)
  simp only [hnak, herror] at haccept
  by_cases hqpigs : command = .qpigs
  · subst hqpigs
    simp only [if_true] at haccept
    cases hbounds : isPlausibleQpigs result with
    | error _ => simp [hbounds, bind, Except.bind] at haccept
    | ok inBounds =>
        cases inBounds with
        | false =>
            right
            simp only [hbounds] at haccept
            obtain ⟨rfl, rfl⟩ := Prod.mk.inj (Except.ok.inj haccept)
            exact ⟨rfl, Noted.refl coord⟩
        | true =>
            left
            simp only [hbounds] at haccept
            obtain ⟨rfl, rfl⟩ := Prod.mk.inj (Except.ok.inj haccept)
            exact ⟨rfl, rfl, ⟨hnoError, hnoNak, fun _ _ => hbounds⟩,
              hnonempty⟩
  · left
    simp only [if_neg hqpigs] at haccept
    obtain ⟨rfl, rfl⟩ := Prod.mk.inj (Except.ok.inj haccept)
    refine ⟨rfl, rfl, ⟨hnoError, hnoNak, fun hname => ?_⟩, hnonempty⟩
    exact absurd (Command.sectionName_injective hname) hqpigs

theorem accepts_clean {coord : Coordinator} {key : String}
    {command : Command} {outcome : Outcome} {value : Section}
    (haccepts : coord.accepts key command outcome = some value) :
    CleanSection command.sectionName value := by
  unfold Coordinator.accepts at haccepts
  split at haccepts
  next => cases haccepts
  next result _ =>
    split at haccepts
    next after accepted haccept =>
      subst haccepts
      rcases acceptResult_cases haccept with ⟨heq, _, hclean, _⟩ | ⟨heq, _⟩
      · obtain rfl := Option.some.inj heq
        exact hclean
      · cases heq
    next => cases haccepts

/-! ## Verdicts of a read -/

/-- The ways one attempt of `fetch_with_retry` can end. -/
inductive Fetched (coord : Coordinator) (key : String) (command : Command)
    (attempt : ℕ) (prevSection : Section) (outcome : Outcome) :
    Coordinator → Option Section → Prop where
  | accepted {value : Section}
      (haccepts : coord.accepts key command outcome = some value) :
      Fetched coord key command attempt prevSection outcome
        (coord.afterAccept key command) (some value)
  | suppressed {noted : Coordinator}
      (haccepts : coord.accepts key command outcome = none)
      (hnoted : Noted coord noted)
      (hmem : (key, command) ∈ noted.unsupported) :
      Fetched coord key command attempt prevSection outcome noted
        (some (withoutError prevSection))
  | retried {noted : Coordinator}
      (haccepts : coord.accepts key command outcome = none)
      (hnoted : Noted coord noted) (hattempt : attempt = 0) :
      Fetched coord key command attempt prevSection outcome noted none
  | failed {noted : Coordinator}
      (haccepts : coord.accepts key command outcome = none)
      (hnoted : Noted coord noted) (hattempt : attempt ≠ 0) :
      Fetched coord key command attempt prevSection outcome
        (noted.recordFailure key command).1
        (some
          (if noted.failures.count key command + 1 <
              noted.failures.maxConsecutive then
            withoutError prevSection
          else .empty))

theorem fetched_of_attemptFailed {coord noted : Coordinator} {key : String}
    {command : Command} {outcome : Outcome} (attempt : ℕ)
    (prevSection : Section)
    (haccepts : coord.accepts key command outcome = none)
    (hnoted : Noted coord noted) :
    Fetched coord key command attempt prevSection outcome
      (noted.attemptFailed key command attempt prevSection).1
      (noted.attemptFailed key command attempt prevSection).2 := by
  unfold Coordinator.attemptFailed
  by_cases hattempt : attempt = 0
  · rw [if_pos hattempt]
    exact .retried haccepts hnoted hattempt
  · rw [if_neg hattempt]
    dsimp only
    rw [FailureTracker.resolve_section]
    exact .failed haccepts hnoted hattempt

theorem fetched_of_fetchAttempt {coord after : Coordinator} {key : String}
    {command : Command} {attempt : ℕ} {prevSection : Section}
    {outcome : Outcome} {value : Option Section}
    (hfetch : coord.fetchAttempt key command attempt prevSection outcome =
      .ok (after, value)) :
    Fetched coord key command attempt prevSection outcome after value := by
  unfold Coordinator.fetchAttempt at hfetch
  cases hresult : outcome.result with
  | none =>
      have haccepts : coord.accepts key command outcome = none := by
        simp [Coordinator.accepts, hresult]
      simp only [hresult, Except.ok.injEq] at hfetch
      have hfetched := fetched_of_attemptFailed attempt prevSection
        haccepts (Noted.refl coord)
      rwa [hfetch] at hfetched
  | some result =>
      simp only [hresult] at hfetch
      by_cases hnak : isNakResult result = true
      · have haccepts : coord.accepts key command outcome = none := by
          simp [Coordinator.accepts, hresult, Coordinator.acceptResult, hnak,
            pure, Except.pure]
        have hnoted := coord.noteNak_noted key command
        rw [if_pos hnak] at hfetch
        by_cases hsuppressed : (coord.noteNak key command).2 = true
        · have hmem := coord.noteNak_suppressed key command hsuppressed
          simp only [hsuppressed, if_true] at hfetch
          obtain ⟨rfl, rfl⟩ := Prod.mk.inj (Except.ok.inj hfetch)
          exact .suppressed haccepts hnoted hmem
        · simp only [hsuppressed] at hfetch
          have hfetched := fetched_of_attemptFailed attempt prevSection
            haccepts hnoted
          rwa [Except.ok.inj hfetch] at hfetched
      · rw [if_neg hnak] at hfetch
        cases haccept : coord.acceptResult key command result with
        | error _ => simp [haccept, bind, Except.bind] at hfetch
        | ok verdict =>
            rcases verdict with ⟨judged, accepted⟩
            have haccepts : coord.accepts key command outcome = accepted := by
              simp [Coordinator.accepts, hresult, haccept]
            simp only [haccept, bind, Except.bind] at hfetch
            rcases acceptResult_cases haccept with
              ⟨rfl, rfl, -, -⟩ | ⟨rfl, hnoted⟩
            · obtain ⟨rfl, rfl⟩ := Prod.mk.inj (Except.ok.inj hfetch)
              exact .accepted haccepts
            · have hfetched := fetched_of_attemptFailed attempt prevSection
                haccepts hnoted
              rwa [Except.ok.inj hfetch] at hfetched

theorem DeviceTask.complete_eq_ok {task resumed : DeviceTask}
    {coord after : Coordinator} {outcome : Outcome}
    (hcomplete : task.complete coord outcome = some (.ok (after, resumed))) :
    ∃ entry attempt todo sections value,
      task.phase = .reading entry attempt todo sections ∧
      Fetched coord task.target.id entry.command attempt
        (task.prev.getSection entry.name) outcome after value ∧
      resumed = task.resume after entry todo sections value := by
  unfold DeviceTask.complete at hcomplete
  split at hcomplete
  next entry attempt todo sections hphase =>
    have hbind := Option.some.inj hcomplete
    cases hfetch : coord.fetchAttempt task.target.id entry.command attempt
        (task.prev.getSection entry.name) outcome with
    | error _ => simp [hfetch, bind, Except.bind] at hbind
    | ok pair =>
        rcases pair with ⟨fetched, value⟩
        simp only [hfetch, bind, Except.bind, pure, Except.pure,
          Except.ok.injEq, Prod.mk.injEq] at hbind
        obtain ⟨rfl, rfl⟩ := hbind
        exact ⟨entry, attempt, todo, sections, value, hphase,
          fetched_of_fetchAttempt hfetch, rfl⟩
  next => cases hcomplete

/-- A read that raises accepts nothing. -/
theorem DeviceTask.complete_eq_error {task : DeviceTask}
    {coord : Coordinator} {outcome : Outcome} {error : Uncaught}
    (hcomplete : task.complete coord outcome = some (.error error)) :
    ∃ entry attempt todo sections,
      task.phase = .reading entry attempt todo sections ∧
      coord.accepts task.target.id entry.command outcome = none := by
  unfold DeviceTask.complete at hcomplete
  split at hcomplete
  next entry attempt todo sections hphase =>
    refine ⟨entry, attempt, todo, sections, hphase, ?_⟩
    have hbind := Option.some.inj hcomplete
    unfold Coordinator.fetchAttempt at hbind
    cases hresult : outcome.result with
    | none => simp [hresult, bind, Except.bind, pure, Except.pure] at hbind
    | some result =>
        simp only [hresult] at hbind
        by_cases hnak : isNakResult result = true
        · simp only [hnak, if_true] at hbind
          split at hbind <;> cases hbind
        · rw [if_neg hnak] at hbind
          cases haccept : coord.acceptResult task.target.id entry.command
              result with
          | error _ => simp [Coordinator.accepts, hresult, haccept]
          | ok verdict =>
              rcases verdict with ⟨judged, accepted⟩
              cases accepted <;>
                simp [haccept, bind, Except.bind, pure, Except.pure] at hbind
  next => cases hcomplete

theorem recordFailure_count (coord : Coordinator) (key : String)
    (command : Command) :
    (coord.recordFailure key command).1.failures.count key command =
      coord.failures.count key command + 1 := by
  simp [Coordinator.recordFailure, FailureTracker.onFailure]

/-! ## What a read leaves alone -/

theorem Fetched.data_eq {coord after : Coordinator} {key : String}
    {command : Command} {attempt : ℕ} {prevSection : Section}
    {outcome : Outcome} {value : Option Section}
    (hfetched : Fetched coord key command attempt prevSection outcome after
      value) : after.data = coord.data := by
  cases hfetched with
  | accepted => rfl
  | suppressed _ hnoted => exact hnoted.data
  | retried _ hnoted => exact hnoted.data
  | failed _ hnoted => exact hnoted.data

theorem Fetched.cycle_eq {coord after : Coordinator} {key : String}
    {command : Command} {attempt : ℕ} {prevSection : Section}
    {outcome : Outcome} {value : Option Section}
    (hfetched : Fetched coord key command attempt prevSection outcome after
      value) : after.cycle = coord.cycle := by
  cases hfetched with
  | accepted => rfl
  | suppressed _ hnoted => exact hnoted.cycle
  | retried _ hnoted => exact hnoted.cycle
  | failed _ hnoted => exact hnoted.cycle

theorem Fetched.devices_eq {coord after : Coordinator} {key : String}
    {command : Command} {attempt : ℕ} {prevSection : Section}
    {outcome : Outcome} {value : Option Section}
    (hfetched : Fetched coord key command attempt prevSection outcome after
      value) : after.devices = coord.devices := by
  cases hfetched with
  | accepted => rfl
  | suppressed _ hnoted => exact hnoted.devices
  | retried _ hnoted => exact hnoted.devices
  | failed _ hnoted => exact hnoted.devices

theorem Fetched.maxConsecutive {coord after : Coordinator}
    {key : String} {command : Command} {attempt : ℕ}
    {prevSection : Section} {outcome : Outcome} {value : Option Section}
    (hfetched : Fetched coord key command attempt prevSection outcome after
      value) :
    after.failures.maxConsecutive = coord.failures.maxConsecutive := by
  cases hfetched with
  | accepted => rfl
  | suppressed _ hnoted => rw [hnoted.failures]
  | retried _ hnoted => rw [hnoted.failures]
  | @failed noted _ hnoted _ =>
      have hfailures := congrArg FailureTracker.maxConsecutive hnoted.failures
      exact hfailures

theorem DeviceTask.complete_data_eq {task resumed : DeviceTask}
    {coord after : Coordinator} {outcome : Outcome}
    (hcomplete : task.complete coord outcome = some (.ok (after, resumed))) :
    after.data = coord.data := by
  obtain ⟨_, _, _, _, _, _, hfetched, _⟩ := task.complete_eq_ok hcomplete
  exact hfetched.data_eq

theorem DeviceTask.complete_target_eq {task resumed : DeviceTask}
    {coord after : Coordinator} {outcome : Outcome}
    (hcomplete : task.complete coord outcome = some (.ok (after, resumed))) :
    resumed.target = task.target := by
  obtain ⟨_, _, _, _, value, _, _, rfl⟩ := task.complete_eq_ok hcomplete
  cases value <;> rfl

/-! ## Invariants of the schedule loop -/

/-- An invariant of the commands still to do and the sections built so far,
read off a task's phase. -/
def TaskPhase.Holds (Inv : List ScheduleEntry → DeviceData → Prop) :
    TaskPhase → Prop
  | .created => True
  | .reading entry _ todo sections => Inv (entry :: todo) sections
  | .finished published => Inv [] published

theorem TaskPhase.Holds.mono {Inv Inv' : List ScheduleEntry → DeviceData → Prop}
    {phase : TaskPhase} (hholds : phase.Holds Inv)
    (hmono : ∀ todo sections, Inv todo sections → Inv' todo sections) :
    phase.Holds Inv' := by
  cases phase with
  | created => trivial
  | reading entry attempt todo sections => exact hmono _ _ hholds
  | finished published => exact hmono _ _ hholds

/-- The section the loop records for an entry it does not send. -/
def DeviceTask.Skips (task : DeviceTask) (coord : Coordinator)
    (entry : ScheduleEntry) (value : Section) : Prop :=
  (task.cycle % entry.cadence ≠ 0 ∧
    value = task.prev.getSection entry.name) ∨
  ((task.target.id, entry.command) ∈ coord.unsupported ∧
    value = withoutError (task.prev.getSection entry.name))

theorem DeviceTask.advance_holds {task : DeviceTask} {coord : Coordinator}
    {Inv : List ScheduleEntry → DeviceData → Prop}
    (hskip : ∀ entry todo sections value,
      Inv (entry :: todo) sections → task.Skips coord entry value →
        Inv todo (sections.setSection entry.name value))
    {todo : List ScheduleEntry} {sections : DeviceData}
    (hinv : Inv todo sections) :
    (task.advance coord todo sections).Holds Inv := by
  induction todo generalizing sections with
  | nil => exact hinv
  | cons entry todo ih =>
      unfold DeviceTask.advance
      by_cases hdue : task.cycle % entry.cadence = 0
      · simp only [if_pos hdue]
        by_cases hunsupported :
            coord.isUnsupported task.target.id entry.command = true
        · rw [if_pos hunsupported]
          apply ih
          apply hskip _ _ _ _ hinv
          exact .inr ⟨by simpa [Coordinator.isUnsupported] using hunsupported,
            rfl⟩
        · rw [if_neg hunsupported]
          exact hinv
      · simp only [if_neg hdue]
        apply ih
        exact hskip _ _ _ _ hinv (.inl ⟨hdue, rfl⟩)

theorem DeviceTask.resume_holds {task : DeviceTask} {coord : Coordinator}
    {Inv : List ScheduleEntry → DeviceData → Prop}
    (hskip : ∀ entry todo sections value,
      Inv (entry :: todo) sections → task.Skips coord entry value →
        Inv todo (sections.setSection entry.name value))
    {entry : ScheduleEntry} {todo : List ScheduleEntry}
    {sections : DeviceData} {value : Option Section}
    (hinv : Inv (entry :: todo) sections)
    (hvalue : ∀ section', value = some section' →
      Inv todo (sections.setSection entry.name section')) :
    (task.resume coord entry todo sections value).phase.Holds Inv := by
  cases value with
  | none => exact hinv
  | some section' => exact task.advance_holds hskip (hvalue section' rfl)

/-! ## Steps of the world -/

theorem deviceOf_publish_self (coord : Coordinator) (key : String)
    (name : SectionName) (value : Section) :
    (deviceOf (coord.publish key name value).data key).getSection name =
      value := by
  unfold Coordinator.publish deviceOf
  rw [Option.getD_some, Dict.get?_set_self, Option.getD_some,
    DeviceData.getSection_setSection_self]

theorem deviceOf_publish_of_ne (coord : Coordinator) {key other : String}
    {name otherName : SectionName} (hne : (key, name) ≠ (other, otherName))
    (value : Section) :
    (deviceOf (coord.publish other otherName value).data key).getSection name =
      (deviceOf coord.data key).getSection name := by
  unfold Coordinator.publish deviceOf
  rw [Option.getD_some, Dict.get?_set]
  by_cases hkey : key = other
  · subst hkey
    have hname : name ≠ otherName := fun heq => hne (by rw [heq])
    rw [if_pos rfl, Option.getD_some,
      DeviceData.getSection_setSection_of_ne _ hname]
  · rw [if_neg hkey]

theorem target_of_published {task : DeviceTask} {key : String}
    {device : DeviceData} (hpublished : task.published? = some (key, device)) :
    task.target.id = key := by
  unfold DeviceTask.published? at hpublished
  split at hpublished
  next => exact (Prod.mk.inj (Option.some.inj hpublished)).1
  next => cases hpublished

/-- The reading an event makes the coordinator accept. -/
structure Reading where
  key : String
  command : Command
  value : Section

def DeviceTask.acceptedBy (task : DeviceTask) (coord : Coordinator)
    (outcome : Outcome) : Option Reading :=
  match task.phase with
  | .reading entry _ _ _ =>
      (coord.accepts task.target.id entry.command outcome).map
        (⟨task.target.id, entry.command, ·⟩)
  | _ => none

def World.acceptedBy (world : World) : Event → Option Reading
  | .completeRead index outcome => do
      let tasks ← world.cycle
      let task ← tasks[index]?
      task.acceptedBy world.coord outcome
  | .completeAbandoned index outcome => do
      let task ← world.abandoned[index]?
      task.acceptedBy world.coord outcome
  | .completeRefresh index outcome => do
      let refresh ← world.refreshes[index]?
      (world.coord.accepts refresh.key refresh.command outcome).map
        (⟨refresh.key, refresh.command, ·⟩)
  | _ => none

/-- The device whose task an event times out. -/
def World.timedOutBy (world : World) : Event → Option String
  | .timeOutDevice index => do
      let tasks ← world.cycle
      let task ← tasks[index]?
      some task.target.id
  | _ => none

inductive Stepped (world : World) : Event → World → Prop where
  | startCycle (hidle : world.cycle = none) :
      Stepped world .startCycle
        { world with cycle := some (world.coord.devices.map world.deviceTask) }
  | beginDevice {tasks : List DeviceTask} {index : ℕ} {task : DeviceTask}
      {now : ℤ} (hcycle : world.cycle = some tasks)
      (htask : tasks[index]? = some task) (hphase : task.phase = .created) :
      Stepped world (.beginDevice index now)
        { world with
          cycle := some (tasks.set index (task.begin world.coord now)) }
  | completeRead {tasks : List DeviceTask} {index : ℕ}
      {task resumed : DeviceTask} {coord : Coordinator} {outcome : Outcome}
      (hcycle : world.cycle = some tasks)
      (htask : tasks[index]? = some task)
      (hcomplete : task.complete world.coord outcome =
        some (.ok (coord, resumed))) :
      Stepped world (.completeRead index outcome)
        { world with coord := coord, cycle := some (tasks.set index resumed) }
  | cycleRaised {tasks : List DeviceTask} {index : ℕ} {task : DeviceTask}
      {outcome : Outcome} {error : Uncaught}
      (hcycle : world.cycle = some tasks)
      (htask : tasks[index]? = some task)
      (hcomplete : task.complete world.coord outcome = some (.error error)) :
      Stepped world (.completeRead index outcome)
        { world with
          cycle := none
          abandoned := world.abandoned ++ tasks.eraseIdx index }
  | timeOutDevice {tasks : List DeviceTask} {index : ℕ} {task : DeviceTask}
      (hcycle : world.cycle = some tasks)
      (htask : tasks[index]? = some task) (hcapped : task.capped = true)
      (hphase : task.phase ≠ .created) (hunfinished : task.published? = none) :
      Stepped world (.timeOutDevice index)
        { world with cycle := some (tasks.set index task.timeOut) }
  | finishCycle {tasks : List DeviceTask}
      (hcycle : world.cycle = some tasks)
      (hfinished : ∀ task ∈ tasks, task.isFinished = true) :
      Stepped world .finishCycle
        { world with
          coord := { world.coord with
            data := some (Dict.ofPairs (tasks.filterMap DeviceTask.published?))
            cycle := world.coord.cycle + 1 }
          cycle := none }
  | abortCycle {tasks : List DeviceTask} (hcycle : world.cycle = some tasks) :
      Stepped world .abortCycle { world with cycle := none }
  | beginAbandoned {index : ℕ} {task : DeviceTask} {now : ℤ}
      (htask : world.abandoned[index]? = some task)
      (hphase : task.phase = .created) :
      Stepped world (.beginAbandoned index now)
        { world with
          abandoned :=
            world.abandoned.set index (task.begin world.coord now) }
  | completeAbandoned {index : ℕ} {task resumed : DeviceTask}
      {coord : Coordinator} {outcome : Outcome}
      (htask : world.abandoned[index]? = some task)
      (hcomplete : task.complete world.coord outcome =
        some (.ok (coord, resumed))) :
      Stepped world (.completeAbandoned index outcome)
        { world with
          coord := coord
          abandoned := world.abandoned.set index resumed }
  | abandonedRaised {index : ℕ} {task : DeviceTask} {outcome : Outcome}
      {error : Uncaught} (htask : world.abandoned[index]? = some task)
      (hcomplete : task.complete world.coord outcome = some (.error error)) :
      Stepped world (.completeAbandoned index outcome)
        { world with abandoned := world.abandoned.eraseIdx index }
  | startRefresh {key : String} {command : Command}
      (hdevice : ∃ target ∈ world.coord.devices, target.id = key) :
      Stepped world (.startRefresh key command)
        { world with refreshes := world.refreshes ++ [⟨key, command⟩] }
  | unknownRefresh {key : String} {command : Command} :
      Stepped world (.startRefresh key command) world
  | refreshDropped {index : ℕ} {refresh : Refresh} {outcome : Outcome}
      {coord : Coordinator} (hrefresh : world.refreshes[index]? = some refresh)
      (haccepts : world.coord.accepts refresh.key refresh.command outcome =
        none)
      (hnoted : Noted world.coord coord) :
      Stepped world (.completeRefresh index outcome)
        { world with
          coord := coord
          refreshes := world.refreshes.eraseIdx index }
  | refreshPublished {index : ℕ} {refresh : Refresh} {outcome : Outcome}
      {value : Section} (hrefresh : world.refreshes[index]? = some refresh)
      (haccepts : world.coord.accepts refresh.key refresh.command outcome =
        some value) :
      Stepped world (.completeRefresh index outcome)
        { world with
          coord :=
            (world.coord.afterAccept refresh.key refresh.command).publish
              refresh.key refresh.command.sectionName value
          refreshes := world.refreshes.eraseIdx index }
  | setTargets (targets : List DeviceTarget) :
      Stepped world (.setTargets targets)
        { world with coord := world.coord.setTargets targets }

theorem Stepped.maxConsecutive {world after : World} {event : Event}
    (hstepped : Stepped world event after) :
    after.coord.failures.maxConsecutive =
      world.coord.failures.maxConsecutive := by
  cases hstepped with
  | completeRead _ _ hcomplete =>
      obtain ⟨_, _, _, _, _, _, hfetched, _⟩ :=
        DeviceTask.complete_eq_ok hcomplete
      exact hfetched.maxConsecutive
  | completeAbandoned _ hcomplete =>
      obtain ⟨_, _, _, _, _, _, hfetched, _⟩ :=
        DeviceTask.complete_eq_ok hcomplete
      exact hfetched.maxConsecutive
  | refreshDropped _ _ hnoted => rw [hnoted.failures]
  | _ => rfl

theorem stepped_of_completeRefresh {world after : World} {index : ℕ}
    {outcome : Outcome}
    (hstep : world.completeRefresh index outcome = some after) :
    Stepped world (.completeRefresh index outcome) after := by
  unfold World.completeRefresh at hstep
  simp only [Option.bind_eq_bind, Option.bind_eq_some_iff] at hstep
  obtain ⟨refresh, hrefresh, hstep⟩ := hstep
  cases hresult : outcome.result with
  | none =>
      simp only [hresult, Option.some.injEq] at hstep
      subst hstep
      exact .refreshDropped hrefresh
        (by simp [Coordinator.accepts, hresult]) (Noted.refl _)
  | some result =>
      simp only [hresult] at hstep
      by_cases hempty : result.isEmpty = true
      · simp only [hempty, if_true, Option.some.injEq] at hstep
        subst hstep
        refine .refreshDropped hrefresh ?_ (Noted.refl _)
        cases haccept : world.coord.acceptResult refresh.key refresh.command
            result with
        | error _ => simp [Coordinator.accepts, hresult, haccept]
        | ok verdict =>
            rcases verdict with ⟨judged, accepted⟩
            rcases acceptResult_cases haccept with
              ⟨_, _, _, hnonempty⟩ | ⟨rfl, _⟩
            · rw [hempty] at hnonempty
              cases hnonempty
            · simp [Coordinator.accepts, hresult, haccept]
      · rw [if_neg hempty] at hstep
        cases haccept : world.coord.acceptResult refresh.key refresh.command
            result with
        | error _ =>
            simp only [haccept, Option.some.injEq] at hstep
            subst hstep
            exact .refreshDropped hrefresh
              (by simp [Coordinator.accepts, hresult, haccept])
              (Noted.refl _)
        | ok verdict =>
            rcases verdict with ⟨judged, accepted⟩
            have haccepts : world.coord.accepts refresh.key refresh.command
                outcome = accepted := by
              simp [Coordinator.accepts, hresult, haccept]
            simp only [haccept] at hstep
            rcases acceptResult_cases haccept with
              ⟨rfl, rfl, -, -⟩ | ⟨rfl, hnoted⟩
            · simp only [Option.some.injEq] at hstep
              subst hstep
              exact .refreshPublished hrefresh haccepts
            · simp only [Option.some.injEq] at hstep
              subst hstep
              exact .refreshDropped hrefresh haccepts hnoted

theorem stepped_of_step {world after : World} {event : Event}
    (hstep : world.step event = some after) :
    Stepped world event after := by
  cases event with
  | startCycle =>
      simp only [World.step, World.startCycle] at hstep
      split at hstep
      next => cases hstep
      next hidle =>
        obtain rfl := Option.some.inj hstep
        exact .startCycle hidle
  | beginDevice index now =>
      simp only [World.step, World.beginDevice, Option.bind_eq_bind,
        Option.bind_eq_some_iff] at hstep
      obtain ⟨tasks, hcycle, task, htask, hstep⟩ := hstep
      split at hstep
      next hphase =>
        obtain rfl := Option.some.inj hstep
        exact .beginDevice hcycle htask hphase
      next => cases hstep
  | completeRead index outcome =>
      simp only [World.step, World.completeRead, Option.bind_eq_bind,
        Option.bind_eq_some_iff] at hstep
      obtain ⟨tasks, hcycle, task, htask, hstep⟩ := hstep
      split at hstep
      next hcomplete =>
        obtain rfl := Option.some.inj hstep
        exact .completeRead hcycle htask hcomplete
      next hcomplete =>
        obtain rfl := Option.some.inj hstep
        exact .cycleRaised hcycle htask hcomplete
      next => cases hstep
  | timeOutDevice index =>
      simp only [World.step, World.timeOutDevice, Option.bind_eq_bind,
        Option.bind_eq_some_iff] at hstep
      obtain ⟨tasks, hcycle, task, htask, hstep⟩ := hstep
      split at hstep
      next hphase =>
        by_cases hcapped : task.capped = true
        · rw [if_pos hcapped] at hstep
          obtain rfl := Option.some.inj hstep
          refine .timeOutDevice hcycle htask hcapped ?_ ?_
          · simp [hphase]
          · simp [DeviceTask.published?, hphase]
        · rw [if_neg hcapped] at hstep
          cases hstep
      next => cases hstep
  | finishCycle =>
      simp only [World.step, World.finishCycle, Option.bind_eq_bind,
        Option.bind_eq_some_iff] at hstep
      obtain ⟨tasks, hcycle, hstep⟩ := hstep
      by_cases hfinished : tasks.all DeviceTask.isFinished = true
      · rw [if_pos hfinished] at hstep
        obtain rfl := Option.some.inj hstep
        exact .finishCycle hcycle (List.all_eq_true.mp hfinished)
      · rw [if_neg hfinished] at hstep
        cases hstep
  | abortCycle =>
      simp only [World.step, World.abortCycle, Option.bind_eq_bind,
        Option.bind_eq_some_iff] at hstep
      obtain ⟨tasks, hcycle, hstep⟩ := hstep
      obtain rfl := Option.some.inj hstep
      exact .abortCycle hcycle
  | beginAbandoned index now =>
      simp only [World.step, World.beginAbandoned, Option.bind_eq_bind,
        Option.bind_eq_some_iff] at hstep
      obtain ⟨task, htask, hstep⟩ := hstep
      split at hstep
      next hphase =>
        obtain rfl := Option.some.inj hstep
        exact .beginAbandoned htask hphase
      next => cases hstep
  | completeAbandoned index outcome =>
      simp only [World.step, World.completeAbandoned, Option.bind_eq_bind,
        Option.bind_eq_some_iff] at hstep
      obtain ⟨task, htask, hstep⟩ := hstep
      split at hstep
      next hcomplete =>
        obtain rfl := Option.some.inj hstep
        exact .completeAbandoned htask hcomplete
      next hcomplete =>
        obtain rfl := Option.some.inj hstep
        exact .abandonedRaised htask hcomplete
      next => cases hstep
  | startRefresh key command =>
      obtain rfl := Option.some.inj hstep
      unfold World.startRefresh
      by_cases hdevice :
          (world.coord.devices.any fun target => target.id = key) = true
      · rw [if_pos hdevice]
        refine .startRefresh ?_
        simpa [List.any_eq_true] using hdevice
      · rw [if_neg hdevice]
        exact .unknownRefresh
  | completeRefresh index outcome => exact stepped_of_completeRefresh hstep
  | setTargets targets =>
      obtain rfl := Option.some.inj hstep
      exact .setTargets targets

end Direct
end DessMonitor
