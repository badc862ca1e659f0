import DessMonitor.Foundation.LabelledRun
import DessMonitor.Foundation.ListUpdate

/-!
# The announcer of a manager

A manager announces itself to its dongles from a task.  `ensure_started`
creates the task under the start lock, and a `_get_manager` with a changed
announce IP replaces it under the registry lock.  The code between two awaits
is one event: binding the listener and awaiting a cancelled task are the only
places where a call is suspended with its lock held.

The tasks created so far are a list, and a task is named by its index.
-/

namespace DessMonitor
namespace Eybond
namespace Announcer

open LabelledRun

/-! ## State -/

inductive TaskPhase where
  | running
  | cancelling
  | done
  deriving DecidableEq

def bindFailureBackoff : ℚ := 30

/-- The fields of `EybondManager` that its announcer depends on, and the two
suspended calls there can be. -/
structure Manager where
  announceIp : Option String
  /-- `_server is not None`. -/
  serverUp : Bool
  bindFailedUntil : ℚ
  announceTask : Option ℕ
  tasks : List TaskPhase
  /-- An `ensure_started` holds the start lock and awaits `start_server`. -/
  binding : Bool
  /-- A restart holds the registry lock and awaits this cancelled task. -/
  stopping : Option ℕ
  deriving DecidableEq

namespace Manager

def created (announceIp : Option String) : Manager where
  announceIp := announceIp
  serverUp := false
  bindFailedUntil := 0
  announceTask := none
  tasks := []
  binding := false
  stopping := none

def Running (mgr : Manager) (task : ℕ) : Prop :=
  mgr.tasks[task]? = some .running

instance (mgr : Manager) (task : ℕ) : Decidable (mgr.Running task) :=
  inferInstanceAs (Decidable (_ = _))

def isDone (mgr : Manager) (task : ℕ) : Bool :=
  decide (mgr.tasks[task]? = some .done)

/-- `self._announce_task = asyncio.create_task(self._announce_loop())`. -/
def createAnnouncer (mgr : Manager) : Manager :=
  { mgr with
    announceTask := some mgr.tasks.length
    tasks := mgr.tasks ++ [.running] }

def cancel (mgr : Manager) (task : ℕ) : Manager :=
  { mgr with tasks := mgr.tasks.set task .cancelling }

/-! ## Operations -/

/-- The end of `ensure_started`. -/
def checkAnnouncer (mgr : Manager) : Manager :=
  match mgr.announceTask with
  | none => mgr.createAnnouncer
  | some task => if mgr.isDone task then mgr.createAnnouncer else mgr

/-- The end of a restart, after `_stop_announcer`. -/
def restartAnnouncer (mgr : Manager) : Manager :=
  if mgr.serverUp then mgr.createAnnouncer else mgr

/-- `_stop_announcer`, and the end of the restart where it is not suspended. -/
def stopAnnouncer (mgr : Manager) : Manager :=
  let cleared := { mgr with announceTask := none }
  match mgr.announceTask with
  | none => cleared.restartAnnouncer
  | some task =>
      if mgr.isDone task then cleared.restartAnnouncer
      else { cleared.cancel task with stopping := some task }

/-- The locked part of `_get_manager` for an existing manager. -/
def getManager (mgr : Manager) (announceIp : Option String) : Manager :=
  if mgr.announceIp ≠ announceIp then
    { mgr with announceIp := announceIp }.stopAnnouncer
  else mgr

/-- The task that `shutdown` cancels. -/
def shutdown (mgr : Manager) : Manager :=
  match mgr.announceTask with
  | none => mgr
  | some task => if mgr.isDone task then mgr else mgr.cancel task

end Manager

/-! ## Events -/

inductive Event where
  | getManager (announceIp : Option String)
  /-- The task a restart awaits is done. -/
  | joined
  | ensureStarted (now : ℚ)
  | bound
  | bindFailed (now : ℚ)
  | bindCancelled
  /-- A task ends, cancelled or by itself. -/
  | finished (task : ℕ)
  deriving DecidableEq

def Manager.step (mgr : Manager) : Event → Option Manager
  | .getManager announceIp =>
      if mgr.stopping = none then some (mgr.getManager announceIp) else none
  | .joined =>
      match mgr.stopping with
      | none => none
      | some task =>
          if mgr.isDone task then
            some { mgr with stopping := none }.restartAnnouncer
          else none
  | .ensureStarted now =>
      if mgr.binding then none
      else if mgr.serverUp then some mgr.checkAnnouncer
      -- The backoff raises.
      else if now < mgr.bindFailedUntil then some mgr
      else some { mgr with binding := true }
  | .bound =>
      if mgr.binding then
        some { mgr with binding := false, serverUp := true }.checkAnnouncer
      else none
  | .bindFailed now =>
      if mgr.binding then
        some { mgr with
          binding := false
          bindFailedUntil := now + bindFailureBackoff }
      else none
  | .bindCancelled =>
      if mgr.binding then some { mgr with binding := false } else none
  | .finished task =>
      if mgr.tasks[task]?.isSome then
        some { mgr with tasks := mgr.tasks.set task .done }
      else none

abbrev ManagerRun : Manager → List Event → Manager → Prop :=
  Run (graph Manager.step)

/-! ## One announcer -/

/-- At most one announcer is alive and not cancelled, it is the one
`_announce_task` names, and `shutdown` leaves none. -/
structure Manager.OneAnnouncer (mgr : Manager) : Prop where
  unique : ∀ task other, mgr.Running task → mgr.Running other → task = other
  referred : ∀ task, mgr.Running task → mgr.announceTask = some task
  stopped : ∀ task, ¬ mgr.shutdown.Running task

/-- A restart resumes while an announcer created during its wait is running:
it stores another one over it. -/
def Manager.Overwrites (mgr : Manager) (event : Event) : Prop :=
  event = .joined ∧ mgr.serverUp = true ∧
    ∃ task ∈ mgr.announceTask, mgr.Running task

instance (mgr : Manager) (event : Event) :
    Decidable (mgr.Overwrites event) :=
  inferInstanceAs (Decidable (_ ∧ _ ∧ _))

/-- The inductive part of the property. -/
def Manager.Referred (mgr : Manager) : Prop :=
  ∀ task, mgr.Running task → mgr.announceTask = some task

section Tasks

variable {mgr : Manager} {task other : ℕ}

theorem Manager.not_running_of_isDone (hdone : mgr.isDone task = true) :
    ¬ mgr.Running task := by
  intro hrunning
  rw [Manager.Running, of_decide_eq_true hdone] at hrunning
  cases hrunning

/-- Only the new task runs that did not run before. -/
theorem Manager.running_createAnnouncer
    (hrunning : mgr.createAnnouncer.Running task) :
    mgr.Running task ∨ mgr.createAnnouncer.announceTask = some task := by
  rcases ListUpdate.getElem?_append_singleton_cases hrunning with
    hold | ⟨hlast, -⟩
  · exact .inl hold
  · exact .inr (congrArg some hlast.symm)

/-- A task that ends or is cancelled does not run any more. -/
theorem Manager.running_of_set {phase : TaskPhase} (hphase : phase ≠ .running)
    (hrunning : (mgr.tasks.set task phase)[other]? = some .running) :
    other ≠ task ∧ mgr.Running other := by
  rcases ListUpdate.getElem?_set_cases hrunning with ⟨-, hsame⟩ | hother
  · exact absurd hsame.symm hphase
  · exact hother

end Tasks

theorem Manager.Referred.oneAnnouncer {mgr : Manager}
    (hreferred : mgr.Referred) : mgr.OneAnnouncer where
  unique := by
    intro task other htask hother
    exact Option.some.inj
      ((hreferred task htask).symm.trans (hreferred other hother))
  referred := hreferred
  stopped := by
    intro task hrunning
    unfold Manager.shutdown at hrunning
    cases hnamed : mgr.announceTask with
    | none =>
        rw [hnamed] at hrunning
        have hsome := hreferred task hrunning
        rw [hnamed] at hsome
        cases hsome
    | some named =>
        rw [hnamed] at hrunning
        dsimp only at hrunning
        split at hrunning
        next hdone =>
          obtain rfl := Option.some.inj
            (hnamed.symm.trans (hreferred task hrunning))
          exact not_running_of_isDone hdone hrunning
        next =>
          obtain ⟨hne, hold⟩ := running_of_set (by decide) hrunning
          exact hne (Option.some.inj
            ((hreferred task hold).symm.trans hnamed))

/-! ## Steps -/

/-- Without a running task a new one is the only one. -/
theorem Manager.referred_createAnnouncer {mgr : Manager}
    (hidle : ∀ task, ¬ mgr.Running task) : mgr.createAnnouncer.Referred := by
  intro task hrunning
  exact (running_createAnnouncer hrunning).resolve_left (hidle task)

theorem Manager.referred_of_idle {mgr : Manager}
    (hidle : ∀ task, ¬ mgr.Running task) : mgr.Referred :=
  fun task hrunning => absurd hrunning (hidle task)

theorem Manager.Referred.idle {mgr : Manager} (hreferred : mgr.Referred)
    (hnamed : ∀ task, mgr.announceTask = some task → ¬ mgr.Running task) :
    ∀ task, ¬ mgr.Running task :=
  fun task hrunning => hnamed task (hreferred task hrunning) hrunning

theorem Manager.Referred.checkAnnouncer {mgr : Manager}
    (hreferred : mgr.Referred) : mgr.checkAnnouncer.Referred := by
  unfold Manager.checkAnnouncer
  cases hnamed : mgr.announceTask with
  | none =>
      apply referred_createAnnouncer
      apply hreferred.idle
      intro task hsome
      rw [hnamed] at hsome
      cases hsome
  | some named =>
      dsimp only
      split
      next hdone =>
        apply referred_createAnnouncer
        apply hreferred.idle
        intro task hsome
        obtain rfl := Option.some.inj (hnamed.symm.trans hsome)
        exact not_running_of_isDone hdone
      next => exact hreferred

theorem Manager.referred_restartAnnouncer {mgr : Manager}
    (hidle : ∀ task, ¬ mgr.Running task) : mgr.restartAnnouncer.Referred := by
  unfold Manager.restartAnnouncer
  split
  · exact referred_createAnnouncer hidle
  · exact referred_of_idle hidle

theorem Manager.Referred.stopAnnouncer {mgr : Manager}
    (hreferred : mgr.Referred) : mgr.stopAnnouncer.Referred := by
  unfold Manager.stopAnnouncer
  cases hnamed : mgr.announceTask with
  | none =>
      apply referred_restartAnnouncer
      apply hreferred.idle
      intro task hsome
      rw [hnamed] at hsome
      cases hsome
  | some named =>
      dsimp only
      split
      next hdone =>
        apply referred_restartAnnouncer
        apply hreferred.idle
        intro task hsome
        obtain rfl := Option.some.inj (hnamed.symm.trans hsome)
        exact not_running_of_isDone hdone
      next =>
        apply referred_of_idle
        intro task hrunning
        obtain ⟨hne, hold⟩ := running_of_set (by decide) hrunning
        exact hne (Option.some.inj ((hreferred task hold).symm.trans hnamed))

theorem Manager.Referred.getManager {mgr : Manager}
    (hreferred : mgr.Referred) (announceIp : Option String) :
    (mgr.getManager announceIp).Referred := by
  unfold Manager.getManager
  split
  · have hsame : { mgr with announceIp := announceIp }.Referred := hreferred
    exact hsame.stopAnnouncer
  · exact hreferred

theorem Manager.Referred.step {mgr next : Manager} {event : Event}
    (hreferred : mgr.Referred) (hstep : mgr.step event = some next)
    (hsafe : ¬ mgr.Overwrites event) : next.Referred := by
  cases event with
  | getManager announceIp =>
      simp only [Manager.step] at hstep
      split at hstep
      · rw [← Option.some.inj hstep]
        exact hreferred.getManager announceIp
      · cases hstep
  | joined =>
      simp only [Manager.step] at hstep
      split at hstep
      · cases hstep
      split at hstep
      · rw [← Option.some.inj hstep]
        by_cases hserver : mgr.serverUp = true
        · apply referred_restartAnnouncer
          apply hreferred.idle
          intro task hnamed hrunning
          exact hsafe ⟨rfl, hserver, task, hnamed, hrunning⟩
        · rw [Manager.restartAnnouncer, if_neg hserver]
          exact hreferred
      · cases hstep
  | ensureStarted now =>
      simp only [Manager.step] at hstep
      split at hstep
      · cases hstep
      split at hstep
      · rw [← Option.some.inj hstep]
        exact hreferred.checkAnnouncer
      split at hstep
      · rw [← Option.some.inj hstep]
        exact hreferred
      · rw [← Option.some.inj hstep]
        exact hreferred
  | bound =>
      simp only [Manager.step] at hstep
      split at hstep
      · rw [← Option.some.inj hstep]
        have hsame : { mgr with binding := false, serverUp := true }.Referred :=
          hreferred
        exact hsame.checkAnnouncer
      · cases hstep
  | bindFailed now =>
      simp only [Manager.step] at hstep
      split at hstep
      · rw [← Option.some.inj hstep]
        exact hreferred
      · cases hstep
  | bindCancelled =>
      simp only [Manager.step] at hstep
      split at hstep
      · rw [← Option.some.inj hstep]
        exact hreferred
      · cases hstep
  | finished task =>
      simp only [Manager.step] at hstep
      split at hstep
      · rw [← Option.some.inj hstep]
        intro other hrunning
        exact hreferred other (running_of_set (by decide) hrunning).2
      · cases hstep

/-- The overwriting restart leaves two announcers. -/
theorem Manager.not_oneAnnouncer_of_overwrites {mgr next : Manager}
    {event : Event} (hstep : mgr.step event = some next)
    (hoverwrites : mgr.Overwrites event) : ¬ next.OneAnnouncer := by
  obtain ⟨rfl, hserver, task, hnamed, hrunning⟩ := hoverwrites
  simp only [Manager.step] at hstep
  split at hstep
  · cases hstep
  split at hstep
  next =>
    rw [Manager.restartAnnouncer, if_pos hserver] at hstep
    obtain rfl := Option.some.inj hstep
    have hlength : task < mgr.tasks.length :=
      (List.getElem?_eq_some_iff.mp hrunning).1
    intro hone
    have hkept : (mgr.tasks ++ [.running])[task]? = some .running :=
      (List.getElem?_append_left hlength).trans hrunning
    have hlast := Option.some.inj (hone.referred task hkept)
    dsimp only [Manager.createAnnouncer] at hlast
    omega
  next => cases hstep

/-! ## Runs -/

/-- In a run without an overwriting restart there is one announcer at most in
every state. -/
theorem Manager.oneAnnouncer_of_run {announceIp : Option String}
    {events : List Event} {mgr : Manager}
    (hrun : Run (guarded (graph Manager.step)
      fun before event => ¬ before.Overwrites event)
        (created announceIp) events mgr) : mgr.OneAnnouncer := by
  apply Referred.oneAnnouncer
  apply hrun.invariant Manager.Referred
  · intro task hrunning
    cases hrunning
  · rintro before event after hbefore ⟨hstep, hsafe⟩
    exact hbefore.step hstep hsafe

def guardedStep : Manager → Event → Option Manager :=
  guardedNext Manager.step fun before event => !decide (before.Overwrites event)

/-- The listener binds and the announce IP changes, with an `ensure_started`
before the restart and one after it. -/
def restartEvents : List Event :=
  [.ensureStarted 0, .bound, .getManager (some "10.0.0.2"), .finished 0,
    .joined, .ensureStarted 1]

def Manager.restarted : Manager :=
  (execute guardedStep (created (some "10.0.0.1")) restartEvents).get
    (by decide +kernel)

theorem Manager.oneAnnouncer_restarted : restarted.OneAnnouncer := by
  have hrun : Run (guarded (graph Manager.step) fun before event =>
      (!decide (before.Overwrites event)) = true)
        (created (some "10.0.0.1")) restartEvents restarted :=
    run_of_guarded_execute (Option.some_get _).symm
  have hsafeRun : Run (guarded (graph Manager.step)
      fun before event => ¬ before.Overwrites event)
        (created (some "10.0.0.1")) restartEvents restarted := by
    apply hrun.mono
    rintro before event after ⟨hstep, hsafe⟩
    exact ⟨hstep, by simpa using hsafe⟩
  exact oneAnnouncer_of_run hsafeRun

/-- The `ensure_started` of a poll comes while the restart waits for the old
announcer: its task and that of the restart both announce. -/
def overlappingEvents : List Event :=
  [.ensureStarted 0, .bound, .getManager (some "10.0.0.2"), .ensureStarted 1,
    .finished 0, .joined]

def Manager.overlapped : Manager :=
  (execute Manager.step (created (some "10.0.0.1")) overlappingEvents).get
    (by decide +kernel)

theorem Manager.overlapped_not_oneAnnouncer :
    ManagerRun (created (some "10.0.0.1")) overlappingEvents overlapped ∧
      ¬ overlapped.OneAnnouncer := by
  constructor
  · exact run_of_execute (Option.some_get _).symm
  · intro hone
    have hsame := hone.unique 1 2 (by decide +kernel) (by decide +kernel)
    cases hsame

end Announcer
end Eybond
end DessMonitor
