import Mathlib.Data.List.Induction

/-!
# Runs of labelled transition relations

A system is a relation `step before event after`.  A run is a finite list of
events with the state it ends in.  Runs grow at the end, so an induction over
a run compares the last step with everything that happened before it.

The second half adds the two devices every history argument needs: guards on
the steps of a run, and history variables which read the run without changing
it.
-/

namespace DessMonitor
namespace LabelledRun

variable {State Event Trace : Type*}

/-- `Run step start events final`: the events lead from `start` to `final`. -/
inductive Run (step : State → Event → State → Prop) (start : State) :
    List Event → State → Prop where
  | start : Run step start [] start
  | extend {events : List Event} {middle final : State} {event : Event}
      (hrun : Run step start events middle)
      (hstep : step middle event final) :
      Run step start (events ++ [event]) final

def Reachable (step : State → Event → State → Prop)
    (start final : State) : Prop :=
  ∃ events, Run step start events final

section Rules

variable {step : State → Event → State → Prop} {start final : State}
  {events : List Event}

/-- A property of the start that every step preserves holds at the end. -/
theorem Run.invariant (hrun : Run step start events final)
    (Inv : State → Prop) (hstart : Inv start)
    (hstep : ∀ before event after,
      Inv before → step before event after → Inv after) :
    Inv final := by
  induction hrun with
  | start => exact hstart
  | extend _ hlast ih => exact hstep _ _ _ ih hlast

theorem Run.mono {weaker : State → Event → State → Prop}
    (hrun : Run step start events final)
    (hstep : ∀ before event after,
      step before event after → weaker before event after) :
    Run weaker start events final := by
  induction hrun with
  | start => exact .start
  | extend _ hlast ih => exact .extend ih (hstep _ _ _ hlast)

theorem Run.last {event : Event}
    (hrun : Run step start (events ++ [event]) final) :
    ∃ middle, Run step start events middle ∧ step middle event final := by
  generalize hall : events ++ [event] = all at hrun
  cases hrun with
  | start => simp at hall
  | extend hprefix hlast =>
      obtain ⟨rfl, hevent⟩ := List.append_inj' hall rfl
      simp only [List.cons.injEq, and_true] at hevent
      subst hevent
      exact ⟨_, hprefix, hlast⟩

theorem Run.append {more : List Event} {further : State}
    (hrun : Run step start events final)
    (hmore : Run step final more further) :
    Run step start (events ++ more) further := by
  induction hmore with
  | start => simpa using hrun
  | extend _ hlast ih =>
      rw [← List.append_assoc]
      exact .extend ih hlast

/-- Any event of a run, with the run before it and the run after it. -/
theorem Run.split {earlier later : List Event} {event : Event}
    (hrun : Run step start (earlier ++ event :: later) final) :
    ∃ before after, Run step start earlier before ∧
      step before event after ∧ Run step after later final := by
  induction later using List.reverseRecOn generalizing final with
  | nil =>
      obtain ⟨before, hbefore, hstep⟩ := hrun.last
      exact ⟨before, final, hbefore, hstep, .start⟩
  | append_singleton later last ih =>
      rw [← List.cons_append, ← List.append_assoc] at hrun
      obtain ⟨middle, hmiddle, hlast⟩ := hrun.last
      obtain ⟨before, after, hbefore, hstep, hafter⟩ := ih hmiddle
      exact ⟨before, after, hbefore, hstep, .extend hafter hlast⟩

end Rules

section Guards

def guarded (step : State → Event → State → Prop)
    (guard : State → Event → Prop) :
    State → Event → State → Prop :=
  fun before event after => step before event after ∧ guard before event

/-- A run in which only allowed events occur. -/
theorem Run.guard {step : State → Event → State → Prop}
    {allowed : Event → Prop} {start final : State} {events : List Event}
    (hrun : Run step start events final)
    (hallowed : ∀ event ∈ events, allowed event) :
    Run (guarded step fun _ event => allowed event) start events final := by
  induction hrun with
  | start => exact .start
  | extend _ hlast ih =>
      apply Run.extend
      · apply ih
        intro event hmem
        exact hallowed event (List.mem_append_left _ hmem)
      · exact ⟨hlast, hallowed _
          (List.mem_append_right _ (List.mem_singleton_self _))⟩

end Guards

section History

/-- `step` together with a history variable which every step updates by
`observe`. -/
def tracked (step : State → Event → State → Prop)
    (observe : State → Event → Trace → Trace) :
    State × Trace → Event → State × Trace → Prop :=
  fun before event after =>
    step before.1 event after.1 ∧
      after.2 = observe before.1 event before.2

/-- A history variable does not restrict the runs. -/
theorem Run.track {step : State → Event → State → Prop}
    {start final : State} {events : List Event}
    (hrun : Run step start events final)
    (observe : State → Event → Trace → Trace) (trace : Trace) :
    ∃ later, Run (tracked step observe) (start, trace) events
      (final, later) := by
  induction hrun with
  | start => exact ⟨trace, .start⟩
  | @extend events middle final event _ hlast ih =>
      obtain ⟨later, hbefore⟩ := ih
      exact ⟨observe middle event later, .extend hbefore ⟨hlast, rfl⟩⟩

end History

section Functional

def graph (next : State → Event → Option State) :
    State → Event → State → Prop :=
  fun before event after => next before event = some after

/-- Execute a list of events, stopping at the first one not enabled. -/
def execute (next : State → Event → Option State) :
    State → List Event → Option State
  | state, [] => some state
  | state, event :: events =>
      (next state event).bind fun after => execute next after events

theorem run_of_execute {next : State → Event → Option State}
    {start final : State} {events : List Event}
    (hexecute : execute next start events = some final) :
    Run (graph next) start events final := by
  induction events generalizing start with
  | nil =>
      simp only [execute, Option.some.injEq] at hexecute
      subst hexecute
      exact .start
  | cons event events ih =>
      simp only [execute, Option.bind_eq_some_iff] at hexecute
      obtain ⟨after, hfirst, hrest⟩ := hexecute
      have hhead : Run (graph next) start ([] ++ [event]) after :=
        .extend .start hfirst
      simpa using hhead.append (ih hrest)

/-- A functional system together with a history variable. -/
def trackedNext (next : State → Event → Option State)
    (observe : State → Event → Trace → Trace) :
    State × Trace → Event → Option (State × Trace) :=
  fun before event =>
    (next before.1 event).map fun after =>
      (after, observe before.1 event before.2)

theorem tracked_run_of_execute {next : State → Event → Option State}
    {observe : State → Event → Trace → Trace}
    {start final : State × Trace} {events : List Event}
    (hexecute : execute (trackedNext next observe) start events = some final) :
    Run (tracked (graph next) observe) start events final := by
  apply (run_of_execute hexecute).mono
  intro before event after hstep
  obtain ⟨state, hnext, rfl⟩ := Option.map_eq_some_iff.mp hstep
  exact ⟨hnext, rfl⟩

/-- A functional system that only takes the steps its guard allows. -/
def guardedNext (next : State → Event → Option State)
    (guard : State → Event → Bool) : State → Event → Option State :=
  fun before event => if guard before event then next before event else none

theorem run_of_guarded_execute {next : State → Event → Option State}
    {guard : State → Event → Bool} {start final : State}
    {events : List Event}
    (hexecute : execute (guardedNext next guard) start events = some final) :
    Run (guarded (graph next) fun before event => guard before event = true)
      start events final := by
  apply (run_of_execute hexecute).mono
  intro before event after hstep
  obtain ⟨hguard, hnext⟩ := by
    simpa [graph, guardedNext] using hstep
  exact ⟨hnext, hguard⟩

theorem guarded_run_of_execute {next : State → Event → Option State}
    {observe : State → Event → Trace → Trace}
    {guard : State × Trace → Event → Bool}
    {start final : State × Trace} {events : List Event}
    (hexecute : execute (guardedNext (trackedNext next observe) guard) start
      events = some final) :
    Run (guarded (tracked (graph next) observe)
      fun before event => guard before event = true) start events final := by
  apply (run_of_guarded_execute hexecute).mono
  rintro before event after ⟨hnext, hguard⟩
  obtain ⟨state, hstate, rfl⟩ := Option.map_eq_some_iff.mp hnext
  exact ⟨⟨hstate, rfl⟩, hguard⟩

end Functional

end LabelledRun
end DessMonitor
