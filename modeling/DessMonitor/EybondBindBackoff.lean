import DessMonitor.EybondAnnouncer
import DessMonitor.Foundation.Spacing

/-!
# The backoff after a failed bind

Every request to a dongle asks for the listener first, so a port held by
another program would be tried, and logged, once for every poll.  A failed
bind closes the way for half a minute.
-/

namespace DessMonitor
namespace Eybond
namespace Announcer

open LabelledRun Spacing

/-! ## Failures and the clock -/

structure BindHistory where
  clock : ℚ
  failures : List ℚ
  deriving DecidableEq

def Event.time? : Event → Option ℚ
  | .ensureStarted now => some now
  | .bindFailed now => some now
  | _ => none

def observeBind (_ : Manager) (event : Event) (history : BindHistory) :
    BindHistory :=
  { clock := event.time?.getD history.clock
    failures :=
      match event with
      | .bindFailed now => history.failures ++ [now]
      | _ => history.failures }

/-- The loop's clock does not run backwards. -/
def clockAdvances (state : Manager × BindHistory) (event : Event) : Bool :=
  decide (state.2.clock ≤ event.time?.getD state.2.clock)

abbrev BindStep : Manager × BindHistory → Event → Manager × BindHistory →
    Prop :=
  guarded (tracked (graph Manager.step) observeBind)
    fun state event => clockAdvances state event = true

/-! ## Failures are a backoff apart -/

structure BackedOff (state : Manager × BindHistory) : Prop where
  spaced : Spaced bindFailureBackoff state.2.failures
  closed : ∀ failure ∈ state.2.failures,
    failure + bindFailureBackoff ≤ state.1.bindFailedUntil
  opened : state.1.binding = true →
    state.1.bindFailedUntil ≤ state.2.clock

section Steps

variable {mgr after : Manager} {event : Event}

@[simp] theorem checkAnnouncer_binding (mgr : Manager) :
    mgr.checkAnnouncer.binding = mgr.binding := by
  unfold Manager.checkAnnouncer Manager.createAnnouncer
  split
  · rfl
  · split <;> rfl

@[simp] theorem checkAnnouncer_bindFailedUntil (mgr : Manager) :
    mgr.checkAnnouncer.bindFailedUntil = mgr.bindFailedUntil := by
  unfold Manager.checkAnnouncer Manager.createAnnouncer
  split
  · rfl
  · split <;> rfl

@[simp] theorem restartAnnouncer_binding (mgr : Manager) :
    mgr.restartAnnouncer.binding = mgr.binding := by
  unfold Manager.restartAnnouncer
  split <;> rfl

@[simp] theorem restartAnnouncer_bindFailedUntil (mgr : Manager) :
    mgr.restartAnnouncer.bindFailedUntil = mgr.bindFailedUntil := by
  unfold Manager.restartAnnouncer
  split <;> rfl

@[simp] theorem getManager_binding (mgr : Manager)
    (announceIp : Option String) :
    (mgr.getManager announceIp).binding = mgr.binding := by
  unfold Manager.getManager Manager.stopAnnouncer
  split_ifs
  · split
    · simp
    · split_ifs <;> simp [Manager.cancel]
  · rfl

@[simp] theorem getManager_bindFailedUntil (mgr : Manager)
    (announceIp : Option String) :
    (mgr.getManager announceIp).bindFailedUntil = mgr.bindFailedUntil := by
  unfold Manager.getManager Manager.stopAnnouncer
  split_ifs
  · split
    · simp
    · split_ifs <;> simp [Manager.cancel]
  · rfl

/-- A bind begins only out of the backoff, a failed one begins the next
backoff, and nothing else moves the two fields. -/
theorem bind_cases (hstep : mgr.step event = some after) :
    (∃ now, event = .ensureStarted now ∧ mgr.bindFailedUntil ≤ now ∧
        after.bindFailedUntil = mgr.bindFailedUntil) ∨
      (∃ now, event = .bindFailed now ∧ mgr.binding = true ∧
        after.binding = false ∧
        after.bindFailedUntil = now + bindFailureBackoff) ∨
      ((∀ now, event ≠ .bindFailed now) ∧
        (after.binding = true → mgr.binding = true) ∧
        after.bindFailedUntil = mgr.bindFailedUntil) := by
  cases event with
  | getManager announceIp =>
      simp only [Manager.step] at hstep
      split_ifs at hstep
      cases hstep
      simp
  | joined =>
      simp only [Manager.step] at hstep
      split at hstep
      · cases hstep
      · split_ifs at hstep
        cases hstep
        simp
  | ensureStarted now =>
      simp only [Manager.step] at hstep
      split_ifs at hstep with hbinding hserver hbackoff
      · cases hstep
        simp
      · cases hstep
        simp
      · cases hstep
        exact .inl ⟨now, rfl, not_lt.mp hbackoff, rfl⟩
  | bound =>
      simp only [Manager.step] at hstep
      split_ifs at hstep
      cases hstep
      simp
  | bindFailed now =>
      simp only [Manager.step] at hstep
      split_ifs at hstep with hbinding
      cases hstep
      exact .inr (.inl ⟨now, rfl, hbinding, rfl, rfl⟩)
  | bindCancelled =>
      simp only [Manager.step] at hstep
      split_ifs at hstep
      cases hstep
      simp
  | finished task =>
      simp only [Manager.step] at hstep
      split_ifs at hstep
      cases hstep
      simp

end Steps

theorem BackedOff.after_step {before after : Manager × BindHistory}
    {event : Event} (hbefore : BackedOff before)
    (hstep : BindStep before event after) : BackedOff after := by
  obtain ⟨⟨hnext, hhistory⟩, hclock⟩ := hstep
  have hlater : before.2.clock ≤ after.2.clock := by
    rw [hhistory]
    exact of_decide_eq_true hclock
  rcases bind_cases hnext with ⟨now, rfl, hopen, huntil⟩ |
    ⟨now, rfl, hbinding, hdone, huntil⟩ | ⟨hother, hbinding, huntil⟩
  · have hfailures : after.2.failures = before.2.failures := by
      simp [hhistory, observeBind]
    have hnow : after.2.clock = now := by
      simp [hhistory, observeBind, Event.time?]
    constructor
    · simpa only [hfailures] using hbefore.spaced
    · simpa only [hfailures, huntil] using hbefore.closed
    · intro _
      rwa [huntil, hnow]
  · have hfailures : after.2.failures = before.2.failures ++ [now] := by
      simp [hhistory, observeBind]
    have hnow : after.2.clock = now := by
      simp [hhistory, observeBind, Event.time?]
    have hpassed : ∀ failure ∈ before.2.failures,
        failure + bindFailureBackoff ≤ now := by
      intro failure hmem
      calc
        failure + bindFailureBackoff ≤ before.1.bindFailedUntil :=
          hbefore.closed failure hmem
        _ ≤ before.2.clock := hbefore.opened hbinding
        _ ≤ now := hnow ▸ hlater
    constructor
    · rw [hfailures, spaced_append_singleton]
      exact ⟨hbefore.spaced, hpassed⟩
    · intro failure hmem
      rw [hfailures] at hmem
      rw [huntil]
      rcases List.mem_append.mp hmem with hold | hnew
      · have hearlier := hpassed failure hold
        have hpositive : 0 ≤ bindFailureBackoff := by
          norm_num [bindFailureBackoff]
        linarith
      · rw [List.mem_singleton.mp hnew]
    · intro hagain
      rw [hdone] at hagain
      cases hagain
  · have hfailures : after.2.failures = before.2.failures := by
      rw [hhistory]
      cases event <;> simp_all [observeBind]
    constructor
    · simpa only [hfailures] using hbefore.spaced
    · simpa only [hfailures, huntil] using hbefore.closed
    · intro hagain
      rw [huntil]
      exact (hbefore.opened (hbinding hagain)).trans hlater

/-- However often the listener is asked for, restarted or cancelled, its
failed binds are half a minute apart, and a window of time sees one for every
half minute. -/
theorem bind_failures_apart {announceIp : Option String} {clock : ℚ}
    {events : List Event} {final : Manager × BindHistory}
    (hrun : Run BindStep (.created announceIp, ⟨clock, []⟩) events final) :
    Spaced bindFailureBackoff final.2.failures ∧
      ∀ start stop : ℚ, start ≤ stop →
        ((final.2.failures.filter fun time =>
            decide (start ≤ time ∧ time ≤ stop)).length - 1) •
          bindFailureBackoff ≤ stop - start := by
  have hfinal : BackedOff final := by
    apply hrun.invariant BackedOff
    · constructor <;> simp [Manager.created]
    · intro before event after hbefore hstep
      exact hbefore.after_step hstep
  exact ⟨hfinal.spaced, fun start stop hwindow =>
    hfinal.spaced.gaps_le_filter hwindow⟩

/-- A port held by another program, polled every ten seconds. -/
def heldPort : List Event :=
  [.ensureStarted 1, .bindFailed 2, .ensureStarted 11, .ensureStarted 21,
    .ensureStarted 32, .bindFailed 33]

theorem bind_failures_apart_held_port :
    ∃ final : Manager × BindHistory, final.2.failures = [2, 33] ∧
      Spaced bindFailureBackoff final.2.failures := by
  let final := (execute
    (guardedNext (trackedNext Manager.step observeBind) clockAdvances)
    (.created none, ⟨0, []⟩) heldPort).get (by decide +kernel)
  have hrun : Run BindStep (.created none, ⟨0, []⟩) heldPort final :=
    guarded_run_of_execute (Option.some_get _).symm
  exact ⟨final, by decide +kernel, (bind_failures_apart hrun).1⟩

end Announcer
end Eybond
end DessMonitor
