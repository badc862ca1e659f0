import DessMonitor.SocVoltageBranch

/-!
# The time of the last full charge

A tick stamps `last_sync_at` when it leaves the debounce counter at the
threshold.  The counter comes there from below on a full battery, which is a
crossing, and from above when it decays.
-/

namespace DessMonitor
namespace SocCore

open LabelledRun

/-! ## The property -/

/-- The call is a tick on a full battery with which the counter rises to the
threshold. -/
def SocEstimator.Crosses (before : SocEstimator) (call : Call)
    (after : SocEstimator) : Prop :=
  ∃ tick capacity syncVoltage, call = .update tick ∧
    before.VoltageBranch tick capacity syncVoltage ∧
    before.AtFull tick capacity syncVoltage ∧
    before.atSyncTicks = syncDebounceTicks - 1 ∧
    after.atSyncTicks = syncDebounceTicks

/-- The stamp changes only where the counter crosses the threshold. -/
def SocEstimator.StampsCrossings (before : SocEstimator) (call : Call)
    (after : SocEstimator) : Prop :=
  after.lastSyncAt = before.lastSyncAt ∨ before.Crosses call after

/-- The call is a tick that lets the counter decay to the threshold, with a
stamp that is not the present one. -/
def SocEstimator.DecaysToThreshold (est : SocEstimator) (call : Call) : Prop :=
  ∃ tick capacity syncVoltage, call = .update tick ∧
    est.VoltageBranch tick capacity syncVoltage ∧
    ¬ est.AtFull tick capacity syncVoltage ∧
    -est.tailCurrentA capacity ≤ tick.signedCurrentA ∧
    est.atSyncTicks = syncDebounceTicks + 1 ∧
    ∃ wallNow, tick.wallNow = some wallNow ∧ est.lastSyncAt ≠ some wallNow

/-- Ticks and changes of the configuration. -/
def Call.InOperation : Call → Prop
  | .restore _ _ _ => False
  | _ => True

/-! ## One call -/

theorem SocEstimator.VoltageTick.stampsCrossings_iff
    {before after : SocEstimator} {tick : Tick} {capacity syncVoltage : ℚ}
    (hbranch : before.VoltageBranch tick capacity syncVoltage)
    (htick : before.VoltageTick tick capacity syncVoltage after) :
    before.StampsCrossings (.update tick) after ↔
      ¬ before.DecaysToThreshold (.update tick) := by
  have hthreshold : syncDebounceTicks = 3 := rfl
  have hstamp := htick.stamp
  have hticks := htick.ticks
  constructor
  · rintro hkeeps ⟨other, capacity', syncVoltage', hcall, hbranch', hfull,
      hdischarge, hcounter, wallNow, hwall, hnew⟩
    obtain rfl := Call.update.inj hcall
    obtain ⟨rfl, rfl⟩ := hbranch.unique hbranch'
    have hcounted := countedTicks_of_decay hfull (not_lt.mpr hdischarge)
    rcases hkeeps with hsame | ⟨other, _, _, _, _, _, hbelow, _⟩
    · rw [hstamp, if_pos (by omega), hwall] at hsame
      exact hnew hsame.symm
    · omega
  · intro hdecay
    by_cases hcrossed : before.countedTicks tick capacity syncVoltage =
        syncDebounceTicks
    · by_cases hfull : before.AtFull tick capacity syncVoltage
      · right
        have hcounted := countedTicks_of_atFull hfull
        exact ⟨tick, capacity, syncVoltage, rfl, hbranch, hfull, by omega,
          by omega⟩
      · left
        rw [hstamp, if_pos hcrossed]
        by_cases hdischarge :
            tick.signedCurrentA < -before.tailCurrentA capacity
        · have hcounted := countedTicks_of_discharge hfull hdischarge
          omega
        · have hcounted := countedTicks_of_decay hfull hdischarge
          cases hwall : tick.wallNow with
          | none => rfl
          | some wallNow =>
              by_contra hnew
              exact hdecay ⟨tick, capacity, syncVoltage, rfl, hbranch, hfull,
                not_lt.mp hdischarge, by omega, wallNow, hwall,
                fun hsame => hnew hsame.symm⟩
    · left
      rw [hstamp, if_neg hcrossed]

theorem SocEstimator.setCapacity_lastSyncAt {self next : SocEstimator}
    {value : Option ℚ} (hcalled : self.setCapacity value = .ok next) :
    next.lastSyncAt = self.lastSyncAt := by
  unfold SocEstimator.setCapacity at hcalled
  split at hcalled
  · rw [← Except.ok.inj hcalled]
  · split at hcalled
    · rw [← Except.ok.inj hcalled]
    · split at hcalled
      · split at hcalled <;> rw [← Except.ok.inj hcalled]
      next value hvalue old hold =>
        cases hfraction : self.editFraction old with
        | error error =>
            rw [hfraction] at hcalled
            cases hcalled
        | ok frac =>
            rw [hfraction] at hcalled
            rw [← Except.ok.inj hcalled]

/-- A call keeps to the crossings exactly if it does not decay to the
threshold. -/
theorem SocEstimator.stampsCrossings_iff {before after : SocEstimator}
    {call : Call} (hoperation : call.InOperation)
    (hcalled : Called before call after) :
    before.StampsCrossings call after ↔ ¬ before.DecaysToThreshold call := by
  have hother : (∀ tick, call ≠ .update tick) →
      ¬ before.DecaysToThreshold call := by
    rintro hnot ⟨tick, _, _, hcall, -⟩
    exact hnot tick hcall
  cases call with
  | setMode text =>
      refine iff_of_true (.inl ?_) (hother fun _ hcall => by cases hcall)
      rw [← Except.ok.inj hcalled]
      unfold SocEstimator.setMode
      split
      · rfl
      · split <;> rfl
  | setDeadband enabled window noiseFloor =>
      refine iff_of_true (.inl ?_) (hother fun _ hcall => by cases hcall)
      rw [← Except.ok.inj hcalled]
      rfl
  | setCapacity value =>
      refine iff_of_true (.inl ?_) (hother fun _ hcall => by cases hcall)
      exact setCapacity_lastSyncAt hcalled
  | restore socPercent accumulated lastSync => cases hoperation
  | update tick =>
      by_cases hvoltage : ∃ capacity syncVoltage,
          before.VoltageBranch tick capacity syncVoltage
      · obtain ⟨capacity, syncVoltage, hbranch⟩ := hvoltage
        obtain ⟨next, hupdate, htick⟩ := hbranch.update
        obtain rfl := Except.ok.inj (hupdate.symm.trans hcalled)
        exact htick.stampsCrossings_iff hbranch
      · refine iff_of_true (.inl ?_) ?_
        · rcases before.update_cases tick with
            hupdate | ⟨capacity, bmsSoc, -, -, -, hupdate⟩ | hbranch
          · rw [← Except.ok.inj (hupdate.symm.trans hcalled)]
          · rw [← Except.ok.inj (hupdate.symm.trans hcalled)]
            rfl
          · exact absurd hbranch hvoltage
        · rintro ⟨other, capacity, syncVoltage, hcall, hbranch, -⟩
          obtain rfl := Call.update.inj hcall
          exact hvoltage ⟨capacity, syncVoltage, hbranch⟩

/-! ## Runs -/

/-- In a run without a decay to the threshold, whatever call is looked at
changes the stamp only by crossing it. -/
theorem SocEstimator.stampsCrossings_of_run {start final : SocEstimator}
    {earlier later : List Call} {call : Call}
    (hrun : Run (guarded Called fun est call =>
      call.InOperation ∧ ¬ est.DecaysToThreshold call)
        start (earlier ++ call :: later) final) :
    ∃ before after, Run Called start earlier before ∧
      Called before call after ∧ Run Called after later final ∧
      before.StampsCrossings call after := by
  have hcalls : ∀ before call after,
      guarded Called (fun est call =>
        call.InOperation ∧ ¬ est.DecaysToThreshold call) before call after →
      Called before call after :=
    fun _ _ _ hstep => hstep.1
  obtain ⟨before, after, hearlier, hstep, hlater⟩ := hrun.split
  obtain ⟨hcalled, hoperation, hdecay⟩ := hstep
  exact ⟨before, after, hearlier.mono hcalls, hcalled, hlater.mono hcalls,
    (stampsCrossings_iff hoperation hcalled).mpr hdecay⟩

/-! ## A crossing and a decay -/

/-- A battery of 200 Ah whose estimator was just set up. -/
def SocEstimator.configured : SocEstimator :=
  (fresh.next? (.setCapacity (some 200))).get (by decide +kernel)

/-- A tick of a battery that floats at 27.2 V without current. -/
def floatTick (seconds : ℕ) : Tick where
  signedCurrentA := 0
  voltage := 272 / 10
  now := seconds
  syncVoltage := some (272 / 10)
  floatingVoltage := some (272 / 10)
  wallNow := some seconds

/-- A small load below the full threshold. -/
def smallLoadTick (seconds : ℕ) : Tick :=
  { floatTick seconds with signedCurrentA := -1, voltage := 26 }

/-- A tick or a change of the configuration, away from the count that decays
to the threshold. -/
def SocEstimator.awayFromDecay (est : SocEstimator) : Call → Bool
  | .restore _ _ _ => false
  | _ => decide (est.atSyncTicks ≠ syncDebounceTicks + 1)

theorem SocEstimator.guarded_of_away {before after : SocEstimator}
    {call : Call} (hnext : before.next? call = some after)
    (haway : before.awayFromDecay call = true) :
    guarded Called (fun est call =>
      call.InOperation ∧ ¬ est.DecaysToThreshold call) before call after := by
  refine ⟨called_of_next? hnext, ?_, ?_⟩
  · cases call with
    | restore socPercent accumulated lastSync => cases haway
    | _ => trivial
  · rintro ⟨tick, _, _, rfl, _, _, _, hdecays, _⟩
    exact of_decide_eq_true haway hdecays

def fullCharge : List Call :=
  [.update (floatTick 1), .update (floatTick 2), .update (floatTick 3)]

def SocEstimator.afterFullCharge : SocEstimator :=
  (execute (guardedNext next? awayFromDecay) configured fullCharge).get
    (by decide +kernel)

theorem SocEstimator.stampsCrossings_fullCharge :
    ∃ before after, Run Called configured
        [.update (floatTick 1), .update (floatTick 2)] before ∧
      Called before (.update (floatTick 3)) after ∧
      Run Called after [] afterFullCharge ∧
      before.StampsCrossings (.update (floatTick 3)) after := by
  apply stampsCrossings_of_run
  have hrun : Run (guarded (graph next?) fun est call =>
      est.awayFromDecay call = true) configured fullCharge afterFullCharge :=
    run_of_guarded_execute (Option.some_get _).symm
  exact hrun.mono fun _ _ _ hstep => guarded_of_away hstep.1 hstep.2

/-- The battery floats for four ticks, and the fifth has a small load. -/
def SocEstimator.afterFloat : SocEstimator :=
  (execute next? configured (fullCharge ++ [.update (floatTick 4)])).get
    (by decide +kernel)

def SocEstimator.afterSmallLoad : SocEstimator :=
  (afterFloat.next? (.update (smallLoadTick 5))).get (by decide +kernel)

theorem SocEstimator.smallLoad_not_stampsCrossings :
    Run Called configured (fullCharge ++ [.update (floatTick 4)]) afterFloat ∧
      Called afterFloat (.update (smallLoadTick 5)) afterSmallLoad ∧
      ¬ afterFloat.StampsCrossings (.update (smallLoadTick 5))
        afterSmallLoad := by
  have hrun : Run (graph next?) configured
      (fullCharge ++ [.update (floatTick 4)]) afterFloat :=
    run_of_execute (Option.some_get _).symm
  have hcalled : Called afterFloat (.update (smallLoadTick 5))
      afterSmallLoad :=
    called_of_next? (Option.some_get _).symm
  refine ⟨hrun.mono fun _ _ _ => called_of_next?, hcalled, ?_⟩
  have hoperation : (Call.update (smallLoadTick 5)).InOperation := trivial
  rw [stampsCrossings_iff hoperation hcalled, not_not]
  have hbranch : afterFloat.VoltageBranch (smallLoadTick 5) 200 (272 / 10) :=
    ⟨by decide +kernel, by norm_num, by decide +kernel, rfl⟩
  have hbelow : ¬ afterFloat.AtFull (smallLoadTick 5) 200 (272 / 10) := by
    rintro ⟨hvoltage, -⟩
    revert hvoltage
    decide +kernel
  exact ⟨smallLoadTick 5, 200, 272 / 10, rfl, hbranch, hbelow,
    by decide +kernel, by decide +kernel, 5, rfl, by decide +kernel⟩

end SocCore
end DessMonitor
