import DessMonitor.SocLastSync

/-!
# Leaving the full battery

While the battery discharges below the full threshold, the debounce counter
only falls: by one on a discharge within the tail current, to zero on a
stronger one.  How long the charge stays reset to the capacity is therefore
decided by the counter at the start of the discharge.
-/

namespace DessMonitor
namespace SocCore

open DecimalRounding
open LabelledRun

/-! ## Discharge ticks -/

/-- A tick of the voltage branch that discharges below the full threshold. -/
def SocEstimator.DischargeTick (est : SocEstimator) (tick : Tick) : Prop :=
  ∃ capacity syncVoltage, est.VoltageBranch tick capacity syncVoltage ∧
    tick.signedCurrentA < 0 ∧
    tick.voltage < vFullThreshold syncVoltage tick.floatingVoltage

def Ticked (before : SocEstimator) (tick : Tick) (after : SocEstimator) :
    Prop :=
  before.update tick = .ok after

/-- Consecutive updates that all discharge below the threshold. -/
abbrev Discharge : SocEstimator → List Tick → SocEstimator → Prop :=
  Run (guarded Ticked SocEstimator.DischargeTick)

/-- The discharge stays within the tail current. -/
def SocEstimator.WithinTail (est : SocEstimator) (tick : Tick) : Prop :=
  ∀ capacity, est.capacityAh = some capacity →
    -est.tailCurrentA capacity ≤ tick.signedCurrentA

/-- The tick leaves the integral as the charge, kept between zero and the
capacity, and shows it. -/
def SocEstimator.Follows (est : SocEstimator) (tick : Tick) : Prop :=
  ∃ capacity effective after, est.capacityAh = some capacity ∧
    effectiveCurrentA (chemistryParams est.mode) tick.signedCurrentA =
      .ok effective ∧
    Ticked est tick after ∧
    after.accumulatedChargeAh =
      clamp (est.integrate tick effective).accumulatedChargeAh 0 capacity ∧
    after.socPercent =
      some (round2 (chargePercent after.accumulatedChargeAh capacity))

/-- After `bound` ticks of a discharge no tick resets the charge. -/
def NoWindup (bound : ℕ) : Prop :=
  ∀ start, Reachable Called SocEstimator.fresh start →
    ∀ ticks before, Discharge start ticks before → bound ≤ ticks.length →
      ∀ tick, before.DischargeTick tick → ¬ before.Snaps tick

/-- The configuration that the branch and the tail current read. -/
def SocEstimator.SameBattery (est other : SocEstimator) : Prop :=
  other.capacityAh = est.capacityAh ∧ other.mode = est.mode

theorem SocEstimator.SameBattery.dischargeTick {self other : SocEstimator}
    (hsame : self.SameBattery other) {tick : Tick}
    (hdischarge : self.DischargeTick tick) : other.DischargeTick tick := by
  obtain ⟨hcapacity, hmode⟩ := hsame
  obtain ⟨capacity, syncVoltage, hbranch, hcurrent, hvoltage⟩ := hdischarge
  have hmirror : other.mirroredSoc tick = self.mirroredSoc tick := by
    rw [SocEstimator.mirroredSoc, SocEstimator.mirroredSoc, hmode]
  exact ⟨capacity, syncVoltage, ⟨hcapacity.trans hbranch.configured,
    hbranch.positive, hmirror.trans hbranch.notMirrored, hbranch.reference⟩,
    hcurrent, hvoltage⟩

theorem SocEstimator.SameBattery.withinTail_iff {self other : SocEstimator}
    (hsame : self.SameBattery other) {tick : Tick} :
    other.WithinTail tick ↔ self.WithinTail tick := by
  unfold SocEstimator.WithinTail SocEstimator.tailCurrentA
  rw [hsame.1, hsame.2]

/-! ## One tick -/

theorem SocEstimator.DischargeTick.update {self : SocEstimator} {tick : Tick}
    (hdischarge : self.DischargeTick tick) :
    ∃ after, Ticked self tick after ∧ self.SameBattery after := by
  obtain ⟨capacity, syncVoltage, hbranch, -, -⟩ := hdischarge
  obtain ⟨after, hupdate, htick⟩ := hbranch.update
  exact ⟨after, hupdate, htick.capacityAh, htick.mode⟩

/-- The counter after a discharge tick. -/
theorem SocEstimator.DischargeTick.counted {self after : SocEstimator}
    {tick : Tick} (hdischarge : self.DischargeTick tick)
    (hticked : Ticked self tick after) :
    (self.WithinTail tick ∧ after.atSyncTicks = self.atSyncTicks - 1 ∨
      ¬ self.WithinTail tick ∧ after.atSyncTicks = 0) ∧
      (self.Snaps tick ↔ syncDebounceTicks ≤ after.atSyncTicks) := by
  obtain ⟨capacity, syncVoltage, hbranch, -, hvoltage⟩ := hdischarge
  obtain ⟨next, hupdate, htick⟩ := hbranch.update
  obtain rfl := Except.ok.inj (hupdate.symm.trans hticked)
  have hbelow : ¬ self.AtFull tick capacity syncVoltage := fun hfull =>
    not_lt.mpr hfull.1 hvoltage
  constructor
  · by_cases hstrong : tick.signedCurrentA < -self.tailCurrentA capacity
    · right
      constructor
      · intro hwithin
        exact not_lt.mpr (hwithin capacity hbranch.configured) hstrong
      · rw [htick.ticks, countedTicks_of_discharge hbelow hstrong]
    · left
      constructor
      · intro other hother
        obtain rfl := Option.some.inj (hbranch.configured.symm.trans hother)
        exact not_lt.mp hstrong
      · rw [htick.ticks, countedTicks_of_decay hbelow hstrong]
  · rw [hbranch.snaps_iff, htick.ticks]

theorem SocEstimator.DischargeTick.follows {self : SocEstimator}
    {tick : Tick} (hdischarge : self.DischargeTick tick)
    (hfree : ¬ self.Snaps tick) : self.Follows tick := by
  obtain ⟨capacity, syncVoltage, hbranch, -, -⟩ := hdischarge
  obtain ⟨after, hupdate, htick⟩ := hbranch.update
  obtain ⟨effective, heffective, hcharge⟩ := htick.followed hfree
  exact ⟨capacity, effective, after, hbranch.configured, heffective, hupdate,
    hcharge, htick.shown⟩

/-! ## Runs -/

/-- The battery stays configured, and the counter falls with every tick or
has been reset. -/
theorem SocEstimator.counter_of_discharge {start before : SocEstimator}
    {ticks : List Tick} (hrun : Discharge start ticks before) :
    start.SameBattery before ∧
      ((∀ tick ∈ ticks, start.WithinTail tick) ∧
          before.atSyncTicks = start.atSyncTicks - ticks.length ∨
        ¬ (∀ tick ∈ ticks, start.WithinTail tick) ∧
          before.atSyncTicks = 0) := by
  induction hrun with
  | start => exact ⟨⟨rfl, rfl⟩, .inl ⟨by simp, rfl⟩⟩
  | @extend ticks middle after tick _ hstep ih =>
      obtain ⟨hticked, hdischarge⟩ := hstep
      obtain ⟨hsame, hcounter⟩ := ih
      obtain ⟨next, hnext, hbattery⟩ := hdischarge.update
      obtain rfl := Except.ok.inj (hnext.symm.trans hticked)
      refine ⟨⟨hbattery.1.trans hsame.1, hbattery.2.trans hsame.2⟩, ?_⟩
      have hcounted := (hdischarge.counted hticked).1
      rw [hsame.withinTail_iff] at hcounted
      simp only [List.forall_mem_append, List.forall_mem_singleton,
        List.length_append, List.length_singleton]
      rcases hcounter with ⟨hwithin, hfallen⟩ | ⟨hstrong, hreset⟩
      · rcases hcounted with ⟨hlast, hfalls⟩ | ⟨hlast, hfalls⟩
        · exact .inl ⟨⟨hwithin, hlast⟩, by omega⟩
        · exact .inr ⟨fun hall => hlast hall.2, hfalls⟩
      · refine .inr ⟨fun hall => hstrong hall.1, ?_⟩
        rcases hcounted with ⟨-, hfalls⟩ | ⟨-, hfalls⟩ <;> omega

theorem SocEstimator.SameBattery.smallLoad {self : SocEstimator}
    (hsame : configured.SameBattery self) (seconds : ℕ) :
    self.DischargeTick (smallLoadTick seconds) ∧
      self.WithinTail (smallLoadTick seconds) := by
  have hknown : configured.capacityAh = some 200 := by decide +kernel
  have hlithium : configured.mode = .liVoltage := by decide +kernel
  constructor
  · apply hsame.dischargeTick
    refine ⟨200, 272 / 10, ⟨hknown, by norm_num, ?_, rfl⟩, ?_, ?_⟩
    · rw [SocEstimator.mirroredSoc, hlithium]
      rfl
    · exact neg_one_lt_zero
    · have hbelow : (26 : ℚ) < vFullThreshold (272 / 10) (some (272 / 10)) := by
        decide +kernel
      exact hbelow
  · rw [hsame.withinTail_iff]
    intro capacity hcapacity
    obtain rfl := Option.some.inj (hknown.symm.trans hcapacity)
    have hweak : -configured.tailCurrentA 200 ≤ -1 := by decide +kernel
    exact hweak

/-- A discharge resets the charge as long as every tick stayed within the tail
current and the counter at its start has not run down; no other tick resets
it, and the charge is then the integral. -/
theorem SocEstimator.follows_of_discharge {start before : SocEstimator}
    {ticks : List Tick} {tick : Tick}
    (hrun : Discharge start ticks before)
    (hdischarge : before.DischargeTick tick) :
    (before.Snaps tick ↔
      ticks.length + syncDebounceTicks < start.atSyncTicks ∧
        ∀ earlier ∈ ticks ++ [tick], start.WithinTail earlier) ∧
      (¬ before.Snaps tick → before.Follows tick) := by
  refine ⟨?_, hdischarge.follows⟩
  have hthreshold : syncDebounceTicks = 3 := rfl
  obtain ⟨after, hticked, -⟩ := hdischarge.update
  obtain ⟨-, hcounter⟩ := counter_of_discharge
    (Run.extend hrun ⟨hticked, hdischarge⟩)
  rw [(hdischarge.counted hticked).2]
  simp only [List.length_append, List.length_singleton] at hcounter
  rcases hcounter with ⟨hwithin, hfallen⟩ | ⟨hstrong, hreset⟩
  · constructor
    · intro hsnaps
      exact ⟨by omega, hwithin⟩
    · rintro ⟨hlasts, -⟩
      omega
  · constructor
    · intro hsnaps
      omega
    · rintro ⟨-, hwithin⟩
      exact absurd hwithin hstrong

/-- The float counted four ticks, so the load takes two to be followed. -/
def SocEstimator.afterTwoLoads : SocEstimator :=
  (afterSmallLoad.next? (.update (smallLoadTick 6))).get (by decide +kernel)

theorem SocEstimator.follows_afterTwoLoads :
    Discharge afterFloat [smallLoadTick 5, smallLoadTick 6] afterTwoLoads ∧
      ¬ afterTwoLoads.Snaps (smallLoadTick 7) ∧
      afterTwoLoads.Follows (smallLoadTick 7) := by
  have hsame : configured.SameBattery afterFloat :=
    ⟨by decide +kernel, by decide +kernel⟩
  have hfirst : Called afterFloat (.update (smallLoadTick 5)) afterSmallLoad :=
    called_of_next? (Option.some_get _).symm
  have hsecond : Called afterSmallLoad (.update (smallLoadTick 6))
      afterTwoLoads :=
    called_of_next? (Option.some_get _).symm
  have hafter : configured.SameBattery afterSmallLoad :=
    ⟨by decide +kernel, by decide +kernel⟩
  have hload : configured.SameBattery afterTwoLoads :=
    ⟨by decide +kernel, by decide +kernel⟩
  have hrun : Discharge afterFloat [smallLoadTick 5, smallLoadTick 6]
      afterTwoLoads :=
    .extend (.extend .start ⟨hfirst, (hsame.smallLoad 5).1⟩)
      ⟨hsecond, (hafter.smallLoad 6).1⟩
  obtain ⟨hsnaps, hfollows⟩ :=
    follows_of_discharge hrun (hload.smallLoad 7).1
  have hcount : afterFloat.atSyncTicks = 4 := by decide +kernel
  have hfree : ¬ afterTwoLoads.Snaps (smallLoadTick 7) := by
    rw [hsnaps, hcount]
    rintro ⟨hlasts, -⟩
    exact absurd hlasts (by decide)
  exact ⟨hrun, hfree, hfollows hfree⟩

/-! ## A long float -/

theorem SocEstimator.configured_reachable :
    Reachable Called fresh configured := by
  have hcalled : Called fresh (.setCapacity (some 200)) configured :=
    called_of_next? (Option.some_get _).symm
  exact ⟨_, .extend .start hcalled⟩

/-- A float counts as far as it lasts. -/
theorem SocEstimator.exists_floated (count : ℕ) :
    ∃ est, Reachable Called fresh est ∧ configured.SameBattery est ∧
      est.atSyncTicks = count := by
  induction count with
  | zero => exact ⟨configured, configured_reachable, ⟨rfl, rfl⟩, by decide +kernel⟩
  | succ count ih =>
      obtain ⟨est, ⟨calls, hrun⟩, ⟨hcapacity, hmode⟩, hcount⟩ := ih
      have hbranch : est.VoltageBranch (floatTick 0) 200 (272 / 10) := by
        refine ⟨hcapacity.trans (by decide +kernel), by norm_num, ?_, rfl⟩
        rw [SocEstimator.mirroredSoc, hmode]
        decide +kernel
      have hfull : est.AtFull (floatTick 0) 200 (272 / 10) := by
        constructor
        · decide +kernel
        · rw [SocEstimator.tailCurrentA, hmode]
          decide +kernel
      obtain ⟨next, hupdate, htick⟩ := hbranch.update
      have hcalled : Called est (.update (floatTick 0)) next := hupdate
      refine ⟨next, ⟨_, .extend hrun hcalled⟩, ?_, ?_⟩
      · exact ⟨htick.capacityAh.trans hcapacity, htick.mode.trans hmode⟩
      · rw [htick.ticks, countedTicks_of_atFull hfull, hcount]

theorem SocEstimator.exists_discharge {start : SocEstimator} {tick : Tick}
    (hdischarge : start.DischargeTick tick) (count : ℕ) :
    ∃ before, Discharge start (List.replicate count tick) before := by
  induction count with
  | zero => exact ⟨start, .start⟩
  | succ count ih =>
      obtain ⟨before, hrun⟩ := ih
      have hsame := (counter_of_discharge hrun).1
      obtain ⟨after, hticked, -⟩ := (hsame.dischargeTick hdischarge).update
      rw [List.replicate_succ']
      exact ⟨after, .extend hrun ⟨hticked, hsame.dischargeTick hdischarge⟩⟩

/-- After a float of `bound + 4` ticks a small load is reset for longer than
`bound` ticks. -/
theorem SocEstimator.not_noWindup : ¬ ∃ bound, NoWindup bound := by
  rintro ⟨bound, hbounded⟩
  have hthreshold : syncDebounceTicks = 3 := rfl
  obtain ⟨start, hreachable, hbattery, hcount⟩ := exists_floated (bound + 4)
  obtain ⟨hdischarge, hwithin⟩ := hbattery.smallLoad 5
  obtain ⟨before, hrun⟩ := exists_discharge hdischarge bound
  obtain ⟨hsame, hcounter⟩ := counter_of_discharge hrun
  have hlast := hsame.dischargeTick hdischarge
  have hlength : (List.replicate bound (smallLoadTick 5)).length = bound :=
    List.length_replicate
  apply hbounded start hreachable _ before hrun hlength.ge _ hlast
  obtain ⟨after, hticked, -⟩ := hlast.update
  obtain ⟨hcounted, hsnaps⟩ := hlast.counted hticked
  rw [hsnaps]
  rcases hcounter with ⟨-, hfallen⟩ | ⟨hstrong, -⟩
  · rcases hcounted with ⟨-, hfalls⟩ | ⟨hstrong, -⟩
    · omega
    · exact absurd (hsame.withinTail_iff.mpr hwithin) hstrong
  · refine absurd ?_ hstrong
    intro tick hmem
    rwa [List.eq_of_mem_replicate hmem]

end SocCore
end DessMonitor
