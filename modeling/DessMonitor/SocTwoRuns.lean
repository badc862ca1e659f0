import DessMonitor.SocVoltageBranch

/-!
# Two estimators that differ in their charge

No decision of a configured estimator reads the charge: a call replaces it by
a monotone function of it that brings two charges no further apart, measured
in fractions of the capacity.  A tick that snaps or mirrors the BMS replaces
it by a constant.
-/

namespace DessMonitor
namespace SocCore

open DecimalRounding
open LabelledRun

/-! ## Twins -/

def SocEstimator.withCharge (self : SocEstimator) (charge : ℚ)
    (shown : Option ℚ) : SocEstimator :=
  { self with accumulatedChargeAh := charge, socPercent := shown }

structure SocEstimator.Configured (est : SocEstimator) (capacity : ℚ) :
    Prop where
  known : est.capacityAh = some capacity
  positive : 0 < capacity

/-- Two configured estimators equal in everything except the charge, and the
percentage that shows it. -/
structure SocEstimator.Twins (first second : SocEstimator) : Prop where
  same : second =
    first.withCharge second.accumulatedChargeAh second.socPercent
  configured : ∃ capacity, first.Configured capacity

def SocEstimator.chargeFraction (est : SocEstimator) : ℚ :=
  est.accumulatedChargeAh / est.capacityAh.getD 0

theorem SocEstimator.Configured.chargeFraction_eq {self : SocEstimator}
    {capacity : ℚ} (hconfigured : self.Configured capacity) :
    self.chargeFraction = self.accumulatedChargeAh / capacity := by
  rw [SocEstimator.chargeFraction, hconfigured.known, Option.getD_some]

/-- The calls of the comparison: the battery stays configured. -/
def Call.KeepsConfigured : Call → Prop
  | .setCapacity value => ∃ capacity, value = some capacity ∧ 0 < capacity
  | .restore _ _ _ => False
  | _ => True

/-- The tick snaps the charge to the capacity or mirrors the BMS. -/
def SocEstimator.Syncs (est : SocEstimator) (call : Call) : Prop :=
  ∃ tick, call = .update tick ∧
    (est.Snaps tick ∨
      (∃ capacity, est.Configured capacity) ∧
        (est.mirroredSoc tick).isSome)

abbrev Pair := SocEstimator × SocEstimator

/-- Both estimators receive the call. -/
def PairStep (before : Pair) (call : Call) (after : Pair) : Prop :=
  Called before.1 call after.1 ∧ Called before.2 call after.2

/-- The step keeps the order of the charges and brings the fractions no
further apart. -/
structure NoLarger (before after : Pair) : Prop where
  order : before.1.accumulatedChargeAh ≤ before.2.accumulatedChargeAh →
    after.1.accumulatedChargeAh ≤ after.2.accumulatedChargeAh
  order' : before.2.accumulatedChargeAh ≤ before.1.accumulatedChargeAh →
    after.2.accumulatedChargeAh ≤ after.1.accumulatedChargeAh
  fraction : |after.1.chargeFraction - after.2.chargeFraction| ≤
    |before.1.chargeFraction - before.2.chargeFraction|

/-- Neither the branch nor the debounce reads the charge. -/
theorem SocEstimator.Syncs.withCharge {self : SocEstimator} {call : Call}
    (hsyncs : self.Syncs call) (charge : ℚ) (shown : Option ℚ) :
    (self.withCharge charge shown).Syncs call := by
  obtain ⟨tick, hcall, hsnaps | ⟨⟨capacity, hconfigured⟩, hmirrored⟩⟩ := hsyncs
  · obtain ⟨capacity, syncVoltage, hbranch, hcounted⟩ := hsnaps
    have hbranch' : (self.withCharge charge shown).VoltageBranch tick capacity
        syncVoltage := ⟨hbranch.configured, hbranch.positive,
      hbranch.notMirrored, hbranch.reference⟩
    exact ⟨tick, hcall, .inl ⟨capacity, syncVoltage, hbranch', hcounted⟩⟩
  · have hconfigured' : (self.withCharge charge shown).Configured capacity :=
      ⟨hconfigured.known, hconfigured.positive⟩
    exact ⟨tick, hcall, .inr ⟨⟨capacity, hconfigured'⟩, hmirrored⟩⟩

/-! ## What a call does to the charge -/

/-- The call replaces the charge by `effect` of it, whatever the charge and
the percentage are. -/
structure SocEstimator.Responds (est : SocEstimator) (call : Call)
    (next : SocEstimator) (effect : ℚ → ℚ) : Prop where
  called : ∀ charge shown, ∃ shown',
    Called (est.withCharge charge shown) call
      (next.withCharge (effect charge) shown')
  configured : ∃ capacity, next.Configured capacity
  order : Monotone effect
  shrinks : ∀ charge other,
    |(next.withCharge (effect charge) none).chargeFraction -
        (next.withCharge (effect other) none).chargeFraction| ≤
      |(est.withCharge charge none).chargeFraction -
        (est.withCharge other none).chargeFraction|
  erased : est.Syncs call → ∃ final, ∀ charge shown,
    Called (est.withCharge charge shown) call final

theorem SocEstimator.not_syncs_of_ne {self : SocEstimator} {call : Call}
    (hother : ∀ tick, call ≠ .update tick) : ¬ self.Syncs call := by
  rintro ⟨tick, hcall, -⟩
  exact hother tick hcall

section Calls

variable {self : SocEstimator} {capacity : ℚ}

/-- A call that leaves the charge and the capacity alone. -/
theorem SocEstimator.Configured.responds_id {call : Call}
    {next : SocEstimator} (hconfigured : self.Configured capacity)
    (hcapacity : next.capacityAh = self.capacityAh)
    (hcalled : ∀ charge shown, ∃ shown',
      Called (self.withCharge charge shown) call
        (next.withCharge charge shown'))
    (hquiet : ¬ self.Syncs call) : self.Responds call next id where
  called := hcalled
  configured := ⟨capacity, hcapacity.trans hconfigured.known,
    hconfigured.positive⟩
  order := monotone_id
  shrinks := by
    intro charge other
    simp [SocEstimator.chargeFraction, SocEstimator.withCharge, hcapacity]
  erased := fun hsyncs => absurd hsyncs hquiet

theorem SocEstimator.Configured.setMode_responds
    (hconfigured : self.Configured capacity) (text : String) :
    self.Responds (.setMode text) (self.setMode text) id := by
  refine hconfigured.responds_id (self.setMode_fields text).1 ?_
    (not_syncs_of_ne fun _ hcall => by cases hcall)
  intro charge shown
  refine ⟨shown, congrArg Except.ok ?_⟩
  have hmode : (self.withCharge charge shown).mode = self.mode := rfl
  unfold SocEstimator.setMode
  cases BatteryMode.ofText? text with
  | none => rfl
  | some mode =>
      dsimp only
      rw [hmode]
      split <;> rfl

theorem SocEstimator.Configured.setDeadband_responds
    (hconfigured : self.Configured capacity) (enabled : Bool)
    (window noiseFloor : ℚ) :
    self.Responds (.setDeadband enabled window noiseFloor)
      (self.setDeadband enabled window noiseFloor) id :=
  hconfigured.responds_id rfl (fun _ shown => ⟨shown, rfl⟩)
    (not_syncs_of_ne fun _ hcall => by cases hcall)

/-- An edit of the capacity keeps the fraction. -/
theorem SocEstimator.Configured.setCapacity_responds
    (hconfigured : self.Configured capacity) {value : ℚ} (hvalue : 0 < value) :
    self.Responds (.setCapacity (some value))
      { self with capacityAh := some value }
      (fun charge => clamp (charge / capacity) 0 1 * value) where
  called := by
    intro charge shown
    have hknown : (self.withCharge charge shown).capacityAh = some capacity :=
      hconfigured.known
    exact ⟨_, setCapacity_edit hvalue hconfigured.positive hknown⟩
  configured := ⟨value, rfl, hvalue⟩
  order := by
    intro charge other hle
    have hfraction := div_le_div_of_nonneg_right hle hconfigured.positive.le
    exact mul_le_mul_of_nonneg_right (clamp_mono 0 1 hfraction) hvalue.le
  shrinks := by
    intro charge other
    have hbefore : ∀ charge,
        (self.withCharge charge none).chargeFraction = charge / capacity :=
      fun charge => Configured.chargeFraction_eq
        ⟨hconfigured.known, hconfigured.positive⟩
    have hafter : ∀ charge, (({ self with capacityAh := some value } :
        SocEstimator).withCharge (clamp (charge / capacity) 0 1 * value)
          none).chargeFraction = clamp (charge / capacity) 0 1 :=
      fun charge => mul_div_cancel_right₀ _ hvalue.ne'
    rw [hbefore, hbefore, hafter, hafter]
    exact abs_clamp_sub_clamp_le _ _ 0 1
  erased := fun hsyncs =>
    absurd hsyncs (not_syncs_of_ne fun _ hcall => by cases hcall)

/-! ## Ticks -/

/-- The trapezoid adds an increment that does not depend on the charge. -/
theorem SocEstimator.exists_increment (self : SocEstimator) (tick : Tick)
    (effective : ℚ) :
    ∃ increment, ∀ charge shown,
      (self.withCharge charge shown).integrate tick effective =
        (self.integrate tick effective).withCharge (charge + increment)
          shown := by
  by_cases hdeadband : self.inFloatDeadband tick = true
  · refine ⟨0, fun charge shown => ?_⟩
    have hother : (self.withCharge charge shown).inFloatDeadband tick = true :=
      hdeadband
    simp only [SocEstimator.integrate, if_pos hdeadband, if_pos hother,
      add_zero]
    rfl
  · cases hprevious : self.prevEffectiveCurrentA with
    | none =>
        refine ⟨0, fun charge shown => ?_⟩
        have hother : ¬ (self.withCharge charge shown).inFloatDeadband tick =
            true := hdeadband
        simp only [SocEstimator.integrate, if_neg hdeadband, if_neg hother]
        simp only [SocEstimator.withCharge, hprevious, add_zero]
    | some previous =>
        have hother : ∀ charge shown,
            ¬ (self.withCharge charge shown).inFloatDeadband tick = true :=
          fun _ _ => hdeadband
        cases hlast : self.prevTs with
        | none =>
            refine ⟨0 / 3600 * (previous + effective) / 2,
              fun charge shown => ?_⟩
            simp only [SocEstimator.integrate, if_neg hdeadband,
              if_neg (hother charge shown)]
            simp only [SocEstimator.withCharge, hprevious, hlast]
        | some prevTs =>
            refine ⟨(tick.now - prevTs) / 3600 * (previous + effective) / 2,
              fun charge shown => ?_⟩
            simp only [SocEstimator.integrate, if_neg hdeadband,
              if_neg (hother charge shown)]
            simp only [SocEstimator.withCharge, hprevious, hlast]

/-- A constant effect: the tick snaps or mirrors. -/
theorem SocEstimator.responds_const {call : Call}
    {next : SocEstimator} {full : ℚ}
    (hnext : ∃ capacity, next.Configured capacity)
    (hcalled : ∀ charge shown, Called (self.withCharge charge shown) call next)
    (hfull : next.accumulatedChargeAh = full) :
    self.Responds call next (fun _ => full) where
  called := by
    subst hfull
    exact fun charge shown => ⟨next.socPercent, hcalled charge shown⟩
  configured := hnext
  order := monotone_const
  shrinks := by
    intro charge other
    rw [sub_self, abs_zero]
    exact abs_nonneg _
  erased := fun _ => ⟨next, hcalled⟩

/-- Keeping the integral between zero and the capacity brings two charges no
further apart. -/
theorem SocEstimator.Configured.responds_clamp {call : Call}
    {next : SocEstimator} {increment : ℚ}
    (hconfigured : self.Configured capacity)
    (hcapacity : next.capacityAh = self.capacityAh)
    (hcalled : ∀ charge shown, ∃ shown',
      Called (self.withCharge charge shown) call
        (next.withCharge (clamp (charge + increment) 0 capacity) shown'))
    (hquiet : ¬ self.Syncs call) :
    self.Responds call next
      (fun charge => clamp (charge + increment) 0 capacity) where
  called := hcalled
  configured := ⟨capacity, hcapacity.trans hconfigured.known,
    hconfigured.positive⟩
  order := by
    intro charge other hle
    exact clamp_mono 0 capacity (add_le_add_left hle increment)
  shrinks := by
    intro charge other
    have hfraction : ∀ est : SocEstimator, est.capacityAh = self.capacityAh →
        ∀ charge, (est.withCharge charge none).chargeFraction =
          charge / capacity := fun est hsame charge =>
      Configured.chargeFraction_eq
        ⟨hsame.trans hconfigured.known, hconfigured.positive⟩
    have hapart := abs_clamp_sub_clamp_le (charge + increment)
      (other + increment) 0 capacity
    rw [add_sub_add_right_eq_sub] at hapart
    rw [hfraction next hcapacity, hfraction next hcapacity,
      hfraction self rfl, hfraction self rfl, ← sub_div, ← sub_div, abs_div,
      abs_div]
    exact div_le_div_of_nonneg_right hapart (abs_nonneg capacity)
  erased := fun hsyncs => absurd hsyncs hquiet

theorem SocEstimator.VoltageBranch.responds {tick : Tick} {syncVoltage : ℚ}
    (hbranch : self.VoltageBranch tick capacity syncVoltage) :
    ∃ next effect, self.Responds (.update tick) next effect := by
  have hconfigured : self.Configured capacity :=
    ⟨hbranch.configured, hbranch.positive⟩
  obtain ⟨effective, heffective⟩ :=
    effectiveCurrentA_ok self.mode tick.signedCurrentA
  obtain ⟨increment, hincrement⟩ := self.exists_increment tick effective
  have hcapacity := self.integrate_capacityAh tick effective
  have hupdate : ∀ charge shown,
      (self.withCharge charge shown).update tick =
        ((self.integrate tick effective).withCharge (charge + increment)
          shown).settle capacity
            (self.countedTicks tick capacity syncVoltage) tick := by
    intro charge shown
    have hother : (self.withCharge charge shown).VoltageBranch tick capacity
        syncVoltage := ⟨hbranch.configured, hbranch.positive,
      hbranch.notMirrored, hbranch.reference⟩
    rw [← hincrement]
    exact hother.update_eq heffective
  by_cases hsnap : syncDebounceTicks ≤
      self.countedTicks tick capacity syncVoltage
  · refine ⟨{ self.integrate tick effective with
      atSyncTicks := self.countedTicks tick capacity syncVoltage
      accumulatedChargeAh := capacity
      lastSyncAt :=
        if self.countedTicks tick capacity syncVoltage = syncDebounceTicks then
          tick.wallNow.orElse fun _ =>
            (self.integrate tick effective).lastSyncAt
        else (self.integrate tick effective).lastSyncAt
      socPercent := some (round2 (clamp 100 0 100)) }, _,
      responds_const ?_ ?_ rfl⟩
    · exact ⟨capacity, hcapacity.trans hbranch.configured, hbranch.positive⟩
    · intro charge shown
      exact (hupdate charge shown).trans (settle_snap _ capacity hsnap tick)
  · refine ⟨{ self.integrate tick effective with
      atSyncTicks := self.countedTicks tick capacity syncVoltage },
      fun charge => clamp (charge + increment) 0 capacity,
      hconfigured.responds_clamp hcapacity ?_ ?_⟩
    · intro charge shown
      exact ⟨_, (hupdate charge shown).trans
        (settle_clamp _ hbranch.positive hsnap tick)⟩
    · rintro ⟨other, hcall, hsyncs⟩
      obtain rfl := Call.update.inj hcall
      rcases hsyncs with hsnaps | ⟨-, hmirrored⟩
      · exact hsnap (hbranch.snaps_iff.mp hsnaps)
      · rw [hbranch.notMirrored] at hmirrored
        cases hmirrored

theorem SocEstimator.Configured.update_responds
    (hconfigured : self.Configured capacity) (tick : Tick) :
    ∃ next effect, self.Responds (.update tick) next effect := by
  have hother : ∀ charge shown,
      (self.withCharge charge shown).Configured capacity :=
    fun _ _ => ⟨hconfigured.known, hconfigured.positive⟩
  cases hmirror : self.mirroredSoc tick with
  | some bmsSoc =>
      refine ⟨self.mirrorBms capacity bmsSoc tick, _,
        responds_const ?_ ?_ rfl⟩
      · exact ⟨capacity, hconfigured.known, hconfigured.positive⟩
      · intro charge shown
        exact SocEstimator.update_of_mirrored (hother charge shown).known
          (hother charge shown).positive hmirror
  | none =>
      cases hreference : tick.syncVoltage with
      | none =>
          refine ⟨self, id, hconfigured.responds_id rfl ?_ ?_⟩
          · intro charge shown
            exact ⟨none, SocEstimator.update_of_no_reference
              (hother charge shown).known (hother charge shown).positive
                hmirror hreference⟩
          · rintro ⟨other, hcall, hsyncs⟩
            obtain rfl := Call.update.inj hcall
            rcases hsyncs with ⟨_, _, hbranch, -⟩ | ⟨-, hmirrored⟩
            · rw [hbranch.reference] at hreference
              cases hreference
            · rw [hmirror] at hmirrored
              cases hmirrored
      | some syncVoltage =>
          exact VoltageBranch.responds ⟨hconfigured.known,
            hconfigured.positive, hmirror, hreference⟩

/-- No decision reads the charge. -/
theorem SocEstimator.Configured.responds (hconfigured : self.Configured capacity)
    {call : Call} (hkeeps : call.KeepsConfigured) :
    ∃ next effect, self.Responds call next effect := by
  cases call with
  | setMode text => exact ⟨_, _, hconfigured.setMode_responds text⟩
  | setDeadband enabled window noiseFloor =>
      exact ⟨_, _, hconfigured.setDeadband_responds enabled window noiseFloor⟩
  | setCapacity value =>
      obtain ⟨capacity', rfl, hvalue⟩ := hkeeps
      exact ⟨_, _, hconfigured.setCapacity_responds hvalue⟩
  | restore socPercent accumulated lastSync => cases hkeeps
  | update tick => exact hconfigured.update_responds tick

end Calls

/-! ## Two runs -/

/-- Twins take a common call to twins. -/
theorem SocEstimator.Twins.step {before : Pair}
    (htwins : before.1.Twins before.2) {call : Call}
    (hkeeps : call.KeepsConfigured) :
    ∃ after, PairStep before call after ∧ after.1.Twins after.2 ∧
      NoLarger before after ∧ (before.1.Syncs call → after.1 = after.2) := by
  obtain ⟨first, second⟩ := before
  obtain ⟨hsame, capacity, hconfigured⟩ := htwins
  obtain ⟨next, effect, hresponds⟩ := hconfigured.responds hkeeps
  obtain ⟨shown, hfirst⟩ :=
    hresponds.called first.accumulatedChargeAh first.socPercent
  obtain ⟨shown', hsecond⟩ :=
    hresponds.called second.accumulatedChargeAh second.socPercent
  dsimp only at hsame
  rw [← hsame] at hsecond
  refine ⟨(next.withCharge (effect first.accumulatedChargeAh) shown,
    next.withCharge (effect second.accumulatedChargeAh) shown'),
    ⟨hfirst, hsecond⟩, ⟨rfl, ?_⟩, ⟨?_, ?_, ?_⟩, ?_⟩
  · obtain ⟨capacity', hnext⟩ := hresponds.configured
    exact ⟨capacity', hnext.known, hnext.positive⟩
  · exact fun hle => hresponds.order hle
  · exact fun hle => hresponds.order hle
  · have hshrinks := hresponds.shrinks first.accumulatedChargeAh
      second.accumulatedChargeAh
    rw [hsame]
    exact hshrinks
  · intro hsyncs
    obtain ⟨final, hfinal⟩ := hresponds.erased hsyncs
    have hone := hfinal first.accumulatedChargeAh first.socPercent
    have htwo := hfinal second.accumulatedChargeAh second.socPercent
    rw [← hsame] at htwo
    exact (Except.ok.inj (hfirst.symm.trans hone)).trans
      (Except.ok.inj (hsecond.symm.trans htwo)).symm

theorem PairStep.unique {before after after' : Pair} {call : Call}
    (hstep : PairStep before call after)
    (hstep' : PairStep before call after') : after = after' :=
  Prod.ext (Except.ok.inj (hstep.1.symm.trans hstep'.1))
    (Except.ok.inj (hstep.2.symm.trans hstep'.2))

theorem SocEstimator.Twins.of_run {start final : Pair} {calls : List Call}
    (hrun : Run PairStep start calls final)
    (hkeeps : ∀ call ∈ calls, call.KeepsConfigured)
    (htwins : start.1.Twins start.2) : final.1.Twins final.2 := by
  apply (hrun.guard hkeeps).invariant (fun pair : Pair => pair.1.Twins pair.2)
    htwins
  rintro before call after hbefore ⟨hstep, hcall⟩
  obtain ⟨after', hstep', htwins', -⟩ := hbefore.step hcall
  rwa [hstep.unique hstep']

theorem SocEstimator.Twins.exists_run {first second : SocEstimator}
    (htwins : first.Twins second) {calls : List Call}
    (hkeeps : ∀ call ∈ calls, call.KeepsConfigured) :
    ∃ final, Run PairStep (first, second) calls final := by
  induction calls using List.reverseRecOn with
  | nil => exact ⟨(first, second), .start⟩
  | append_singleton calls call ih =>
      rw [List.forall_mem_append, List.forall_mem_singleton] at hkeeps
      obtain ⟨middle, hrun⟩ := ih hkeeps.1
      have hmiddle := Twins.of_run hrun hkeeps.1 htwins
      obtain ⟨final, hstep, -⟩ := hmiddle.step hkeeps.2
      exact ⟨final, .extend hrun hstep⟩

/-- Equal estimators stay equal. -/
theorem equal_of_run {start final : Pair} {calls : List Call}
    (hrun : Run PairStep start calls final) (hequal : start.1 = start.2) :
    final.1 = final.2 := by
  apply hrun.invariant (fun pair : Pair => pair.1 = pair.2) hequal
  rintro before call after hbefore ⟨hfirst, hsecond⟩
  rw [← hbefore] at hsecond
  exact Except.ok.inj (hfirst.symm.trans hsecond)

/-- In a common run of two estimators that differ in their charge, every call
keeps the order and does not enlarge the difference, and from the first sync
on nothing distinguishes them. -/
theorem SocEstimator.errors_never_grow {first second : SocEstimator}
    (htwins : first.Twins second) {calls : List Call}
    (hkeeps : ∀ call ∈ calls, call.KeepsConfigured) :
    ∃ final, Run PairStep (first, second) calls final ∧
      ∀ earlier call later, calls = earlier ++ call :: later →
        ∃ before after, Run PairStep (first, second) earlier before ∧
          PairStep before call after ∧ Run PairStep after later final ∧
          NoLarger before after ∧
          (before.1.Syncs call ∨ before.2.Syncs call → final.1 = final.2) := by
  obtain ⟨final, hrun⟩ := htwins.exists_run hkeeps
  refine ⟨final, hrun, ?_⟩
  rintro earlier call later rfl
  obtain ⟨before, after, hearlier, hstep, hlater⟩ := hrun.split
  rw [List.forall_mem_append, List.forall_mem_cons] at hkeeps
  have hbefore := Twins.of_run hearlier hkeeps.1 htwins
  obtain ⟨after', hstep', -, hnoLarger, herased⟩ := hbefore.step hkeeps.2.1
  obtain rfl := hstep.unique hstep'
  refine ⟨before, after, hearlier, hstep, hlater, hnoLarger, ?_⟩
  intro hsyncs
  apply equal_of_run hlater
  apply herased
  rcases hsyncs with hfirst | hsecond
  · exact hfirst
  · have hback := hsecond.withCharge before.1.accumulatedChargeAh
      before.1.socPercent
    rwa [hbefore.same] at hback

/-- A battery of 200 Ah of which half is shown. -/
def SocEstimator.halfShown (charge : ℚ) : SocEstimator where
  capacityAh := some 200
  accumulatedChargeAh := charge
  socPercent := some 50

def mirroredTick : Tick where
  signedCurrentA := -14
  voltage := 273 / 10
  now := 0
  syncVoltage := some 28
  floatingVoltage := some (272 / 10)
  bmsSoc := some 73

theorem SocEstimator.errors_erased_by_bms :
    ∃ final, Run PairStep (halfShown 80, halfShown 120)
        [.setCapacity (some 100), .setMode "Lithium (BMS)",
          .update mirroredTick] final ∧
      ∀ earlier call later, [.setCapacity (some 100),
          .setMode "Lithium (BMS)", .update mirroredTick] =
            earlier ++ call :: later →
        ∃ before after,
          Run PairStep (halfShown 80, halfShown 120) earlier before ∧
          PairStep before call after ∧ Run PairStep after later final ∧
          NoLarger before after ∧
          (before.1.Syncs call ∨ before.2.Syncs call →
            final.1 = final.2) := by
  refine errors_never_grow ⟨rfl, 200, rfl, by norm_num⟩ ?_
  simp only [List.forall_mem_cons, List.not_mem_nil, false_imp_iff,
    implies_true, and_true]
  exact ⟨⟨100, rfl, by norm_num⟩, trivial, trivial⟩

end SocCore
end DessMonitor
