import DessMonitor.SocEstimatorInvariant

/-!
# State of charge across restarts and capacity flaps

At startup the entity delivers the restored percentage, capacity events and
poll ticks in any order; later the capacity entity may become unavailable for
a while.  The percentage survives unless a tick falls on an estimator without
capacity, which forgets it, or a capacity edit reads a charge that does not
stand for the percentage shown, as after restoring the default charge zero
over a configured estimator.
-/

namespace DessMonitor
namespace SocCore

open DecimalRounding
open LabelledRun

/-- `shown` is `soc`, possibly rounded to the two published decimals. -/
def Shows (soc shown : ℚ) : Prop :=
  shown = soc ∨ shown = round2 soc

theorem Shows.round2_eq {soc shown : ℚ} (hshows : Shows soc shown) :
    round2 shown = round2 soc := by
  rcases hshows with rfl | rfl
  · rfl
  · exact round2_round2 soc

theorem shows_round2_iff {soc value : ℚ} :
    Shows soc (round2 value) ↔ round2 value = round2 soc := by
  constructor
  · intro hshows
    have hround := hshows.round2_eq
    rwa [round2_round2] at hround
  · exact Or.inr

theorem shows_hundred_iff {soc : ℚ} :
    Shows soc 100 ↔ round2 soc = 100 := by
  have hiff : Shows soc (round2 100) ↔ round2 100 = round2 soc :=
    shows_round2_iff
  rwa [round2_hundred, eq_comm] at hiff

/-! ## Startup -/

/-- The calls of a startup with persisted percentage `soc` and charge
`accumulated` and capacity `capacity`: ticks only while unconfigured. -/
def StartupCall (soc accumulated capacity : ℚ) (est : SocEstimator) :
    Call → Prop
  | .restore socPercent charge _ => socPercent = some soc ∧ charge = accumulated
  | .setCapacity value => value = none ∨ value = some capacity
  | .update _ => est.capacityAh = none
  | .setMode _ => True
  | .setDeadband _ _ _ => True

def Call.IsRestore : Call → Prop
  | .restore _ _ _ => True
  | _ => False

def SocEstimator.editedPercent (est : SocEstimator) (old : ℚ) : ℚ :=
  round2 (clamp (est.accumulatedChargeAh / old) 0 1 * 100)

theorem SocEstimator.editedPercent_of_charge {est : SocEstimator}
    {frac capacity : ℚ} (hpos : 0 < capacity)
    (hcharge : est.accumulatedChargeAh = clamp frac 0 1 * capacity) :
    est.editedPercent capacity = round2 (clamp frac 0 1 * 100) := by
  have hclamp : clamp (clamp frac 0 1) 0 1 = clamp frac 0 1 :=
    clamp_of_mem (le_clamp _ _ _) (clamp_le zero_le_one _)
  rw [SocEstimator.editedPercent, hcharge,
    mul_div_cancel_right₀ _ hpos.ne', hclamp]

theorem clamp_percent {soc : ℚ} (hsoc : 0 ≤ soc ∧ soc ≤ 100) :
    clamp (soc / 100) 0 1 * 100 = soc := by
  have hclamp : clamp (soc / 100) 0 1 = soc / 100 := by
    apply clamp_of_mem <;> linarith
  rw [hclamp]
  ring

/-- The persisted charge is the one the persisted percentage stands for. -/
def ChargeMatches (soc accumulated capacity : ℚ) : Prop :=
  accumulated = soc / 100 * capacity

/-- No tick on an estimator holding a percentage other than 100 and, where
the persisted charge did not match, no capacity edit that reads a charge
standing for another percentage. -/
def KeepsSoc (soc accumulated capacity : ℚ) (est : SocEstimator) :
    Call → Prop
  | .update _ => ∀ shown, est.socPercent = some shown → round2 shown = 100
  | .setCapacity (some _) =>
      ChargeMatches soc accumulated capacity ∨
        ∀ old shown, est.capacityAh = some old →
          est.socPercent = some shown →
            est.editedPercent old = round2 shown
  | _ => True

/-- The percentage is held, or it is 100 and the next capacity brings it
back; a configured estimator always holds it. -/
structure SocEstimator.Holds (soc accumulated capacity : ℚ)
    (est : SocEstimator) : Prop where
  held : (∃ shown, est.socPercent = some shown ∧ Shows soc shown) ∨
    (est.socPercent = none ∧ round2 soc = 100)
  configured : ∀ old, est.capacityAh = some old → est.socPercent ≠ none
  stands : ChargeMatches soc accumulated capacity →
    ∀ old, est.capacityAh = some old → est.editedPercent old = round2 soc

section Startup

variable {soc accumulated capacity : ℚ} {est next : SocEstimator}

theorem SocEstimator.Holds.shown {old : ℚ}
    (hholds : est.Holds soc accumulated capacity)
    (hcapacity : est.capacityAh = some old) :
    ∃ shown, est.socPercent = some shown ∧ Shows soc shown := by
  rcases hholds.held with hheld | ⟨hnone, _⟩
  · exact hheld
  · exact absurd hnone (hholds.configured old hcapacity)

theorem SocEstimator.Holds.of_fields_eq
    (hholds : est.Holds soc accumulated capacity)
    (hcapacity : next.capacityAh = est.capacityAh)
    (hcharge : next.accumulatedChargeAh = est.accumulatedChargeAh)
    (hsoc : next.socPercent = est.socPercent) :
    next.Holds soc accumulated capacity := by
  constructor
  · rw [hsoc]
    exact hholds.held
  · rw [hcapacity, hsoc]
    exact hholds.configured
  · unfold SocEstimator.editedPercent
    rw [hcapacity, hcharge]
    exact hholds.stands

theorem SocEstimator.Holds.unconfigure
    (hholds : est.Holds soc accumulated capacity) :
    ({ est with capacityAh := none } : SocEstimator).Holds
      soc accumulated capacity where
  held := hholds.held
  configured := by simp
  stands := by simp

theorem SocEstimator.Holds.tick
    (hholds : est.Holds soc accumulated capacity)
    (hcapacity : est.capacityAh = none)
    (hkeeps : ∀ shown, est.socPercent = some shown → round2 shown = 100) :
    ({ est with socPercent := none } : SocEstimator).Holds
      soc accumulated capacity where
  held := by
    right
    rcases hholds.held with ⟨shown, hshown, hshows⟩ | ⟨_, hfull⟩
    · exact ⟨rfl, hshows.round2_eq ▸ hkeeps shown hshown⟩
    · exact ⟨rfl, hfull⟩
  configured := by simp [hcapacity]
  stands := by simp [hcapacity]

theorem SocEstimator.holds_of_restore (hsoc : 0 ≤ soc ∧ soc ≤ 100)
    (hpos : 0 < capacity)
    (hold : ∀ old, est.capacityAh = some old → old = capacity)
    (lastSync : Option WallTime) :
    (est.restore (some soc) accumulated lastSync).Holds
      soc accumulated capacity where
  held := .inl ⟨soc, rfl, .inl rfl⟩
  configured := by simp [SocEstimator.restore]
  stands := by
    intro hmatches old hcapacity
    obtain rfl := hold old hcapacity
    have hclamp : clamp (soc / 100) 0 1 = soc / 100 := by
      apply clamp_of_mem <;> linarith
    have hcharge :
        (est.restore (some soc) accumulated lastSync).accumulatedChargeAh =
          clamp (soc / 100) 0 1 * old := by
      rw [hclamp]
      exact hmatches
    rw [editedPercent_of_charge hpos hcharge, clamp_percent hsoc]

theorem SocEstimator.Holds.configure
    (hholds : est.Holds soc accumulated capacity)
    (hsoc : 0 ≤ soc ∧ soc ≤ 100) (hpos : 0 < capacity)
    (hold : ∀ old, est.capacityAh = some old → old = capacity)
    (hkeeps : KeepsSoc soc accumulated capacity est
      (.setCapacity (some capacity)))
    (hcalled : est.setCapacity (some capacity) = .ok next) :
    next.Holds soc accumulated capacity := by
  cases hcapacity : est.capacityAh with
  | none =>
      rcases hholds.held with ⟨shown, hshown, hshows⟩ | ⟨hnone, hfull⟩
      · rw [setCapacity_anchor hpos hcapacity hshown] at hcalled
        obtain rfl := Except.ok.inj hcalled
        have hmem : 0 ≤ shown ∧ shown ≤ 100 := by
          rcases hshows with rfl | rfl
          · exact hsoc
          · exact round2_mem hsoc
        constructor
        · exact .inl ⟨shown, hshown, hshows⟩
        · simp [hshown]
        · intro _ old hnew
          obtain rfl := Option.some.inj hnew
          rw [editedPercent_of_charge hpos rfl, clamp_percent hmem]
          exact hshows.round2_eq
      · rw [setCapacity_default hpos hcapacity hnone] at hcalled
        obtain rfl := Except.ok.inj hcalled
        constructor
        · exact .inl ⟨100, rfl, shows_hundred_iff.mpr hfull⟩
        · simp
        · intro _ old hnew
          obtain rfl := Option.some.inj hnew
          have hone : clamp 1 0 1 = 1 := clamp_of_mem zero_le_one le_rfl
          have hcharge : capacity = clamp 1 0 1 * capacity := by
            rw [hone, one_mul]
          rw [editedPercent_of_charge hpos hcharge, hone, one_mul,
            round2_hundred, hfull]
  | some old =>
      obtain rfl := hold old hcapacity
      obtain ⟨shown, hshown, hshows⟩ := hholds.shown hcapacity
      have hedited : est.editedPercent old = round2 soc := by
        rcases hkeeps with hmatches | hkeeps
        · exact hholds.stands hmatches old hcapacity
        · rw [hkeeps old shown hcapacity hshown, hshows.round2_eq]
      rw [setCapacity_edit hpos hpos hcapacity] at hcalled
      obtain rfl := Except.ok.inj hcalled
      constructor
      · exact .inl ⟨est.editedPercent old, rfl, .inr hedited⟩
      · simp
      · intro _ new hnew
        obtain rfl := Option.some.inj hnew
        rw [editedPercent_of_charge hpos rfl]
        exact hedited

/-- One startup step: the capacity is the given one or none, a restore
establishes the percentage and every other call keeps it. -/
theorem startup_step (hsoc : 0 ≤ soc ∧ soc ≤ 100) (hpos : 0 < capacity)
    {before after : SocEstimator} {call : Call}
    (hold : ∀ old, before.capacityAh = some old → old = capacity)
    (hcalled : Called before call after)
    (hstartup : StartupCall soc accumulated capacity before call)
    (hkeeps : KeepsSoc soc accumulated capacity before call) :
    (∀ new, after.capacityAh = some new → new = capacity) ∧
      (before.Holds soc accumulated capacity ∨ call.IsRestore →
        after.Holds soc accumulated capacity) := by
  unfold Called at hcalled
  cases call with
  | setMode text =>
      obtain rfl := Except.ok.inj hcalled
      obtain ⟨hcapacity, hcharge, hpercent⟩ := before.setMode_fields text
      rw [hcapacity]
      constructor
      · exact hold
      · rintro (hholds | hrestore)
        · exact hholds.of_fields_eq hcapacity hcharge hpercent
        · exact hrestore.elim
  | setDeadband enabled window noiseFloor =>
      obtain rfl := Except.ok.inj hcalled
      constructor
      · exact hold
      · rintro (hholds | hrestore)
        · exact hholds.of_fields_eq rfl rfl rfl
        · exact hrestore.elim
  | restore socPercent charge lastSync =>
      obtain rfl := Except.ok.inj hcalled
      obtain ⟨rfl, rfl⟩ := hstartup
      constructor
      · exact hold
      · intro _
        exact SocEstimator.holds_of_restore hsoc hpos hold lastSync
  | update tick =>
      rw [SocEstimator.call, before.update_of_unconfigured hstartup] at hcalled
      obtain rfl := Except.ok.inj hcalled
      constructor
      · exact hold
      · rintro (hholds | hrestore)
        · exact hholds.tick hstartup hkeeps
        · exact hrestore.elim
  | setCapacity value =>
      rcases hstartup with rfl | rfl
      · obtain rfl := Except.ok.inj hcalled
        constructor
        · simp
        · rintro (hholds | hrestore)
          · exact hholds.unconfigure
          · exact hrestore.elim
      · have hvalue : after.capacityAh = some capacity :=
          before.setCapacity_capacityAh hpos hcalled
        rw [hvalue]
        constructor
        · intro new hnew
          exact (Option.some.inj hnew).symm
        · rintro (hholds | hrestore)
          · exact hholds.configure hsoc hpos hold hkeeps hcalled
          · exact hrestore.elim

theorem holds_of_startup_run (hsoc : 0 ≤ soc ∧ soc ≤ 100)
    (hpos : 0 < capacity) {calls : List Call}
    (hrun : Run (guarded (guarded Called (StartupCall soc accumulated capacity))
      (KeepsSoc soc accumulated capacity)) .fresh calls est) :
    (∀ old, est.capacityAh = some old → old = capacity) ∧
      ((∃ call ∈ calls, call.IsRestore) →
        est.Holds soc accumulated capacity) := by
  induction hrun with
  | start => simp [SocEstimator.fresh]
  | @extend calls middle final call _ hlast ih =>
      obtain ⟨⟨hcalled, hstartup⟩, hkeeps⟩ := hlast
      obtain ⟨hnew, hholds⟩ :=
        startup_step hsoc hpos ih.1 hcalled hstartup hkeeps
      constructor
      · exact hnew
      · rintro ⟨restore, hmem, hrestore⟩
        apply hholds
        rcases List.mem_append.mp hmem with hearlier | hlatest
        · exact .inl (ih.2 ⟨restore, hearlier, hrestore⟩)
        · rw [List.mem_singleton] at hlatest
          exact .inr (hlatest ▸ hrestore)

end Startup

/-! ## Flaps of the capacity entity -/

/-- The calls while the capacity entity is away. -/
def FlapCall (est : SocEstimator) : Call → Prop
  | .setCapacity value => value = none
  | .update _ => est.capacityAh = none
  | _ => False

/-- What a flap does to the percentage: untouched before the capacity goes,
kept without ticks, forgotten with one. -/
theorem flap_run {est away : SocEstimator} {calls : List Call} {soc : ℚ}
    (hsoc : est.socPercent = some soc)
    (hrun : Run (guarded Called FlapCall) est calls away) :
    (calls = [] ∧ away = est) ∨
      (away.capacityAh = none ∧ calls ≠ [] ∧
        (∀ tick, Call.update tick ∉ calls) ∧ away.socPercent = some soc) ∨
      (away.capacityAh = none ∧ (∃ tick, Call.update tick ∈ calls) ∧
        away.socPercent = none) := by
  induction hrun with
  | start => simp
  | @extend calls middle final call _ hlast ih =>
      obtain ⟨hcalled, hflap⟩ := hlast
      unfold Called at hcalled
      right
      cases call with
      | setMode text => exact hflap.elim
      | setDeadband enabled window noiseFloor => exact hflap.elim
      | restore socPercent charge lastSync => exact hflap.elim
      | setCapacity value =>
          obtain rfl : value = none := hflap
          obtain rfl := Except.ok.inj hcalled
          rcases ih with ⟨rfl, rfl⟩ | ⟨_, _, hnoTick, hkept⟩ | ⟨_, htick, hlost⟩
          · simp [hsoc]
          · left
            simp [hnoTick, hkept]
          · right
            obtain ⟨tick, hmem⟩ := htick
            exact ⟨rfl, ⟨tick, List.mem_append_left _ hmem⟩, hlost⟩
      | update tick =>
          have hcapacity : middle.capacityAh = none := hflap
          rw [SocEstimator.call, middle.update_of_unconfigured hcapacity]
            at hcalled
          obtain rfl := Except.ok.inj hcalled
          right
          exact ⟨hcapacity, ⟨tick, by simp⟩, rfl⟩

/-- The end of a flap keeps the percentage exactly when no tick fell into it,
or the percentage was 100 anyway; without a flap the edit must find the
charge the percentage stands for. -/
theorem flap_shows_iff {est away : SocEstimator} {calls : List Call}
    {soc old capacity : ℚ} (hold : est.capacityAh = some old)
    (holdPos : 0 < old) (hsoc : est.socPercent = some soc)
    (hrun : Run (guarded Called FlapCall) est calls away)
    (hpos : 0 < capacity) :
    ∃ next shown, away.setCapacity (some capacity) = .ok next ∧
      next.socPercent = some shown ∧
      (Shows soc shown ↔
        ((∃ tick, Call.update tick ∈ calls) → round2 soc = 100) ∧
          (calls = [] → est.editedPercent old = round2 soc)) := by
  rcases flap_run hsoc hrun with ⟨rfl, rfl⟩ | ⟨haway, hcalls, hnoTick, hkept⟩ |
    ⟨haway, htick, hlost⟩
  · refine ⟨_, _, SocEstimator.setCapacity_edit hpos holdPos hold, rfl, ?_⟩
    rw [shows_round2_iff]
    simp [SocEstimator.editedPercent]
  · refine ⟨_, soc, SocEstimator.setCapacity_anchor hpos haway hkept, hkept, ?_⟩
    simp [Shows, hcalls, hnoTick]
  · refine ⟨_, 100, SocEstimator.setCapacity_default hpos haway hlost, rfl, ?_⟩
    rw [shows_hundred_iff]
    have hcalls : calls ≠ [] := by
      obtain ⟨tick, hmem⟩ := htick
      exact List.ne_nil_of_mem hmem
    simp [htick, hcalls]

/-! ## Survival -/

/-- A startup that meets `KeepsSoc` at every step shows the persisted
percentage whenever the capacity is there, and a flap of a configured
estimator ends at the percentage it began with exactly when no tick fell into
it, up to the two published decimals. -/
theorem soc_survives {soc accumulated capacity : ℚ}
    (hsoc : 0 ≤ soc ∧ soc ≤ 100) (hpos : 0 < capacity) :
    (∀ calls est,
      Run (guarded (guarded Called (StartupCall soc accumulated capacity))
        (KeepsSoc soc accumulated capacity)) .fresh calls est →
      (∃ call ∈ calls, call.IsRestore) → est.capacityAh = some capacity →
      ∃ shown, est.socPercent = some shown ∧ Shows soc shown) ∧
    (∀ (est away : SocEstimator) calls old,
      est.capacityAh = some old → 0 < old → est.socPercent = some soc →
      Run (guarded Called FlapCall) est calls away →
      ∃ next shown, away.setCapacity (some capacity) = .ok next ∧
        next.socPercent = some shown ∧
        (Shows soc shown ↔
          ((∃ tick, Call.update tick ∈ calls) → round2 soc = 100) ∧
            (calls = [] → est.editedPercent old = round2 soc))) := by
  constructor
  · intro calls est hrun hrestored hcapacity
    have hholds := (holds_of_startup_run hsoc hpos hrun).2 hrestored
    exact hholds.shown hcapacity
  · intro est away calls old hold holdPos hshown hrun
    exact flap_shows_iff hold holdPos hshown hrun hpos

def idleTick : Tick where
  signedCurrentA := 0
  voltage := 26
  now := 0
  syncVoltage := some 28
  floatingVoltage := none

/-- Restored at 50% with the default charge, then given 200 Ah. -/
def halfOfTwoHundred : SocEstimator :=
  { SocEstimator.fresh with
    capacityAh := some 200
    accumulatedChargeAh := clamp (50 / 100) 0 1 * 200
    socPercent := some 50 }

/-- A tick before the restore, the capacity after it, and a flap. -/
theorem soc_survives_capacity_late :
    (∃ shown, halfOfTwoHundred.socPercent = some shown ∧ Shows 50 shown) ∧
      ∃ next shown,
        ({ halfOfTwoHundred with capacityAh := none } :
          SocEstimator).setCapacity (some 200) = .ok next ∧
        next.socPercent = some shown ∧ Shows 50 shown := by
  have hsoc : (0 : ℚ) ≤ 50 ∧ (50 : ℚ) ≤ 100 := by norm_num
  have hpos : (0 : ℚ) < 200 := by norm_num
  have hset : (SocEstimator.fresh.restore (some 50) 0 none).setCapacity
      (some 200) = .ok halfOfTwoHundred :=
    SocEstimator.setCapacity_anchor hpos rfl rfl
  have hrun : Run
      (guarded (guarded Called (StartupCall 50 0 200)) (KeepsSoc 50 0 200))
      .fresh ([] ++ [.update idleTick] ++ [.restore (some 50) 0 none] ++
        [.setCapacity (some 200)]) halfOfTwoHundred := by
    refine .extend (.extend (.extend .start ⟨⟨rfl, rfl⟩, ?_⟩)
      ⟨⟨rfl, rfl, rfl⟩, trivial⟩) ⟨⟨hset, .inr rfl⟩, ?_⟩
    · simp [KeepsSoc, SocEstimator.fresh]
    · exact .inr (by simp [SocEstimator.restore, SocEstimator.fresh])
  have hflap : Run (guarded Called FlapCall) halfOfTwoHundred
      ([] ++ [.setCapacity none]) { halfOfTwoHundred with capacityAh := none } :=
    .extend .start ⟨rfl, rfl⟩
  obtain ⟨hstartup, hflaps⟩ := @soc_survives 50 0 200 hsoc hpos
  constructor
  · exact hstartup _ _ hrun ⟨.restore (some 50) 0 none, by simp, trivial⟩ rfl
  · obtain ⟨next, shown, hback, hshown, hiff⟩ :=
      hflaps _ _ _ 200 rfl hpos rfl hflap
    exact ⟨next, shown, hback, hshown, hiff.mpr (by simp)⟩

/-- A tick between the restore and the first capacity event turns a persisted
50% into 100%. -/
theorem not_soc_survives_startup_tick :
    ¬∀ soc accumulated capacity : ℚ, 0 ≤ soc ∧ soc ≤ 100 → 0 < capacity →
      accumulated = soc / 100 * capacity ∨ accumulated = 0 →
      ∀ calls est,
        Run (guarded Called (StartupCall soc accumulated capacity))
          .fresh calls est →
        (∃ call ∈ calls, call.IsRestore) → est.capacityAh = some capacity →
        ∃ shown, est.socPercent = some shown ∧ Shows soc shown := by
  intro hclaim
  have hpos : (0 : ℚ) < 200 := by norm_num
  have hset : SocEstimator.fresh.setCapacity (some 200) =
      .ok { SocEstimator.fresh with
        capacityAh := some 200
        accumulatedChargeAh := 200
        socPercent := some 100 } :=
    SocEstimator.setCapacity_default hpos rfl rfl
  have hrun : Run (guarded Called (StartupCall 50 0 200)) .fresh
      ([] ++ [.restore (some 50) 0 none] ++ [.update idleTick] ++
        [.setCapacity (some 200)])
      { SocEstimator.fresh with
        capacityAh := some 200
        accumulatedChargeAh := 200
        socPercent := some 100 } := by
    refine .extend (.extend (.extend .start ⟨rfl, ?_⟩) ⟨rfl, rfl⟩) ⟨hset, ?_⟩
    · exact ⟨rfl, rfl⟩
    · exact .inr rfl
  obtain ⟨shown, hshown, hshows⟩ := hclaim 50 0 200 (by norm_num) hpos
    (.inr rfl) _ _ hrun ⟨.restore (some 50) 0 none, by simp, trivial⟩ rfl
  obtain rfl := Option.some.inj hshown
  have hround : round2 50 = 50 := by
    simpa using roundDecimals_intCast 2 50
  rw [shows_hundred_iff, hround] at hshows
  norm_num at hshows

end SocCore
end DessMonitor
