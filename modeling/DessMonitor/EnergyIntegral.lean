import DessMonitor.EnergyBound
import DessMonitor.Foundation.Trapezoid

/-!
# The counters follow the power

A counter sums trapezoids between the polls of its inverter.  While polls
bring usable samples, what it adds is the energy that flowed, up to how much
the power can change between two polls.
-/

namespace DessMonitor
namespace Energy

open Trapezoid

/-! ## Sampled runs -/

/-- Every update carries a power, and power does not flow backwards. -/
def EnergySensorKind.Sampled (kind : EnergySensorKind)
    (updates : List Update) : Prop :=
  ∀ update ∈ updates, ∃ watts, kind.reading update.device = .sample watts ∧
    0 ≤ watts

def EnergySensorKind.sample? (kind : EnergySensorKind) (update : Update) :
    Option (ℚ × ℚ) :=
  match kind.reading update.device with
  | .sample watts => some (update.now, watts)
  | _ => none

def EnergySensorKind.samples (kind : EnergySensorKind)
    (updates : List Update) : List (ℚ × ℚ) :=
  updates.filterMap kind.sample?

section Samples

variable {kind : EnergySensorKind} {update : Update} {updates : List Update}
  {watts : ℚ}

theorem EnergySensorKind.samples_cons
    (hreading : kind.reading update.device = .sample watts) :
    kind.samples (update :: updates) =
      (update.now, watts) :: kind.samples updates := by
  simp [samples, sample?, hreading]

theorem EnergySensorKind.Sampled.tail
    (hsampled : kind.Sampled (update :: updates)) : kind.Sampled updates :=
  fun other hmem => hsampled other (List.mem_cons_of_mem update hmem)

theorem EnergySensorKind.Sampled.lastTime
    (hsampled : kind.Sampled updates)
    (hreading : kind.reading update.device = .sample watts) :
    lastTime (update.now, watts) (kind.samples updates) =
      update.now + elapsedSeconds (update :: updates) := by
  induction updates generalizing update watts with
  | nil => simp [samples, elapsedSeconds]
  | cons next updates ih =>
      obtain ⟨power, hpower, -⟩ := hsampled next (by simp)
      rw [samples_cons hpower, lastTime_cons, ih hsampled.tail hpower]
      simp [elapsedSeconds]

end Samples

/-! ## The counter adds the trapezoids -/

/-- A trapezoid between powers that can flow is credited. -/
theorem EnergySensor.update_credits {est : EnergySensor}
    {prevPower watts now : ℚ} (hprevious : est.prevPower = some prevPower)
    (hprevPower : 0 ≤ prevPower ∧ |prevPower| ≤ maxPlausiblePowerW)
    (hwatts : 0 ≤ watts ∧ |watts| ≤ maxPlausiblePowerW)
    (hnow : est.prevTs ≤ now) :
    est.updateEnergyValue watts now =
      ⟨some (est.energy + area (est.prevTs, prevPower) (now, watts) / 3600),
        some watts, now⟩ := by
  have helapsed : 0 ≤ now - est.prevTs := sub_nonneg.mpr hnow
  have hstep : (now - est.prevTs) / 3600 * (prevPower + watts) / 2 =
      area (est.prevTs, prevPower) (now, watts) / 3600 := by
    simp only [area]
    ring
  have hnonneg : 0 ≤
      (now - est.prevTs) / 3600 * (prevPower + watts) / 2 := by
    have hsum := add_nonneg hprevPower.1 hwatts.1
    positivity
  have hceiling : (now - est.prevTs) / 3600 * (prevPower + watts) / 2 ≤
      maxStepWh (now - est.prevTs) := by
    refine (trapezoid_le helapsed hprevPower.2 hwatts.2).trans ?_
    rw [maxStepWh, ← mul_div_assoc]
    exact le_max_left _ _
  unfold updateEnergyValue
  simp only [hprevious]
  rw [if_pos ⟨hnonneg, hceiling⟩, hstep]

theorem EnergySensorKind.run_energy {kind : EnergySensorKind}
    {start : EnergySensor} {prevPower : ℚ} {updates : List Update}
    (hprevious : start.prevPower = some prevPower)
    (hprevPower : 0 ≤ prevPower ∧ |prevPower| ≤ maxPlausiblePowerW)
    (hsampled : kind.Sampled updates)
    (hordered : (start.prevTs :: updates.map Update.now).IsChain (· ≤ ·)) :
    (kind.run start updates).energy = start.energy +
      trapezoid ((start.prevTs, prevPower) :: kind.samples updates) / 3600 := by
  induction updates generalizing start prevPower with
  | nil => simp [samples]
  | cons update updates ih =>
      obtain ⟨watts, hreading, hwatts⟩ := hsampled update (by simp)
      have hpower := abs_le_of_sample hreading
      have hnow := (List.isChain_cons_cons.mp hordered).1
      have hhandle : kind.handleCoordinatorUpdate start update =
          ⟨some (start.energy + area (start.prevTs, prevPower)
            (update.now, watts) / 3600), some watts, update.now⟩ := by
        simp only [handleCoordinatorUpdate, hreading]
        exact EnergySensor.update_credits hprevious hprevPower
          ⟨hwatts, hpower⟩ hnow
      rw [run_cons, hhandle, samples_cons hreading, trapezoid_cons_cons]
      rw [ih rfl ⟨hwatts, hpower⟩ hsampled.tail
        (List.isChain_cons_cons.mp hordered).2]
      simp only [EnergySensor.energy, Option.getD_some]
      ring

/-- The first update sets the baseline. -/
theorem EnergySensorKind.run_added_energy {kind : EnergySensorKind}
    {restored : Option ℚ} {created watts : ℚ} {first : Update}
    {rest : List Update}
    (hreading : kind.reading first.device = .sample watts)
    (hsampled : kind.Sampled (first :: rest))
    (hordered : ((first :: rest).map Update.now).IsChain (· ≤ ·)) :
    (kind.run (.added restored created) (first :: rest)).energy =
      restored.getD 0 +
        trapezoid ((first.now, watts) :: kind.samples rest) / 3600 := by
  obtain ⟨power, hpower, hnonneg⟩ := hsampled first (by simp)
  have hwatts : power = watts := by
    rw [hreading] at hpower
    exact (Reading.sample.inj hpower).symm
  subst hwatts
  have hhandle : kind.handleCoordinatorUpdate (.added restored created) first =
      ⟨some (restored.getD 0), some power, first.now⟩ := by
    simp [handleCoordinatorUpdate, hreading, EnergySensor.updateEnergyValue,
      EnergySensor.added, EnergySensor.energy]
  rw [run_cons, hhandle]
  exact run_energy rfl ⟨hnonneg, abs_le_of_sample hreading⟩ hsampled.tail
    hordered

/-! ## The energy that flowed -/

/-- The updates measure `power`, and no two of them are further apart than the
gap. -/
structure EnergySensorKind.Measures (kind : EnergySensorKind)
    (power : ℝ → ℝ) (gap : ℚ) (updates : List Update) : Prop where
  sampled : kind.Sampled updates
  measured : ∀ update ∈ updates, ∀ watts,
    kind.reading update.device = .sample watts → power update.now = watts
  ordered : updates.IsChain fun earlier later =>
    earlier.now ≤ later.now ∧ later.now - earlier.now ≤ gap

section Measures

variable {kind : EnergySensorKind} {power : ℝ → ℝ} {gap : ℚ}
  {update : Update} {updates : List Update}

theorem EnergySensorKind.Measures.tail
    (hmeasures : kind.Measures power gap (update :: updates)) :
    kind.Measures power gap updates where
  sampled := hmeasures.sampled.tail
  measured := fun other hmem =>
    hmeasures.measured other (List.mem_cons_of_mem update hmem)
  ordered := hmeasures.ordered.tail

theorem EnergySensorKind.Measures.times
    (hmeasures : kind.Measures power gap updates) :
    (updates.map Update.now).IsChain (· ≤ ·) := by
  rw [List.isChain_map]
  exact hmeasures.ordered.imp fun _ _ hpair => hpair.1

theorem EnergySensorKind.Measures.samples
    (hmeasures : kind.Measures power gap updates) :
    Trapezoid.Samples power gap
      ((kind.samples updates).map (Prod.map (↑) (↑))) := by
  induction updates with
  | nil => constructor <;> simp [EnergySensorKind.samples]
  | cons update updates ih =>
      obtain ⟨watts, hreading, -⟩ := hmeasures.sampled update (by simp)
      have hrest := ih hmeasures.tail
      have hmeasured := hmeasures.measured update (by simp) watts hreading
      rw [samples_cons hreading, List.map_cons]
      constructor
      · intro sample hmem
        rcases List.mem_cons.mp hmem with rfl | hold
        · exact hmeasured.symm
        · exact hrest.sampled sample hold
      · cases updates with
        | nil => simp [EnergySensorKind.samples]
        | cons next updates =>
            obtain ⟨second, hsecond, -⟩ :=
              hmeasures.sampled next (by simp)
            have hpair := (List.isChain_cons_cons.mp hmeasures.ordered).1
            have htail := hrest.ordered
            rw [samples_cons hsecond, List.map_cons] at htail ⊢
            refine List.isChain_cons_cons.mpr ⟨?_, htail⟩
            simp only [Prod.map_apply]
            exact_mod_cast hpair

end Measures

/-- For every one of the six counters: over polls that each bring a power, the
counter adds the energy that flowed, up to half of what the power can change
within a gap between polls. -/
theorem EnergySensorKind.energy_follows_power (kind : EnergySensorKind)
    (restored : Option ℚ) (created : ℚ) {power : ℝ → ℝ} {rate : NNReal}
    (hpower : LipschitzWith rate power) {gap : ℚ} {first : Update}
    {rest : List Update} (hmeasures : kind.Measures power gap (first :: rest)) :
    |(((kind.run (.added restored created) (first :: rest)).energy -
          restored.getD 0 : ℚ) : ℝ) -
        (∫ time in (first.now : ℝ)..
          ((first.now + elapsedSeconds (first :: rest) : ℚ) : ℝ),
          power time) / 3600| ≤
      rate * gap * (elapsedSeconds (first :: rest) : ℚ) / 7200 := by
  obtain ⟨watts, hreading, -⟩ := hmeasures.sampled first (by simp)
  have hsamples := hmeasures.samples
  rw [samples_cons hreading, List.map_cons] at hsamples
  have hclose := abs_integral_sub_trapezoid_le hpower hsamples
  have hlast : lastTime (Prod.map (↑) (↑) (first.now, watts))
      ((kind.samples rest).map (Prod.map (↑) (↑))) =
        ((first.now + elapsedSeconds (first :: rest) : ℚ) : ℝ) := by
    rw [← hmeasures.tail.sampled.lastTime hreading]
    exact lastTime_map (fun time : ℚ => (time : ℝ)) _ _
  have hsum : trapezoid (Prod.map (↑) (↑) (first.now, watts) ::
      (kind.samples rest).map (Prod.map (↑) (↑))) =
        ((trapezoid ((first.now, watts) :: kind.samples rest) : ℚ) : ℝ) :=
    trapezoid_map (Rat.castHom ℝ) ((first.now, watts) :: kind.samples rest)
  rw [hlast, hsum] at hclose
  rw [run_added_energy hreading hmeasures.sampled hmeasures.times]
  simp only [Prod.map_apply, Rat.cast_add, add_sub_cancel_left,
    Rat.cast_div, Rat.cast_ofNat] at hclose ⊢
  rw [abs_sub_comm, ← sub_div, abs_div, abs_of_pos (by norm_num : (0 : ℝ) < 3600)]
  rw [div_le_div_iff₀ (by norm_num) (by norm_num)]
  linarith

/-- Ten seconds apart, a kilowatt each. -/
def steadySun : List Update :=
  [qpigsUpdate 10 "pv_charging_power" 1000,
    qpigsUpdate 20 "pv_charging_power" 1000]

theorem steadySun_reading {update : Update} (hmem : update ∈ steadySun) :
    EnergySensorKind.pv.reading update.device = .sample 1000 := by
  have hall : ∀ device ∈ steadySun.map Update.device,
      EnergySensorKind.pv.reading device = .sample 1000 := by
    decide +kernel
  exact hall update.device (List.mem_map_of_mem hmem)

theorem energy_follows_steady_sun :
    |(((EnergySensorKind.pv.run (.added none 0) steadySun).energy -
          (none : Option ℚ).getD 0 : ℚ) : ℝ) -
        (∫ _ in ((10 : ℚ) : ℝ)..((10 + elapsedSeconds steadySun : ℚ) : ℝ),
          (1000 : ℝ)) / 3600| ≤
      (0 : NNReal) * (10 : ℚ) * (elapsedSeconds steadySun : ℚ) / 7200 := by
  apply EnergySensorKind.energy_follows_power .pv none 0
    (LipschitzWith.const (1000 : ℝ))
  constructor
  · intro update hmem
    exact ⟨1000, steadySun_reading hmem, by norm_num⟩
  · intro update hmem watts hwatts
    rw [steadySun_reading hmem] at hwatts
    cases hwatts
    norm_num
  · decide +kernel

end Energy
end DessMonitor
