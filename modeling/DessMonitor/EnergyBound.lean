import DessMonitor.EnergySensorModel

/-!
# Energy counters are monotone and bounded

Every sample that reaches the integrator lies within the plausible power, so a
trapezoid adds at most that power for the time since the baseline.  The
invariant measures the time that is paid for: up to the baseline while there
is one, up to the last update otherwise.
-/

namespace DessMonitor
namespace Energy

/-! ## Samples -/

theorem abs_le_of_baseReading {dataSection : Direct.SectionName}
    {dataKey : String} {device : Option Direct.DeviceData} {watts : ℚ}
    (hreading : baseReading dataSection dataKey device = .sample watts) :
    |watts| ≤ maxPlausiblePowerW := by
  cases device with
  | none => cases hreading
  | some device =>
      simp only [baseReading] at hreading
      split at hreading
      · cases hreading
      · cases hreading
      next power _ =>
        cases hwithin : plausiblePower? power with
        | none =>
            rw [hwithin] at hreading
            cases hreading
        | some value =>
            rw [hwithin] at hreading
            obtain rfl := Reading.sample.inj hreading
            exact abs_le.mpr (PyFloat.mem_of_within hwithin)

theorem Reading.ofResult_sample {result : Except PyValue.FloatError (Option ℚ)}
    {watts : ℚ} (hreading : ofResult result = .sample watts) :
    result = .ok (some watts) := by
  match result with
  | .ok (some value) => rw [Reading.sample.inj hreading]
  | .ok none => cases hreading
  | .error .typeOrValue => cases hreading
  | .error .overflow => cases hreading

theorem abs_le_of_pv2Power {device : Option Direct.DeviceData} {watts : ℚ}
    (hpower : pv2Power device = .ok (some watts)) :
    |watts| ≤ maxPlausiblePowerW := by
  unfold pv2Power at hpower
  split at hpower
  · cases hpower
  next sec _ =>
    cases hcurrent : requiredFloat sec "pv_current" with
    | error err =>
        rw [hcurrent] at hpower
        cases hpower
    | ok current =>
        cases hvoltage : requiredFloat sec "pv_voltage" with
        | error err =>
            rw [hcurrent, hvoltage] at hpower
            cases hpower
        | ok voltage =>
            rw [hcurrent, hvoltage] at hpower
            have hwithin : plausiblePower? (current.mul voltage) =
                some watts := Except.ok.inj hpower
            exact abs_le.mpr (PyFloat.mem_of_within hwithin)

/-- A battery pair passed both plausibility tests. -/
theorem mem_of_batteryPair {qpigs : Direct.Section} {currentKey : String}
    {current voltage : ℚ}
    (hpair : batteryPair qpigs currentKey = .ok (some (current, voltage))) :
    (0 ≤ current ∧ current ≤ Direct.maxBatteryCurrentA) ∧
      (Direct.minBatteryVoltageV ≤ voltage ∧
        voltage ≤ Direct.maxBatteryVoltageV) := by
  unfold batteryPair at hpair
  dsimp only at hpair
  split at hpair
  · cases hpair
  cases hcurrent : ((qpigs.get? currentKey).getD .none).toFloat with
  | error err =>
      rw [hcurrent] at hpair
      cases hpair
  | ok amperes =>
      cases hvoltage : ((qpigs.get? "battery_voltage").getD .none).toFloat with
      | error err =>
          rw [hcurrent, hvoltage] at hpair
          cases hpair
      | ok volts =>
          rw [hcurrent, hvoltage] at hpair
          simp only [bind, Except.bind] at hpair
          split at hpair
          · cases hpair
          split at hpair
          · cases hpair
          split at hpair
          next hamperes hvolts =>
            simp only [pure, Except.pure, Except.ok.injEq, Option.some.injEq,
              Prod.mk.injEq] at hpair
            obtain ⟨rfl, rfl⟩ := hpair
            exact ⟨PyFloat.mem_of_within hamperes,
              PyFloat.mem_of_within hvolts⟩
          next => cases hpair

theorem batteryPower_le {current voltage : ℚ}
    (hcurrent : 0 ≤ current ∧ current ≤ Direct.maxBatteryCurrentA)
    (hvoltage : Direct.minBatteryVoltageV ≤ voltage ∧
      voltage ≤ Direct.maxBatteryVoltageV) :
    0 ≤ current * voltage ∧ current * voltage ≤ maxPlausiblePowerW := by
  norm_num [Direct.maxBatteryCurrentA, Direct.minBatteryVoltageV,
    Direct.maxBatteryVoltageV, maxPlausiblePowerW] at *
  constructor
  · exact mul_nonneg hcurrent.1 (by linarith)
  · nlinarith

theorem abs_le_of_batteryReading {currentKey : String} {power : ℚ → ℚ → ℚ}
    {device : Option Direct.DeviceData} {watts : ℚ}
    (hpower : ∀ current voltage,
      power current voltage = 0 ∨ power current voltage = current * voltage)
    (hreading : batteryReading currentKey power device = .sample watts) :
    |watts| ≤ maxPlausiblePowerW := by
  cases device with
  | none => cases hreading
  | some device =>
      have hresult := Reading.ofResult_sample hreading
      cases hpair : batteryPair (device.getSection .qpigs) currentKey with
      | error err =>
          rw [hpair] at hresult
          cases hresult
      | ok pair =>
          rw [hpair] at hresult
          obtain ⟨⟨current, voltage⟩, rfl, rfl⟩ :=
            Option.map_eq_some_iff.mp (Except.ok.inj hresult)
          obtain ⟨hcurrent, hvoltage⟩ := mem_of_batteryPair hpair
          obtain ⟨hnonneg, hle⟩ := batteryPower_le hcurrent hvoltage
          dsimp only
          rcases hpower current voltage with hzero | hproduct
          · rw [hzero, abs_zero]
            norm_num [maxPlausiblePowerW]
          · rwa [hproduct, abs_of_nonneg hnonneg]

/-- Whatever reaches the integrator is a plausible power. -/
theorem EnergySensorKind.abs_le_of_sample {kind : EnergySensorKind}
    {device : Option Direct.DeviceData} {watts : ℚ}
    (hreading : kind.reading device = .sample watts) :
    |watts| ≤ maxPlausiblePowerW := by
  cases kind with
  | pv => exact abs_le_of_baseReading hreading
  | pv2 => exact abs_le_of_pv2Power (Reading.ofResult_sample hreading)
  | inverterOutput => exact abs_le_of_baseReading hreading
  | outputApparent => exact abs_le_of_baseReading hreading
  | batteryIn =>
      refine abs_le_of_batteryReading (fun current voltage => ?_) hreading
      unfold batteryInPower
      split <;> simp
  | batteryOut =>
      refine abs_le_of_batteryReading (fun current voltage => ?_) hreading
      unfold batteryOutPower
      dsimp only
      split <;> simp

/-! ## One update -/

theorem EnergySensorKind.energy_le_handle (kind : EnergySensorKind)
    (est : EnergySensor) (update : Update) :
    est.energy ≤ (kind.handleCoordinatorUpdate est update).energy := by
  rcases kind.handle_cases est update with
    ⟨watts, -, hhandle⟩ | ⟨-, hhandle⟩ | ⟨-, hhandle⟩
  · rw [hhandle]
    rcases est.update_cases watts update.now with
      ⟨-, hupdate⟩ | ⟨prevPower, -, hstep, hupdate⟩ | hupdate
    · rw [hupdate]
      exact le_rfl
    · rw [hupdate]
      exact le_add_of_nonneg_right hstep
    · rw [hupdate]
      exact le_rfl
  · rw [hhandle]
    exact le_rfl
  · rw [hhandle]

/-- The energy of the run so far is paid for by the time since `first`. -/
structure EnergySensor.Bounded (est : EnergySensor) (initial first last : ℚ) :
    Prop where
  total : est.energy - initial ≤ maxPlausiblePowerW * ((last - first) / 3600)
  baseline : ∀ prevPower, est.prevPower = some prevPower →
    |prevPower| ≤ maxPlausiblePowerW ∧ est.prevTs ≤ last ∧
      est.energy - initial ≤
        maxPlausiblePowerW * ((est.prevTs - first) / 3600)

theorem EnergySensor.Bounded.wait {est : EnergySensor}
    {initial first last now : ℚ} (hbounded : est.Bounded initial first last)
    (hnow : last ≤ now) : est.Bounded initial first now where
  total := by
    have htotal := hbounded.total
    norm_num [maxPlausiblePowerW] at htotal ⊢
    linarith
  baseline := by
    intro prevPower hprevious
    obtain ⟨hpower, hts, henergy⟩ := hbounded.baseline prevPower hprevious
    exact ⟨hpower, hts.trans hnow, henergy⟩

/-- Without a baseline only the total counts. -/
theorem EnergySensor.Bounded.dropBaseline {est next : EnergySensor}
    {initial first last : ℚ} (hbounded : est.Bounded initial first last)
    (henergy : next.energy = est.energy) (hnone : next.prevPower = none) :
    next.Bounded initial first last where
  total := by
    rw [henergy]
    exact hbounded.total
  baseline := by
    intro prevPower hprevious
    rw [hnone] at hprevious
    cases hprevious

/-- A sample becomes the baseline once its time is paid for. -/
theorem EnergySensor.bounded_of_sample {energy watts initial first now : ℚ}
    (hwatts : |watts| ≤ maxPlausiblePowerW)
    (htotal : energy - initial ≤
      maxPlausiblePowerW * ((now - first) / 3600)) :
    EnergySensor.Bounded ⟨some energy, some watts, now⟩ initial first now where
  total := htotal
  baseline := by
    intro prevPower hprevious
    obtain rfl := Option.some.inj hprevious
    exact ⟨hwatts, le_rfl, htotal⟩

/-- The trapezoid is at most the plausible power for its time. -/
theorem trapezoid_le {elapsed prevPower watts : ℚ} (helapsed : 0 ≤ elapsed)
    (hprevious : |prevPower| ≤ maxPlausiblePowerW)
    (hwatts : |watts| ≤ maxPlausiblePowerW) :
    elapsed / 3600 * (prevPower + watts) / 2 ≤
      maxPlausiblePowerW * (elapsed / 3600) := by
  have hmean : (prevPower + watts) / 2 ≤ maxPlausiblePowerW := by
    have hone := (abs_le.mp hprevious).2
    have htwo := (abs_le.mp hwatts).2
    linarith
  calc
    elapsed / 3600 * (prevPower + watts) / 2 =
        (prevPower + watts) / 2 * (elapsed / 3600) := by ring
    _ ≤ maxPlausiblePowerW * (elapsed / 3600) :=
      mul_le_mul_of_nonneg_right hmean (by positivity)

theorem EnergySensor.Bounded.update {est : EnergySensor}
    {initial first last watts now : ℚ}
    (hbounded : est.Bounded initial first last) (hnow : last ≤ now)
    (hwatts : |watts| ≤ maxPlausiblePowerW) :
    (est.updateEnergyValue watts now).Bounded initial first now := by
  have hwaited := hbounded.wait hnow
  rcases est.update_cases watts now with
    ⟨-, hupdate⟩ | ⟨prevPower, hprevious, -, hupdate⟩ | hupdate
  · rw [hupdate]
    exact bounded_of_sample hwatts hwaited.total
  · rw [hupdate]
    apply bounded_of_sample hwatts
    obtain ⟨hpower, hts, henergy⟩ := hwaited.baseline prevPower hprevious
    have hstep := trapezoid_le (sub_nonneg.mpr hts) hpower hwatts
    calc
      est.energy + (now - est.prevTs) / 3600 * (prevPower + watts) / 2 -
          initial ≤ maxPlausiblePowerW * ((est.prevTs - first) / 3600) +
            maxPlausiblePowerW * ((now - est.prevTs) / 3600) := by linarith
      _ = maxPlausiblePowerW * ((now - first) / 3600) := by ring
  · rw [hupdate]
    exact hwaited.dropBaseline rfl rfl

theorem EnergySensorKind.handle_bounded (kind : EnergySensorKind)
    {est : EnergySensor} {initial first last : ℚ} {update : Update}
    (hbounded : est.Bounded initial first last)
    (hnow : last ≤ update.now) :
    (kind.handleCoordinatorUpdate est update).Bounded initial first
      update.now := by
  rcases kind.handle_cases est update with
    ⟨watts, hreading, hhandle⟩ | ⟨-, hhandle⟩ | ⟨-, hhandle⟩
  · rw [hhandle]
    exact hbounded.update hnow (abs_le_of_sample hreading)
  · rw [hhandle]
    exact (hbounded.wait hnow).dropBaseline rfl rfl
  · rw [hhandle]
    exact hbounded.wait hnow

/-! ## Runs -/

theorem EnergySensorKind.energy_le_run (kind : EnergySensorKind)
    (start : EnergySensor) (updates : List Update) :
    start.energy ≤ (kind.run start updates).energy := by
  induction updates generalizing start with
  | nil => exact le_rfl
  | cons update updates ih =>
      exact (kind.energy_le_handle start update).trans (ih _)

theorem EnergySensorKind.run_bounded (kind : EnergySensorKind)
    {start : EnergySensor} {initial first last : ℚ} {updates : List Update}
    (hbounded : start.Bounded initial first last)
    (hordered : (last :: updates.map Update.now).Pairwise (· ≤ ·)) :
    (kind.run start updates).Bounded initial first
      ((last :: updates.map Update.now).getLast (List.cons_ne_nil _ _)) := by
  induction updates generalizing start last with
  | nil => exact hbounded
  | cons update updates ih =>
      obtain ⟨hlater, hordered⟩ := List.pairwise_cons.mp hordered
      have hnow : last ≤ update.now := hlater _ (by simp)
      exact ih (kind.handle_bounded hbounded hnow) hordered

/-- The time from the first update to the last. -/
def elapsedSeconds (updates : List Update) : ℚ :=
  match updates with
  | [] => 0
  | first :: rest =>
      ((first :: rest).map Update.now).getLast (by simp) - first.now

/-- In a run of updates at non-decreasing times no update lowers the native
value, and the run adds at most the plausible power for the elapsed time. -/
theorem EnergySensorKind.energy_bounded (kind : EnergySensorKind)
    (restored : Option ℚ) (created : ℚ) (updates : List Update)
    (hordered : (updates.map Update.now).Pairwise (· ≤ ·)) :
    (∀ earlier later, updates = earlier ++ later →
      (kind.run (.added restored created) earlier).energy ≤
        (kind.run (.added restored created) updates).energy) ∧
      (kind.run (.added restored created) updates).energy -
          (EnergySensor.added restored created).energy ≤
        maxPlausiblePowerW * (elapsedSeconds updates / 3600) := by
  constructor
  · rintro earlier later rfl
    rw [kind.run_append]
    exact kind.energy_le_run _ later
  · cases updates with
    | nil => simp [elapsedSeconds]
    | cons first rest =>
        have hstart : (EnergySensor.added restored created).Bounded
            (EnergySensor.added restored created).energy first.now
              first.now := by
          constructor
          · simp
          · intro prevPower hprevious
            cases hprevious
        have hfirst := kind.handle_bounded hstart le_rfl
        exact (kind.run_bounded hfirst hordered).total

/-- An update whose QPIGS section holds one number. -/
def qpigsUpdate (now : ℚ) (key : String) (value : ℚ) : Update where
  now := now
  device := some
    ⟨none, Dict.empty.set .qpigs (Dict.empty.set key (.float (.finite value)))⟩

theorem EnergySensorKind.energy_bounded_pv :
    (∀ earlier later,
        [qpigsUpdate 10 "pv_charging_power" 1000,
          qpigsUpdate 20 "pv_charging_power" 1400] = earlier ++ later →
      (pv.run (.added none 0) earlier).energy ≤
        (pv.run (.added none 0) [qpigsUpdate 10 "pv_charging_power" 1000,
          qpigsUpdate 20 "pv_charging_power" 1400]).energy) ∧
      (pv.run (.added none 0) [qpigsUpdate 10 "pv_charging_power" 1000,
          qpigsUpdate 20 "pv_charging_power" 1400]).energy -
          (EnergySensor.added none 0).energy ≤
        maxPlausiblePowerW * (elapsedSeconds
          [qpigsUpdate 10 "pv_charging_power" 1000,
            qpigsUpdate 20 "pv_charging_power" 1400] / 3600) := by
  apply energy_bounded
  simp only [qpigsUpdate, List.map_cons, List.map_nil]
  decide +kernel

end Energy
end DessMonitor
