import DessMonitor.EnergyBound

/-!
# Energy across a data gap

A trapezoid must not span an update that brought no power.  The handlers of
the second string and of the battery reset the baseline on such an update; the
handler of the base class leaves it, and so does every handler that raises.
-/

namespace DessMonitor
namespace Energy

/-! ## The property -/

/-- The update brings a power to the integrator. -/
def EnergySensorKind.Usable (kind : EnergySensorKind) (update : Update) :
    Prop :=
  ∃ watts, kind.reading update.device = .sample watts

/-- A sample that follows a gap adds nothing. -/
def EnergySensorKind.NoCreditAcrossGap (kind : EnergySensorKind)
    (start : EnergySensor) (updates : List Update) : Prop :=
  ∀ earlier first gap second later,
    updates = earlier ++ first :: gap ++ second :: later →
      kind.Usable first → gap ≠ [] → (∀ update ∈ gap, ¬ kind.Usable update) →
      kind.Usable second →
      (kind.run start (earlier ++ first :: gap ++ [second])).energy =
        (kind.run start (earlier ++ first :: gap)).energy

/-- An update without a power that leaves the baseline in place. -/
def EnergySensorKind.KeepsBaseline (kind : EnergySensorKind)
    (est : EnergySensor) (update : Update) : Prop :=
  (kind.reading update.device = .missing ∨
      kind.reading update.device = .raised) ∧
    est.prevPower ≠ none

/-! ## Which handlers reset -/

theorem Reading.ofResult_ne_missing
    (result : Except PyValue.FloatError (Option ℚ)) :
    ofResult result ≠ .missing := by
  match result with
  | .ok (some watts) => exact nofun
  | .ok none => exact nofun
  | .error .typeOrValue => exact nofun
  | .error .overflow => exact nofun

/-- Only the handler of the base class passes over a missing field. -/
theorem EnergySensorKind.missing_of_base {kind : EnergySensorKind}
    {device : Option Direct.DeviceData}
    (hmissing : kind.reading device = .missing) :
    kind = .pv ∨ kind = .inverterOutput ∨ kind = .outputApparent := by
  have hbattery : ∀ currentKey power,
      batteryReading currentKey power device ≠ .missing := by
    intro currentKey power
    cases device with
    | none => exact nofun
    | some device => exact Reading.ofResult_ne_missing _
  cases kind with
  | pv => exact .inl rfl
  | pv2 => exact absurd hmissing (Reading.ofResult_ne_missing _)
  | inverterOutput => exact .inr (.inl rfl)
  | outputApparent => exact .inr (.inr rfl)
  | batteryIn => exact absurd hmissing (hbattery _ _)
  | batteryOut => exact absurd hmissing (hbattery _ _)

/-! ## One update -/

/-- After an update without a power the baseline is gone, unless the update
keeps it. -/
theorem EnergySensorKind.prevPower_of_unusable {kind : EnergySensorKind}
    {est : EnergySensor} {update : Update} (hunusable : ¬ kind.Usable update)
    (hresets : ¬ kind.KeepsBaseline est update) :
    (kind.handleCoordinatorUpdate est update).prevPower = none := by
  rcases kind.handle_cases est update with
    ⟨watts, hreading, -⟩ | ⟨-, hhandle⟩ | ⟨hreading, hhandle⟩
  · exact absurd ⟨watts, hreading⟩ hunusable
  · rw [hhandle]
    rfl
  · rw [hhandle]
    by_contra hprevious
    exact hresets ⟨hreading, hprevious⟩

/-- Without a baseline nothing is added. -/
theorem EnergySensorKind.energy_handle_of_none (kind : EnergySensorKind)
    {est : EnergySensor} (hnone : est.prevPower = none) (update : Update) :
    (kind.handleCoordinatorUpdate est update).energy = est.energy := by
  rcases kind.handle_cases est update with
    ⟨watts, -, hhandle⟩ | ⟨-, hhandle⟩ | ⟨-, hhandle⟩
  · rw [hhandle]
    rcases est.update_cases watts update.now with
      ⟨-, hupdate⟩ | ⟨prevPower, hprevious, -⟩ | hupdate
    · rw [hupdate]
      rfl
    · rw [hnone] at hprevious
      cases hprevious
    · rw [hupdate]
      rfl
  · rw [hhandle]
    rfl
  · rw [hhandle]

/-- A kept baseline credits the gap with the next positive trapezoid. -/
theorem EnergySensorKind.energy_lt_of_keepsBaseline {kind : EnergySensorKind}
    {est : EnergySensor} {gap second : Update} {prevPower watts : ℚ}
    (hkeeps : kind.KeepsBaseline est gap)
    (hprevious : est.prevPower = some prevPower)
    (hwithin : |prevPower| ≤ maxPlausiblePowerW)
    (hsecond : kind.reading second.device = .sample watts)
    (hpositive : 0 < prevPower + watts) (hlater : est.prevTs < second.now) :
    est.energy < (kind.run est [gap, second]).energy := by
  have hgap : kind.handleCoordinatorUpdate est gap = est := by
    unfold EnergySensorKind.handleCoordinatorUpdate
    rcases hkeeps.1 with hmissing | hraised
    · rw [hmissing]
    · rw [hraised]
  have helapsed : 0 < second.now - est.prevTs := sub_pos.mpr hlater
  have hstep : 0 < (second.now - est.prevTs) / 3600 *
      (prevPower + watts) / 2 := by positivity
  have hceiling : (second.now - est.prevTs) / 3600 * (prevPower + watts) / 2 ≤
      maxStepWh (second.now - est.prevTs) := by
    refine le_max_of_le_left ?_
    rw [mul_div_assoc maxPlausiblePowerW]
    exact trapezoid_le helapsed.le hwithin (abs_le_of_sample hsecond)
  have hupdate : (est.updateEnergyValue watts second.now).energy =
      est.energy +
        (second.now - est.prevTs) / 3600 * (prevPower + watts) / 2 := by
    simp only [EnergySensor.updateEnergyValue, hprevious,
      if_pos (And.intro hstep.le hceiling)]
    rfl
  have hhandle : kind.handleCoordinatorUpdate est second =
      est.updateEnergyValue watts second.now := by
    unfold EnergySensorKind.handleCoordinatorUpdate
    rw [hsecond]
  rw [kind.run_cons, hgap, kind.run_cons, kind.run_nil, hhandle, hupdate]
  exact lt_add_of_pos_right _ hstep

/-! ## Runs -/

theorem EnergySensorKind.run_singleton (kind : EnergySensorKind)
    (start : EnergySensor) (earlier : List Update) (last : Update) :
    kind.run start (earlier ++ [last]) =
      kind.handleCoordinatorUpdate (kind.run start earlier) last :=
  kind.run_append start earlier [last]

/-- Where no update without a power meets a baseline that it keeps, no gap is
credited. -/
theorem EnergySensorKind.noCredit_of_resets {kind : EnergySensorKind}
    {start : EnergySensor} {updates : List Update}
    (hresets : ∀ earlier update later, updates = earlier ++ update :: later →
      ¬ kind.KeepsBaseline (kind.run start earlier) update) :
    kind.NoCreditAcrossGap start updates := by
  rintro earlier first gap second later rfl - hgap hunusable -
  obtain ⟨inner, last, rfl⟩ := List.eq_nil_or_concat' gap |>.resolve_left hgap
  have hlast : ¬ kind.KeepsBaseline
      (kind.run start (earlier ++ first :: inner)) last :=
    hresets _ last (second :: later) (by simp)
  have hnone := prevPower_of_unusable
    (hunusable last (List.mem_append_right _ (List.mem_singleton_self _)))
    hlast
  rw [kind.run_singleton]
  apply kind.energy_handle_of_none
  have hgapRun := kind.run_singleton start (earlier ++ first :: inner) last
  simp only [List.append_assoc, List.cons_append] at hgapRun
  rw [hgapRun]
  exact hnone

/-! ## A battery and a photovoltaic string -/

def emptyUpdate (now : ℚ) : Update where
  now := now
  device := some ⟨none, .empty⟩

def batteryUpdate (now : ℚ) (current voltage : ℚ) : Update where
  now := now
  device := some ⟨none, Dict.empty.set .qpigs
    ((Dict.empty.set "battery_charging_current" (.float (.finite current))).set
      "battery_voltage" (.float (.finite voltage)))⟩

/-- The battery handler resets on the empty section. -/
theorem EnergySensorKind.noCredit_batteryIn :
    batteryIn.NoCreditAcrossGap (.added none 0)
      [batteryUpdate 0 40 27, emptyUpdate 10, batteryUpdate 3600 40 27] := by
  apply noCredit_of_resets
  rintro earlier update later hupdates ⟨hkept, -⟩
  have hmem : update ∈
      [batteryUpdate 0 40 27, emptyUpdate 10, batteryUpdate 3600 40 27] := by
    rw [hupdates]
    simp
  have hreading : batteryIn.reading update.device = .sample 1080 ∨
      batteryIn.reading update.device = .rejected := by
    simp only [List.mem_cons, List.not_mem_nil, or_false] at hmem
    rcases hmem with rfl | rfl | rfl
    · exact .inl (by decide +kernel)
    · exact .inr (by decide +kernel)
    · exact .inl (by decide +kernel)
  rcases hreading with hsample | hrejected
  · rw [hsample] at hkept
    rcases hkept with hkept | hkept <;> cases hkept
  · rw [hrejected] at hkept
    rcases hkept with hkept | hkept <;> cases hkept

/-- An hour without data credits a photovoltaic string of 1000 W with a
kilowatt hour that nobody measured. -/
theorem EnergySensorKind.not_noCredit_pv :
    ¬ pv.NoCreditAcrossGap (.added none 0)
      [qpigsUpdate 0 "pv_charging_power" 1000, emptyUpdate 10,
        qpigsUpdate 3610 "pv_charging_power" 1000] := by
  intro hnoCredit
  have hreading : pv.reading
      (qpigsUpdate 0 "pv_charging_power" 1000).device = .sample 1000 := by
    decide +kernel
  have hpower : ∀ now, pv.Usable (qpigsUpdate now "pv_charging_power" 1000) :=
    fun now => ⟨1000, hreading⟩
  have hgap : ∀ update ∈ [emptyUpdate 10], ¬ pv.Usable update := by
    intro update hmem
    obtain rfl := List.mem_singleton.mp hmem
    have hmissing : pv.reading (emptyUpdate 10).device = .missing := by
      decide +kernel
    rintro ⟨watts, hsample⟩
    rw [hmissing] at hsample
    cases hsample
  have hsame := hnoCredit [] _ [emptyUpdate 10] _ [] rfl (hpower 0) (by simp)
    hgap (hpower 3610)
  revert hsame
  decide +kernel

end Energy
end DessMonitor
