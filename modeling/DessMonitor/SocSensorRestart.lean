import DessMonitor.Foundation.Outcome
import DessMonitor.SocSensorModel

/-!
# What the entity shows across restarts

Whatever the readings, the settings and the moments of storing and restarting,
the entity shows a percentage that its charge stands for.  A restart rebuilds
the charge from the percentage, which is rounded, and takes a battery that
shows nothing for full.
-/

namespace DessMonitor
namespace SocCore

open LabelledRun DecimalRounding Outcome

/-! ## The invariant -/

structure SocWorld.Sound (world : SocWorld) : Prop where
  anchored : world.sensor.estimator.Anchored
  shown : ∀ soc, world.sensor.nativeValue = some soc →
    world.sensor.estimator.socPercent = some soc
  stored : ∀ soc, world.stored.bind StoredData.nativeValue = some soc →
    0 ≤ soc ∧ soc ≤ 100

/-! ## Inputs -/

/-- A number that the section has is too large for a float. -/
def HasHuge (values : Direct.Section) : Prop :=
  ∃ key value, values.get? key = some value ∧ value.toFloat = .error .overflow

/-- Why an event fails: what it brings is missing, too large, or not finite. -/
inductive SensorEvent.Causes : SensorEvent → Failure → Prop where
  | capacity {state : Option String}
      (hstate : numberOf state = some (.infinity false) ∨
        numberOf state = some .nan) :
      Causes (.capacityChanged state) .notFinite
  | syncVoltage {state : Option String}
      (hstate : numberOf state = some (.infinity false)) :
      Causes (.syncVoltageChanged state) .notFinite
  | floatDeadband {deadbandSwitch voltageWindow noiseFloor : Option String}
      (hstate : numberOf voltageWindow = some (.infinity false) ∨
        numberOf noiseFloor = some (.infinity false)) :
      Causes (.floatDeadbandChanged deadbandSwitch voltageWindow noiseFloor)
        .notFinite
  | missing {now : ℚ} {wallNow : WallTime} :
      Causes (.coordinatorUpdated none now wallNow) .keyError
  | huge {device : Direct.DeviceData} {now : ℚ} {wallNow : WallTime}
      (hhuge : HasHuge (device.getSection .qpigs) ∨
        HasHuge (device.getSection .qpiri)) :
      Causes (.coordinatorUpdated (some device) now wallNow) .overflowError
  | chargingVoltage {device : Direct.DeviceData} {now : ℚ}
      {wallNow : WallTime} {key : String} {value : PyValue}
      (hvalue : (device.getSection .qpiri).get? key = some value)
      (hinfinite : value.toFloat = .ok (.infinity false)) :
      Causes (.coordinatorUpdated (some device) now wallNow) .notFinite
  | added {controls : Controls}
      (hstate : numberOf controls.capacity = some .nan ∨
        ∃ state ∈ [controls.capacity, controls.syncVoltage,
          controls.voltageWindow, controls.noiseFloor],
          numberOf state = some (.infinity false)) :
      Causes (.addedToHass controls) .notFinite

theorem capacityArgument_ends (state : Option String) :
    Ends (fun failure => failure = .notFinite ∧
        (numberOf state = some (.infinity false) ∨
          numberOf state = some .nan)) (fun _ => True)
      (capacityArgument state) := by
  unfold capacityArgument
  cases hnumber : numberOf state with
  | none => trivial
  | some value =>
      cases value with
      | finite value => trivial
      | infinity negative =>
          cases negative with
          | true => trivial
          | false => exact ⟨rfl, .inl rfl⟩
      | nan => exact ⟨rfl, .inr rfl⟩

theorem positiveNumber_ends (state : Option String) (default : ℚ) :
    Ends (fun failure => failure = .notFinite ∧
        numberOf state = some (.infinity false)) (fun _ => True)
      (positiveNumber state default) := by
  unfold positiveNumber
  cases hnumber : numberOf state with
  | none => trivial
  | some value =>
      cases value with
      | finite value =>
          by_cases hpositive : 0 < value <;>
            simp [PyFloat.positivePart, PyFloat.exceeds, hpositive, finite, Ends]
      | infinity negative =>
          cases negative with
          | true => trivial
          | false => exact ⟨rfl, rfl⟩
      | nan => trivial

theorem hasHuge_of_getD {values : Direct.Section} {key : String}
    {default : PyValue}
    (hdefault : default.toFloat ≠ .error .overflow)
    (hhuge : ((values.get? key).getD default).toFloat = .error .overflow) :
    HasHuge values := by
  cases hvalue : values.get? key with
  | none =>
      rw [hvalue] at hhuge
      exact absurd hhuge hdefault
  | some value =>
      rw [hvalue] at hhuge
      exact ⟨key, value, hvalue, hhuge⟩

theorem socFields_ends (qpigs : Direct.Section) :
    Ends (fun error => error = .overflow → HasHuge qpigs) (fun _ => True)
      (socFields qpigs) := by
  have hzero : (PyValue.int 0).toFloat ≠ .error .overflow := by
    simp [PyValue.toFloat, PyFloat.ofRat]
  have hfield : ∀ key, Ends (fun error => error = .overflow → HasHuge qpigs)
      (fun _ => True) (floatOrZero qpigs key) := by
    intro key
    cases hread : floatOrZero qpigs key with
    | ok value => trivial
    | error error =>
        rintro rfl
        exact hasHuge_of_getD hzero hread
  unfold socFields
  refine (hfield _).bind fun voltage _ => ?_
  refine (hfield _).bind fun charging _ => ?_
  exact (hfield _).bind fun discharging _ => trivial

theorem socReading_ends (qpigs : Direct.Section) :
    Ends (fun failure => failure = .overflowError ∧ HasHuge qpigs)
      (fun _ => True) (socReading qpigs) := by
  have hfields := socFields_ends qpigs
  unfold socReading
  cases hread : socFields qpigs with
  | error error =>
      cases error with
      | overflow => exact ⟨rfl, hfields.of_eq_error hread rfl⟩
      | typeOrValue => trivial
  | ok fields =>
      dsimp only
      split <;> trivial

/-- A charging voltage is positive, or there is none. -/
theorem chargingVoltage_ends (qpiri : Direct.Section) (key : String) :
    Ends (fun failure =>
        (failure = .overflowError ∧ HasHuge qpiri) ∨
          (failure = .notFinite ∧ ∃ value, qpiri.get? key = some value ∧
            value.toFloat = .ok (.infinity false)))
      (fun _ => True) (chargingVoltage qpiri key) := by
  unfold chargingVoltage
  cases hvalue : qpiri.get? key with
  | none => trivial
  | some value =>
      rw [Option.getD_some]
      cases hfloat : value.toFloat with
      | error error =>
          cases error with
          | overflow => exact .inl ⟨rfl, key, value, hvalue, hfloat⟩
          | typeOrValue => trivial
      | ok voltage =>
          cases voltage with
          | finite voltage =>
              by_cases hpositive : 0 < voltage <;>
                simp [PyFloat.exceeds, hpositive, finite, Except.map, Ends]
          | infinity negative =>
              cases negative with
              | true => trivial
              | false => exact .inr ⟨rfl, value, rfl, hfloat⟩
          | nan => trivial

theorem readBmsSoc_ends (qpigs : Direct.Section) :
    Ends (fun failure => failure = .overflowError ∧ HasHuge qpigs)
      (fun reading => ∀ soc, reading = some soc → 0 ≤ soc ∧ soc ≤ 100)
      (readBmsSoc qpigs) := by
  have hnone : ∀ soc : ℚ, (none : Option ℚ) = some soc →
      0 ≤ soc ∧ soc ≤ 100 := by
    intro soc hsoc
    cases hsoc
  unfold readBmsSoc
  split
  · exact hnone
  · exact hnone
  next raw _ _ =>
    split
    next value _ =>
      intro soc hsoc
      obtain rfl := Option.some.inj hsoc
      exact ⟨le_clamp _ _ _, clamp_le (by norm_num) _⟩
    next negative _ =>
      intro soc hsoc
      obtain rfl := Option.some.inj hsoc
      cases negative <;> norm_num
    next => exact hnone
    next hfloat =>
      exact ⟨rfl, hasHuge_of_getD (by simp [PyValue.toFloat]) hfloat⟩
    next => exact hnone

/-! ## Ticks -/

/-- Why the inputs of a tick are not there. -/
def TickFails (device : Direct.DeviceData) (failure : Failure) : Prop :=
  (failure = .overflowError ∧ (HasHuge (device.getSection .qpigs) ∨
      HasHuge (device.getSection .qpiri))) ∨
    (failure = .notFinite ∧ ∃ key value,
      (device.getSection .qpiri).get? key = some value ∧
        value.toFloat = .ok (.infinity false))

theorem chargingVoltage_tickFails (device : Direct.DeviceData)
    (key : String) :
    Ends (TickFails device) (fun _ => True)
      (chargingVoltage (device.getSection .qpiri) key) := by
  apply (chargingVoltage_ends _ key).mono
  · rintro failure (⟨rfl, hhuge⟩ | ⟨rfl, hvalue⟩)
    · exact .inl ⟨rfl, .inr hhuge⟩
    · exact .inr ⟨rfl, key, hvalue⟩
  · exact fun _ htrue => htrue

theorem SocSensor.tick_ends (sensor : SocSensor)
    (device : Direct.DeviceData) (signedCurrentA voltage now : ℚ)
    (wallNow : WallTime) :
    Ends (TickFails device) Tick.Admissible
      (sensor.tick device signedCurrentA voltage now wallNow) := by
  have hsync : Ends (TickFails device) (fun _ => True)
      (sensor.syncVoltage (device.getSection .qpiri)) := by
    unfold SocSensor.syncVoltage
    split
    · trivial
    · exact chargingVoltage_tickFails device _
  have hbms : Ends (TickFails device)
      (fun reading : Option ℚ => ∀ soc, reading = some soc →
        0 ≤ soc ∧ soc ≤ 100)
      (sensor.bmsSoc (device.getSection .qpigs)) := by
    unfold SocSensor.bmsSoc
    split
    · apply (readBmsSoc_ends _).mono
      · rintro failure ⟨rfl, hhuge⟩
        exact .inl ⟨rfl, .inl hhuge⟩
      · exact fun _ hmem => hmem
    · intro soc hsoc
      cases hsoc
  unfold SocSensor.tick
  refine hsync.bind fun syncVoltage _ => ?_
  refine (chargingVoltage_tickFails device _).bind fun floatingVoltage _ => ?_
  refine hbms.bind fun bmsSoc hmem => ?_
  exact hmem

/-! ## Configuring -/

/-- Configuring needs less than the invariant: a restored charge may be
anything. -/
theorem SocEstimator.setCapacity_anchored {self : SocEstimator}
    (hcapacity : ∀ capacity, self.capacityAh = some capacity → 0 < capacity)
    (hsoc : ∀ soc, self.socPercent = some soc → 0 ≤ soc ∧ soc ≤ 100)
    (value : Option ℚ) :
    ∃ next, self.setCapacity value = .ok next ∧ next.Anchored := by
  cases hold : self.capacityAh with
  | none =>
      exact (anchored_of_unconfigured hold hsoc).setCapacity value
  | some old =>
      have hunconfigured :
          ({ self with capacityAh := none } : SocEstimator).Anchored :=
        anchored_of_unconfigured rfl hsoc
      cases value with
      | none => exact ⟨_, rfl, hunconfigured⟩
      | some value =>
          by_cases hvalue : value ≤ 0
          · exact ⟨_, self.setCapacity_of_nonpos hvalue, hunconfigured⟩
          have hpos : 0 < value := not_le.mp hvalue
          refine ⟨_, setCapacity_edit hpos (hcapacity old hold) hold, ?_⟩
          apply anchored_of_configured rfl hpos
          · exact mul_nonneg (le_clamp _ _ _) hpos.le
          · exact mul_le_of_le_one_left hpos.le (clamp_le zero_le_one _)
          · intro shown hshown
            right
            rw [chargePercent_mul_self hpos]
            exact (Option.some.inj hshown).symm

/-- Configured means a percentage to show. -/
theorem SocEstimator.setCapacity_cases {self next : SocEstimator}
    {value : Option ℚ} (hcalled : self.setCapacity value = .ok next) :
    next = { self with capacityAh := none } ∨
      (next.capacityAh.isSome = true ∧ ∃ soc, next.socPercent = some soc) := by
  unfold SocEstimator.setCapacity at hcalled
  split at hcalled
  next =>
    cases hcalled
    exact .inl rfl
  next value =>
    split_ifs at hcalled with hvalue
    · cases hcalled
      exact .inl rfl
    · right
      split at hcalled
      next =>
        split at hcalled
        next soc hsoc =>
          cases hcalled
          exact ⟨rfl, soc, hsoc⟩
        next =>
          cases hcalled
          exact ⟨rfl, 100, rfl⟩
      next old hold =>
        cases hfraction : self.editFraction old with
        | error err =>
            rw [hfraction] at hcalled
            cases hcalled
        | ok fraction =>
            rw [hfraction] at hcalled
            cases hcalled
            exact ⟨rfl, _, rfl⟩

/-! ## Handlers keep it -/

section Handlers

variable {sensor : SocSensor}

/-- The part of the invariant that is about the entity. -/
structure SocSensor.Sound (sensor : SocSensor) : Prop where
  anchored : sensor.estimator.Anchored
  shown : ∀ soc, sensor.nativeValue = some soc →
    sensor.estimator.socPercent = some soc

theorem SocSensor.created_sound : created.Sound where
  anchored := SocEstimator.fresh_anchored
  shown := by simp [created]

/-- A capacity is the only state that may be not a number. -/
theorem SocSensor.updateBatteryCapacity_ends
    (hcapacity : ∀ capacity, sensor.estimator.capacityAh = some capacity →
      0 < capacity)
    (hsoc : ∀ soc, sensor.estimator.socPercent = some soc →
      0 ≤ soc ∧ soc ≤ 100)
    (hshown : ∀ soc, sensor.nativeValue = some soc →
      sensor.estimator.socPercent = some soc)
    (state : Option String) :
    Ends (fun failure => failure = .notFinite ∧
        (numberOf state = some (.infinity false) ∨
          numberOf state = some .nan))
      SocSensor.Sound (sensor.updateBatteryCapacity state) := by
  unfold updateBatteryCapacity
  refine (capacityArgument_ends state).bind fun capacity _ => ?_
  obtain ⟨estimator, hcalled, hanchored⟩ :=
    SocEstimator.setCapacity_anchored hcapacity hsoc capacity
  rw [hcalled]
  refine ⟨hanchored, ?_⟩
  rcases SocEstimator.setCapacity_cases hcalled with
    rfl | ⟨hconfigured, percent, hpercent⟩
  · simpa using hshown
  · intro soc hnative
    simpa [hconfigured, hpercent] using hnative

theorem SocSensor.Sound.capacity (hsound : sensor.Sound)
    (state : Option String) :
    Ends (fun failure => failure = .notFinite ∧
        (numberOf state = some (.infinity false) ∨
          numberOf state = some .nan))
      SocSensor.Sound (sensor.updateBatteryCapacity state) :=
  updateBatteryCapacity_ends hsound.anchored.capacity_pos
    hsound.anchored.soc_mem hsound.shown state

theorem SocSensor.Sound.batteryMode (hsound : sensor.Sound)
    (state : Option String) : (sensor.updateBatteryMode state).Sound := by
  cases state with
  | none => exact hsound
  | some text =>
      have hfields := sensor.estimator.setMode_fields text
      constructor
      · exact hsound.anchored.setMode text
      · intro soc hnative
        have hsame : (sensor.updateBatteryMode (some text)).estimator.socPercent
            = sensor.estimator.socPercent := hfields.2.2
        rw [hsame]
        exact hsound.shown soc hnative

theorem SocSensor.Sound.deadband (hsound : sensor.Sound)
    (deadbandSwitch voltageWindow noiseFloor : Option String) :
    Ends (fun failure => failure = .notFinite ∧
        (numberOf voltageWindow = some (.infinity false) ∨
          numberOf noiseFloor = some (.infinity false)))
      SocSensor.Sound (sensor.refreshFloatDeadband deadbandSwitch voltageWindow
        noiseFloor) := by
  unfold refreshFloatDeadband
  refine ((positiveNumber_ends voltageWindow _).mono ?_ fun _ htrue =>
    htrue).bind fun window _ => ?_
  · exact fun failure hfails => ⟨hfails.1, .inl hfails.2⟩
  refine ((positiveNumber_ends noiseFloor _).mono ?_ fun _ htrue =>
    htrue).bind fun floor _ => ?_
  · exact fun failure hfails => ⟨hfails.1, .inr hfails.2⟩
  exact ⟨hsound.anchored.setDeadband _ _ _, hsound.shown⟩

theorem SocSensor.Sound.syncVoltage (hsound : sensor.Sound)
    (state : Option String) :
    Ends (fun failure => failure = .notFinite ∧
        numberOf state = some (.infinity false))
      SocSensor.Sound (sensor.updateSyncVoltage state) := by
  unfold updateSyncVoltage
  refine (positiveNumber_ends state 0).bind fun voltage _ => ?_
  exact ⟨hsound.anchored, hsound.shown⟩

theorem SocSensor.Sound.readControls (hsound : sensor.Sound)
    (controls : Controls) :
    Ends (fun failure => failure = .notFinite ∧
        ∃ state ∈ [controls.syncVoltage, controls.voltageWindow,
          controls.noiseFloor], numberOf state = some (.infinity false))
      SocSensor.Sound (sensor.readControls controls) := by
  unfold SocSensor.readControls
  refine ((hsound.syncVoltage controls.syncVoltage).mono ?_ fun _ hnext =>
    hnext).bind fun synced hsynced => ?_
  · exact fun failure hfails => ⟨hfails.1, _, by simp, hfails.2⟩
  refine (((hsynced.batteryMode controls.batteryMode).deadband
    controls.deadbandSwitch controls.voltageWindow controls.noiseFloor).mono ?_
      fun _ hnext => hnext).bind fun refreshed hrefreshed => ?_
  · rintro failure ⟨hfailure, hwindow | hfloor⟩
    · exact ⟨hfailure, _, by simp, hwindow⟩
    · exact ⟨hfailure, _, by simp, hfloor⟩
  exact ⟨hrefreshed.anchored, hrefreshed.shown⟩

theorem SocSensor.Sound.addedToHass (hsound : sensor.Sound)
    {stored : Option StoredData}
    (hstored : ∀ soc, stored.bind StoredData.nativeValue = some soc →
      0 ≤ soc ∧ soc ≤ 100) (controls : Controls) :
    Ends (SensorEvent.addedToHass controls).Causes SocSensor.Sound
      (sensor.addedToHass stored controls) := by
  have hsoc : 0 ≤ (stored.bind StoredData.nativeValue).getD 100 ∧
      (stored.bind StoredData.nativeValue).getD 100 ≤ 100 := by
    cases hnative : stored.bind StoredData.nativeValue with
    | none => norm_num
    | some soc => exact hstored soc hnative
  have hseeded : ∀ soc, (sensor.seeded stored).estimator.socPercent =
      some soc → 0 ≤ soc ∧ soc ≤ 100 := by
    intro soc hpercent
    cases hpercent
    exact hsoc
  have hcapacity : ∀ capacity,
      (sensor.seeded stored).estimator.capacityAh = some capacity →
        0 < capacity := hsound.anchored.capacity_pos
  have hconfigured := updateBatteryCapacity_ends hcapacity hseeded
    (fun _ hnative => hnative) controls.capacity
  unfold SocSensor.addedToHass
  refine (hconfigured.mono ?_ fun _ hnext => hnext).bind
    fun configured hsound' => ?_
  · rintro failure ⟨rfl, hinfinite | hnan⟩
    · exact .added (.inr ⟨_, by simp, hinfinite⟩)
    · exact .added (.inl hnan)
  apply (hsound'.readControls controls).mono
  · rintro failure ⟨rfl, state, hmem, hinfinite⟩
    exact .added (.inr ⟨state, List.mem_cons_of_mem _ hmem, hinfinite⟩)
  · exact fun _ hnext => hnext

theorem SocSensor.Sound.coordinator (hsound : sensor.Sound)
    (device : Option Direct.DeviceData) (now : ℚ) (wallNow : WallTime) :
    Ends (SensorEvent.coordinatorUpdated device now wallNow).Causes
      SocSensor.Sound (sensor.handleCoordinatorUpdate device now wallNow) := by
  unfold SocSensor.handleCoordinatorUpdate
  cases device with
  | none => exact .missing
  | some device =>
      dsimp only
      refine ((socReading_ends _).mono ?_ fun _ htrue => htrue).bind
        fun reading _ => ?_
      · rintro failure ⟨rfl, hhuge⟩
        exact .huge (.inl hhuge)
      cases reading with
      | outOfBounds => exact hsound
      | invalid => exact ⟨hsound.anchored, by simp⟩
      | sample signedCurrentA voltage =>
          dsimp only
          unfold updateSoc
          refine ((sensor.tick_ends device signedCurrentA voltage now
            wallNow).mono ?_ fun _ htick => htick).bind fun tick htick => ?_
          · rintro failure (⟨rfl, hhuge⟩ | ⟨rfl, key, value, hvalue, hfloat⟩)
            · exact .huge hhuge
            · exact .chargingVoltage hvalue hfloat
          obtain ⟨estimator, hupdate, hanchored⟩ := hsound.anchored.update htick
          rw [hupdate]
          exact ⟨hanchored, fun _ hnative => hnative⟩

end Handlers

/-! ## Runs -/

theorem SocWorld.Sound.sensor_sound {world : SocWorld}
    (hsound : world.Sound) : world.sensor.Sound :=
  ⟨hsound.anchored, hsound.shown⟩

theorem SocWorld.Sound.of_sensor {world : SocWorld} (hsound : world.Sound)
    {sensor : SocSensor} (hsensor : sensor.Sound) :
    ({ world with sensor := sensor } : SocWorld).Sound :=
  ⟨hsensor.anchored, hsensor.shown, hsound.stored⟩

/-- Every handler keeps the invariant, or has a cause to fail. -/
theorem SocWorld.Sound.handle {world : SocWorld} (hsound : world.Sound)
    {event : SensorEvent} {result : Except Failure SocWorld}
    (hresult : world.handle event = some result) :
    Ends event.Causes SocWorld.Sound result := by
  have hsensor := hsound.sensor_sound
  cases event with
  | capacityChanged state =>
      obtain rfl := Option.some.inj hresult
      refine ((hsensor.capacity state).mono ?_ fun _ hnext => hnext).map
        fun _ hnext => hsound.of_sensor hnext
      rintro failure ⟨rfl, hstate⟩
      exact .capacity hstate
  | syncVoltageChanged state =>
      obtain rfl := Option.some.inj hresult
      refine ((hsensor.syncVoltage state).mono ?_ fun _ hnext => hnext).map
        fun _ hnext => hsound.of_sensor hnext
      rintro failure ⟨rfl, hstate⟩
      exact .syncVoltage hstate
  | batteryModeChanged state =>
      obtain rfl := Option.some.inj hresult
      exact hsound.of_sensor (hsensor.batteryMode state)
  | floatDeadbandChanged deadbandSwitch voltageWindow noiseFloor =>
      obtain rfl := Option.some.inj hresult
      refine ((hsensor.deadband deadbandSwitch voltageWindow noiseFloor).mono ?_
        fun _ hnext => hnext).map fun _ hnext => hsound.of_sensor hnext
      rintro failure ⟨rfl, hstate⟩
      exact .floatDeadband hstate
  | coordinatorUpdated device now wallNow =>
      simp only [SocWorld.handle] at hresult
      split_ifs at hresult
      obtain rfl := Option.some.inj hresult
      exact (hsensor.coordinator device now wallNow).map
        fun _ hnext => hsound.of_sensor hnext
  | stored =>
      simp only [SocWorld.handle] at hresult
      split_ifs at hresult
      obtain rfl := Option.some.inj hresult
      refine ⟨hsound.anchored, hsound.shown, ?_⟩
      intro soc hnative
      exact hsound.anchored.soc_mem soc (hsound.shown soc hnative)
  | restarted =>
      obtain rfl := Option.some.inj hresult
      exact hsound.of_sensor SocSensor.created_sound
  | addedToHass controls =>
      simp only [SocWorld.handle] at hresult
      split_ifs at hresult
      obtain rfl := Option.some.inj hresult
      exact (hsensor.addedToHass hsound.stored controls).map
        fun _ hnext => hsound.of_sensor hnext

theorem SocWorld.Sound.step {world after : SocWorld} {event : SensorEvent}
    (hsound : world.Sound) (hstep : world.step event = some after) :
    after.Sound := by
  unfold SocWorld.step at hstep
  split at hstep
  next => cases hstep
  next next hresult =>
    obtain rfl := Option.some.inj hstep
    exact hsound.handle hresult
  next => cases hstep
  next =>
    obtain rfl := Option.some.inj hstep
    exact hsound

/-- What an older version may have stored. -/
def StoredData.Percentage (stored : Option StoredData) : Prop :=
  ∀ soc, stored.bind StoredData.nativeValue = some soc → 0 ≤ soc ∧ soc ≤ 100

theorem SocWorld.sound_of_run {stored : Option StoredData}
    (hstored : StoredData.Percentage stored) {events : List SensorEvent}
    {final : SocWorld}
    (hrun : Run (graph SocWorld.step) (.installed stored) events final) :
    final.Sound := by
  apply hrun.invariant SocWorld.Sound
  · exact ⟨SocSensor.created_sound.anchored, SocSensor.created_sound.shown,
      hstored⟩
  · intro before event after hbefore hstep
    exact hbefore.step hstep

/-- In every history of settings, readings, stores and restarts: the next
handler fails only over an event that has a cause for it, and a percentage that
is shown lies in range and is within rounding of the charge behind it. -/
theorem SocWorld.shows_charge_of_run {stored : Option StoredData}
    (hstored : StoredData.Percentage stored) {events : List SensorEvent}
    {final : SocWorld}
    (hrun : Run (graph SocWorld.step) (.installed stored) events final) :
    (∀ event failure, final.handle event = some (.error failure) →
        event.Causes failure) ∧
      ∀ soc, final.sensor.nativeValue = some soc →
        0 ≤ soc ∧ soc ≤ 100 ∧
          ∀ capacity, final.sensor.estimator.capacityAh = some capacity →
            |soc - 100 * final.sensor.estimator.accumulatedChargeAh /
              capacity| ≤ 1 / 200 := by
  have hsound := SocWorld.sound_of_run hstored hrun
  constructor
  · intro event failure hresult
    exact (hsound.handle hresult).of_eq_error rfl
  · intro soc hnative
    have hsoc := hsound.shown soc hnative
    have hmem := hsound.anchored.soc_mem soc hsoc
    refine ⟨hmem.1, hmem.2, ?_⟩
    intro capacity hcapacity
    exact hsound.anchored.representation.consistent capacity soc hcapacity hsoc

def defaultControls : Controls where
  capacity := some "200.0"
  syncVoltage := some "0.0"
  batteryMode := some "Lithium (Voltage)"
  deadbandSwitch := some "on"
  voltageWindow := none
  noiseFloor := some "unavailable"

/-- A battery stored half full is added again. -/
def halfFull : Option StoredData := some ⟨some 50, some 100, none⟩

theorem halfFull_percentage : StoredData.Percentage halfFull := by
  intro soc hsoc
  cases hsoc
  norm_num

def drained : Direct.DeviceData :=
  (Direct.DeviceData.empty.setSection .qpigs
    (((Dict.empty.set "battery_voltage" (.str "51.2")).set
      "battery_charging_current" (.str "0")).set
        "battery_discharge_current" (.str "17"))).setSection .qpiri
    ((Dict.empty.set "bulk_charging_voltage" (.str "56.4")).set
      "float_charging_voltage" (.str "54.0"))

/-- A battery added half full is drained, missed once, and given another
capacity. -/
def drainedEvents : List SensorEvent :=
  [.addedToHass defaultControls, .coordinatorUpdated (some drained) 0 0,
    .coordinatorUpdated none 600 600, .coordinatorUpdated (some drained) 1000 1000,
    .stored, .capacityChanged (some "230.0"),
    .coordinatorUpdated (some drained) 2000 2000]

def afterDrained : SocWorld :=
  (execute SocWorld.step (.installed halfFull) drainedEvents).get
    (by decide +kernel)

theorem drained_run :
    Run (graph SocWorld.step) (.installed halfFull) drainedEvents
      afterDrained :=
  run_of_execute (Option.some_get _).symm

theorem SocWorld.shows_charge_half_full :
    ∃ soc, afterDrained.sensor.nativeValue = some soc ∧ 0 ≤ soc ∧ soc ≤ 100 ∧
      |soc - 100 * afterDrained.sensor.estimator.accumulatedChargeAh / 230| ≤
        1 / 200 ∧
      (SensorEvent.coordinatorUpdated none 2600 2600).Causes .keyError := by
  have hcapacity : afterDrained.sensor.estimator.capacityAh = some 230 := by
    decide +kernel
  have hmissing : afterDrained.handle (.coordinatorUpdated none 2600 2600) =
      some (.error .keyError) := by
    have hrestored : afterDrained.sensor.restored = true := by decide +kernel
    unfold SocWorld.handle
    dsimp only
    rw [if_pos hrestored]
    rfl
  obtain ⟨hcauses, hshows⟩ :=
    SocWorld.shows_charge_of_run halfFull_percentage drained_run
  obtain ⟨soc, hnative⟩ : ∃ soc, afterDrained.sensor.nativeValue = some soc :=
    Option.isSome_iff_exists.mp (by decide +kernel)
  obtain ⟨hlow, hhigh, hclose⟩ := hshows soc hnative
  exact ⟨soc, hnative, hlow, hhigh, hclose 230 hcapacity,
    hcauses _ _ hmissing⟩

/-! ## One restart -/

/-- A restart that finds its capacity entity. -/
def restart (controls : Controls) : List SensorEvent :=
  [.stored, .restarted, .addedToHass controls]

/-- No number of the controls but the capacity is infinite. -/
def Controls.IsFinite (controls : Controls) : Prop :=
  ∀ state ∈ [controls.syncVoltage, controls.voltageWindow,
    controls.noiseFloor], numberOf state ≠ some (.infinity false)

/-- Two entities show the same and count the same charge. -/
structure SocSensor.SameCharge (sensor other : SocSensor) : Prop where
  nativeValue : other.nativeValue = sensor.nativeValue
  capacityAh : other.estimator.capacityAh = sensor.estimator.capacityAh
  accumulatedChargeAh :
    other.estimator.accumulatedChargeAh = sensor.estimator.accumulatedChargeAh

theorem SocSensor.updateBatteryMode_sameCharge (sensor : SocSensor)
    (state : Option String) :
    sensor.SameCharge (sensor.updateBatteryMode state) := by
  cases state with
  | none => exact ⟨rfl, rfl, rfl⟩
  | some text =>
      have hfields := sensor.estimator.setMode_fields text
      exact ⟨rfl, hfields.1, hfields.2.1⟩

theorem SocSensor.SameCharge.trans {sensor middle other : SocSensor}
    (hfirst : sensor.SameCharge middle) (hsecond : middle.SameCharge other) :
    sensor.SameCharge other where
  nativeValue := hsecond.nativeValue.trans hfirst.nativeValue
  capacityAh := hsecond.capacityAh.trans hfirst.capacityAh
  accumulatedChargeAh :=
    hsecond.accumulatedChargeAh.trans hfirst.accumulatedChargeAh

section Controls

variable {state voltageWindow noiseFloor : Option String}

theorem positiveNumber_succeeds
    (hstate : numberOf state ≠ some (.infinity false)) (default : ℚ) :
    Ends (fun _ => False) (fun _ => True) (positiveNumber state default) := by
  apply (positiveNumber_ends state default).mono
  · exact fun failure hfails => hstate hfails.2
  · exact fun _ htrue => htrue

theorem SocSensor.updateSyncVoltage_sameCharge (sensor : SocSensor)
    (hstate : numberOf state ≠ some (.infinity false)) :
    Ends (fun _ => False) sensor.SameCharge
      (sensor.updateSyncVoltage state) := by
  unfold updateSyncVoltage
  refine (positiveNumber_succeeds hstate 0).bind fun voltage _ => ?_
  exact ⟨rfl, rfl, rfl⟩

theorem SocSensor.refreshFloatDeadband_sameCharge (sensor : SocSensor)
    (deadbandSwitch : Option String)
    (hwindow : numberOf voltageWindow ≠ some (.infinity false))
    (hfloor : numberOf noiseFloor ≠ some (.infinity false)) :
    Ends (fun _ => False) sensor.SameCharge
      (sensor.refreshFloatDeadband deadbandSwitch voltageWindow
        noiseFloor) := by
  unfold refreshFloatDeadband
  refine (positiveNumber_succeeds hwindow _).bind fun window _ => ?_
  refine (positiveNumber_succeeds hfloor _).bind fun floor _ => ?_
  exact ⟨rfl, rfl, rfl⟩

end Controls

/-- The other controls leave what is shown and the charge alone. -/
theorem SocSensor.readControls_sameCharge (sensor : SocSensor)
    {controls : Controls} (hfinite : controls.IsFinite) :
    Ends (fun _ => False) sensor.SameCharge (sensor.readControls controls) := by
  unfold SocSensor.readControls
  refine (sensor.updateSyncVoltage_sameCharge (hfinite _ (by simp))).bind
    fun synced hsynced => ?_
  have hmode := synced.updateBatteryMode_sameCharge controls.batteryMode
  refine ((synced.updateBatteryMode
    controls.batteryMode).refreshFloatDeadband_sameCharge _
      (hfinite _ (by simp)) (hfinite _ (by simp))).bind
    fun refreshed hrefreshed => ?_
  have hsame := (hsynced.trans hmode).trans hrefreshed
  exact ⟨hsame.nativeValue, hsame.capacityAh, hsame.accumulatedChargeAh⟩

/-- A new entity shows what was stored and takes its share of the capacity. -/
theorem SocSensor.addedToHass_created {stored : Option StoredData}
    {controls : Controls} {capacity soc : ℚ}
    (hcapacity : numberOf controls.capacity = some (.finite capacity))
    (hfinite : controls.IsFinite) (hpos : 0 < capacity)
    (hsoc : (stored.bind StoredData.nativeValue).getD 100 = soc)
    (hmem : 0 ≤ soc ∧ soc ≤ 100) :
    ∃ next, created.addedToHass stored controls = .ok next ∧
      next.nativeValue = some soc ∧
      next.estimator.capacityAh = some capacity ∧
      next.estimator.accumulatedChargeAh = soc / 100 * capacity := by
  have hclamp : clamp (soc / 100) 0 1 = soc / 100 := by
    apply clamp_of_mem <;> linarith
  let anchored : SocSensor := { created.seeded stored with
    estimator := { (created.seeded stored).estimator with
      capacityAh := some capacity
      accumulatedChargeAh := soc / 100 * capacity } }
  have hshown : (created.seeded stored).estimator.socPercent = some soc := by
    rw [← hsoc]
    rfl
  have hcalled : (created.seeded stored).updateBatteryCapacity
      controls.capacity = .ok anchored := by
    have hset : (created.seeded stored).estimator.setCapacity (some capacity) =
        .ok anchored.estimator := by
      rw [SocEstimator.setCapacity_anchor hpos rfl hshown, hclamp]
    have hargument : capacityArgument controls.capacity =
        .ok (some capacity) := by
      unfold capacityArgument
      rw [hcapacity]
      rfl
    have hnative : (anchored.estimator.socPercent.orElse fun _ =>
        (created.seeded stored).nativeValue) =
          (created.seeded stored).nativeValue := by
      have hpercent : anchored.estimator.socPercent = some soc := hshown
      rw [hpercent, ← hsoc]
      rfl
    have hresult : (created.seeded stored).updateBatteryCapacity
        controls.capacity = .ok { anchored with
          nativeValue := anchored.estimator.socPercent.orElse fun _ =>
            (created.seeded stored).nativeValue } := by
      unfold updateBatteryCapacity
      rw [hargument]
      change (((created.seeded stored).estimator.setCapacity
        (some capacity)).mapError Failure.ofPyError >>= _) = _
      rw [hset]
      rfl
    rw [hresult, hnative]
  have hends := anchored.readControls_sameCharge hfinite
  cases hread : anchored.readControls controls with
  | error failure => exact (hends.of_eq_error hread).elim
  | ok next =>
      have hsame := hends.of_eq_ok hread
      refine ⟨next, ?_, ?_, hsame.capacityAh, hsame.accumulatedChargeAh⟩
      · unfold SocSensor.addedToHass
        rw [hcalled]
        exact hread
      · rw [hsame.nativeValue, ← hsoc]
        rfl

/-- From any history a restart shows what was shown, and one hundred percent
when nothing was; the charge behind a shown percentage moves by at most half a
hundredth of a percent of the capacity. -/
theorem SocWorld.restart_keeps_charge {stored : Option StoredData}
    (hstored : StoredData.Percentage stored) {events : List SensorEvent}
    {world : SocWorld}
    (hrun : Run (graph SocWorld.step) (.installed stored) events world)
    (hrestored : world.sensor.restored = true) {capacity : ℚ}
    (hcapacity : world.sensor.estimator.capacityAh = some capacity)
    {controls : Controls}
    (hcontrols : numberOf controls.capacity = some (.finite capacity))
    (hfinite : controls.IsFinite) :
    ∃ after, Run (graph SocWorld.step) world (restart controls) after ∧
      after.sensor.nativeValue =
        some (world.sensor.nativeValue.getD 100) ∧
      after.sensor.estimator.accumulatedChargeAh =
        world.sensor.nativeValue.getD 100 / 100 * capacity ∧
      ∀ soc, world.sensor.nativeValue = some soc →
        |after.sensor.estimator.accumulatedChargeAh -
          world.sensor.estimator.accumulatedChargeAh| ≤ capacity / 20000 := by
  have hsound := SocWorld.sound_of_run hstored hrun
  have hpos := hsound.anchored.capacity_pos capacity hcapacity
  have hmem : 0 ≤ world.sensor.nativeValue.getD 100 ∧
      world.sensor.nativeValue.getD 100 ≤ 100 := by
    cases hnative : world.sensor.nativeValue with
    | none => norm_num
    | some soc =>
        exact hsound.anchored.soc_mem soc (hsound.shown soc hnative)
  have hdefault : ((some world.sensor.extraData).bind
      StoredData.nativeValue).getD 100 = world.sensor.nativeValue.getD 100 :=
    rfl
  obtain ⟨next, hadded, hnative, -, hcharge⟩ :=
    SocSensor.addedToHass_created hcontrols hfinite hpos hdefault hmem
  refine ⟨⟨next, some world.sensor.extraData⟩, ?_, hnative, hcharge, ?_⟩
  · have hstore : world.step .stored =
        some ⟨world.sensor, some world.sensor.extraData⟩ := by
      unfold SocWorld.step SocWorld.handle
      dsimp only
      rw [if_pos hrestored]
    have hadd : SocWorld.step ⟨.created, some world.sensor.extraData⟩
        (.addedToHass controls) = some ⟨next, some world.sensor.extraData⟩ := by
      unfold SocWorld.step SocWorld.handle
      dsimp only
      rw [if_neg (by exact Bool.false_ne_true), hadded]
      rfl
    have hrestarted : Run (graph SocWorld.step) world
        ([] ++ [.stored] ++ [.restarted] ++ [.addedToHass controls])
        ⟨next, some world.sensor.extraData⟩ :=
      .extend (.extend (.extend .start hstore) rfl) hadd
    exact hrestarted
  · intro soc hsoc
    have hclose := hsound.anchored.representation.consistent capacity soc
      hcapacity (hsound.shown soc hsoc)
    have hshift : next.estimator.accumulatedChargeAh -
        world.sensor.estimator.accumulatedChargeAh =
          (soc - 100 * world.sensor.estimator.accumulatedChargeAh /
            capacity) * (capacity / 100) := by
      rw [hcharge, hsoc, Option.getD_some]
      field_simp
    rw [hshift, abs_mul, abs_of_pos (div_pos hpos (by norm_num))]
    calc
      |soc - 100 * world.sensor.estimator.accumulatedChargeAh / capacity| *
          (capacity / 100) ≤ 1 / 200 * (capacity / 100) := by gcongr
      _ = capacity / 20000 := by ring

theorem SocWorld.restart_keeps_half_full :
    ∃ after soc, afterDrained.sensor.nativeValue = some soc ∧
      Run (graph SocWorld.step) afterDrained
        (restart { defaultControls with capacity := some "230" }) after ∧
      after.sensor.nativeValue = some soc ∧
      |after.sensor.estimator.accumulatedChargeAh -
        afterDrained.sensor.estimator.accumulatedChargeAh| ≤ 230 / 20000 := by
  have hcapacity : afterDrained.sensor.estimator.capacityAh = some 230 := by
    decide +kernel
  have hcontrols : numberOf (some "230") = some (.finite 230) := by
    decide +kernel
  have hfinite : Controls.IsFinite
      { defaultControls with capacity := some "230" } := by
    have hall : [some "0.0", none, some "unavailable"].all
        (fun state => decide (numberOf state ≠ some (.infinity false))) =
          true := by
      decide +kernel
    intro state hmem
    exact of_decide_eq_true (List.all_eq_true.mp hall state hmem)
  obtain ⟨soc, hnative⟩ : ∃ soc, afterDrained.sensor.nativeValue = some soc :=
    Option.isSome_iff_exists.mp (by decide +kernel)
  obtain ⟨after, hrun, hshown, -, hclose⟩ := SocWorld.restart_keeps_charge
    halfFull_percentage drained_run (by decide +kernel) hcapacity hcontrols
      hfinite
  rw [hnative, Option.getD_some] at hshown
  exact ⟨after, soc, hnative, hrun, hshown, hclose soc hnative⟩

end SocCore
end DessMonitor
