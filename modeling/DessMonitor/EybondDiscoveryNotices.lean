import DessMonitor.EybondRegistry
import DessMonitor.Foundation.FirstSight
import DessMonitor.Foundation.LabelledRun
import DessMonitor.Foundation.PyString

/-!
# Notices about new dongles

The sensor of a hub looks at the registry on a timer of its own.  It shows
every dongle, and puts up a notice for each one that it has not seen before
and that is not configured yet.  What the registry held when the sensor was
added counts as seen.
-/

namespace DessMonitor
namespace Eybond

open FirstSight LabelledRun

/-! ## What the sensor shows -/

structure DongleRow where
  pn : String
  status : String
  enabled : Bool
  protocol : String
  devaddr : ℤ
  name : String
  lastSeen : String
  deriving DecidableEq

def DongleRecord.row (record : DongleRecord) : DongleRow where
  pn := record.pn
  status := record.status.value
  enabled := record.enabled
  protocol := PyString.orElse (record.protocol.getD "") "none"
  devaddr := record.devaddr
  name := PyString.orElse record.name record.pn
  lastSeen := PyString.orElse record.lastSeen ""

/-- The value and the attributes of `EybondHubDiscoverySensor`. -/
structure DiscoveryState where
  nativeValue : ℕ
  connected : ℕ
  dongles : List DongleRow
  deriving DecidableEq

/-- `none` is a hub without a runtime. -/
def discoveryState (registry : Option EybondRegistry) : DiscoveryState :=
  match registry with
  | none => ⟨0, 0, []⟩
  | some registry =>
      { nativeValue := registry.all.length
        connected :=
          registry.all.countP fun record => record.status = .connected
        dongles := registry.all.map DongleRecord.row }

/-! ## Notices -/

structure Notice where
  message : String
  title : String
  notificationId : String
  deriving DecidableEq

/-- `_notify_new`. -/
def newDongleNotice (hubName pn : String) : Notice where
  message :=
    "New EyBond dongle **" ++ pn ++ "** connected to hub **" ++ hubName ++
      "**.\n\nOpen the hub options (Settings → Devices & Services → DESS " ++
      "Monitor Local → Configure → Manage discovered devices) to assign a " ++
      "protocol and enable polling."
  title := "EyBond: new dongle discovered"
  notificationId := "dess_monitor_local_eybond_new_" ++ pn

/-- No notice takes the place of another dongle's. -/
theorem notificationId_injective (hubName : String) :
    Function.Injective fun pn =>
      (newDongleNotice hubName pn).notificationId := by
  intro left right hsame
  exact String.append_right_inj _ |>.mp hsame

/-! ## The sensor -/

/-- `runtime` is the registry that `_registry` finds, `written` the state that
was written last. -/
structure DiscoverySensor where
  runtime : Option EybondRegistry
  known : List String
  seeded : Bool
  subscribed : Bool
  notices : List Notice
  written : Option DiscoveryState

namespace DiscoverySensor

def initial (runtime : Option EybondRegistry) : DiscoverySensor :=
  ⟨runtime, [], false, false, [], none⟩

/-- `async_added_to_hass`. -/
def added (sensor : DiscoverySensor) : DiscoverySensor :=
  { sensor with
    known :=
      match sensor.runtime with
      | none => sensor.known
      | some registry => registry.all.map DongleRecord.pn
    seeded := true
    subscribed := true }

/-- One round of the loop of `_maybe_notify_new`. -/
def sight (hubName : String) (sensor : DiscoverySensor)
    (record : DongleRecord) : DiscoverySensor :=
  if record.pn ∈ sensor.known then sensor
  else
    { sensor with
      known := sensor.known ++ [record.pn]
      notices :=
        if record.enabled then sensor.notices
        else sensor.notices ++ [newDongleNotice hubName record.pn] }

def maybeNotifyNew (hubName : String) (sensor : DiscoverySensor) :
    DiscoverySensor :=
  if sensor.seeded then
    match sensor.runtime with
    | none => sensor
    | some registry => registry.all.foldl (sight hubName) sensor
  else sensor

/-- `_tick`. -/
def tick (hubName : String) (sensor : DiscoverySensor) : DiscoverySensor :=
  { sensor.maybeNotifyNew hubName with
    written := discoveryState sensor.runtime }

end DiscoverySensor

/-- The registry changes in any way while the sensor is not running. -/
inductive NoticeEvent where
  | changed (runtime : Option EybondRegistry)
  | added
  | tick
  | willRemove

/-- The timer only fires while it is subscribed to. -/
def DiscoverySensor.step (hubName : String) (sensor : DiscoverySensor) :
    NoticeEvent → Option DiscoverySensor
  | .changed runtime => some { sensor with runtime := runtime }
  | .added => if sensor.seeded then none else some sensor.added
  | .tick => if sensor.subscribed then some (sensor.tick hubName) else none
  | .willRemove => some { sensor with subscribed := false }

/-! ## Runs -/

/-- What was in the registry when the sensor was added, and every record that
a tick has come across since, in this order. -/
structure Sights where
  seed : List String
  records : List DongleRecord

def Sights.observe (sensor : DiscoverySensor) (event : NoticeEvent)
    (sights : Sights) : Sights :=
  match event, sensor.runtime with
  | .added, some registry =>
      { sights with seed := registry.all.map DongleRecord.pn }
  | .tick, some registry =>
      { sights with records := sights.records ++ registry.all }
  | _, _ => sights

def unconfigured (record : DongleRecord) : Bool := !record.enabled

/-- The watch that the sensor keeps, since it was seeded. -/
def Sights.watch (sights : Sights) : Watch String :=
  Watch.scan DongleRecord.pn unconfigured ⟨sights.seed, []⟩ sights.records

/-- The sensor has the watch's keys and a notice for each one reported. -/
def DiscoverySensor.Follows (hubName : String) (sensor : DiscoverySensor)
    (watch : Watch String) : Prop :=
  sensor.known = watch.known ∧
    sensor.notices = watch.reported.map (newDongleNotice hubName)

section Follows

variable {hubName : String} {sensor : DiscoverySensor}
  {watch : Watch String}

theorem DiscoverySensor.Follows.sight (hfollows : sensor.Follows hubName watch)
    (record : DongleRecord) :
    (sensor.sight hubName record).Follows hubName
      (watch.look DongleRecord.pn unconfigured record) := by
  obtain ⟨hknown, hnotices⟩ := hfollows
  unfold DiscoverySensor.sight Watch.look
  rw [hknown]
  split
  next => exact ⟨hknown, hnotices⟩
  next =>
    cases henabled : record.enabled <;>
      simp [DiscoverySensor.Follows, unconfigured, henabled, hnotices]

theorem DiscoverySensor.Follows.foldl (hfollows : sensor.Follows hubName watch)
    (records : List DongleRecord) :
    (records.foldl (DiscoverySensor.sight hubName) sensor).Follows hubName
      (watch.scan DongleRecord.pn unconfigured records) := by
  induction records generalizing sensor watch with
  | nil => exact hfollows
  | cons record records ih => exact ih (hfollows.sight record)

@[simp] theorem seeded_sight (record : DongleRecord) :
    (sensor.sight hubName record).seeded = sensor.seeded := by
  unfold DiscoverySensor.sight
  split <;> rfl

@[simp] theorem seeded_foldl_sight (records : List DongleRecord) :
    (records.foldl (DiscoverySensor.sight hubName) sensor).seeded =
      sensor.seeded := by
  induction records generalizing sensor with
  | nil => rfl
  | cons record records ih => simp [ih]

/-- Before it is added, the sensor has seen nothing. -/
structure Noticing (hubName : String) (sensor : DiscoverySensor)
    (sights : Sights) : Prop where
  follows : sensor.Follows hubName sights.watch
  unseeded : sensor.seeded = false →
    sensor.notices = [] ∧ sights = ⟨[], []⟩ ∧ sensor.subscribed = false

variable {sights : Sights} {after : DiscoverySensor} {event : NoticeEvent}

theorem initial_noticing (hubName : String)
    (runtime : Option EybondRegistry) :
    Noticing hubName (.initial runtime) ⟨[], []⟩ := by
  constructor
  · simp [DiscoverySensor.Follows, DiscoverySensor.initial, Sights.watch,
      Watch.scan]
  · simp [DiscoverySensor.initial]

theorem Noticing.added (hnoticing : Noticing hubName sensor sights)
    (hunseeded : sensor.seeded = false) :
    Noticing hubName sensor.added (sights.observe sensor .added) := by
  obtain ⟨hnotices, rfl, -⟩ := hnoticing.unseeded hunseeded
  have hknown : sensor.known = [] := by
    simpa [Sights.watch, Watch.scan] using hnoticing.follows.1
  constructor
  · cases hruntime : sensor.runtime with
    | none =>
        simp [DiscoverySensor.Follows, DiscoverySensor.added,
          Sights.observe, Sights.watch, Watch.scan, hruntime, hnotices,
          hknown]
    | some registry =>
        simp [DiscoverySensor.Follows, DiscoverySensor.added,
          Sights.observe, Sights.watch, Watch.scan, hruntime, hnotices]
  · simp [DiscoverySensor.added]

theorem Noticing.tick (hnoticing : Noticing hubName sensor sights)
    (hseeded : sensor.seeded = true) :
    Noticing hubName (sensor.tick hubName) (sights.observe sensor .tick) := by
  cases hruntime : sensor.runtime with
  | none =>
      constructor
      · simpa [DiscoverySensor.tick, DiscoverySensor.maybeNotifyNew,
          DiscoverySensor.Follows, Sights.observe, hruntime, hseeded]
          using hnoticing.follows
      · simp [DiscoverySensor.tick, DiscoverySensor.maybeNotifyNew, hruntime,
          hseeded]
  | some registry =>
      have hfollows := hnoticing.follows.foldl registry.all
      constructor
      · simpa [DiscoverySensor.tick, DiscoverySensor.maybeNotifyNew,
          DiscoverySensor.Follows, Sights.observe, Sights.watch, scan_append,
          hruntime, hseeded] using hfollows
      · intro hunseeded
        simp [DiscoverySensor.tick, DiscoverySensor.maybeNotifyNew, hruntime,
          hseeded] at hunseeded

theorem Noticing.after_step (hnoticing : Noticing hubName sensor sights)
    (hstep : sensor.step hubName event = some after) :
    Noticing hubName after (sights.observe sensor event) := by
  cases event with
  | changed runtime =>
      cases hstep
      exact ⟨hnoticing.follows, hnoticing.unseeded⟩
  | added =>
      simp only [DiscoverySensor.step] at hstep
      split_ifs at hstep with hseeded
      cases hstep
      exact hnoticing.added (by simpa using hseeded)
  | tick =>
      simp only [DiscoverySensor.step] at hstep
      split_ifs at hstep with hsubscribed
      cases hstep
      apply hnoticing.tick
      by_contra hunseeded
      have hidle := (hnoticing.unseeded (by simpa using hunseeded)).2.2
      simp [hidle] at hsubscribed
  | willRemove =>
      cases hstep
      refine ⟨hnoticing.follows, ?_⟩
      intro hunseeded
      have hidle := hnoticing.unseeded hunseeded
      exact ⟨hidle.1, hidle.2.1, rfl⟩

end Follows

/-- However the registry changes: a dongle is noticed exactly when it was not
there when the sensor was added and was unconfigured when a tick first came
across it, and then once, under an identifier of its own. -/
theorem notices_of_run {hubName : String} {runtime : Option EybondRegistry}
    {events : List NoticeEvent} {sensor : DiscoverySensor}
    {sights : Sights}
    (hrun : Run (tracked (graph (DiscoverySensor.step hubName))
        Sights.observe)
      (.initial runtime, ⟨[], []⟩) events (sensor, sights)) :
    ∃ pns : List String,
      sensor.notices = pns.map (newDongleNotice hubName) ∧
        (sensor.notices.map Notice.notificationId).Nodup ∧
        ∀ pn, pn ∈ pns ↔ pn ∉ sights.seed ∧
          FirstWanted DongleRecord.pn unconfigured sights.records pn := by
  have hnoticing : Noticing hubName sensor sights := by
    apply hrun.invariant fun state => Noticing hubName state.1 state.2
    · exact initial_noticing hubName runtime
    · rintro before event ⟨after, later⟩ hbefore ⟨hstep, hlater⟩
      dsimp only at hlater ⊢
      rw [hlater]
      exact hbefore.after_step hstep
  have hnodup : sights.watch.reported.Nodup :=
    nodup_reported_scan List.nodup_nil (List.nil_subset _)
  refine ⟨sights.watch.reported, hnoticing.follows.2, ?_, ?_⟩
  · rw [hnoticing.follows.2, List.map_map]
    exact hnodup.map (notificationId_injective hubName)
  · intro pn
    simp [Sights.watch, mem_reported_scan]

def dongle (pn : String) (enabled : Bool) : DongleRecord :=
  { DongleRecord.unconfigured pn with enabled := enabled }

/-- Two dongles turn up at a hub that knows one, one of them configured. -/
def newDongles : List NoticeEvent :=
  [.added, .changed (some (.ofPairs
      [("A", dongle "A" false), ("B", dongle "B" true),
        ("C", dongle "C" false)])), .tick,
    .changed (some (.ofPairs [("B", dongle "B" false)])), .tick]

def knownDongle : EybondRegistry := .ofPairs [("A", dongle "A" false)]

def afterNewDongles : DiscoverySensor × Sights :=
  (execute (trackedNext (DiscoverySensor.step "Hub") Sights.observe)
    (.initial (some knownDongle), ⟨[], []⟩) newDongles).get
      (by decide +kernel)

theorem notices_of_run_new_dongles :
    afterNewDongles.1.notices = [newDongleNotice "Hub" "C"] ∧
      ∃ pns : List String,
        afterNewDongles.1.notices = pns.map (newDongleNotice "Hub") ∧
          ∀ pn, pn ∈ pns ↔ pn ∉ afterNewDongles.2.seed ∧
            FirstWanted DongleRecord.pn unconfigured
              afterNewDongles.2.records pn := by
  have hrun : Run (tracked (graph (DiscoverySensor.step "Hub"))
      Sights.observe) (.initial (some knownDongle), ⟨[], []⟩) newDongles
        afterNewDongles :=
    tracked_run_of_execute (Option.some_get _).symm
  obtain ⟨pns, hnotices, -, hpns⟩ := notices_of_run hrun
  exact ⟨by decide +kernel, pns, hnotices, hpns⟩

end Eybond
end DessMonitor
