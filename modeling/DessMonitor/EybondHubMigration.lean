import DessMonitor.EybondHubSetup
import DessMonitor.EybondSessionMaps
import DessMonitor.EybondUri

/-!
# From a legacy entry to a hub

The migration stores one record for the dongle that is connected, under the
identity of the legacy device.  The entry is then reloaded with the options of
a hub already in place, so its unload releases nothing and the manager stays.
The registry of that manager has seen the dongle, so the setup uses the stored
record only if the live one agrees with it.
-/

namespace DessMonitor
namespace Eybond

open LabelledRun ListUpdate ListenerMap
open Direct (DeviceTarget)

/-! ## The migration -/

namespace ConfigEntry

def device (entry : ConfigEntry) : String := entry.options.device.getD ""

def isLegacyEybond (entry : ConfigEntry) : Bool :=
  PyString.startsWith entry.device "eybond://" ||
    PyString.startsWith entry.device "eybond-pi18://"

def legacyProtocol (entry : ConfigEntry) : String :=
  if PyString.startsWith entry.device "eybond-pi18://" then protocolPi18
  else protocolVoltronic

/-- The record of the migrated child. -/
def legacyRecord (entry : ConfigEntry) (devaddr : ℤ) (pn : String) :
    DongleRecord :=
  { DongleRecord.unconfigured pn with
    name := PyString.orElse
      (PyString.orElse (entry.dataName.getD "") entry.title) "EyBond"
    enabled := true
    protocol := some entry.legacyProtocol
    devaddr := devaddr
    legacyId := entry.device
    status := .connected }

def hubOptions (entry : ConfigEntry) (uri : EybondUri) : EntryOptions where
  entryKind := some entryKindEybondHub
  device := none
  bindHost := some uri.key.1
  bindPort := some uri.key.2
  broadcast := some uri.broadcast
  announceIp := some (uri.announceIp.getD "")
  updateInterval := some (entry.options.updateInterval.getD 10)
  hubRevision := some (entry.options.hubRevision.getD 0 + 1)

/-- The entry once the options of the migration are applied. -/
def migrated (entry : ConfigEntry) (uri : EybondUri) : ConfigEntry :=
  { entry with options := entry.hubOptions uri }

end ConfigEntry

namespace HubWorld

/-- The new options, or the reason there are none; `none` is the `ValueError`
of the device URI. -/
def asyncMigrateLegacyToHub (world : HubWorld) (id : ℕ) :
    Option (HubWorld × Except String EntryOptions) := do
  let entry ← world.entries[id]?
  if entry.config.isLegacyEybond then
    let uri ← parseEybondUri entry.config.device
    let (map, manager) := world.map.getEybondManager uri.key uri.broadcast
      uri.announceIp none
    let listener ← map.listeners[manager]?
    match listener.identifiedPns with
    | [] => some ({ world with map := map }, .error "dongle_offline")
    | pn :: _ =>
        let registry := EybondRegistry.put .empty
          (entry.config.legacyRecord uri.devaddr pn)
        some
          ({ world with
            map := map
            stores := world.stores.set id registry.toDict },
            .ok (entry.config.hubOptions uri))
  else some (world, .error "not_eybond")

/-- The options flow replaces the options of an entry. -/
def applyOptions (world : HubWorld) (id : ℕ) (options : EntryOptions) :
    HubWorld :=
  { world with
    entries := world.entries.modify id fun entry =>
      { entry with config := { entry.config with options := options } } }

/-- The dongle a migration takes: the first one identified at the address. -/
def firstPn (world : HubWorld) (key : ListenerKey) : Option String :=
  (world.map.listenerAt key).bind fun listener =>
    listener.identifiedPns.head?

end HubWorld

/-- The update listener reloads the entry: its unload sees the options of a
hub, then the hub is set up. -/
def reloadMigrated (id : ℕ) : List HubEvent :=
  [.unload id, .stopRuntime id] ++ setupEvents id

/-! ## Targets of one dongle -/

def targetsOf (registry : EybondRegistry) (config : ConfigEntry)
    (pn : String) : List DeviceTarget :=
  (registry.get? pn).toList.filterMap
    (DongleRecord.childTarget config.listenerKey config.broadcast
      config.announceIp)

/-- Records of one configuration have the same target. -/
theorem DongleRecord.SameConfig.childTarget {left right : DongleRecord}
    (hsame : left.SameConfig right) (key : ListenerKey) (broadcast : String)
    (announceIp : Option String) :
    left.childTarget key broadcast announceIp =
      right.childTarget key broadcast announceIp := by
  unfold DongleRecord.childTarget DongleRecord.childId DongleRecord.childUri
  rw [hsame.protocol, hsame.enabled, hsame.legacyId, hsame.pn, hsame.devaddr,
    hsame.name]

section LegacyEntry

variable {config : ConfigEntry} {uri : EybondUri} {pn : String}

theorem legacyRecord_legacyId_ne (hlegacy : config.isLegacyEybond = true)
    (devaddr : ℤ) (pn : String) : (config.legacyRecord devaddr pn).legacyId ≠ "" := by
  unfold ConfigEntry.legacyRecord
  dsimp only
  intro hdevice
  unfold ConfigEntry.isLegacyEybond at hlegacy
  rw [hdevice] at hlegacy
  exact absurd hlegacy (by decide)

theorem migrated_isHub (config : ConfigEntry) (uri : EybondUri) :
    (config.migrated uri).isHub = true := by
  have hne : entryKindEybondHub ≠ "" := by decide
  simp [ConfigEntry.migrated, ConfigEntry.hubOptions, ConfigEntry.isHub,
    ConfigEntry.kind, PyString.orElse, hne]

theorem migrated_listenerKey (config : ConfigEntry) (uri : EybondUri) :
    (config.migrated uri).listenerKey = uri.key := rfl

/-- The target of the migrated child. -/
theorem childTarget_legacyRecord (hlegacy : config.isLegacyEybond = true)
    (devaddr : ℤ) (pn : String) (key : ListenerKey) (broadcast : String)
    (announceIp : Option String) :
    ∃ target, (config.legacyRecord devaddr pn).childTarget key broadcast
        announceIp = some target ∧
      target.id = config.device ∧
      target.protocol = config.legacyProtocol ∧
      target.uri = (config.legacyRecord devaddr pn).childUri key broadcast
        announceIp := by
  have hid : PyString.orElse (config.legacyRecord devaddr pn).legacyId
      (config.legacyRecord devaddr pn).childId = config.device := by
    unfold PyString.orElse
    rw [if_neg (legacyRecord_legacyId_ne hlegacy devaddr pn)]
    rfl
  have hsupported : config.legacyProtocol ∈
      DongleRecord.supportedProtocols := by
    unfold ConfigEntry.legacyProtocol
    split <;> decide
  have hprotocol : (config.legacyRecord devaddr pn).protocol =
      some config.legacyProtocol := rfl
  have henabled : (config.legacyRecord devaddr pn).enabled = true := rfl
  unfold DongleRecord.childTarget
  rw [hid, hprotocol]
  dsimp only
  rw [if_pos ⟨henabled, hsupported⟩]
  exact ⟨_, rfl, rfl, rfl, rfl⟩

/-- One target polls the dongle as the legacy entry did, and the store holds
its record after the next save. -/
structure Carried (world : HubWorld) (id : ℕ) (runtime : HubRuntime)
    (config : ConfigEntry) (uri : EybondUri) (pn : String) : Prop where
  target : ∃ target,
    targetsOf (world.map.contents runtime.registry) (config.migrated uri) pn =
        [target] ∧
      target.id = config.device ∧
      target.protocol = config.legacyProtocol ∧
      target.uri = (config.legacyRecord uri.devaddr pn).childUri uri.key
        (config.migrated uri).broadcast (config.migrated uri).announceIp
  stored : ∃ data,
    ((world.asyncSave id runtime true).1.storedRegistry id).get? pn =
        some data ∧
      (DongleRecord.fromDict data).SameConfig
        (config.legacyRecord uri.devaddr pn)

theorem storedRegistry_asyncSave (world : HubWorld) (id : ℕ)
    (runtime : HubRuntime) :
    (world.asyncSave id runtime true).1.storedRegistry id =
      (world.map.contents runtime.registry).toDict := by
  simp [HubWorld.asyncSave, HubWorld.storedRegistry]

/-- All depends on the record in the registry in use. -/
theorem carried_iff (hlegacy : config.isLegacyEybond = true)
    (world : HubWorld) (id : ℕ) (runtime : HubRuntime) :
    Carried world id runtime config uri pn ↔
      ∃ record,
        (world.map.contents runtime.registry).get? pn = some record ∧
          record.SameConfig (config.legacyRecord uri.devaddr pn) := by
  constructor
  · intro hcarried
    obtain ⟨data, hdata, hsame⟩ := hcarried.stored
    rw [storedRegistry_asyncSave] at hdata
    unfold EybondRegistry.toDict at hdata
    rw [Dict.get?_mapValues] at hdata
    obtain ⟨record, hrecord, rfl⟩ := Option.map_eq_some_iff.mp hdata
    rw [DongleRecord.fromDict_toDict] at hsame
    exact ⟨record, hrecord, hsame⟩
  · rintro ⟨record, hrecord, hsame⟩
    constructor
    · obtain ⟨target, hchild, htarget⟩ :=
        childTarget_legacyRecord hlegacy uri.devaddr pn uri.key
          (config.migrated uri).broadcast (config.migrated uri).announceIp
      refine ⟨target, ?_, htarget⟩
      unfold targetsOf
      rw [hrecord, migrated_listenerKey, Option.toList_some]
      rw [List.filterMap_cons, hsame.childTarget, hchild]
      rfl
    · refine ⟨record.toDict, ?_, ?_⟩
      · rw [storedRegistry_asyncSave]
        unfold EybondRegistry.toDict
        rw [Dict.get?_mapValues, hrecord]
        rfl
      · rw [DongleRecord.fromDict_toDict]
        exact hsame

end LegacyEntry

/-! ## Only hubs have a runtime -/

def Entry.settingUp (entry : Entry) : Bool :=
  match entry.state with
  | .restored _ => true
  | .starting _ _ => true
  | .refreshing _ _ => true
  | _ => false

structure RuntimesOfHubs (world : HubWorld) : Prop where
  runtime : ∀ id runtime, world.runtimes.get? id = some runtime →
    ∃ entry, world.entries[id]? = some entry ∧ entry.config.isHub = true
  setup : ∀ (id : ℕ) (entry : Entry), world.entries[id]? = some entry →
    entry.settingUp = true → entry.config.isHub = true

section RuntimesOfHubs

variable {world after : HubWorld} {id : ℕ} {entry : Entry}

theorem RuntimesOfHubs.move (hinv : RuntimesOfHubs world)
    (hentry : world.entries[id]? = some entry) {state : EntryState}
    {map : ListenerMap} {runtimes : Dict ℕ HubRuntime}
    {stores : Dict ℕ StoredRegistry}
    (hsetup : ({ entry with state := state } : Entry).settingUp = true →
      entry.config.isHub = true)
    (hruntimes : ∀ other runtime, runtimes.get? other = some runtime →
      world.runtimes.get? other = some runtime ∨
        other = id ∧ entry.config.isHub = true) :
    RuntimesOfHubs
      { map := map
        entries := world.entries.set id { entry with state := state }
        runtimes := runtimes
        stores := stores } := by
  have hlength := (List.getElem?_eq_some_iff.mp hentry).1
  constructor
  · intro other runtime hruntime
    dsimp only
    by_cases heq : other = id
    · subst other
      refine ⟨_, List.getElem?_set_self hlength, ?_⟩
      rcases hruntimes id runtime hruntime with hold | ⟨_, hhub⟩
      · obtain ⟨found, hfound, hhub⟩ := hinv.runtime id runtime hold
        rw [hentry] at hfound
        obtain rfl := Option.some.inj hfound
        exact hhub
      · exact hhub
    · rw [List.getElem?_set_ne (Ne.symm heq)]
      rcases hruntimes other runtime hruntime with hold | ⟨hother, _⟩
      · exact hinv.runtime other runtime hold
      · exact absurd hother heq
  · intro other found hfound hsettingUp
    rcases getElem?_set_cases hfound with ⟨rfl, rfl⟩ | ⟨_, hold⟩
    · exact hsetup hsettingUp
    · exact hinv.setup other found hold hsettingUp

theorem RuntimesOfHubs.after_step (hinv : RuntimesOfHubs world)
    {event : HubEvent} (hstep : world.step event = some after) :
    RuntimesOfHubs after := by
  have hkept : ∀ (id : ℕ) (entry : Entry) other runtime,
      world.runtimes.get? other = some runtime →
        world.runtimes.get? other = some runtime ∨
          other = id ∧ entry.config.isHub = true := by
    intro id entry other runtime hruntime
    exact .inl hruntime
  cases hubStepped_of_step hstep with
  | poll => exact ⟨hinv.runtime, hinv.setup⟩
  | started => exact ⟨hinv.runtime, hinv.setup⟩
  | serve => exact ⟨hinv.runtime, hinv.setup⟩
  | shutdown => exact ⟨hinv.runtime, hinv.setup⟩
  | setupDevice hentry =>
      exact hinv.move hentry (by simp [Entry.settingUp]) (hkept _ _)
  | restore hentry hhub => exact hinv.move hentry (fun _ => hhub) (hkept _ _)
  | lookup hentry hstate =>
      have hhub := hinv.setup _ _ hentry (by simp [Entry.settingUp, hstate])
      exact hinv.move hentry (fun _ => hhub) (hkept _ _)
  | adopt hentry hstate =>
      have hhub := hinv.setup _ _ hentry (by simp [Entry.settingUp, hstate])
      exact hinv.move hentry (fun _ => hhub) (hkept _ _)
  | setupFailed hentry =>
      exact hinv.move hentry (by simp [Entry.settingUp]) (hkept _ _)
  | @finishSetup id registry entry targets hentry hstate saved =>
      have hhub := hinv.setup _ _ hentry (by simp [Entry.settingUp, hstate])
      apply hinv.move hentry (fun _ => hhub)
      intro other runtime hruntime
      rw [Dict.get?_set] at hruntime
      split at hruntime
      next heq => exact .inr ⟨heq, hhub⟩
      next => exact .inl hruntime
  | @persist id runtime hruntime stores saved =>
      constructor
      · intro other found hfound
        dsimp only at hfound
        rw [Dict.get?_set] at hfound
        split at hfound
        next heq =>
          subst other
          exact hinv.runtime id runtime hruntime
        next => exact hinv.runtime other found hfound
      · exact hinv.setup
  | unload hentry =>
      exact hinv.move hentry (by simp [Entry.settingUp]) (hkept _ _)
  | drainAll hentry =>
      exact hinv.move hentry (by simp [Entry.settingUp]) (hkept _ _)
  | stopNothing hentry =>
      exact hinv.move hentry (by simp [Entry.settingUp]) (hkept _ _)
  | @stopRuntime id entry runtime hentry hstate hhub hruntime =>
      apply hinv.move hentry (by simp [Entry.settingUp])
      intro other found hfound
      rw [Dict.get?_erase] at hfound
      split at hfound
      next => cases hfound
      next => exact .inl hfound
  | saveRuntime hentry =>
      exact hinv.move hentry (by simp [Entry.settingUp]) (hkept _ _)
  | releaseListener hentry =>
      exact hinv.move hentry (by simp [Entry.settingUp]) (hkept _ _)

theorem runtimesOfHubs_of_run {configs : List ConfigEntry}
    {stores : Dict ℕ StoredRegistry} {events : List HubEvent}
    {final : HubWorld}
    (hrun : Run (graph HubWorld.step) (HubWorld.initial configs stores) events
      final) :
    RuntimesOfHubs final := by
  apply hrun.invariant RuntimesOfHubs
  · constructor
    · intro id runtime hruntime
      simp [HubWorld.initial] at hruntime
    · intro id entry hentry hsettingUp
      simp only [HubWorld.initial, List.getElem?_map,
        Option.map_eq_some_iff] at hentry
      obtain ⟨config, _, rfl⟩ := hentry
      simp [Entry.settingUp] at hsettingUp
  · intro before event after hbefore hstep
    exact hbefore.after_step hstep

end RuntimesOfHubs

/-! ## Migration and reload -/

section Reload

variable {world : HubWorld} {id : ℕ} {config : ConfigEntry}
  {uri : EybondUri} {pn : String}

/-- The migration stores the record of the first dongle at the address and
leaves the registry there alone. -/
theorem asyncMigrateLegacyToHub_spec {state : EntryState}
    (hentry : world.entries[id]? = some ⟨config, state⟩)
    (hlegacy : config.isLegacyEybond = true)
    (huri : parseEybondUri config.device = some uri)
    (hpn : world.firstPn uri.key = some pn) :
    ∃ map,
      world.asyncMigrateLegacyToHub id = some
        ({ world with
          map := map
          stores := world.stores.set id (EybondRegistry.put .empty
            (config.legacyRecord uri.devaddr pn)).toDict },
          .ok (config.hubOptions uri)) ∧
      map.liveRegistry uri.key = world.map.liveRegistry uri.key := by
  obtain ⟨old, hold, hhead⟩ := Option.bind_eq_some_iff.mp hpn
  obtain ⟨listener, hspec⟩ := world.map.getEybondManager_none uri.key
    uri.broadcast uri.announceIp
  have hmanager := world.map.getEybondManager_found uri.key uri.broadcast
    uri.announceIp none
  have hpns : listener.identifiedPns = old.identifiedPns := by
    unfold Listener.identifiedPns
    rw [(hspec.kept old hold).2]
  obtain ⟨more, hmore⟩ := List.head?_eq_some_iff.mp hhead
  refine ⟨(world.map.getEybondManager uri.key uri.broadcast uri.announceIp
    none).1, ?_, ?_⟩
  · unfold HubWorld.asyncMigrateLegacyToHub
    simp only [Option.bind_eq_bind, hentry, Option.bind_some, hlegacy,
      if_true, huri, hspec.found, hpns, hmore]
  · have hafter : (world.map.getEybondManager uri.key uri.broadcast
        uri.announceIp none).1.listenerAt uri.key = some listener := by
      unfold listenerAt
      rw [hmanager]
      exact hspec.found
    have hcontents := hspec.contents
    unfold liveRegistry at hcontents ⊢
    rw [hafter, hold, Option.map_some, hcontents, hold]
    rfl

/-- The unload of the migrated entry changes nothing but its state, so the
setup finds the manager and its registry. -/
theorem reloadMigrated_spec {targets : List DeviceTarget}
    (hentry : world.entries[id]? = some ⟨config, .loaded targets⟩)
    (hhub : config.isHub = true) (hnone : world.runtimes.get? id = none) :
    ∃ final runtime,
      execute HubWorld.step world (reloadMigrated id) = some final ∧
        SetUp final id config runtime
          (registryInUse (world.map.liveRegistry config.listenerKey)
            (restoredRegistry (world.storedRegistry id))) := by
  have hlength := (List.getElem?_eq_some_iff.mp hentry).1
  have hself : ∀ entry : Entry,
      (world.entries.set id entry)[id]? = some entry := by
    intro entry
    exact List.getElem?_set_self hlength
  have hunload : execute HubWorld.step world (reloadMigrated id) =
      execute HubWorld.step
        { world with entries := world.entries.set id ⟨config, .notLoaded⟩ }
        (setupEvents id) := by
    simp [reloadMigrated, execute, HubWorld.step, HubWorld.unload,
      HubWorld.stopRuntime, HubWorld.setState, hentry, hself, hhub, hnone]
  rw [hunload]
  exact setup_spec (hself ⟨config, .notLoaded⟩) hhub

/-- The record of the migration, restored by the setup. -/
theorem restored_legacyRecord (config : ConfigEntry) (devaddr : ℤ)
    (pn : String) :
    ∃ record,
      (restoredRegistry (EybondRegistry.put .empty
          (config.legacyRecord devaddr pn)).toDict).get? pn = some record ∧
        record.SameConfig (config.legacyRecord devaddr pn) := by
  have hput : (EybondRegistry.put .empty
      (config.legacyRecord devaddr pn)).toDict.get? pn =
        some (config.legacyRecord devaddr pn).toDict := by
    unfold EybondRegistry.toDict EybondRegistry.put
    rw [Dict.get?_mapValues]
    have hself : ((Dict.empty : EybondRegistry).set
        (config.legacyRecord devaddr pn).pn
        (config.legacyRecord devaddr pn)).get? pn =
          some (config.legacyRecord devaddr pn) :=
      Dict.get?_set_self _ pn _
    rw [hself]
    rfl
  obtain ⟨record, hrecord, hsame⟩ := restoredRegistry_holds _ pn _ hput
  rw [DongleRecord.fromDict_toDict] at hsame
  exact ⟨record, hrecord, hsame⟩

/-- The record in use after the setup: the stored one, or the live one. -/
theorem registryInUse_legacyRecord_iff (live : Option EybondRegistry)
    (config : ConfigEntry) (devaddr : ℤ) (pn : String) :
    (∃ record,
        (registryInUse live (restoredRegistry (EybondRegistry.put .empty
          (config.legacyRecord devaddr pn)).toDict)).get? pn = some record ∧
          record.SameConfig (config.legacyRecord devaddr pn)) ↔
      ∀ registry, live = some registry →
        registry.isEmpty = true ∨
          ∃ record, registry.get? pn = some record ∧
            record.SameConfig (config.legacyRecord devaddr pn) := by
  have hrestored := restored_legacyRecord config devaddr pn
  cases live with
  | none => simpa [registryInUse] using hrestored
  | some registry =>
      by_cases hempty : registry.isEmpty = true
      · simpa [registryInUse, hempty] using hrestored
      · simp [registryInUse, hempty]

/-- A legacy entry is carried over exactly where the registry at its address
is empty, or has the record of the migration already. -/
theorem migration_carried_iff (hinv : RuntimesOfHubs world)
    {targets : List DeviceTarget}
    (hentry : world.entries[id]? = some ⟨config, .loaded targets⟩)
    (hdevice : config.isHub = false)
    (hlegacy : config.isLegacyEybond = true)
    (huri : parseEybondUri config.device = some uri)
    (hpn : world.firstPn uri.key = some pn) :
    ∃ stored final runtime,
      world.asyncMigrateLegacyToHub id =
          some (stored, .ok (config.hubOptions uri)) ∧
        execute HubWorld.step
            (stored.applyOptions id (config.hubOptions uri))
            (reloadMigrated id) = some final ∧
        final.runtimes.get? id = some runtime ∧
        (Carried final id runtime config uri pn ↔
          ∀ live, world.map.liveRegistry uri.key = some live →
            live.isEmpty = true ∨
              ∃ record, live.get? pn = some record ∧
                record.SameConfig (config.legacyRecord uri.devaddr pn)) := by
  have hnone : world.runtimes.get? id = none := by
    cases hruntime : world.runtimes.get? id with
    | none => rfl
    | some runtime =>
        obtain ⟨found, hfound, hhub⟩ := hinv.runtime id runtime hruntime
        rw [hentry] at hfound
        obtain rfl := Option.some.inj hfound
        rw [hdevice] at hhub
        cases hhub
  obtain ⟨map, hmigrate, hlive⟩ :=
    asyncMigrateLegacyToHub_spec hentry hlegacy huri hpn
  generalize hstored : ({ world with
    map := map
    stores := world.stores.set id (EybondRegistry.put .empty
      (config.legacyRecord uri.devaddr pn)).toDict } : HubWorld) =
        stored at hmigrate
  have happlied : (stored.applyOptions id
      (config.hubOptions uri)).entries[id]? =
        some ⟨config.migrated uri, .loaded targets⟩ := by
    rw [← hstored]
    simp [HubWorld.applyOptions, hentry, ConfigEntry.migrated]
  have happliedNone : (stored.applyOptions id
      (config.hubOptions uri)).runtimes.get? id = none := by
    rw [← hstored]
    exact hnone
  have happliedMap : (stored.applyOptions id (config.hubOptions uri)).map =
      map := by
    rw [← hstored]
    rfl
  have happliedStore : (stored.applyOptions id
      (config.hubOptions uri)).storedRegistry id =
        (EybondRegistry.put .empty
          (config.legacyRecord uri.devaddr pn)).toDict := by
    rw [← hstored]
    simp [HubWorld.applyOptions, HubWorld.storedRegistry]
  obtain ⟨final, runtime, hexecute, hsetUp⟩ :=
    reloadMigrated_spec happlied (migrated_isHub config uri) happliedNone
  refine ⟨stored, final, runtime, hmigrate, hexecute, hsetUp.kept, ?_⟩
  have hcontents := hsetUp.contents
  rw [happliedStore, happliedMap, migrated_listenerKey, hlive] at hcontents
  rw [carried_iff hlegacy, hcontents]
  exact registryInUse_legacyRecord_iff _ config uri.devaddr pn

end Reload

/-- A setup keeps the configuration of every stored record exactly where the
manager of the address is new, has an empty registry, or has every record with
that configuration already; and a legacy entry whose dongle is identified is
carried over exactly where the registry at its address is empty or has the
record of the migration already. -/
theorem hub_setup_keeps_iff (world : HubWorld) (id : ℕ)
    (config : ConfigEntry) :
    (world.entries[id]? = some ⟨config, .notLoaded⟩ →
      config.isHub = true →
      ∃ final runtime,
        execute HubWorld.step world (setupEvents id) = some final ∧
          final.runtimes.get? id = some runtime ∧
          final.map.registryAt config.listenerKey = some runtime.registry ∧
          ((final.map.contents runtime.registry).Holds
              (world.storedRegistry id) ↔
            ∀ live, world.map.liveRegistry config.listenerKey = some live →
              live.isEmpty = true ∨
                live.Holds (world.storedRegistry id))) ∧
    (∀ (configs : List ConfigEntry) (stores : Dict ℕ StoredRegistry)
      (events : List HubEvent),
      Run (graph HubWorld.step) (HubWorld.initial configs stores) events
        world →
      ∀ (targets : List DeviceTarget) (uri : EybondUri) (pn : String),
        world.entries[id]? = some ⟨config, .loaded targets⟩ →
        config.isHub = false →
        config.isLegacyEybond = true →
        parseEybondUri config.device = some uri →
        world.firstPn uri.key = some pn →
        ∃ stored final runtime,
          world.asyncMigrateLegacyToHub id =
              some (stored, .ok (config.hubOptions uri)) ∧
            execute HubWorld.step
                (stored.applyOptions id (config.hubOptions uri))
                (reloadMigrated id) = some final ∧
            final.runtimes.get? id = some runtime ∧
            (Carried final id runtime config uri pn ↔
              ∀ live, world.map.liveRegistry uri.key = some live →
                live.isEmpty = true ∨
                  ∃ record, live.get? pn = some record ∧
                    record.SameConfig
                      (config.legacyRecord uri.devaddr pn))) := by
  constructor
  · intro hentry hhub
    exact setup_holds_iff hentry hhub
  · intro configs stores events hrun targets uri pn hentry hdevice hlegacy
      huri hpn
    exact migration_carried_iff (runtimesOfHubs_of_run hrun) hentry hdevice
      hlegacy huri hpn

/-! ## A dongle that is online -/

def legacyConfig : ConfigEntry where
  title := "EyBond"
  dataName := some "Inverter"
  dataKind := none
  options :=
    { EntryOptions.empty with device := some "eybond://0.0.0.0:8899/1" }

def legacyUri : EybondUri := ⟨("0.0.0.0", 8899), 1, defaultBroadcast, none⟩

/-- A hub stands at the address of the legacy entry; its store has the record
of the migration. -/
def sharedStores : Dict ℕ StoredRegistry :=
  Dict.empty.set 0 (EybondRegistry.put .empty
    (legacyConfig.legacyRecord 1 "E5000020000001")).toDict

def sharedEvents : List HubEvent :=
  hubSetup ++ [.setupDevice 1, .serve 0 (.connect "10.0.0.7:5001"),
    .serve 0 (.frame 0 (heartbeatOf "E5000020000001") none "t0")]

def sharedWorld : HubWorld :=
  (execute HubWorld.step
    (HubWorld.initial [hubConfig, legacyConfig] sharedStores)
    sharedEvents).get (by decide +kernel)

theorem hub_setup_keeps_sharedWorld :
    (∃ final runtime,
      execute HubWorld.step
          (HubWorld.initial [hubConfig, legacyConfig] sharedStores)
          (setupEvents 0) = some final ∧
        final.runtimes.get? 0 = some runtime ∧
        (final.map.contents runtime.registry).Holds
          ((HubWorld.initial [hubConfig, legacyConfig]
            sharedStores).storedRegistry 0)) ∧
    (∃ stored final runtime,
      sharedWorld.asyncMigrateLegacyToHub 1 =
          some (stored, .ok (legacyConfig.hubOptions legacyUri)) ∧
        execute HubWorld.step
            (stored.applyOptions 1 (legacyConfig.hubOptions legacyUri))
            (reloadMigrated 1) = some final ∧
        final.runtimes.get? 1 = some runtime ∧
        Carried final 1 runtime legacyConfig legacyUri "E5000020000001") := by
  constructor
  · obtain ⟨final, runtime, hexecute, hruntime, _, hiff⟩ :=
      (hub_setup_keeps_iff
        (HubWorld.initial [hubConfig, legacyConfig] sharedStores) 0
        hubConfig).1 rfl (by decide)
    refine ⟨final, runtime, hexecute, hruntime, hiff.mpr ?_⟩
    intro live hlive
    have hnone : (HubWorld.initial [hubConfig, legacyConfig]
        sharedStores).map.liveRegistry hubConfig.listenerKey = none := rfl
    rw [hnone] at hlive
    cases hlive
  · have hrun : Run (graph HubWorld.step)
        (HubWorld.initial [hubConfig, legacyConfig] sharedStores)
        sharedEvents sharedWorld :=
      run_of_execute (Option.some_get _).symm
    have hentry : sharedWorld.entries[1]? =
        some ⟨legacyConfig, .loaded []⟩ := by
      with_unfolding_all rfl
    have hrecord : (sharedWorld.map.liveRegistry legacyUri.key).bind
        (fun live => live.get? "E5000020000001") =
          some { legacyConfig.legacyRecord 1 "E5000020000001" with
            peer := "10.0.0.7:5001"
            lastSeen := "t0" } := by
      decide +kernel
    obtain ⟨stored, final, runtime, hmigrate, hexecute, hruntime, hiff⟩ :=
      (hub_setup_keeps_iff sharedWorld 1 legacyConfig).2 _ _ _ hrun []
        legacyUri "E5000020000001" hentry (by decide) (by decide)
        (by decide +kernel) (by decide +kernel)
    refine ⟨stored, final, runtime, hmigrate, hexecute, hruntime,
      hiff.mpr ?_⟩
    intro live hlive
    rw [hlive] at hrecord
    exact .inr ⟨_, hrecord, by constructor <;> rfl⟩

/-- The legacy entry is alone; it is polled and its dongle identifies
itself. -/
def dongleOnline : List HubEvent :=
  [.setupDevice 0, .poll ("0.0.0.0", 8899) defaultBroadcast none, .started 0,
    .serve 0 (.connect "10.0.0.7:5001"),
    .serve 0 (.frame 0 (heartbeatOf "E5000020000001") none "t0")]

def dongleOnlineWorld : HubWorld :=
  (execute HubWorld.step (HubWorld.initial [legacyConfig] .empty)
    dongleOnline).get (by decide +kernel)

def dongleMigrated : HubWorld :=
  (dongleOnlineWorld.asyncMigrateLegacyToHub 0).get (by decide +kernel) |>.1

def dongleReloaded : HubWorld :=
  (execute HubWorld.step
    (dongleMigrated.applyOptions 0 (legacyConfig.hubOptions legacyUri))
    (reloadMigrated 0)).get (by decide +kernel)

theorem not_hub_setup_keeps_dongleOnline :
    ¬∀ (configs : List ConfigEntry) (stores : Dict ℕ StoredRegistry)
      (events : List HubEvent) (world : HubWorld),
      Run (graph HubWorld.step) (HubWorld.initial configs stores) events
        world →
      ∀ (id : ℕ) (config : ConfigEntry) (uri : EybondUri) (pn : String)
        (stored final : HubWorld) (runtime : HubRuntime),
        (world.entries[id]?).map Entry.config = some config →
        config.isHub = false →
        parseEybondUri config.device = some uri →
        world.firstPn uri.key = some pn →
        world.asyncMigrateLegacyToHub id =
          some (stored, .ok (config.hubOptions uri)) →
        execute HubWorld.step
            (stored.applyOptions id (config.hubOptions uri))
            (reloadMigrated id) = some final →
        final.runtimes.get? id = some runtime →
          Carried final id runtime config uri pn := by
  intro hkeeps
  have hrun : Run (graph HubWorld.step)
      (HubWorld.initial [legacyConfig] .empty) dongleOnline
      dongleOnlineWorld :=
    run_of_execute (Option.some_get _).symm
  have hmigrate : dongleOnlineWorld.asyncMigrateLegacyToHub 0 =
      some (dongleMigrated, .ok (legacyConfig.hubOptions legacyUri)) := by
    with_unfolding_all rfl
  have hexecute : execute HubWorld.step
      (dongleMigrated.applyOptions 0 (legacyConfig.hubOptions legacyUri))
      (reloadMigrated 0) = some dongleReloaded :=
    (Option.some_get _).symm
  have hruntime : ∃ runtime, dongleReloaded.runtimes.get? 0 =
      some runtime ∧ runtime.registry = 0 := by
    with_unfolding_all exact ⟨_, rfl, rfl⟩
  obtain ⟨runtime, hruntime, hregistry⟩ := hruntime
  have hcarried := hkeeps _ _ _ _ hrun 0 legacyConfig legacyUri
    "E5000020000001" _ _ runtime (by decide +kernel) (by decide)
    (by decide +kernel) (by decide +kernel) hmigrate hexecute hruntime
  obtain ⟨target, htargets, _⟩ := hcarried.target
  rw [hregistry] at htargets
  have hnone : targetsOf (dongleReloaded.map.contents 0)
      (legacyConfig.migrated legacyUri) "E5000020000001" = [] := by
    decide +kernel
  rw [hnone] at htargets
  cases htargets

end Eybond
end DessMonitor
