import DessMonitor.EybondHubLifecycle

/-!
# What the setup of a hub keeps of its stored registry

The setup puts the stored registry to use where the manager of the address is
new or has an empty registry; a manager with a registry keeps its own.  So the
stored records survive exactly where that registry has them all.
-/

namespace DessMonitor
namespace Eybond

open LabelledRun ListUpdate ListenerMap
open Direct (DeviceTarget)

/-! ## Records that agree -/

/-- The same configuration; only the lifecycle fields may differ. -/
structure DongleRecord.SameConfig (left right : DongleRecord) : Prop where
  pn : left.pn = right.pn
  enabled : left.enabled = right.enabled
  protocol : left.protocol = right.protocol
  devaddr : left.devaddr = right.devaddr
  name : left.name = right.name
  legacyId : left.legacyId = right.legacyId

/-- Every stored record is there with its configuration. -/
def EybondRegistry.Holds (registry : EybondRegistry)
    (stored : StoredRegistry) : Prop :=
  ∀ pn data, stored.get? pn = some data →
    ∃ record, registry.get? pn = some record ∧
      record.SameConfig (.fromDict data)

/-- What a setup makes of its stored registry before it knows the manager. -/
def restoredRegistry (stored : StoredRegistry) : EybondRegistry :=
  (EybondRegistry.load stored).resetConnectionState

theorem restoredRegistry_holds (stored : StoredRegistry) :
    (restoredRegistry stored).Holds stored := by
  intro pn data hdata
  refine ⟨{ DongleRecord.fromDict data with
    status := .disconnected, peer := "" }, ?_, ?_⟩
  · simp [restoredRegistry, EybondRegistry.load,
      EybondRegistry.resetConnectionState, hdata]
  · constructor <;> rfl

/-- The registry a setup ends up with, given that of the running manager. -/
def registryInUse (live : Option EybondRegistry) (restored : EybondRegistry) :
    EybondRegistry :=
  match live with
  | none => restored
  | some registry => if registry.isEmpty then restored else registry

/-- The setup keeps the stored records exactly where it uses them, or where
the live registry has them all. -/
theorem registryInUse_holds_iff (live : Option EybondRegistry)
    (stored : StoredRegistry) :
    (registryInUse live (restoredRegistry stored)).Holds stored ↔
      ∀ registry, live = some registry →
        registry.isEmpty = true ∨ registry.Holds stored := by
  cases live with
  | none =>
      constructor
      · intro _ registry hlive
        cases hlive
      · intro _
        exact restoredRegistry_holds stored
  | some registry =>
      by_cases hempty : registry.isEmpty = true
      · simp only [registryInUse, if_pos hempty]
        constructor
        · intro _ other hother
          obtain rfl := Option.some.inj hother
          exact .inl hempty
        · intro _
          exact restoredRegistry_holds stored
      · simp only [registryInUse, if_neg hempty]
        constructor
        · intro hholds other hother
          obtain rfl := Option.some.inj hother
          exact .inr hholds
        · intro hlive
          rcases hlive registry rfl with hisEmpty | hholds
          · exact absurd hisEmpty hempty
          · exact hholds

/-! ## Adopting a registry -/

namespace ListenerMap

/-- The contents of the registry the manager of an address updates. -/
def liveRegistry (map : ListenerMap) (key : ListenerKey) :
    Option EybondRegistry :=
  (map.listenerAt key).map fun listener => map.contents listener.registry

variable {map : ListenerMap} {index : ℕ} {listener : Listener}

theorem contents_allocate_self (map : ListenerMap)
    (registry : EybondRegistry) :
    (map.allocate registry).contents map.registries.length = registry := by
  simp [contents, allocate]

theorem contents_allocate_of_lt (map : ListenerMap)
    (registry : EybondRegistry) (hlt : index < map.registries.length) :
    (map.allocate registry).contents index = map.contents index := by
  unfold contents allocate
  rw [List.getElem?_append_left hlt]

theorem started_listener (hlistener : map.listeners[index]? = some listener) :
    (map.started index).listeners[index]? =
        some { listener with started := true } ∧
      (map.started index).registries = map.registries := by
  have hlength := (List.getElem?_eq_some_iff.mp hlistener).1
  unfold started
  split
  next hnone =>
    rw [hlistener] at hnone
    cases hnone
  next found hfound =>
    rw [hlistener] at hfound
    obtain rfl := Option.some.inj hfound
    exact ⟨List.getElem?_set_self hlength, rfl⟩

theorem adopt_listener (hlistener : map.listeners[index]? = some listener)
    {registry : ℕ} (hvalid : registry < map.registries.length)
    (hne : listener.registry ≠ registry) :
    (map.adopt index registry).listeners[index]? =
        some { listener with
          registry :=
            if (map.contents listener.registry).isEmpty then registry
            else listener.registry } ∧
      (map.adopt index registry).registries = map.registries := by
  have hlength := (List.getElem?_eq_some_iff.mp hlistener).1
  unfold adopt
  split
  next hnone =>
    rw [hlistener] at hnone
    cases hnone
  next found hfound =>
    rw [hlistener] at hfound
    obtain rfl := Option.some.inj hfound
    rw [dif_pos hvalid]
    by_cases hempty : (map.contents listener.registry).isEmpty = true
    · rw [if_pos ⟨hne, hempty⟩, if_pos hempty]
      exact ⟨List.getElem?_set_self hlength, rfl⟩
    · rw [if_neg fun hboth => hempty hboth.2, if_neg hempty]
      exact ⟨hlistener, rfl⟩

/-- The manager found: a new one with an empty registry, or the running one
with its sessions. -/
structure ManagerFound (map : ListenerMap) (key : ListenerKey)
    (after : ListenerMap) (index : ℕ) (listener : Listener) : Prop where
  found : after.listeners[index]? = some listener
  contents : after.contents listener.registry =
    (map.liveRegistry key).getD .empty
  fresh : map.listenerAt key = none →
    listener.registry = map.registries.length
  kept : ∀ old, map.listenerAt key = some old →
    listener.registry = old.registry ∧ listener.maps = old.maps
  registries : map.registries <+: after.registries

theorem getManager_spec (map : ListenerMap) (key : ListenerKey)
    (broadcast : String) (announceIp : Option String) :
    ∃ listener, ManagerFound map key
      (map.getManager key broadcast announceIp).1
      (map.getManager key broadcast announceIp).2 listener := by
  unfold getManager
  cases hindex : map.managers.get? key with
  | none =>
      have hnone : map.listenerAt key = none := by
        unfold listenerAt
        rw [hindex]
        rfl
      refine ⟨Listener.created map.registries.length broadcast announceIp, ?_⟩
      constructor
      · simp [create]
      · simp [create, contents, Listener.created, liveRegistry, hnone]
      · intro _
        rfl
      · intro old hold
        rw [hnone] at hold
        cases hold
      · exact List.prefix_append _ _
  | some index =>
      have hlt := map.manager_lt key index hindex
      have hlistener : map.listeners[index]? = some map.listeners[index] :=
        List.getElem?_eq_getElem hlt
      have hsome : map.listenerAt key = some map.listeners[index] := by
        unfold listenerAt
        rw [hindex]
        exact hlistener
      dsimp only
      split
      next hnone =>
        rw [hlistener] at hnone
        cases hnone
      next found hfound =>
        rw [hlistener] at hfound
        obtain rfl := Option.some.inj hfound
        have hregistry :=
          map.listeners[index].retarget_registry broadcast announceIp
        refine ⟨map.listeners[index].retarget broadcast announceIp, ?_⟩
        constructor
        · exact List.getElem?_set_self hlt
        · rw [hregistry]
          simp [liveRegistry, hsome, contents, setListener]
        · intro hnone
          rw [hsome] at hnone
          cases hnone
        · intro old hold
          rw [hsome] at hold
          obtain rfl := Option.some.inj hold
          exact ⟨hregistry, Listener.retarget_maps _ broadcast announceIp⟩
        · exact List.prefix_refl _

theorem contents_congr {other : ListenerMap}
    (hsame : other.registries = map.registries) (registry : ℕ) :
    other.contents registry = map.contents registry := by
  unfold contents
  rw [hsame]

theorem liveRegistry_allocate (map : ListenerMap) (registry : EybondRegistry)
    (key : ListenerKey) :
    (map.allocate registry).liveRegistry key = map.liveRegistry key := by
  unfold liveRegistry
  have hlistener : (map.allocate registry).listenerAt key =
      map.listenerAt key := rfl
  rw [hlistener]
  cases hfound : map.listenerAt key with
  | none => rfl
  | some listener =>
      have hmem : listener ∈ map.listeners := by
        unfold listenerAt at hfound
        obtain ⟨index, _, hindex⟩ := Option.bind_eq_some_iff.mp hfound
        exact List.mem_of_getElem? hindex
      simp only [Option.map_some, Option.some.injEq]
      exact contents_allocate_of_lt map registry (map.registry_lt _ hmem)

/-- `get_eybond_manager` with nothing in between. -/
def getEybondManager (map : ListenerMap) (key : ListenerKey)
    (broadcast : String) (announceIp : Option String)
    (registry : Option ℕ) : ListenerMap × ℕ :=
  let (map, manager) := map.getManager key broadcast announceIp
  let map := map.started manager
  match registry with
  | none => (map, manager)
  | some registry => (map.adopt manager registry, manager)

theorem getEybondManager_found (map : ListenerMap) (key : ListenerKey)
    (broadcast : String) (announceIp : Option String) (registry : Option ℕ) :
    (map.getEybondManager key broadcast announceIp registry).1.managers.get?
        key =
      some (map.getEybondManager key broadcast announceIp registry).2 := by
  have hfound := map.getManager_found key broadcast announceIp
  cases registry with
  | none =>
      unfold getEybondManager
      dsimp only
      rw [started_managers]
      exact hfound
  | some registry =>
      unfold getEybondManager
      dsimp only
      rw [adopt_managers, started_managers]
      exact hfound

/-- Without a registry the manager keeps its own. -/
theorem getEybondManager_none (map : ListenerMap) (key : ListenerKey)
    (broadcast : String) (announceIp : Option String) :
    ∃ listener, ManagerFound map key
      (map.getEybondManager key broadcast announceIp none).1
      (map.getEybondManager key broadcast announceIp none).2 listener := by
  obtain ⟨listener, hfound⟩ := map.getManager_spec key broadcast announceIp
  obtain ⟨hstarted, hregistries⟩ := started_listener hfound.found
  refine ⟨{ listener with started := true }, ?_⟩
  constructor
  · exact hstarted
  · unfold getEybondManager
    dsimp only
    rw [contents_congr hregistries]
    exact hfound.contents
  · exact hfound.fresh
  · exact hfound.kept
  · unfold getEybondManager
    dsimp only
    rw [hregistries]
    exact hfound.registries

/-- A manager that is given a new registry ends up with the one in use. -/
theorem getEybondManager_allocate (map : ListenerMap)
    (restored : EybondRegistry) (key : ListenerKey) (broadcast : String)
    (announceIp : Option String) :
    ∃ listener,
      ((map.allocate restored).getEybondManager key broadcast announceIp
        (some map.registries.length)).1.listeners[
          ((map.allocate restored).getEybondManager key broadcast announceIp
            (some map.registries.length)).2]? = some listener ∧
      ((map.allocate restored).getEybondManager key broadcast announceIp
        (some map.registries.length)).1.contents listener.registry =
          registryInUse (map.liveRegistry key) restored := by
  obtain ⟨listener, hspec⟩ :=
    (map.allocate restored).getManager_spec key broadcast announceIp
  have hcontents := hspec.contents
  rw [liveRegistry_allocate] at hcontents
  have hsize : (map.allocate restored).registries.length =
      map.registries.length + 1 := by
    simp [allocate]
  have hne : listener.registry ≠ map.registries.length := by
    cases hold : map.listenerAt key with
    | none =>
        have heq := hspec.fresh hold
        omega
    | some old =>
        obtain ⟨index, _, hindex⟩ := Option.bind_eq_some_iff.mp hold
        have hlt := map.registry_lt old (List.mem_of_getElem? hindex)
        have heq := (hspec.kept old hold).1
        omega
  have hfound := hspec.found
  have hprefix := hspec.registries
  unfold getEybondManager
  generalize (map.allocate restored).getManager key broadcast announceIp =
    found at hfound hcontents hprefix ⊢
  dsimp only
  have hvalid : map.registries.length < found.1.registries.length := by
    have hle := hprefix.length_le
    omega
  have hrestored : found.1.contents map.registries.length = restored := by
    have hself := contents_allocate_self map restored
    obtain ⟨more, hmore⟩ := hprefix
    unfold contents at hself ⊢
    rw [← hmore, List.getElem?_append_left (by omega)]
    exact hself
  obtain ⟨hstarted, hstartedRegistries⟩ := started_listener hfound
  have hstartedValid : map.registries.length <
      (found.1.started found.2).registries.length := by
    rw [hstartedRegistries]
    exact hvalid
  obtain ⟨hadopted, hadoptedRegistries⟩ :=
    adopt_listener hstarted hstartedValid hne
  have hsame := hadoptedRegistries.trans hstartedRegistries
  refine ⟨_, hadopted, ?_⟩
  rw [contents_congr hsame]
  dsimp only
  rw [contents_congr hstartedRegistries, hcontents]
  unfold registryInUse
  cases hlive : map.liveRegistry key with
  | none =>
      have hempty : ((none : Option EybondRegistry).getD .empty).isEmpty =
          true := rfl
      rw [if_pos hempty]
      exact hrestored
  | some live =>
      rw [hlive] at hcontents
      simp only [Option.getD_some] at hcontents ⊢
      split
      · exact hrestored
      · exact hcontents

end ListenerMap

/-! ## Setup -/

namespace HubWorld

def storedRegistry (world : HubWorld) (id : ℕ) : StoredRegistry :=
  (world.stores.get? id).getD .empty

/-- The hub runs on one of the registry objects. -/
def running (world : HubWorld) (id : ℕ) (config : ConfigEntry)
    (map : ListenerMap) (registry : ℕ) : HubWorld :=
  { world with
    map := map
    entries := world.entries.set id ⟨config, .loaded
      (buildChildTargets (map.contents registry) config.listenerKey
        config.broadcast config.announceIp)⟩
    runtimes := world.runtimes.set id
      ⟨registry, config.listenerKey, (map.contents registry).toDict⟩ }

end HubWorld

/-- `async_setup_eybond_hub` with nothing in between. -/
def setupEvents (id : ℕ) : List HubEvent :=
  [.restore id, .lookup id, .adopt id, .finishSetup id]

section Setup

variable {world : HubWorld} {id : ℕ} {config : ConfigEntry}

theorem execute_setupEvents {map : ListenerMap} {manager : ℕ}
    {listener : Listener}
    (hentry : world.entries[id]? = some ⟨config, .notLoaded⟩)
    (hhub : config.isHub = true)
    (hmanager : (world.map.allocate (restoredRegistry
        (world.storedRegistry id))).getEybondManager config.listenerKey
          config.broadcast config.announceIp
          (some world.map.registries.length) = (map, manager))
    (hlistener : map.listeners[manager]? = some listener) :
    execute HubWorld.step world (setupEvents id) =
      some (world.running id config map listener.registry) := by
  have hlength := (List.getElem?_eq_some_iff.mp hentry).1
  have hself : ∀ entry : Entry,
      (world.entries.set id entry)[id]? = some entry := by
    intro entry
    exact List.getElem?_set_self hlength
  simp only [restoredRegistry, HubWorld.storedRegistry, getEybondManager,
    Prod.mk.injEq] at hmanager
  obtain ⟨hmap, hindex⟩ := hmanager
  rw [hindex] at hmap
  simp [setupEvents, execute, HubWorld.step, HubWorld.restore,
    HubWorld.lookup, HubWorld.adopt, HubWorld.finishSetup, HubWorld.setState,
    HubWorld.running, hentry, hhub, hself, hmap, hindex, hlistener]

/-- The hub is loaded: its manager, its runtime and its targets are those of
the registry `inUse`. -/
structure SetUp (world : HubWorld) (id : ℕ) (config : ConfigEntry)
    (runtime : HubRuntime) (inUse : EybondRegistry) : Prop where
  entry : world.entries[id]? = some ⟨config, .loaded
    (buildChildTargets inUse config.listenerKey config.broadcast
      config.announceIp)⟩
  kept : world.runtimes.get? id = some runtime
  key : runtime.key = config.listenerKey
  manager : world.map.registryAt config.listenerKey = some runtime.registry
  contents : world.map.contents runtime.registry = inUse

theorem setup_spec
    (hentry : world.entries[id]? = some ⟨config, .notLoaded⟩)
    (hhub : config.isHub = true) :
    ∃ final runtime,
      execute HubWorld.step world (setupEvents id) = some final ∧
        SetUp final id config runtime
          (registryInUse (world.map.liveRegistry config.listenerKey)
            (restoredRegistry (world.storedRegistry id))) := by
  have hlength := (List.getElem?_eq_some_iff.mp hentry).1
  have hfound := (world.map.allocate (restoredRegistry
    (world.storedRegistry id))).getEybondManager_found config.listenerKey
      config.broadcast config.announceIp (some world.map.registries.length)
  obtain ⟨listener, hlistener, hcontents⟩ :=
    world.map.getEybondManager_allocate
      (restoredRegistry (world.storedRegistry id)) config.listenerKey
      config.broadcast config.announceIp
  generalize hmanager : (world.map.allocate (restoredRegistry
    (world.storedRegistry id))).getEybondManager config.listenerKey
      config.broadcast config.announceIp (some world.map.registries.length) =
        found at hfound hlistener hcontents
  refine ⟨_, ⟨listener.registry, config.listenerKey,
    (found.1.contents listener.registry).toDict⟩,
    execute_setupEvents hentry hhub hmanager hlistener, ?_⟩
  constructor
  · rw [← hcontents]
    exact List.getElem?_set_self hlength
  · exact Dict.get?_set_self world.runtimes id _
  · rfl
  · rw [registryAt_eq_some_iff]
    refine ⟨found.2, hfound, ?_⟩
    unfold registryOf HubWorld.running
    rw [hlistener]
    rfl
  · exact hcontents

/-- The setup keeps every stored record exactly where the manager of the
address is new, its registry empty, or every record in it already. -/
theorem setup_holds_iff
    (hentry : world.entries[id]? = some ⟨config, .notLoaded⟩)
    (hhub : config.isHub = true) :
    ∃ final runtime,
      execute HubWorld.step world (setupEvents id) = some final ∧
        final.runtimes.get? id = some runtime ∧
        final.map.registryAt config.listenerKey = some runtime.registry ∧
        ((final.map.contents runtime.registry).Holds
            (world.storedRegistry id) ↔
          ∀ live, world.map.liveRegistry config.listenerKey = some live →
            live.isEmpty = true ∨ live.Holds (world.storedRegistry id)) := by
  obtain ⟨final, runtime, hexecute, hsetUp⟩ := setup_spec hentry hhub
  refine ⟨final, runtime, hexecute, hsetUp.kept, hsetUp.manager, ?_⟩
  rw [hsetUp.contents]
  exact registryInUse_holds_iff _ _

end Setup

end Eybond
end DessMonitor
