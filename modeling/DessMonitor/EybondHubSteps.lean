import DessMonitor.EybondHubModel

/-!
# What one event can do to the entries and their listeners

Every event changes the state of one entry at most, and most leave every
manager under its address with the registry it has.
-/

namespace DessMonitor
namespace Eybond

/-! ## Managers that stay -/

namespace ListenerMap

def registryOf (map : ListenerMap) (index : ℕ) : Option ℕ :=
  (map.listeners[index]?).map Listener.registry

theorem registryAt_eq_some_iff {map : ListenerMap} {key : ListenerKey}
    {registry : ℕ} :
    map.registryAt key = some registry ↔
      ∃ index, map.managers.get? key = some index ∧
        map.registryOf index = some registry := by
  unfold registryAt listenerAt registryOf
  cases map.managers.get? key <;> simp

/-- The manager of an address, if there is one, stays there and keeps its
registry object. -/
structure Retains (key : ListenerKey) (before after : ListenerMap) :
    Prop where
  manager : ∀ index, before.managers.get? key = some index →
    after.managers.get? key = some index
  registry : ∀ index, before.managers.get? key = some index →
    after.registryOf index = before.registryOf index

variable {key : ListenerKey} {map before middle after : ListenerMap}
  {index : ℕ} {listener : Listener}

theorem Retains.of_eq (hmanagers : after.managers = before.managers)
    (hlisteners : after.listeners = before.listeners) :
    Retains key before after := by
  constructor
  · intro index hindex
    rw [hmanagers]
    exact hindex
  · intro index _
    unfold registryOf
    rw [hlisteners]

theorem Retains.trans (hleft : Retains key before middle)
    (hright : Retains key middle after) : Retains key before after := by
  constructor
  · intro index hindex
    exact hright.manager index (hleft.manager index hindex)
  · intro index hindex
    exact (hright.registry index (hleft.manager index hindex)).trans
      (hleft.registry index hindex)

theorem Retains.registryAt (hretains : Retains key before after)
    {registry : ℕ} (hbefore : before.registryAt key = some registry) :
    after.registryAt key = some registry := by
  rw [registryAt_eq_some_iff] at hbefore ⊢
  obtain ⟨index, hindex, hregistry⟩ := hbefore
  refine ⟨index, hretains.manager index hindex, ?_⟩
  rw [hretains.registry index hindex]
  exact hregistry

theorem registryOf_setListener (hlistener : map.listeners[index]? =
      some listener) (moved : Listener)
    (hregistry : moved.registry < map.registries.length) (other : ℕ) :
    (map.setListener index moved hregistry).registryOf other =
      if other = index then some moved.registry else map.registryOf other := by
  have hlength := (List.getElem?_eq_some_iff.mp hlistener).1
  unfold registryOf setListener
  by_cases heq : other = index
  · rw [if_pos heq, heq, List.getElem?_set_self hlength]
    rfl
  · rw [if_neg heq, List.getElem?_set_ne (Ne.symm heq)]

theorem Retains.setListener (hlistener : map.listeners[index]? =
      some listener) {moved : Listener}
    (hregistry : moved.registry < map.registries.length)
    (hsame : moved.registry = listener.registry) :
    Retains key map (map.setListener index moved hregistry) := by
  constructor
  · intro other hother
    exact hother
  · intro other _
    rw [registryOf_setListener hlistener]
    by_cases heq : other = index
    · rw [if_pos heq, heq, hsame]
      unfold registryOf
      rw [hlistener]
      rfl
    · rw [if_neg heq]

theorem Retains.update (hlistener : map.listeners[index]? = some listener)
    (manager : Manager) :
    Retains key map (map.update index listener hlistener manager) := by
  have hset : Retains key map (map.setListener index
      (listener.withManager manager)
      (map.registry_lt listener (List.mem_of_getElem? hlistener))) :=
    Retains.setListener hlistener _ rfl
  exact hset.trans (Retains.of_eq rfl rfl)

theorem Retains.serve {event : Event}
    (hserve : map.serve index event = some after) :
    Retains key map after := by
  unfold ListenerMap.serve at hserve
  split at hserve
  next => cases hserve
  next listener hlistener =>
    obtain ⟨manager, _, rfl⟩ := Option.map_eq_some_iff.mp hserve
    exact Retains.update hlistener manager

theorem Retains.shutdown (hshutdown : map.shutdown index = some after) :
    Retains key map after := by
  unfold ListenerMap.shutdown at hshutdown
  split at hshutdown
  next => cases hshutdown
  next listener hlistener =>
    split at hshutdown
    · cases hshutdown
    · obtain rfl := Option.some.inj hshutdown
      exact Retains.update hlistener _

theorem Retains.started (map : ListenerMap) (index : ℕ) :
    Retains key map (map.started index) := by
  unfold ListenerMap.started
  split
  next => exact Retains.of_eq rfl rfl
  next listener hlistener => exact Retains.setListener hlistener _ rfl

theorem Retains.create (map : ListenerMap) {other : ListenerKey}
    (habsent : map.managers.get? other = none) (broadcast : String)
    (announceIp : Option String) :
    Retains key map (map.create other broadcast announceIp) := by
  constructor
  · intro index hindex
    have hne : key ≠ other := by
      rintro rfl
      rw [habsent] at hindex
      cases hindex
    exact (Dict.get?_set_of_ne map.managers hne _).trans hindex
  · intro index hindex
    have hlt := map.manager_lt key index hindex
    unfold registryOf ListenerMap.create
    rw [List.getElem?_append_left hlt]

theorem Retains.getManager (map : ListenerMap) (other : ListenerKey)
    (broadcast : String) (announceIp : Option String) :
    Retains key map (map.getManager other broadcast announceIp).1 := by
  unfold ListenerMap.getManager
  split
  next habsent => exact Retains.create map habsent broadcast announceIp
  next index _ =>
    split
    next => exact Retains.of_eq rfl rfl
    next listener hlistener =>
      have hsame := listener.retarget_registry broadcast announceIp
      have hregistry : (listener.retarget broadcast announceIp).registry <
          map.registries.length := by
        rw [hsame]
        exact map.registry_lt listener (List.mem_of_getElem? hlistener)
      exact Retains.setListener hlistener hregistry hsame

/-- The manager found is the one now under the address. -/
theorem getManager_found (map : ListenerMap) (key : ListenerKey)
    (broadcast : String) (announceIp : Option String) :
    (map.getManager key broadcast announceIp).1.managers.get? key =
      some (map.getManager key broadcast announceIp).2 := by
  unfold ListenerMap.getManager
  split
  next => exact Dict.get?_set_self map.managers key _
  next index hindex =>
    split
    next => exact hindex
    next => exact hindex

/-- Adopting changes the registry of one manager only. -/
theorem Retains.adopt (map : ListenerMap) (registry : ℕ)
    (hother : map.managers.get? key ≠ some index) :
    Retains key map (map.adopt index registry) := by
  unfold ListenerMap.adopt
  split
  next => exact Retains.of_eq rfl rfl
  next listener hlistener =>
    split
    next hvalid =>
      split
      next =>
        constructor
        · intro other hindex
          exact hindex
        · intro other hindex
          have hne : other ≠ index := by
            rintro rfl
            exact hother hindex
          rw [registryOf_setListener hlistener, if_neg hne]
      next => exact Retains.of_eq rfl rfl
    next => exact Retains.of_eq rfl rfl

theorem adopt_managers (map : ListenerMap) (index registry : ℕ) :
    (map.adopt index registry).managers = map.managers := by
  unfold ListenerMap.adopt
  split
  next => rfl
  next =>
    split
    next => split <;> rfl
    next => rfl

theorem started_managers (map : ListenerMap) (index : ℕ) :
    (map.started index).managers = map.managers := by
  unfold ListenerMap.started
  split <;> rfl

theorem Retains.remove (map : ListenerMap) {other : ListenerKey}
    (hne : key ≠ other) : Retains key map (map.remove other) := by
  constructor
  · intro index hindex
    have hget := Dict.get?_erase map.managers other key
    rw [if_neg hne] at hget
    exact hget.trans hindex
  · intro index _
    rfl

end ListenerMap

/-! ## Steps of the entries -/

/-- The changes an event can make, with what the code has checked. -/
inductive HubStepped (world : HubWorld) : HubEvent → HubWorld → Prop where
  | poll (key : ListenerKey) (broadcast : String)
      (announceIp : Option String) :
      HubStepped world (.poll key broadcast announceIp)
        { world with
          map := (world.map.getManager key broadcast announceIp).1 }
  | started (manager : ℕ) :
      HubStepped world (.started manager)
        { world with map := world.map.started manager }
  | serve {manager : ℕ} {event : Event} {map : ListenerMap}
      (hserve : world.map.serve manager event = some map) :
      HubStepped world (.serve manager event) { world with map := map }
  | shutdown {manager : ℕ} {map : ListenerMap}
      (hshutdown : world.map.shutdown manager = some map) :
      HubStepped world (.shutdown manager) { world with map := map }
  | setupDevice {id : ℕ} {entry : Entry}
      (hentry : world.entries[id]? = some entry)
      (hdevice : entry.config.isHub = false) :
      HubStepped world (.setupDevice id)
        (world.setState id entry (.loaded []))
  | restore {id : ℕ} {entry : Entry}
      (hentry : world.entries[id]? = some entry)
      (hhub : entry.config.isHub = true) (loaded : EybondRegistry) :
      HubStepped world (.restore id)
        (({ world with map := world.map.allocate loaded }).setState id entry
          (.restored world.map.registries.length))
  | lookup {id registry : ℕ} {entry : Entry}
      (hentry : world.entries[id]? = some entry)
      (hstate : entry.state = .restored registry)
      (broadcast : String) (announceIp : Option String) :
      HubStepped world (.lookup id)
        (({ world with
            map := (world.map.getManager entry.config.listenerKey broadcast
              announceIp).1 }).setState id entry
          (.starting registry (world.map.getManager
            entry.config.listenerKey broadcast announceIp).2))
  | adopt {id registry manager adopted : ℕ} {entry : Entry}
      (hentry : world.entries[id]? = some entry)
      (hstate : entry.state = .starting registry manager)
      (hadopted : ((world.map.started manager).adopt manager
        registry).registryOf manager = some adopted)
      (targets : List Direct.DeviceTarget) :
      HubStepped world (.adopt id)
        (({ world with
            map := (world.map.started manager).adopt manager
              registry }).setState id entry (.refreshing adopted targets))
  | setupFailed {id : ℕ} {entry : Entry}
      (hentry : world.entries[id]? = some entry) :
      HubStepped world (.setupFailed id) (world.setState id entry .notLoaded)
  | finishSetup {id registry : ℕ} {entry : Entry}
      {targets : List Direct.DeviceTarget}
      (hentry : world.entries[id]? = some entry)
      (hstate : entry.state = .refreshing registry targets)
      (saved : StoredRegistry) :
      HubStepped world (.finishSetup id)
        (({ world with
            runtimes := world.runtimes.set id
              ⟨registry, entry.config.listenerKey, saved⟩ }).setState id entry
          (.loaded targets))
  | persist {id : ℕ} {runtime : HubRuntime}
      (hruntime : world.runtimes.get? id = some runtime)
      (stores : Dict ℕ StoredRegistry) (saved : StoredRegistry) :
      HubStepped world (.persist id)
        { world with
          stores := stores
          runtimes := world.runtimes.set id
            { runtime with lastSaved := saved } }
  | unload {id : ℕ} {entry : Entry} {targets : List Direct.DeviceTarget}
      (hentry : world.entries[id]? = some entry)
      (hstate : entry.state = .loaded targets) :
      HubStepped world (.unload id) (world.setState id entry .unloading)
  | drainAll {id : ℕ} {entry : Entry}
      (hentry : world.entries[id]? = some entry) :
      HubStepped world (.drainAll id)
        (({ world with map := world.map.removeAll }).setState id entry
          .notLoaded)
  | stopNothing {id : ℕ} {entry : Entry}
      (hentry : world.entries[id]? = some entry) :
      HubStepped world (.stopRuntime id) (world.setState id entry .notLoaded)
  | stopRuntime {id : ℕ} {entry : Entry} {runtime : HubRuntime}
      (hentry : world.entries[id]? = some entry)
      (hstate : entry.state = .unloading)
      (hhub : entry.config.isHub = true)
      (hruntime : world.runtimes.get? id = some runtime) :
      HubStepped world (.stopRuntime id)
        (({ world with runtimes := world.runtimes.erase id }).setState id
          entry (.stopping runtime))
  | saveRuntime {id : ℕ} {entry : Entry} {runtime : HubRuntime}
      (hentry : world.entries[id]? = some entry)
      (hstate : entry.state = .stopping runtime)
      (stores : Dict ℕ StoredRegistry) :
      HubStepped world (.saveRuntime id)
        (({ world with stores := stores }).setState id entry
          (.stopped runtime.key))
  | releaseListener {id : ℕ} {entry : Entry} {key : ListenerKey}
      (hentry : world.entries[id]? = some entry)
      (hstate : entry.state = .stopped key) :
      HubStepped world (.releaseListener id)
        (({ world with map := world.map.remove key }).setState id entry
          .notLoaded)

section Completeness

variable {world after : HubWorld} {id : ℕ}

theorem hubStepped_of_setupDevice (hstep : world.setupDevice id = some after) :
    HubStepped world (.setupDevice id) after := by
  unfold HubWorld.setupDevice at hstep
  simp only [Option.bind_eq_bind, Option.bind_eq_some_iff] at hstep
  obtain ⟨entry, hentry, hstep⟩ := hstep
  split at hstep
  · by_cases hhub : entry.config.isHub = true
    · rw [if_pos hhub] at hstep
      cases hstep
    · rw [if_neg hhub] at hstep
      obtain rfl := Option.some.inj hstep
      exact .setupDevice hentry (by simpa using hhub)
  · cases hstep

theorem hubStepped_of_restore (hstep : world.restore id = some after) :
    HubStepped world (.restore id) after := by
  unfold HubWorld.restore at hstep
  simp only [Option.bind_eq_bind, Option.bind_eq_some_iff] at hstep
  obtain ⟨entry, hentry, hstep⟩ := hstep
  split at hstep
  · by_cases hhub : entry.config.isHub = true
    · rw [if_pos hhub] at hstep
      obtain rfl := Option.some.inj hstep
      exact .restore hentry hhub _
    · rw [if_neg hhub] at hstep
      cases hstep
  · cases hstep

theorem hubStepped_of_lookup (hstep : world.lookup id = some after) :
    HubStepped world (.lookup id) after := by
  unfold HubWorld.lookup at hstep
  simp only [Option.bind_eq_bind, Option.bind_eq_some_iff] at hstep
  obtain ⟨entry, hentry, hstep⟩ := hstep
  split at hstep
  next registry hstate =>
    obtain rfl := Option.some.inj hstep
    exact .lookup hentry hstate _ _
  next => cases hstep

theorem hubStepped_of_adopt (hstep : world.adopt id = some after) :
    HubStepped world (.adopt id) after := by
  unfold HubWorld.adopt at hstep
  simp only [Option.bind_eq_bind, Option.bind_eq_some_iff] at hstep
  obtain ⟨entry, hentry, hstep⟩ := hstep
  split at hstep
  next registry manager hstate =>
    obtain ⟨listener, hlistener, hstep⟩ := Option.bind_eq_some_iff.mp hstep
    obtain rfl := Option.some.inj hstep
    apply HubStepped.adopt hentry hstate
    unfold ListenerMap.registryOf
    rw [hlistener]
    rfl
  next => cases hstep

theorem hubStepped_of_setupFailed (hstep : world.setupFailed id = some after) :
    HubStepped world (.setupFailed id) after := by
  unfold HubWorld.setupFailed at hstep
  simp only [Option.bind_eq_bind, Option.bind_eq_some_iff] at hstep
  obtain ⟨entry, hentry, hstep⟩ := hstep
  split at hstep
  · obtain rfl := Option.some.inj hstep
    exact .setupFailed hentry
  · obtain rfl := Option.some.inj hstep
    exact .setupFailed hentry
  · cases hstep

theorem hubStepped_of_finishSetup (hstep : world.finishSetup id = some after) :
    HubStepped world (.finishSetup id) after := by
  unfold HubWorld.finishSetup at hstep
  simp only [Option.bind_eq_bind, Option.bind_eq_some_iff] at hstep
  obtain ⟨entry, hentry, hstep⟩ := hstep
  split at hstep
  next registry targets hstate =>
    obtain rfl := Option.some.inj hstep
    exact .finishSetup hentry hstate _
  next => cases hstep

theorem hubStepped_of_persist (hstep : world.persist id = some after) :
    HubStepped world (.persist id) after := by
  unfold HubWorld.persist HubWorld.asyncSave at hstep
  simp only [Option.bind_eq_bind, Option.bind_eq_some_iff] at hstep
  obtain ⟨runtime, hruntime, hstep⟩ := hstep
  split at hstep
  · obtain rfl := Option.some.inj hstep
    exact .persist hruntime _ _
  · obtain rfl := Option.some.inj hstep
    exact .persist hruntime world.stores runtime.lastSaved

theorem hubStepped_of_unload (hstep : world.unload id = some after) :
    HubStepped world (.unload id) after := by
  unfold HubWorld.unload at hstep
  simp only [Option.bind_eq_bind, Option.bind_eq_some_iff] at hstep
  obtain ⟨entry, hentry, hstep⟩ := hstep
  split at hstep
  next targets hstate =>
    obtain rfl := Option.some.inj hstep
    exact .unload hentry hstate
  next => cases hstep

theorem hubStepped_of_drainAll (hstep : world.drainAll id = some after) :
    HubStepped world (.drainAll id) after := by
  unfold HubWorld.drainAll at hstep
  simp only [Option.bind_eq_bind, Option.bind_eq_some_iff] at hstep
  obtain ⟨entry, hentry, hstep⟩ := hstep
  split at hstep
  · split at hstep
    · cases hstep
    · obtain rfl := Option.some.inj hstep
      exact .drainAll hentry
  · cases hstep

theorem hubStepped_of_stopRuntime (hstep : world.stopRuntime id = some after) :
    HubStepped world (.stopRuntime id) after := by
  unfold HubWorld.stopRuntime at hstep
  simp only [Option.bind_eq_bind, Option.bind_eq_some_iff] at hstep
  obtain ⟨entry, hentry, hstep⟩ := hstep
  split at hstep
  next hstate =>
    by_cases hhub : entry.config.isHub = true
    · rw [if_pos hhub] at hstep
      cases hruntime : world.runtimes.get? id with
      | none =>
          simp only [hruntime, Option.some.injEq] at hstep
          subst hstep
          exact .stopNothing hentry
      | some runtime =>
          simp only [hruntime, Option.some.injEq] at hstep
          subst hstep
          exact .stopRuntime hentry hstate hhub hruntime
    · rw [if_neg hhub] at hstep
      cases hstep
  next => cases hstep

theorem hubStepped_of_saveRuntime (hstep : world.saveRuntime id = some after) :
    HubStepped world (.saveRuntime id) after := by
  unfold HubWorld.saveRuntime HubWorld.asyncSave at hstep
  simp only [Option.bind_eq_bind, Option.bind_eq_some_iff] at hstep
  obtain ⟨entry, hentry, hstep⟩ := hstep
  split at hstep
  next runtime hstate =>
    simp only [true_or, if_true] at hstep
    obtain rfl := Option.some.inj hstep
    exact .saveRuntime hentry hstate _
  next => cases hstep

theorem hubStepped_of_releaseListener
    (hstep : world.releaseListener id = some after) :
    HubStepped world (.releaseListener id) after := by
  unfold HubWorld.releaseListener at hstep
  simp only [Option.bind_eq_bind, Option.bind_eq_some_iff] at hstep
  obtain ⟨entry, hentry, hstep⟩ := hstep
  split at hstep
  next key hstate =>
    obtain rfl := Option.some.inj hstep
    exact .releaseListener hentry hstate
  next => cases hstep

end Completeness

theorem hubStepped_of_step {world after : HubWorld} {event : HubEvent}
    (hstep : world.step event = some after) :
    HubStepped world event after := by
  cases event with
  | poll key broadcast announceIp =>
      obtain rfl := Option.some.inj hstep
      exact .poll key broadcast announceIp
  | started manager =>
      obtain rfl := Option.some.inj hstep
      exact .started manager
  | serve manager event =>
      obtain ⟨map, hserve, rfl⟩ := Option.map_eq_some_iff.mp hstep
      exact .serve hserve
  | shutdown manager =>
      obtain ⟨map, hshutdown, rfl⟩ := Option.map_eq_some_iff.mp hstep
      exact .shutdown hshutdown
  | setupDevice id => exact hubStepped_of_setupDevice hstep
  | restore id => exact hubStepped_of_restore hstep
  | lookup id => exact hubStepped_of_lookup hstep
  | adopt id => exact hubStepped_of_adopt hstep
  | setupFailed id => exact hubStepped_of_setupFailed hstep
  | finishSetup id => exact hubStepped_of_finishSetup hstep
  | persist id => exact hubStepped_of_persist hstep
  | unload id => exact hubStepped_of_unload hstep
  | drainAll id => exact hubStepped_of_drainAll hstep
  | stopRuntime id => exact hubStepped_of_stopRuntime hstep
  | saveRuntime id => exact hubStepped_of_saveRuntime hstep
  | releaseListener id => exact hubStepped_of_releaseListener hstep

end Eybond
end DessMonitor
