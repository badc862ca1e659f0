import DessMonitor.EybondChildren
import DessMonitor.Foundation.LabelledRun
import DessMonitor.Foundation.PyString

/-!
# Config entries and their listeners

A hub entry loads its stored registry, gets the manager of its address, has
the manager adopt the registry if its own is empty, and keeps whatever
registry the manager uses for its runtime.  A device entry has no runtime.
Unloading a hub entry saves the registry and shuts its own manager down;
unloading a device entry shuts every manager down.

Setups and unloads await between their steps, so every step is an event of its
own, and so is every request of a poll for its manager.
-/

namespace DessMonitor
namespace Eybond

open Direct (DeviceTarget)

/-! ## Entries -/

structure EntryOptions where
  entryKind : Option String
  device : Option String
  bindHost : Option String
  bindPort : Option ℕ
  broadcast : Option String
  announceIp : Option String
  updateInterval : Option ℤ
  hubRevision : Option ℤ
  deriving DecidableEq

structure ConfigEntry where
  title : String
  dataName : Option String
  dataKind : Option String
  options : EntryOptions
  deriving DecidableEq

def entryKindDevice : String := "device"
def entryKindEybondHub : String := "eybond_hub"

namespace ConfigEntry

def kind (entry : ConfigEntry) : String :=
  PyString.orElse
    (PyString.orElse (entry.options.entryKind.getD "")
      (entry.dataKind.getD ""))
    entryKindDevice

def isHub (entry : ConfigEntry) : Bool := entry.kind = entryKindEybondHub

/-- The address a hub listens on, from `hub_listener_config`. -/
def listenerKey (entry : ConfigEntry) : ListenerKey :=
  (entry.options.bindHost.getD "0.0.0.0", entry.options.bindPort.getD 8899)

def broadcast (entry : ConfigEntry) : String :=
  entry.options.broadcast.getD defaultBroadcast

def announceIp (entry : ConfigEntry) : Option String :=
  some (PyString.strip (entry.options.announceIp.getD "")) |>.filter (· ≠ "")

end ConfigEntry

/-- `EybondHubRuntime`: the registry object it persists and its address. -/
structure HubRuntime where
  registry : ℕ
  key : ListenerKey
  lastSaved : StoredRegistry

/-- `restored`, `starting` and `refreshing` are the awaits of a hub's setup,
the last three those of an unload. -/
inductive EntryState where
  | notLoaded
  | restored (registry : ℕ)
  | starting (registry manager : ℕ)
  | refreshing (registry : ℕ) (targets : List DeviceTarget)
  | loaded (targets : List DeviceTarget)
  | unloading
  | stopping (runtime : HubRuntime)
  | stopped (key : ListenerKey)

structure Entry where
  config : ConfigEntry
  state : EntryState

/-! ## The world -/

/-- `runtimes` is `hass.data`, `stores` the files of the hub entries. -/
structure HubWorld where
  map : ListenerMap
  entries : List Entry
  runtimes : Dict ℕ HubRuntime
  stores : Dict ℕ StoredRegistry

namespace HubWorld

def initial (configs : List ConfigEntry) (stores : Dict ℕ StoredRegistry) :
    HubWorld where
  map := .initial
  entries := configs.map fun config => ⟨config, .notLoaded⟩
  runtimes := .empty
  stores := stores

def setState (world : HubWorld) (id : ℕ) (entry : Entry)
    (state : EntryState) : HubWorld :=
  { world with entries := world.entries.set id { entry with state := state } }

/-! ## Setup of a hub entry -/

def restore (world : HubWorld) (id : ℕ) : Option HubWorld := do
  let entry ← world.entries[id]?
  match entry.state with
  | .notLoaded =>
      if entry.config.isHub then
        let stored := (world.stores.get? id).getD .empty
        let loaded := (EybondRegistry.load stored).resetConnectionState
        some (({ world with map := world.map.allocate loaded }).setState id
          entry (.restored world.map.registries.length))
      else none
  | _ => none

/-- `get_eybond_manager` up to the start of the server. -/
def lookup (world : HubWorld) (id : ℕ) : Option HubWorld := do
  let entry ← world.entries[id]?
  match entry.state with
  | .restored registry =>
      let (map, manager) := world.map.getManager entry.config.listenerKey
        entry.config.broadcast entry.config.announceIp
      some (({ world with map := map }).setState id entry
        (.starting registry manager))
  | _ => none

/-- The server has started: the rest of `get_eybond_manager`, then the targets
of whatever registry the manager uses. -/
def adopt (world : HubWorld) (id : ℕ) : Option HubWorld := do
  let entry ← world.entries[id]?
  match entry.state with
  | .starting registry manager => do
      let map := (world.map.started manager).adopt manager registry
      let listener ← map.listeners[manager]?
      let targets := buildChildTargets (map.contents listener.registry)
        entry.config.listenerKey entry.config.broadcast
        entry.config.announceIp
      some (({ world with map := map }).setState id entry
        (.refreshing listener.registry targets))
  | _ => none

/-- `ensure_started` or the first refresh raised. -/
def setupFailed (world : HubWorld) (id : ℕ) : Option HubWorld := do
  let entry ← world.entries[id]?
  match entry.state with
  | .starting _ _ => some (world.setState id entry .notLoaded)
  | .refreshing _ _ => some (world.setState id entry .notLoaded)
  | _ => none

def finishSetup (world : HubWorld) (id : ℕ) : Option HubWorld := do
  let entry ← world.entries[id]?
  match entry.state with
  | .refreshing registry targets =>
      let runtime : HubRuntime :=
        { registry := registry
          key := entry.config.listenerKey
          lastSaved := (world.map.contents registry).toDict }
      some (({ world with runtimes := world.runtimes.set id runtime }).setState
        id entry (.loaded targets))
  | _ => none

def setupDevice (world : HubWorld) (id : ℕ) : Option HubWorld := do
  let entry ← world.entries[id]?
  match entry.state with
  | .notLoaded =>
      if entry.config.isHub then none
      else some (world.setState id entry (.loaded []))
  | _ => none

/-! ## Persistence -/

/-- `EybondHubRuntime.async_save`. -/
def asyncSave (world : HubWorld) (id : ℕ) (runtime : HubRuntime)
    (force : Bool) : HubWorld × HubRuntime :=
  let snap := (world.map.contents runtime.registry).toDict
  if force = true ∨ snap.sameItems runtime.lastSaved = false then
    ({ world with stores := world.stores.set id snap },
      { runtime with lastSaved := snap })
  else (world, runtime)

def persist (world : HubWorld) (id : ℕ) : Option HubWorld := do
  let runtime ← world.runtimes.get? id
  let (saved, kept) := world.asyncSave id runtime false
  some { saved with runtimes := saved.runtimes.set id kept }

/-! ## Unloading -/

def unload (world : HubWorld) (id : ℕ) : Option HubWorld := do
  let entry ← world.entries[id]?
  match entry.state with
  | .loaded _ => some (world.setState id entry .unloading)
  | _ => none

/-- The rest of `async_unload_entry` for a device entry. -/
def drainAll (world : HubWorld) (id : ℕ) : Option HubWorld := do
  let entry ← world.entries[id]?
  match entry.state with
  | .unloading =>
      if entry.config.isHub then none
      else
        some (({ world with map := world.map.removeAll }).setState id entry
          .notLoaded)
  | _ => none

/-- `async_unload_eybond_hub` up to the last save. -/
def stopRuntime (world : HubWorld) (id : ℕ) : Option HubWorld := do
  let entry ← world.entries[id]?
  match entry.state with
  | .unloading =>
      if entry.config.isHub then
        match world.runtimes.get? id with
        | none => some (world.setState id entry .notLoaded)
        | some runtime =>
            some (({ world with runtimes := world.runtimes.erase id }).setState
              id entry (.stopping runtime))
      else none
  | _ => none

def saveRuntime (world : HubWorld) (id : ℕ) : Option HubWorld := do
  let entry ← world.entries[id]?
  match entry.state with
  | .stopping runtime =>
      some ((world.asyncSave id runtime true).1.setState id entry
        (.stopped runtime.key))
  | _ => none

def releaseListener (world : HubWorld) (id : ℕ) : Option HubWorld := do
  let entry ← world.entries[id]?
  match entry.state with
  | .stopped key =>
      some (({ world with map := world.map.remove key }).setState id entry
        .notLoaded)
  | _ => none

end HubWorld

/-! ## Events -/

/-- `poll` is the request of `send_eybond_bytes` for the manager of the
address in its URI. -/
inductive HubEvent where
  | poll (key : ListenerKey) (broadcast : String) (announceIp : Option String)
  | started (manager : ℕ)
  | serve (manager : ℕ) (event : Event)
  | shutdown (manager : ℕ)
  | setupDevice (id : ℕ)
  | restore (id : ℕ)
  | lookup (id : ℕ)
  | adopt (id : ℕ)
  | setupFailed (id : ℕ)
  | finishSetup (id : ℕ)
  | persist (id : ℕ)
  | unload (id : ℕ)
  | drainAll (id : ℕ)
  | stopRuntime (id : ℕ)
  | saveRuntime (id : ℕ)
  | releaseListener (id : ℕ)
  deriving DecidableEq

def HubWorld.step (world : HubWorld) : HubEvent → Option HubWorld
  | .poll key broadcast announceIp =>
      some { world with map := (world.map.getManager key broadcast
        announceIp).1 }
  | .started manager => some { world with map := world.map.started manager }
  | .serve manager event =>
      (world.map.serve manager event).map fun map => { world with map := map }
  | .shutdown manager =>
      (world.map.shutdown manager).map fun map => { world with map := map }
  | .setupDevice id => world.setupDevice id
  | .restore id => world.restore id
  | .lookup id => world.lookup id
  | .adopt id => world.adopt id
  | .setupFailed id => world.setupFailed id
  | .finishSetup id => world.finishSetup id
  | .persist id => world.persist id
  | .unload id => world.unload id
  | .drainAll id => world.drainAll id
  | .stopRuntime id => world.stopRuntime id
  | .saveRuntime id => world.saveRuntime id
  | .releaseListener id => world.releaseListener id

end Eybond
end DessMonitor
