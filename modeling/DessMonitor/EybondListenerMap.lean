import DessMonitor.EybondManagerModel
import Mathlib.Data.List.Sort

/-!
# One manager per listener

`_managers` maps a bind address to its manager.  Managers and discovery
registries are objects that others hold on to after the map has dropped them,
so both live in lists that only grow and are named by their index.  The map is
part of a structure which keeps every reference valid and every manager under
one address at most.
-/

namespace DessMonitor
namespace Eybond

abbrev ListenerKey := String × ℕ

def defaultBroadcast : String := "255.255.255.255"

/-- A manager object; `registry` names the registry object it updates. -/
structure Listener where
  maps : SessionMaps
  sessions : List Session
  requests : List Request
  registry : ℕ
  broadcast : String
  announceIp : Option String
  started : Bool

def Listener.created (registry : ℕ) (broadcast : String)
    (announceIp : Option String) : Listener where
  maps := .initial
  sessions := []
  requests := []
  registry := registry
  broadcast := broadcast
  announceIp := announceIp
  started := false

def Listener.manager (listener : Listener) (registry : EybondRegistry) :
    Manager :=
  ⟨listener.maps, listener.sessions, listener.requests, registry⟩

def Listener.withManager (listener : Listener) (manager : Manager) :
    Listener :=
  { listener with
    maps := manager.maps
    sessions := manager.sessions
    requests := manager.requests }

/-- `identified_pns`. -/
def Listener.identifiedPns (listener : Listener) : List String :=
  listener.maps.byPn.keys.insertionSort fun left right => left ≤ right

/-- The parameters of a later request replace those of the manager. -/
def Listener.retarget (listener : Listener) (broadcast : String)
    (announceIp : Option String) : Listener :=
  let aimed :=
    if broadcast ≠ defaultBroadcast then
      { listener with broadcast := broadcast }
    else listener
  if aimed.announceIp = announceIp then aimed
  else
    { aimed with
      announceIp := announceIp
      broadcast :=
        if broadcast = defaultBroadcast then defaultBroadcast
        else aimed.broadcast }

theorem Listener.retarget_registry (listener : Listener) (broadcast : String)
    (announceIp : Option String) :
    (listener.retarget broadcast announceIp).registry = listener.registry := by
  unfold Listener.retarget
  by_cases haim : broadcast ≠ defaultBroadcast
  · rw [if_pos haim]
    dsimp only
    split <;> rfl
  · rw [if_neg haim]
    dsimp only
    split <;> rfl

theorem Listener.retarget_maps (listener : Listener) (broadcast : String)
    (announceIp : Option String) :
    (listener.retarget broadcast announceIp).maps = listener.maps := by
  unfold Listener.retarget
  by_cases haim : broadcast ≠ defaultBroadcast
  · rw [if_pos haim]
    dsimp only
    split <;> rfl
  · rw [if_neg haim]
    dsimp only
    split <;> rfl

/-- Every live session is dropped and the maps are cleared. -/
def Manager.shutdown (manager : Manager) : Manager :=
  let live :=
    (List.range manager.sessions.length).filter (· ∈ manager.maps.live)
  let stopped := live.foldl (fun current sid =>
    match current.sessions[sid]? with
    | none => current
    | some session =>
        (current.setSession sid
          { session with heartbeat := false }).dropSession sid) manager
  { stopped with maps := .initial }

/-! ## The map and its objects -/

structure ListenerMap where
  managers : Dict ListenerKey ℕ
  listeners : List Listener
  registries : List EybondRegistry
  registry_lt : ∀ listener ∈ listeners, listener.registry < registries.length
  manager_lt : ∀ key index, managers.get? key = some index →
    index < listeners.length
  injective : ∀ left right index, managers.get? left = some index →
    managers.get? right = some index → left = right

namespace ListenerMap

def initial : ListenerMap where
  managers := .empty
  listeners := []
  registries := []
  registry_lt := by simp
  manager_lt := by simp
  injective := by simp

def listenerAt (map : ListenerMap) (key : ListenerKey) : Option Listener :=
  (map.managers.get? key).bind fun index => map.listeners[index]?

/-- The registry object the manager of an address updates. -/
def registryAt (map : ListenerMap) (key : ListenerKey) : Option ℕ :=
  (map.listenerAt key).map Listener.registry

def contents (map : ListenerMap) (registry : ℕ) : EybondRegistry :=
  (map.registries[registry]?).getD .empty

/-- A new registry object. -/
def allocate (map : ListenerMap) (registry : EybondRegistry) : ListenerMap where
  managers := map.managers
  listeners := map.listeners
  registries := map.registries ++ [registry]
  registry_lt := by
    intro listener hmem
    have hlt := map.registry_lt listener hmem
    rw [List.length_append]
    omega
  manager_lt := map.manager_lt
  injective := map.injective

/-- Replace a manager object by one with a valid registry. -/
def setListener (map : ListenerMap) (index : ℕ) (listener : Listener)
    (hregistry : listener.registry < map.registries.length) :
    ListenerMap where
  managers := map.managers
  listeners := map.listeners.set index listener
  registries := map.registries
  registry_lt := by
    intro other hmem
    rcases List.mem_or_eq_of_mem_set hmem with hold | rfl
    · exact map.registry_lt other hold
    · exact hregistry
  manager_lt := by
    intro key found hfound
    rw [List.length_set]
    exact map.manager_lt key found hfound
  injective := map.injective

def setContents (map : ListenerMap) (registry : ℕ)
    (contents : EybondRegistry) : ListenerMap where
  managers := map.managers
  listeners := map.listeners
  registries := map.registries.set registry contents
  registry_lt := by
    intro listener hmem
    rw [List.length_set]
    exact map.registry_lt listener hmem
  manager_lt := map.manager_lt
  injective := map.injective

/-- A new manager with a registry of its own. -/
def create (map : ListenerMap) (key : ListenerKey) (broadcast : String)
    (announceIp : Option String) : ListenerMap where
  managers := map.managers.set key map.listeners.length
  listeners := map.listeners ++
    [Listener.created map.registries.length broadcast announceIp]
  registries := map.registries ++ [.empty]
  registry_lt := by
    intro listener hmem
    rw [List.length_append, List.length_singleton]
    rcases List.mem_append.mp hmem with hold | hnew
    · have hlt := map.registry_lt listener hold
      omega
    · rw [List.mem_singleton.mp hnew]
      exact Nat.lt_succ_self _
  manager_lt := by
    intro other index hfound
    rw [List.length_append, List.length_singleton]
    rw [Dict.get?_set] at hfound
    by_cases heq : other = key
    · rw [if_pos heq] at hfound
      have hindex := Option.some.inj hfound
      omega
    · rw [if_neg heq] at hfound
      have hlt := map.manager_lt other index hfound
      omega
  injective := by
    intro left right index hleft hright
    rw [Dict.get?_set] at hleft hright
    by_cases heq : left = key <;> by_cases heq' : right = key
    · rw [heq, heq']
    · rw [if_pos heq] at hleft
      rw [if_neg heq'] at hright
      have hindex := Option.some.inj hleft
      have hlt := map.manager_lt right index hright
      omega
    · rw [if_neg heq] at hleft
      rw [if_pos heq'] at hright
      have hindex := Option.some.inj hright
      have hlt := map.manager_lt left index hleft
      omega
    · rw [if_neg heq] at hleft
      rw [if_neg heq'] at hright
      exact map.injective left right index hleft hright

/-- `shutdown_eybond_manager`, as far as the map is concerned. -/
def remove (map : ListenerMap) (key : ListenerKey) : ListenerMap where
  managers := map.managers.erase key
  listeners := map.listeners
  registries := map.registries
  registry_lt := map.registry_lt
  manager_lt := by
    intro other index hfound
    rw [Dict.get?_erase] at hfound
    by_cases heq : other = key
    · rw [if_pos heq] at hfound
      cases hfound
    · rw [if_neg heq] at hfound
      exact map.manager_lt other index hfound
  injective := by
    intro left right index hleft hright
    rw [Dict.get?_erase] at hleft hright
    by_cases heq : left = key
    · rw [if_pos heq] at hleft
      cases hleft
    · by_cases heq' : right = key
      · rw [if_pos heq'] at hright
        cases hright
      · rw [if_neg heq] at hleft
        rw [if_neg heq'] at hright
        exact map.injective left right index hleft hright

/-- `shutdown_all_eybond_managers`, as far as the map is concerned. -/
def removeAll (map : ListenerMap) : ListenerMap where
  managers := .empty
  listeners := map.listeners
  registries := map.registries
  registry_lt := map.registry_lt
  manager_lt := by simp
  injective := by simp

/-! ## Operations -/

/-- `_get_manager` up to the start of the server, with the manager found. -/
def getManager (map : ListenerMap) (key : ListenerKey) (broadcast : String)
    (announceIp : Option String) : ListenerMap × ℕ :=
  match map.managers.get? key with
  | none => (map.create key broadcast announceIp, map.listeners.length)
  | some index =>
      match hlistener : map.listeners[index]? with
      | none => (map, index)
      | some listener =>
          (map.setListener index (listener.retarget broadcast announceIp)
            (by
              rw [Listener.retarget_registry]
              exact map.registry_lt listener
                (List.mem_of_getElem? hlistener)), index)

/-- The given registry is adopted only when the manager's own is empty. -/
def adopt (map : ListenerMap) (index registry : ℕ) : ListenerMap :=
  match map.listeners[index]? with
  | none => map
  | some listener =>
      if hvalid : registry < map.registries.length then
        if listener.registry ≠ registry ∧
            (map.contents listener.registry).isEmpty = true then
          map.setListener index { listener with registry := registry } hvalid
        else map
      else map

def started (map : ListenerMap) (index : ℕ) : ListenerMap :=
  match hlistener : map.listeners[index]? with
  | none => map
  | some listener =>
      map.setListener index { listener with started := true }
        (map.registry_lt listener (List.mem_of_getElem? hlistener))

/-- Put a manager's next state back, its registry included. -/
def update (map : ListenerMap) (index : ℕ) (listener : Listener)
    (hlistener : map.listeners[index]? = some listener)
    (manager : Manager) : ListenerMap :=
  (map.setListener index (listener.withManager manager)
    (map.registry_lt listener (List.mem_of_getElem? hlistener))).setContents
      listener.registry manager.registry

/-- An event of one manager, in the map or not. -/
def serve (map : ListenerMap) (index : ℕ) (event : Event) :
    Option ListenerMap :=
  match hlistener : map.listeners[index]? with
  | none => none
  | some listener =>
      ((listener.manager (map.contents listener.registry)).step event).map
        (map.update index listener hlistener)

/-- A manager that was removed from the map shuts down. -/
def shutdown (map : ListenerMap) (index : ℕ) : Option ListenerMap :=
  match hlistener : map.listeners[index]? with
  | none => none
  | some listener =>
      if index ∈ map.managers.values then none
      else
        some (map.update index listener hlistener
          (listener.manager (map.contents listener.registry)).shutdown)

end ListenerMap

end Eybond
end DessMonitor
