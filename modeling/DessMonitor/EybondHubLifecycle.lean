import DessMonitor.EybondHubSteps
import DessMonitor.Foundation.ListUpdate

/-!
# A loaded hub stays attached to its listener

From the moment its setup has looked up a manager until it is unloaded, a hub
depends on that manager staying under its address.  Other hubs only touch
their own address.  The unload of a device entry shuts down every manager, so
a run keeps the hubs attached as long as no device entry is unloaded while a
hub is loaded or being set up.
-/

namespace DessMonitor
namespace Eybond

open LabelledRun ListUpdate ListenerMap

/-! ## The condition -/

/-- The entry is a hub that depends on its manager. -/
def Entry.attached (entry : Entry) : Bool :=
  entry.config.isHub &&
    match entry.state with
    | .starting _ _ => true
    | .refreshing _ _ => true
    | .loaded _ => true
    | _ => false

/-- No device entry finishes its unload while a hub is attached. -/
def Undisturbed (world : HubWorld) : HubEvent → Bool
  | .drainAll _ => world.entries.all fun entry => !entry.attached
  | _ => true

/-- The hub entries listen on different addresses. -/
def DistinctHubs (configs : List ConfigEntry) : Prop :=
  ((configs.filter ConfigEntry.isHub).map ConfigEntry.listenerKey).Nodup

theorem DistinctHubs.eq_of_key {configs : List ConfigEntry}
    (hdistinct : DistinctHubs configs) {left right : ℕ}
    {first second : ConfigEntry} (hfirst : configs[left]? = some first)
    (hsecond : configs[right]? = some second)
    (hleft : first.isHub = true) (hright : second.isHub = true)
    (hkey : first.listenerKey = second.listenerKey) : left = right := by
  have hpairs : configs.Pairwise fun one other => one.isHub = true →
      other.isHub = true → one.listenerKey ≠ other.listenerKey := by
    have hfiltered := List.pairwise_map.mp hdistinct
    exact List.pairwise_filter.mp hfiltered
  rw [List.pairwise_iff_getElem] at hpairs
  obtain ⟨hleftLt, rfl⟩ := List.getElem?_eq_some_iff.mp hfirst
  obtain ⟨hrightLt, rfl⟩ := List.getElem?_eq_some_iff.mp hsecond
  rcases Nat.lt_trichotomy left right with hlt | heq | hgt
  · exact absurd hkey (hpairs left right hleftLt hrightLt hlt hleft hright)
  · exact heq
  · exact absurd hkey.symm
      (hpairs right left hrightLt hleftLt hgt hright hleft)

/-! ## The invariant -/

/-- What an entry relies on in each state. -/
def Entry.Sound (entry : Entry) (map : ListenerMap)
    (runtime : Option HubRuntime) : Prop :=
  match entry.state with
  | .notLoaded => True
  | .restored _ => entry.config.isHub = true
  | .starting _ manager =>
      entry.config.isHub = true ∧
        map.managers.get? entry.config.listenerKey = some manager
  | .refreshing registry _ =>
      entry.config.isHub = true ∧
        map.registryAt entry.config.listenerKey = some registry
  | .loaded _ =>
      entry.config.isHub = true → ∃ kept, runtime = some kept ∧
        kept.key = entry.config.listenerKey ∧
        map.registryAt entry.config.listenerKey = some kept.registry
  | .unloading =>
      entry.config.isHub = true → ∀ kept, runtime = some kept →
        kept.key = entry.config.listenerKey
  | .stopping kept =>
      entry.config.isHub = true ∧ kept.key = entry.config.listenerKey
  | .stopped key =>
      entry.config.isHub = true ∧ key = entry.config.listenerKey

theorem Entry.Sound.retain {entry : Entry} {before after : ListenerMap}
    {runtime : Option HubRuntime} (hsound : entry.Sound before runtime)
    (hretains : entry.attached = true →
      Retains entry.config.listenerKey before after) :
    entry.Sound after runtime := by
  unfold Entry.Sound at hsound ⊢
  unfold Entry.attached at hretains
  cases hstate : entry.state with
  | notLoaded => trivial
  | restored registry => simpa only [hstate] using hsound
  | starting registry manager =>
      simp only [hstate, Bool.and_true] at hsound hretains ⊢
      exact ⟨hsound.1, (hretains hsound.1).manager manager hsound.2⟩
  | refreshing registry targets =>
      simp only [hstate, Bool.and_true] at hsound hretains ⊢
      exact ⟨hsound.1, (hretains hsound.1).registryAt hsound.2⟩
  | loaded targets =>
      simp only [hstate, Bool.and_true] at hsound hretains ⊢
      intro hhub
      obtain ⟨kept, hkept, hkey, hregistry⟩ := hsound hhub
      exact ⟨kept, hkept, hkey, (hretains hhub).registryAt hregistry⟩
  | unloading => simpa only [hstate] using hsound
  | stopping kept => simpa only [hstate] using hsound
  | stopped key => simpa only [hstate] using hsound

/-- Saving replaces the snapshot of a runtime only. -/
theorem Entry.Sound.resave {entry : Entry} {map : ListenerMap}
    {runtime : HubRuntime} {known : Option HubRuntime}
    (hsound : entry.Sound map known) (hknown : known = some runtime)
    (saved : StoredRegistry) :
    entry.Sound map (some { runtime with lastSaved := saved }) := by
  subst hknown
  unfold Entry.Sound at hsound ⊢
  cases hstate : entry.state with
  | loaded targets =>
      simp only [hstate] at hsound ⊢
      intro hhub
      obtain ⟨kept, hkept, hkey, hregistry⟩ := hsound hhub
      obtain rfl := Option.some.inj hkept
      exact ⟨_, rfl, hkey, hregistry⟩
  | unloading =>
      simp only [hstate] at hsound ⊢
      intro hhub kept hkept
      obtain rfl := Option.some.inj hkept
      exact hsound hhub runtime rfl
  | notLoaded => trivial
  | restored registry => simpa only [hstate] using hsound
  | starting registry manager => simpa only [hstate] using hsound
  | refreshing registry targets => simpa only [hstate] using hsound
  | stopping kept => simpa only [hstate] using hsound
  | stopped key => simpa only [hstate] using hsound

/-- The entries keep their configuration and what they rely on. -/
structure HubInvariant (configs : List ConfigEntry) (world : HubWorld) :
    Prop where
  configs : world.entries.map Entry.config = configs
  sound : ∀ (id : ℕ) (entry : Entry), world.entries[id]? = some entry →
    entry.Sound world.map (world.runtimes.get? id)

theorem initial_hubInvariant (configs : List ConfigEntry)
    (stores : Dict ℕ StoredRegistry) :
    HubInvariant configs (HubWorld.initial configs stores) := by
  constructor
  · simp [HubWorld.initial, Function.comp_def]
  · intro id entry hentry
    simp only [HubWorld.initial, List.getElem?_map,
      Option.map_eq_some_iff] at hentry
    obtain ⟨config, _, rfl⟩ := hentry
    trivial

section Steps

variable {configs : List ConfigEntry} {world after : HubWorld} {id : ℕ}
  {entry : Entry}

theorem HubInvariant.config_getElem? (hinv : HubInvariant configs world)
    (hentry : world.entries[id]? = some entry) :
    configs[id]? = some entry.config := by
  rw [← hinv.configs, List.getElem?_map, hentry]
  rfl

/-- What an entry relies on in the state it is found in. -/
theorem HubInvariant.sound_of_state (hinv : HubInvariant configs world)
    (hentry : world.entries[id]? = some entry) {state : EntryState}
    (hstate : entry.state = state) :
    ({ entry with state := state } : Entry).Sound world.map
      (world.runtimes.get? id) := by
  subst hstate
  exact hinv.sound id entry hentry

/-- The hub of another entry listens elsewhere. -/
theorem HubInvariant.key_ne (hinv : HubInvariant configs world)
    (hdistinct : DistinctHubs configs) {other : ℕ} {found : Entry}
    (hentry : world.entries[id]? = some entry)
    (hfound : world.entries[other]? = some found)
    (hhub : entry.config.isHub = true) (hattached : found.attached = true)
    (hne : other ≠ id) :
    found.config.listenerKey ≠ entry.config.listenerKey := by
  intro hkey
  have hfoundHub : found.config.isHub = true := by
    unfold Entry.attached at hattached
    exact (Bool.and_eq_true_iff.mp hattached).1
  exact hne (hdistinct.eq_of_key (hinv.config_getElem? hfound)
    (hinv.config_getElem? hentry) hfoundHub hhub hkey)

/-- The maps of every attached hub are kept; no entry changes its state. -/
theorem HubInvariant.still (hinv : HubInvariant configs world)
    {map : ListenerMap}
    (hretains : ∀ key, Retains key world.map map) :
    HubInvariant configs { world with map := map } := by
  constructor
  · exact hinv.configs
  · intro other found hfound
    apply (hinv.sound other found hfound).retain
    intro _
    exact hretains found.config.listenerKey

/-- One entry changes its state; the others keep what they rely on. -/
theorem HubInvariant.move (hinv : HubInvariant configs world)
    (hentry : world.entries[id]? = some entry) {map : ListenerMap}
    {runtimes : Dict ℕ HubRuntime} {stores : Dict ℕ StoredRegistry}
    {state : EntryState}
    (hretains : ∀ other found, other ≠ id →
      world.entries[other]? = some found → found.attached = true →
        Retains found.config.listenerKey world.map map)
    (hruntimes : ∀ other, other ≠ id →
      runtimes.get? other = world.runtimes.get? other)
    (hself : ({ entry with state := state } : Entry).Sound map
      (runtimes.get? id)) :
    HubInvariant configs
      { map := map
        entries := world.entries.set id { entry with state := state }
        runtimes := runtimes
        stores := stores } := by
  constructor
  · have hsame : ({ entry with state := state } : Entry).config =
        entry.config := rfl
    exact (map_set_of_eq hentry hsame).trans hinv.configs
  · intro other found hfound
    rcases getElem?_set_cases hfound with ⟨rfl, rfl⟩ | ⟨hne, hold⟩
    · exact hself
    · have hsound := hinv.sound other found hold
      have hkept : found.Sound map (world.runtimes.get? other) :=
        hsound.retain (hretains other found hne hold)
      rw [← hruntimes other hne] at hkept
      exact hkept

/-- An entry changes its state, and nothing but the stores changes with it. -/
theorem HubInvariant.settle (hinv : HubInvariant configs world)
    (hentry : world.entries[id]? = some entry) {state : EntryState}
    {stores : Dict ℕ StoredRegistry}
    (hself : ({ entry with state := state } : Entry).Sound world.map
      (world.runtimes.get? id)) :
    HubInvariant configs
      { world with
        entries := world.entries.set id { entry with state := state }
        stores := stores } := by
  apply hinv.move hentry
  · intro other found _ _ _
    exact Retains.of_eq rfl rfl
  · intro other _
    rfl
  · exact hself

theorem HubInvariant.adopt (hinv : HubInvariant configs world)
    (hdistinct : DistinctHubs configs)
    (hentry : world.entries[id]? = some entry)
    {registry manager adopted : ℕ}
    (hstate : entry.state = .starting registry manager)
    (hadopted : ((world.map.started manager).adopt manager
      registry).registryOf manager = some adopted)
    (targets : List Direct.DeviceTarget) :
    HubInvariant configs
      (({ world with
          map := (world.map.started manager).adopt manager
            registry }).setState id entry (.refreshing adopted targets)) := by
  have hsound := hinv.sound_of_state hentry hstate
  obtain ⟨hhub, hmanager⟩ := hsound
  apply hinv.move hentry
  · intro other found hne hfound hattached
    have hstarted : Retains found.config.listenerKey world.map
        (world.map.started manager) := Retains.started world.map manager
    apply hstarted.trans
    apply Retains.adopt
    intro hsame
    rw [started_managers] at hsame
    have hkey := world.map.injective _ _ manager hsame hmanager
    exact hinv.key_ne hdistinct hentry hfound hhub hattached hne hkey
  · intro other _
    rfl
  · refine ⟨hhub, ?_⟩
    rw [registryAt_eq_some_iff]
    refine ⟨manager, ?_, hadopted⟩
    rw [adopt_managers, started_managers]
    exact hmanager

theorem HubInvariant.after_step (hinv : HubInvariant configs world)
    (hdistinct : DistinctHubs configs) {event : HubEvent}
    (hstep : world.step event = some after)
    (hundisturbed : Undisturbed world event = true) :
    HubInvariant configs after := by
  cases hubStepped_of_step hstep with
  | poll key broadcast announceIp =>
      apply hinv.still
      intro other
      exact Retains.getManager world.map key broadcast announceIp
  | started manager =>
      apply hinv.still
      intro other
      exact Retains.started world.map manager
  | serve hserve =>
      apply hinv.still
      intro other
      exact Retains.serve hserve
  | shutdown hshutdown =>
      apply hinv.still
      intro other
      exact Retains.shutdown hshutdown
  | setupDevice hentry hdevice =>
      apply hinv.settle hentry
      intro hhub
      rw [hdevice] at hhub
      cases hhub
  | restore hentry hhub loaded =>
      apply hinv.move hentry
      · intro other found _ _ _
        exact Retains.of_eq rfl rfl
      · intro other _
        rfl
      · exact hhub
  | @lookup id registry entry hentry hstate broadcast announceIp =>
      have hsound := hinv.sound_of_state hentry hstate
      apply hinv.move hentry
      · intro other found _ _ _
        exact Retains.getManager world.map _ broadcast announceIp
      · intro other _
        rfl
      · exact ⟨hsound, getManager_found world.map _ broadcast announceIp⟩
  | adopt hentry hstate hadopted targets =>
      exact hinv.adopt hdistinct hentry hstate hadopted targets
  | setupFailed hentry => exact hinv.settle hentry trivial
  | @finishSetup id registry entry targets hentry hstate saved =>
      have hsound := hinv.sound_of_state hentry hstate
      apply hinv.move hentry
      · intro other found _ _ _
        exact Retains.of_eq rfl rfl
      · intro other hne
        exact Dict.get?_set_of_ne world.runtimes hne _
      · intro _
        exact ⟨_, Dict.get?_set_self world.runtimes id _, rfl, hsound.2⟩
  | @persist id runtime hruntime stores saved =>
      constructor
      · exact hinv.configs
      · intro other found hfound
        have hsound := hinv.sound other found hfound
        by_cases heq : other = id
        · subst heq
          rw [Dict.get?_set_self]
          exact hsound.resave hruntime saved
        · rw [Dict.get?_set_of_ne world.runtimes heq]
          exact hsound
  | @unload id entry targets hentry hstate =>
      have hsound := hinv.sound_of_state hentry hstate
      apply hinv.settle hentry
      intro hhub kept hkept
      obtain ⟨found, hfound, hkey, _⟩ := hsound hhub
      rw [hkept] at hfound
      obtain rfl := Option.some.inj hfound
      exact hkey
  | drainAll hentry =>
      apply hinv.move hentry
      · intro other found _ hfound hattached
        have hmem := List.mem_of_getElem? hfound
        have hfree := List.all_eq_true.mp hundisturbed found hmem
        rw [hattached] at hfree
        cases hfree
      · intro other _
        rfl
      · trivial
  | stopNothing hentry => exact hinv.settle hentry trivial
  | @stopRuntime id entry runtime hentry hstate hhub hruntime =>
      have hsound := hinv.sound_of_state hentry hstate
      apply hinv.move hentry
      · intro other found _ _ _
        exact Retains.of_eq rfl rfl
      · intro other hne
        have hget := Dict.get?_erase world.runtimes id other
        rw [if_neg hne] at hget
        exact hget
      · exact ⟨hhub, hsound hhub runtime hruntime⟩
  | @saveRuntime id entry runtime hentry hstate stores =>
      have hsound := hinv.sound_of_state hentry hstate
      exact hinv.settle hentry hsound
  | @releaseListener id entry key hentry hstate =>
      have hsound : entry.config.isHub = true ∧
          key = entry.config.listenerKey :=
        hinv.sound_of_state hentry hstate
      apply hinv.move hentry
      · intro other found hne hfound hattached
        apply Retains.remove
        rw [hsound.2]
        exact hinv.key_ne hdistinct hentry hfound hsound.1 hattached hne
      · intro other _
        rfl
      · trivial

/-- An undisturbed event leaves the manager of an attached hub in place. -/
theorem HubInvariant.retains (hinv : HubInvariant configs world)
    (hdistinct : DistinctHubs configs)
    (hentry : world.entries[id]? = some entry)
    (hattached : entry.attached = true) {event : HubEvent}
    (hstep : world.step event = some after)
    (hundisturbed : Undisturbed world event = true) :
    ∀ index, world.map.managers.get? entry.config.listenerKey = some index →
      after.map.managers.get? entry.config.listenerKey = some index := by
  intro index hindex
  cases hubStepped_of_step hstep with
  | poll key broadcast announceIp =>
      exact (Retains.getManager world.map key broadcast announceIp).manager
        index hindex
  | started manager =>
      exact (Retains.started world.map manager).manager index hindex
  | serve hserve => exact (Retains.serve hserve).manager index hindex
  | shutdown hshutdown =>
      exact (Retains.shutdown hshutdown).manager index hindex
  | lookup _ _ broadcast announceIp =>
      exact (Retains.getManager world.map _ broadcast announceIp).manager
        index hindex
  | adopt =>
      unfold HubWorld.setState
      dsimp only
      rw [adopt_managers, started_managers]
      exact hindex
  | drainAll =>
      have hmem := List.mem_of_getElem? hentry
      have hfree := List.all_eq_true.mp hundisturbed entry hmem
      rw [hattached] at hfree
      cases hfree
  | @releaseListener other found key hfound hstate =>
      have hsound : found.config.isHub = true ∧
          key = found.config.listenerKey :=
        hinv.sound_of_state hfound hstate
      have hne : id ≠ other := by
        rintro rfl
        rw [hentry] at hfound
        obtain rfl := Option.some.inj hfound
        unfold Entry.attached at hattached
        rw [hstate, Bool.and_false] at hattached
        cases hattached
      have hkey := hinv.key_ne hdistinct hfound hentry hsound.1 hattached hne
      apply (Retains.remove world.map _).manager index hindex
      rw [hsound.2]
      exact hkey
  | setupDevice => exact hindex
  | restore => exact hindex
  | setupFailed => exact hindex
  | finishSetup => exact hindex
  | persist => exact hindex
  | unload => exact hindex
  | stopNothing => exact hindex
  | stopRuntime => exact hindex
  | saveRuntime => exact hindex

end Steps

/-! ## Runs -/

theorem hubInvariant_of_run {configs : List ConfigEntry}
    {stores : Dict ℕ StoredRegistry} (hdistinct : DistinctHubs configs)
    {events : List HubEvent} {final : HubWorld}
    (hrun : Run (guarded (graph HubWorld.step)
      fun world event => Undisturbed world event = true)
      (HubWorld.initial configs stores) events final) :
    HubInvariant configs final := by
  apply hrun.invariant (HubInvariant configs)
    (initial_hubInvariant configs stores)
  intro before event after hbefore hstep
  exact hbefore.after_step hdistinct hstep.1 hstep.2

/-- In every run in which no device entry is unloaded while a hub is loaded or
being set up, the manager of a loaded hub is under its address, updates the
registry of the hub's runtime, and stays there whatever happens next. -/
theorem hub_attached_of_run {configs : List ConfigEntry}
    {stores : Dict ℕ StoredRegistry} (hdistinct : DistinctHubs configs)
    {events : List HubEvent} {final : HubWorld}
    (hrun : Run (guarded (graph HubWorld.step)
      fun world event => Undisturbed world event = true)
      (HubWorld.initial configs stores) events final)
    {id : ℕ} {entry : Entry} {targets : List Direct.DeviceTarget}
    (hentry : final.entries[id]? = some entry)
    (hhub : entry.config.isHub = true)
    (hloaded : entry.state = .loaded targets) :
    ∃ runtime index, final.runtimes.get? id = some runtime ∧
      runtime.key = entry.config.listenerKey ∧
      final.map.managers.get? runtime.key = some index ∧
      final.map.registryOf index = some runtime.registry ∧
      ∀ event after, final.step event = some after →
        Undisturbed final event = true →
          after.map.managers.get? runtime.key = some index := by
  have hinv := hubInvariant_of_run hdistinct hrun
  have hsound := hinv.sound_of_state hentry hloaded
  obtain ⟨runtime, hruntime, hkey, hregistry⟩ := hsound hhub
  rw [registryAt_eq_some_iff] at hregistry
  obtain ⟨index, hindex, howned⟩ := hregistry
  have hattached : entry.attached = true := by
    simp [Entry.attached, hhub, hloaded]
  refine ⟨runtime, index, hruntime, hkey, ?_, howned, ?_⟩
  · rw [hkey]
    exact hindex
  · intro event after hstep hundisturbed
    rw [hkey]
    exact hinv.retains hdistinct hentry hattached hstep hundisturbed index
      hindex

/-! ## A hub and a TCP inverter -/

def EntryOptions.empty : EntryOptions :=
  ⟨none, none, none, none, none, none, none, none⟩

def hubConfig : ConfigEntry where
  title := "EyBond Hub"
  dataName := some "EyBond Hub"
  dataKind := some entryKindEybondHub
  options := { EntryOptions.empty with entryKind := some entryKindEybondHub }

def inverterConfig : ConfigEntry where
  title := "Inverter"
  dataName := some "Inverter"
  dataKind := none
  options :=
    { EntryOptions.empty with device := some "tcp://192.168.1.50:8899" }

/-- The setup of entry 0 without anything in between. -/
def hubSetup : List HubEvent :=
  [.restore 0, .lookup 0, .adopt 0, .finishSetup 0]

/-- The inverter is loaded and the hub reloaded, with a poll in between. -/
def hubReloaded : List HubEvent :=
  [.setupDevice 1] ++ hubSetup ++
    [.unload 0, .stopRuntime 0, .saveRuntime 0, .releaseListener 0,
      .poll ("0.0.0.0", 8899) defaultBroadcast none, .started 1] ++
    hubSetup

def hubReloadedWorld : HubWorld :=
  (execute (guardedNext HubWorld.step Undisturbed)
    (HubWorld.initial [hubConfig, inverterConfig] .empty)
    hubReloaded).get (by decide +kernel)

theorem hub_attached_of_reload :
    ∃ runtime index, hubReloadedWorld.runtimes.get? 0 = some runtime ∧
      runtime.key = hubConfig.listenerKey ∧
      hubReloadedWorld.map.managers.get? runtime.key = some index ∧
      hubReloadedWorld.map.registryOf index = some runtime.registry ∧
      ∀ event after, hubReloadedWorld.step event = some after →
        Undisturbed hubReloadedWorld event = true →
          after.map.managers.get? runtime.key = some index := by
  have hdistinct : DistinctHubs [hubConfig, inverterConfig] := by
    unfold DistinctHubs
    decide +kernel
  have hrun : Run (guarded (graph HubWorld.step)
      fun world event => Undisturbed world event = true)
      (HubWorld.initial [hubConfig, inverterConfig] .empty) hubReloaded
      hubReloadedWorld :=
    run_of_guarded_execute (Option.some_get _).symm
  have hentry : hubReloadedWorld.entries[0]? =
      some ⟨hubConfig, .loaded []⟩ := by
    with_unfolding_all rfl
  exact hub_attached_of_run hdistinct hrun hentry (by decide) rfl

/-- The TCP inverter is unloaded while the hub is loaded; then a child of the
hub is polled. -/
def inverterUnloaded : List HubEvent :=
  [.setupDevice 1] ++ hubSetup ++
    [.unload 1, .drainAll 1, .poll ("0.0.0.0", 8899) defaultBroadcast none]

def inverterUnloadedWorld : HubWorld :=
  (execute HubWorld.step
    (HubWorld.initial [hubConfig, inverterConfig] .empty)
    inverterUnloaded).get (by decide +kernel)

theorem not_hub_attached_inverterUnloaded :
    ¬∀ configs, DistinctHubs configs → ∀ events final,
      Run (graph HubWorld.step) (HubWorld.initial configs .empty) events
        final →
      ∀ id entry targets runtime registry,
        final.entries[id]? = some entry → entry.config.isHub = true →
        entry.state = .loaded targets →
        final.runtimes.get? id = some runtime →
        final.map.registryAt runtime.key = some registry →
          registry = runtime.registry := by
  intro hattached
  have hdistinct : DistinctHubs [hubConfig, inverterConfig] := by
    unfold DistinctHubs
    decide +kernel
  have hrun : Run (graph HubWorld.step)
      (HubWorld.initial [hubConfig, inverterConfig] .empty) inverterUnloaded
      inverterUnloadedWorld :=
    run_of_execute (Option.some_get _).symm
  have hentry : inverterUnloadedWorld.entries[0]? =
      some ⟨hubConfig, .loaded []⟩ := by
    with_unfolding_all rfl
  have hruntime : inverterUnloadedWorld.runtimes.get? 0 =
      some ⟨0, ("0.0.0.0", 8899), .empty⟩ := by
    with_unfolding_all rfl
  have hregistry : inverterUnloadedWorld.map.registryAt ("0.0.0.0", 8899) =
      some 2 := by
    decide +kernel
  have hsame := hattached _ hdistinct _ _ hrun 0 _ [] _ 2 hentry (by decide)
    rfl hruntime hregistry
  exact absurd hsame (by decide)

end Eybond
end DessMonitor
