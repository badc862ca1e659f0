import DessMonitor.EybondHubDevices
import DessMonitor.Foundation.LabelledRun

/-!
# What a hub polls, across crashes

The registry of a hub lives in memory and is saved now and then, and after
every form.  A form is saved before the poll targets are swapped, and the
swap itself takes a while, so a crash can come at any of these moments.  What
comes back is always a configuration that was asked for as a whole, and the
one in use whenever no form was under way.

Saves are written in the order they were asked for.
-/

namespace DessMonitor
namespace Eybond

open Direct (DeviceTarget)
open LabelledRun

/-! ## The hub of one entry -/

structure ListenerConfig where
  key : ListenerKey
  broadcast : String
  announceIp : Option String

def ListenerConfig.targets (config : ListenerConfig)
    (registry : EybondRegistry) : List DeviceTarget :=
  buildChildTargets registry config.key config.broadcast config.announceIp

/-- A save that waits for the store, from the persistence loop or from a form,
which goes on to reconcile. -/
structure PendingSave where
  snap : StoredRegistry
  fromForm : Bool

/-- `scheduled` counts the reconcile tasks that have not begun, `swapping`
holds the targets of those that have. -/
structure HubDevices where
  registry : EybondRegistry
  store : StoredRegistry
  lastSaved : StoredRegistry
  saves : List PendingSave
  scheduled : ℕ
  swapping : List (List DeviceTarget)
  polled : List DeviceTarget

namespace HubDevices

/-- The registry that a setup restores. -/
def recovered (hub : HubDevices) : EybondRegistry :=
  (EybondRegistry.load hub.store).resetConnectionState

def setup (config : ListenerConfig) (store : StoredRegistry) : HubDevices :=
  let registry := (EybondRegistry.load store).resetConnectionState
  { registry := registry
    store := store
    lastSaved := registry.toDict
    saves := []
    scheduled := 0
    swapping := []
    polled := config.targets registry }

def queueSave (hub : HubDevices) (fromForm : Bool) : HubDevices :=
  { hub with saves := hub.saves ++ [⟨hub.registry.toDict, fromForm⟩] }

/-- `async_save` up to the store. -/
def asyncSave (hub : HubDevices) (force fromForm : Bool) : HubDevices :=
  if force || !hub.registry.toDict.sameItems hub.lastSaved then
    hub.queueSave fromForm
  else hub

/-- The form of `async_step_devices`; without records there is none. -/
def submit (hub : HubDevices) (form : DeviceForm) : Option HubDevices :=
  let records := hub.registry.all
  if records = [] then none
  else
    let applied := hub.registry.applyDeviceBulk records form
    some ({ hub with registry := applied }.asyncSave true true)

def written (hub : HubDevices) : Option HubDevices :=
  match hub.saves with
  | [] => none
  | save :: saves =>
      some { hub with
        store := save.snap
        lastSaved := save.snap
        saves := saves
        scheduled := hub.scheduled + if save.fromForm then 1 else 0 }

/-- `async_reconcile_children` up to the unload of the platforms. -/
def reconcile (config : ListenerConfig) (hub : HubDevices) :
    Option HubDevices :=
  if hub.scheduled = 0 then none
  else
    some { hub with
      scheduled := hub.scheduled - 1
      swapping := hub.swapping ++ [config.targets hub.registry] }

def setTargets (hub : HubDevices) (index : ℕ) : Option HubDevices := do
  let targets ← hub.swapping[index]?
  some { hub with
    swapping := hub.swapping.eraseIdx index
    polled := targets }

end HubDevices

inductive HubDevicesEvent where
  | seen (pn peer now : String)
  | disconnected (pn now : String)
  | submit (form : DeviceForm)
  | persist
  | written
  | reconcile
  | setTargets (index : ℕ)
  | crash

namespace HubDevices

def step (config : ListenerConfig) (hub : HubDevices) :
    HubDevicesEvent → Option HubDevices
  | .seen pn peer now =>
      some { hub with
        registry := hub.registry.recordSeen pn peer .connected now }
  | .disconnected pn now =>
      some { hub with registry := hub.registry.markDisconnected pn now }
  | .submit form => hub.submit form
  | .persist => some (hub.asyncSave false false)
  | .written => hub.written
  | .reconcile => hub.reconcile config
  | .setTargets index => hub.setTargets index
  | .crash => some (setup config hub.store)

/-- No form is under way. -/
def idle (hub : HubDevices) : Bool :=
  !hub.saves.any PendingSave.fromForm && hub.scheduled == 0 &&
    hub.swapping.isEmpty

/-- The user waits for a form to be done before the next one. -/
def oneFormAtATime (hub : HubDevices) : HubDevicesEvent → Bool
  | .submit _ => hub.idle
  | _ => true

end HubDevices

/-! ## What was asked for -/

/-- The configuration in use, and all those there were. -/
structure Asked where
  current : String → DongleRecord
  past : List (String → DongleRecord)

namespace Asked

def initial (store : StoredRegistry) : Asked :=
  let current := (EybondRegistry.load store).configuration
  ⟨current, [current]⟩

/-- A crash in the middle of a form may lose the form; any other crash does
not change what is asked for. -/
def observe (hub : HubDevices) (event : HubDevicesEvent) (asked : Asked) :
    Asked :=
  match event with
  | .submit form =>
      let wanted := fun pn =>
        if hub.registry.contains pn then
          (form pn).configure (asked.current pn)
        else asked.current pn
      ⟨wanted, asked.past ++ [wanted]⟩
  | .crash =>
      if hub.idle then asked
      else { asked with current := hub.recovered.configuration }
  | _ => asked

end Asked

/-! ## Stored configurations -/

/-- The store holds this configuration. -/
def Holds (store : StoredRegistry) (current : String → DongleRecord) : Prop :=
  ∀ pn, (EybondRegistry.load store).configuration pn = current pn

/-- Whenever no form is left to be written, the store holds the current
configuration: now, and after each of the saves that wait. -/
def UpToDate (current : String → DongleRecord) (store : StoredRegistry) :
    List PendingSave → Prop
  | [] => Holds store current
  | save :: saves =>
      ((save :: saves).any PendingSave.fromForm = false →
        Holds store current) ∧ UpToDate current save.snap saves

section Stored

variable {current later : String → DongleRecord} {store : StoredRegistry}
  {saves : List PendingSave} {save : PendingSave}

theorem UpToDate.holds (hcurrent : UpToDate current store saves)
    (hsaves : saves.any PendingSave.fromForm = false) :
    Holds store current := by
  cases saves with
  | nil => exact hcurrent
  | cons save saves => exact hcurrent.1 hsaves

theorem UpToDate.append_loop (hcurrent : UpToDate current store saves)
    (hsave : save.fromForm = false) (hholds : Holds save.snap current) :
    UpToDate current store (saves ++ [save]) := by
  induction saves generalizing store with
  | nil => exact ⟨fun _ => hcurrent, hholds⟩
  | cons first saves ih =>
      constructor
      · intro hnone
        apply hcurrent.1
        simpa [hsave] using hnone
      · exact ih hcurrent.2

/-- What was current before a form does not matter once it is in line. -/
theorem upToDate_append_form (hsave : save.fromForm = true)
    (hholds : Holds save.snap later) :
    UpToDate later store (saves ++ [save]) := by
  induction saves generalizing store with
  | nil => exact ⟨by simp [hsave], hholds⟩
  | cons first saves ih => exact ⟨by simp [hsave], ih⟩

theorem get?_load_toDict (registry : EybondRegistry) (pn : String) :
    (EybondRegistry.load registry.toDict).get? pn = registry.get? pn := by
  simp only [EybondRegistry.load, EybondRegistry.toDict, Dict.get?_mapValues,
    Option.map_map]
  cases registry.get? pn with
  | none => rfl
  | some record => simp [DongleRecord.fromDict_toDict]

theorem holds_toDict (registry : EybondRegistry) :
    Holds registry.toDict registry.configuration := by
  intro pn
  simp [EybondRegistry.configuration, EybondRegistry.ensure, get?_load_toDict]

theorem keyed_load_toDict {registry : EybondRegistry}
    (hkeyed : registry.Keyed) : (EybondRegistry.load registry.toDict).Keyed := by
  intro pn record hget
  rw [get?_load_toDict] at hget
  exact hkeyed pn record hget

end Stored

/-! ## The invariant -/

namespace HubDevices

/-- The contents of the store, now and after each of the saves that wait. -/
def snaps (hub : HubDevices) : List StoredRegistry :=
  hub.store :: hub.saves.map PendingSave.snap

structure Consistent (config : ListenerConfig) (hub : HubDevices)
    (asked : Asked) : Prop where
  keyed : hub.registry.Keyed
  keyedSnaps : ∀ snap ∈ hub.snaps, (EybondRegistry.load snap).Keyed
  registry : ∀ pn, hub.registry.configuration pn = asked.current pn
  store : UpToDate asked.current hub.store hub.saves
  past : ∀ snap ∈ hub.snaps, ∃ wanted ∈ asked.past, Holds snap wanted
  current : ∃ wanted ∈ asked.past, ∀ pn, asked.current pn = wanted pn
  swapping : ∀ targets ∈ hub.swapping,
    targets.Perm (config.targets hub.registry)
  polled : hub.idle = true → hub.polled.Perm (config.targets hub.registry)

variable {config : ListenerConfig} {hub after : HubDevices} {asked : Asked}

theorem recovered_configuration (hub : HubDevices) (pn : String) :
    hub.recovered.configuration pn =
      (EybondRegistry.load hub.store).configuration pn :=
  EybondRegistry.configuration_resetConnectionState _ pn

theorem targets_perm {left right : EybondRegistry}
    (hsame : ∀ pn, left.configuration pn = right.configuration pn) :
    (config.targets left).Perm (config.targets right) :=
  buildChildTargets_perm hsame config.key config.broadcast config.announceIp

theorem Consistent.setup {store : StoredRegistry}
    (hstore : (EybondRegistry.load store).Keyed)
    (hholds : Holds store asked.current)
    (hcurrent : ∃ wanted ∈ asked.past, ∀ pn, asked.current pn = wanted pn) :
    Consistent config (setup config store) asked := by
  have hregistry : ∀ pn, (HubDevices.setup config store).registry.configuration
      pn = asked.current pn := by
    intro pn
    rw [← hholds pn]
    exact EybondRegistry.configuration_resetConnectionState _ pn
  constructor
  · exact hstore.resetConnectionState
  · simpa [snaps, HubDevices.setup] using hstore
  · exact hregistry
  · exact hholds
  · obtain ⟨wanted, hmem, hwanted⟩ := hcurrent
    intro snap hsnap
    obtain rfl : snap = store := by
      simpa [snaps, HubDevices.setup] using hsnap
    exact ⟨wanted, hmem, fun pn => (hholds pn).trans (hwanted pn)⟩
  · exact hcurrent
  · simp [HubDevices.setup]
  · intro _
    exact List.Perm.refl _

/-- A session event changes neither the configuration nor what is polled. -/
theorem Consistent.discover (hconsistent : Consistent config hub asked)
    {registry : EybondRegistry} (hkeyed : registry.Keyed)
    (hsame : ∀ pn, registry.configuration pn = hub.registry.configuration pn) :
    Consistent config { hub with registry := registry } asked := by
  have hperm : (config.targets hub.registry).Perm (config.targets registry) :=
    targets_perm fun pn => (hsame pn).symm
  constructor
  · exact hkeyed
  · exact hconsistent.keyedSnaps
  · exact fun pn => (hsame pn).trans (hconsistent.registry pn)
  · exact hconsistent.store
  · exact hconsistent.past
  · exact hconsistent.current
  · exact fun targets hmem => (hconsistent.swapping targets hmem).trans hperm
  · exact fun hidle => (hconsistent.polled hidle).trans hperm

theorem Consistent.queueLoop (hconsistent : Consistent config hub asked) :
    Consistent config (hub.queueSave false) asked := by
  have hholds : Holds hub.registry.toDict asked.current := fun pn =>
    (holds_toDict hub.registry pn).trans (hconsistent.registry pn)
  have hsnaps : (hub.queueSave false).snaps =
      hub.snaps ++ [hub.registry.toDict] := by
    simp [snaps, queueSave]
  constructor
  · exact hconsistent.keyed
  · intro snap hsnap
    rw [hsnaps, List.mem_append, List.mem_singleton] at hsnap
    rcases hsnap with hold | rfl
    · exact hconsistent.keyedSnaps snap hold
    · exact keyed_load_toDict hconsistent.keyed
  · exact hconsistent.registry
  · exact hconsistent.store.append_loop rfl hholds
  · intro snap hsnap
    rw [hsnaps, List.mem_append, List.mem_singleton] at hsnap
    rcases hsnap with hold | rfl
    · exact hconsistent.past snap hold
    · obtain ⟨wanted, hmem, hwanted⟩ := hconsistent.current
      exact ⟨wanted, hmem, fun pn => (hholds pn).trans (hwanted pn)⟩
  · exact hconsistent.current
  · exact hconsistent.swapping
  · intro hidle
    apply hconsistent.polled
    simpa [idle, queueSave] using hidle

theorem Consistent.submit {form : DeviceForm}
    (hconsistent : Consistent config hub asked) (hidle : hub.idle = true)
    (hsubmit : hub.submit form = some after) :
    Consistent config after (asked.observe hub (.submit form)) := by
  unfold HubDevices.submit at hsubmit
  dsimp only at hsubmit
  split_ifs at hsubmit
  cases hsubmit
  have hkeyed := hconsistent.keyed.applyDeviceBulk hub.registry.all form
  have hregistry : ∀ pn, (hub.registry.applyDeviceBulk hub.registry.all
      form).configuration pn = (asked.observe hub (.submit form)).current pn := by
    intro pn
    rw [EybondRegistry.configuration_applyDeviceBulk hconsistent.keyed,
      hconsistent.registry pn]
    rfl
  have hholds : Holds (hub.registry.applyDeviceBulk hub.registry.all
      form).toDict (asked.observe hub (.submit form)).current := fun pn =>
    (holds_toDict _ pn).trans (hregistry pn)
  have hnew : (asked.observe hub (.submit form)).current ∈
      (asked.observe hub (.submit form)).past := by
    simp [Asked.observe]
  constructor
  · exact hkeyed
  · intro snap hsnap
    simp only [snaps, asyncSave, queueSave, Bool.true_or, if_true,
      List.map_append, ← List.cons_append, List.mem_append] at hsnap
    rcases hsnap with hold | hlast
    · exact hconsistent.keyedSnaps snap hold
    · obtain rfl := by simpa using hlast
      exact keyed_load_toDict hkeyed
  · exact hregistry
  · exact upToDate_append_form rfl hholds
  · intro snap hsnap
    simp only [snaps, asyncSave, queueSave, Bool.true_or, if_true,
      List.map_append, ← List.cons_append, List.mem_append] at hsnap
    rcases hsnap with hold | hlast
    · obtain ⟨wanted, hmem, hwanted⟩ := hconsistent.past snap hold
      exact ⟨wanted, by simp [Asked.observe, hmem], hwanted⟩
    · obtain rfl := by simpa using hlast
      exact ⟨_, hnew, hholds⟩
  · exact ⟨_, hnew, fun _ => rfl⟩
  · have hnone : hub.swapping = [] := by
      simp only [idle, Bool.and_eq_true, List.isEmpty_iff] at hidle
      exact hidle.2
    simp [asyncSave, queueSave, hnone]
  · simp [idle, asyncSave, queueSave]

theorem Consistent.written (hconsistent : Consistent config hub asked)
    (hwritten : hub.written = some after) :
    Consistent config after asked := by
  unfold HubDevices.written at hwritten
  split at hwritten
  next => cases hwritten
  next save saves hsaves =>
    cases hwritten
    have hsnaps : ∀ snap ∈ save.snap :: saves.map PendingSave.snap,
        snap ∈ hub.snaps := by
      intro snap hsnap
      rw [snaps, hsaves]
      exact List.mem_cons_of_mem _ hsnap
    have hstore := hconsistent.store
    rw [hsaves] at hstore
    constructor
    · exact hconsistent.keyed
    · exact fun snap hsnap => hconsistent.keyedSnaps snap (hsnaps snap hsnap)
    · exact hconsistent.registry
    · exact hstore.2
    · exact fun snap hsnap => hconsistent.past snap (hsnaps snap hsnap)
    · exact hconsistent.current
    · exact hconsistent.swapping
    · intro hidle
      apply hconsistent.polled
      simp only [idle, hsaves, List.any_cons] at hidle ⊢
      cases hform : save.fromForm <;> simp_all

theorem Consistent.reconcile (hconsistent : Consistent config hub asked)
    (hreconcile : hub.reconcile config = some after) :
    Consistent config after asked := by
  unfold HubDevices.reconcile at hreconcile
  split_ifs at hreconcile
  cases hreconcile
  constructor
  · exact hconsistent.keyed
  · exact hconsistent.keyedSnaps
  · exact hconsistent.registry
  · exact hconsistent.store
  · exact hconsistent.past
  · exact hconsistent.current
  · intro targets hmem
    rcases List.mem_append.mp hmem with hold | hnew
    · exact hconsistent.swapping targets hold
    · obtain rfl := by simpa using hnew
      exact List.Perm.refl _
  · simp [idle]

theorem Consistent.setTargets {index : ℕ}
    (hconsistent : Consistent config hub asked)
    (hset : hub.setTargets index = some after) :
    Consistent config after asked := by
  simp only [HubDevices.setTargets, Option.bind_eq_bind,
    Option.bind_eq_some_iff] at hset
  obtain ⟨targets, htargets, hset⟩ := hset
  cases hset
  constructor
  · exact hconsistent.keyed
  · exact hconsistent.keyedSnaps
  · exact hconsistent.registry
  · exact hconsistent.store
  · exact hconsistent.past
  · exact hconsistent.current
  · intro other hmem
    exact hconsistent.swapping other (List.mem_of_mem_eraseIdx hmem)
  · intro _
    exact hconsistent.swapping targets (List.mem_of_getElem? htargets)

theorem Consistent.crash (hconsistent : Consistent config hub asked) :
    Consistent config (HubDevices.setup config hub.store)
      (asked.observe hub .crash) := by
  have hkeyed := hconsistent.keyedSnaps hub.store List.mem_cons_self
  simp only [Asked.observe]
  split_ifs with hidle
  · apply Consistent.setup hkeyed _ hconsistent.current
    apply hconsistent.store.holds
    simp only [idle, Bool.and_eq_true, Bool.not_eq_true'] at hidle
    exact hidle.1.1
  · apply Consistent.setup hkeyed
    · intro pn
      exact (hub.recovered_configuration pn).symm
    · obtain ⟨wanted, hmem, hwanted⟩ :=
        hconsistent.past hub.store List.mem_cons_self
      exact ⟨wanted, hmem, fun pn =>
        (hub.recovered_configuration pn).trans (hwanted pn)⟩

theorem Consistent.after_step {event : HubDevicesEvent}
    (hconsistent : Consistent config hub asked)
    (hstep : hub.step config event = some after)
    (halone : hub.oneFormAtATime event = true) :
    Consistent config after (asked.observe hub event) := by
  cases event with
  | seen pn peer now =>
      cases hstep
      exact hconsistent.discover
        (hconsistent.keyed.recordSeen pn peer .connected now)
        (EybondRegistry.configuration_recordSeen _ pn peer .connected now)
  | disconnected pn now =>
      cases hstep
      exact hconsistent.discover (hconsistent.keyed.markDisconnected pn now)
        (EybondRegistry.configuration_markDisconnected _ pn now)
  | submit form => exact hconsistent.submit halone hstep
  | persist =>
      cases hstep
      simp only [asyncSave]
      split_ifs
      · exact hconsistent.queueLoop
      · exact hconsistent
  | written => exact hconsistent.written hstep
  | reconcile => exact hconsistent.reconcile hstep
  | setTargets index => exact hconsistent.setTargets hstep
  | crash =>
      cases hstep
      exact hconsistent.crash

end HubDevices

/-! ## Recovery -/

/-- In every run in which forms come one at a time, a setup from the store
restores one whole configuration that was asked for.  Whenever no form is
under way, it restores the one in use, which is then what is polled. -/
theorem hub_recovers_configuration {config : ListenerConfig}
    {store : StoredRegistry} (hstore : (EybondRegistry.load store).Keyed)
    {events : List HubDevicesEvent} {hub : HubDevices} {asked : Asked}
    (hrun : Run (guarded (tracked (graph (HubDevices.step config))
        Asked.observe) fun state event =>
          state.1.oneFormAtATime event = true)
      (.setup config store, .initial store) events (hub, asked)) :
    (∃ wanted ∈ asked.past, ∀ pn,
        hub.recovered.configuration pn = wanted pn) ∧
      (hub.idle = true →
        (∀ pn, hub.recovered.configuration pn = asked.current pn) ∧
          hub.polled.Perm (config.targets hub.recovered)) := by
  have hconsistent : HubDevices.Consistent config hub asked := by
    apply hrun.invariant fun state =>
      HubDevices.Consistent config state.1 state.2
    · apply HubDevices.Consistent.setup hstore
      · exact fun _ => rfl
      · exact ⟨_, List.mem_singleton_self _, fun _ => rfl⟩
    · rintro ⟨hub, asked⟩ event ⟨after, later⟩ hbefore ⟨⟨hstep, rfl⟩, halone⟩
      exact hbefore.after_step hstep halone
  constructor
  · obtain ⟨wanted, hmem, hwanted⟩ :=
      hconsistent.past hub.store List.mem_cons_self
    exact ⟨wanted, hmem, fun pn =>
      (hub.recovered_configuration pn).trans (hwanted pn)⟩
  · intro hidle
    have hrecovered : ∀ pn, hub.recovered.configuration pn =
        asked.current pn := by
      intro pn
      rw [hub.recovered_configuration]
      apply hconsistent.store.holds
      simp only [HubDevices.idle, Bool.and_eq_true, Bool.not_eq_true'] at hidle
      exact hidle.1.1
    refine ⟨hrecovered, (hconsistent.polled hidle).trans ?_⟩
    apply HubDevices.targets_perm
    intro pn
    rw [hrecovered pn, hconsistent.registry pn]

def anyListener : ListenerConfig := ⟨("0.0.0.0", 8899), defaultBroadcast, none⟩

/-- A dongle is discovered and configured, and the hub crashes. -/
def configuredCrash : List HubDevicesEvent :=
  [.seen "Q1" "10.0.0.7:3101" "noon", .persist, .written,
    .submit fun _ => ⟨none, some " Roof ", some 1, some "voltronic", some true⟩,
    .written, .reconcile, .setTargets 0, .crash]

def afterConfiguredCrash : HubDevices × Asked :=
  (execute (guardedNext (trackedNext (HubDevices.step anyListener)
      Asked.observe) fun state event => state.1.oneFormAtATime event)
    (.setup anyListener .empty, .initial .empty) configuredCrash).get
    (by decide +kernel)

theorem hub_recovers_configuration_after_crash :
    afterConfiguredCrash.1.polled =
        [⟨"eybond:Q1:1", "eybond://0.0.0.0:8899/1?pn=Q1", "voltronic",
          "Roof"⟩] ∧
      afterConfiguredCrash.1.polled.Perm
        (anyListener.targets afterConfiguredCrash.1.recovered) := by
  have hrun : Run (guarded (tracked (graph (HubDevices.step anyListener))
      Asked.observe) fun state event =>
        state.1.oneFormAtATime event = true)
      (.setup anyListener .empty, .initial .empty) configuredCrash
      afterConfiguredCrash :=
    guarded_run_of_execute (Option.some_get _).symm
  have hempty : (EybondRegistry.load .empty).Keyed := by
    simp [EybondRegistry.Keyed, EybondRegistry.load]
  constructor
  · decide +kernel
  · exact ((hub_recovers_configuration hempty hrun).2 (by decide +kernel)).2

end Eybond
end DessMonitor
