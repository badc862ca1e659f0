import DessMonitor.EybondSessionMaps
import DessMonitor.Foundation.Spacing

/-!
# The announce loop

A dongle connects only after a broadcast that names the server, and a
broadcast makes the dongles that are connected reconnect.  An announcer
therefore looks often whether a dongle is missing, and broadcasts when one is
and its last broadcast is an interval old.  A forced window overrides the
look.
-/

namespace DessMonitor
namespace Eybond
namespace AnnounceLoop

open LabelledRun ListUpdate Spacing

/-! ## Announcers -/

def announceInterval : ℚ := 5

def defaultBroadcast : String := "255.255.255.255"

structure Announcement where
  time : ℚ
  payload : String
  address : String
  deriving DecidableEq

/-- One `_announce_loop` task with the broadcasts it tried to send. -/
structure Announcer where
  payload : String
  lastSend : ℚ
  running : Bool
  sent : List Announcement

def Announcer.times (announcer : Announcer) : List ℚ :=
  announcer.sent.map Announcement.time

/-- A broadcast that the socket refuses counts as the last one, too. -/
def Announcer.send (announcer : Announcer) (now : ℚ) (address : String) :
    Announcer :=
  { announcer with
    lastSend := now
    sent := announcer.sent ++ [⟨now, announcer.payload, address⟩] }

/-- The manager with the fields its announcers read.  Tasks are named by the
order of their creation. -/
structure World where
  manager : Manager
  bindHost : String
  bindPort : ℕ
  announceIp : Option String
  broadcast : String
  forceAnnounceUntil : ℚ
  announcers : List Announcer

def World.created (bindHost : String) (bindPort : ℕ) (broadcast : String)
    (announceIp : Option String) (registry : EybondRegistry) : World where
  manager := .initial registry
  bindHost := bindHost
  bindPort := bindPort
  announceIp := announceIp
  broadcast := broadcast
  forceAnnounceUntil := 0
  announcers := []

/-! ## Whether to announce -/

/-- The part of `_should_announce` after the forced window. -/
def expectedMissing (manager : Manager) : Bool :=
  let connected := manager.maps.byPn.keys
  let expected := manager.registry.enabledPns
  if expected = [] then decide (connected = [])
  else expected.any fun pn => decide (pn ∉ connected)

namespace World

/-- The window is open: zero stands for no window. -/
def Forced (world : World) (now : ℚ) : Prop :=
  world.forceAnnounceUntil ≠ 0 ∧ now < world.forceAnnounceUntil

instance (world : World) (now : ℚ) : Decidable (world.Forced now) :=
  inferInstanceAs (Decidable (_ ∧ _))

/-- The answer, and the manager without a window that has elapsed. -/
def shouldAnnounce (world : World) (now : ℚ) : Bool × World :=
  if world.Forced now then (true, world)
  else
    (expectedMissing world.manager, { world with forceAnnounceUntil := 0 })

def forceRediscovery (world : World) (now duration : ℚ) : World :=
  { world with forceAnnounceUntil := now + duration }

/-! ## Operations -/

/-- The address an announcer names: the configured one, the bound one when it
is specific, or the detected one. -/
def serverIp (world : World) (localIp : String) : String :=
  match world.announceIp.filter (· ≠ "") with
  | some announceIp => announceIp
  | none =>
      if world.bindHost = "0.0.0.0" ∨ world.bindHost = "" then localIp
      else world.bindHost

/-- A new announcer up to its loop.  `resolve` finds the broadcast address of
a server address on the local networks. -/
def start (world : World) (localIp : String) (resolve : String → String) :
    World :=
  let announceIp := world.serverIp localIp
  let resolved := resolve announceIp
  { world with
    broadcast :=
      if world.broadcast = defaultBroadcast ∧ resolved ≠ "" ∧
          resolved ≠ defaultBroadcast then resolved
      else world.broadcast
    announcers := world.announcers ++
      [{ payload := s!"set>server={announceIp}:{world.bindPort};"
         lastSend := 0
         running := true
         sent := [] }] }

def stop (world : World) (task : ℕ) : World :=
  { world with
    announcers := world.announcers.modify task fun announcer =>
      { announcer with running := false } }

/-- `_get_manager` for a manager that exists, up to the restart. -/
def getManager (world : World) (broadcast : String)
    (announceIp : Option String) : World :=
  let targeted :=
    if broadcast ≠ defaultBroadcast then { world with broadcast := broadcast }
    else world
  if world.announceIp = announceIp then targeted
  else
    { targeted with
      announceIp := announceIp
      broadcast :=
        if broadcast = defaultBroadcast then defaultBroadcast
        else targeted.broadcast }

/-- One turn of the loop.  The clock is read for the window and again for the
interval. -/
def check (world : World) (task : ℕ) (asked now : ℚ) : Option World := do
  let announcer ← world.announcers[task]?
  if announcer.running then
    let (wanted, asked) := world.shouldAnnounce asked
    if wanted ∧ announceInterval ≤ now - announcer.lastSend then
      some { asked with
        announcers :=
          asked.announcers.set task (announcer.send now asked.broadcast) }
    else some asked
  else none

end World

/-! ## Events -/

/-- `configure` is the hub changing the registry, `stop` the end of a task,
whether it was cancelled by a restart or by a shutdown. -/
inductive Event where
  | session (event : Eybond.Event)
  | configure (registry : EybondRegistry)
  | forceRediscovery (now duration : ℚ)
  | getManager (broadcast : String) (announceIp : Option String)
  | start (localIp : String) (resolve : String → String)
  | stop (task : ℕ)
  | check (task : ℕ) (asked now : ℚ)

def World.step (world : World) : Event → Option World
  | .session event =>
      (world.manager.step event).map fun manager =>
        { world with manager := manager }
  | .configure registry =>
      some { world with
        manager := { world.manager with registry := registry } }
  | .forceRediscovery now duration =>
      some (world.forceRediscovery now duration)
  | .getManager broadcast announceIp =>
      some (world.getManager broadcast announceIp)
  | .start localIp resolve => some (world.start localIp resolve)
  | .stop task => some (world.stop task)
  | .check task asked now => world.check task asked now

/-! ## What a step does to the announcers -/

/-- Where an announcer after a step comes from. -/
inductive Origin (announcers : List Announcer) : Announcer → Prop where
  | created (payload : String) :
      Origin announcers ⟨payload, 0, true, []⟩
  | kept {announcer : Announcer} (hmem : announcer ∈ announcers)
      (running : Bool) :
      Origin announcers { announcer with running := running }
  | sent {announcer : Announcer} {now : ℚ} (hmem : announcer ∈ announcers)
      (hready : announceInterval ≤ now - announcer.lastSend)
      (address : String) :
      Origin announcers (announcer.send now address)

section Steps

variable {world after : World} {event : Event} {task : ℕ} {asked now : ℚ}
  {announcer : Announcer}

theorem Origin.same (hmem : announcer ∈ world.announcers) :
    Origin world.announcers announcer :=
  .kept hmem announcer.running

/-- A window that has elapsed is all that looking at it changes. -/
theorem shouldAnnounce_snd (world : World) (now : ℚ) :
    ∃ deadline,
      (world.shouldAnnounce now).2 =
        { world with forceAnnounceUntil := deadline } := by
  unfold World.shouldAnnounce
  split
  next => exact ⟨world.forceAnnounceUntil, rfl⟩
  next => exact ⟨0, rfl⟩

/-- A turn of a running announcer. -/
theorem check_eq (hannouncer : world.announcers[task]? = some announcer)
    (hcheck : world.check task asked now = some after) :
    after.manager = world.manager ∧
      after.announcers =
        if (world.shouldAnnounce asked).1 = true ∧
            announceInterval ≤ now - announcer.lastSend then
          world.announcers.set task (announcer.send now world.broadcast)
        else world.announcers := by
  obtain ⟨deadline, hasked⟩ := shouldAnnounce_snd world asked
  simp only [World.check, hannouncer, Option.bind_eq_bind, Option.bind_some,
    hasked] at hcheck
  split_ifs at hcheck with hrunning hsend
  · cases hcheck
    simp [hsend]
  · cases hcheck
    simp [hsend]

theorem origin_of_step (hstep : world.step event = some after)
    (hmem : announcer ∈ after.announcers) :
    Origin world.announcers announcer := by
  cases event with
  | session event =>
      obtain ⟨manager, -, rfl⟩ := Option.map_eq_some_iff.mp hstep
      exact .same hmem
  | configure registry =>
      cases hstep
      exact .same hmem
  | forceRediscovery now duration =>
      cases hstep
      exact .same hmem
  | getManager broadcast announceIp =>
      cases hstep
      unfold World.getManager at hmem
      split_ifs at hmem <;> exact .same hmem
  | start localIp resolve =>
      cases hstep
      rcases List.mem_append.mp hmem with hold | hnew
      · exact .same hold
      · rw [List.mem_singleton.mp hnew]
        exact .created _
  | stop task =>
      cases hstep
      obtain ⟨index, hindex⟩ := List.mem_iff_getElem?.mp hmem
      simp only [World.stop, List.getElem?_modify, Option.map_eq_map,
        Option.map_eq_some_iff] at hindex
      obtain ⟨old, hold, hsame⟩ := hindex
      have holdMem := List.mem_of_getElem? hold
      split_ifs at hsame with htask
      · subst hsame
        exact .kept holdMem false
      · subst hsame
        exact .same holdMem
  | check task asked now =>
      cases hannouncer : world.announcers[task]? with
      | none => simp [World.step, World.check, hannouncer] at hstep
      | some old =>
          rw [(check_eq hannouncer hstep).2] at hmem
          split_ifs at hmem with hsend
          · rcases List.mem_or_eq_of_mem_set hmem with hold | hnew
            · exact .same hold
            · rw [hnew]
              exact .sent (List.mem_of_getElem? hannouncer) hsend.2 _
          · exact .same hmem

end Steps

/-! ## Broadcasts are an interval apart -/

structure Announcer.Kept (announcer : Announcer) : Prop where
  paced : Paced announceInterval announcer.times announcer.lastSend
  last : announcer.lastSend = 0 ∨ announcer.lastSend ∈ announcer.times

theorem Origin.announcer_kept {announcers : List Announcer}
    {announcer : Announcer} (horigin : Origin announcers announcer)
    (hkept : ∀ old ∈ announcers, old.Kept) : announcer.Kept := by
  cases horigin with
  | created payload =>
      constructor
      · exact paced_nil announceInterval 0
      · exact .inl rfl
  | kept hmem running => exact ⟨(hkept _ hmem).paced, (hkept _ hmem).last⟩
  | @sent old now hmem hready address =>
      have htimes : (old.send now address).times = old.times ++ [now] := by
        simp [Announcer.send, Announcer.times]
      constructor
      · rw [htimes]
        exact (hkept _ hmem).paced.take (by norm_num [announceInterval]) hready
      · rw [htimes]
        simp [Announcer.send]

section Runs

variable {bindHost broadcast : String} {bindPort : ℕ}
  {announceIp : Option String} {registry : EybondRegistry}
  {events : List Event} {final : World}

theorem announcers_kept_of_run
    (hrun : Run (graph World.step)
      (.created bindHost bindPort broadcast announceIp registry) events
      final) :
    ∀ announcer ∈ final.announcers, announcer.Kept := by
  apply hrun.invariant fun world =>
    ∀ announcer ∈ world.announcers, announcer.Kept
  · simp [World.created]
  · intro before event after hbefore hstep announcer hmem
    exact (origin_of_step hstep hmem).announcer_kept hbefore

/-- Whatever dongles, hubs and users do, an announcer leaves an interval
between its broadcasts, and a window of time sees one for every interval. -/
theorem broadcasts_interval_apart
    (hrun : Run (graph World.step)
      (.created bindHost bindPort broadcast announceIp registry) events
      final) :
    ∀ announcer ∈ final.announcers,
      Spaced announceInterval announcer.times ∧
        ∀ start stop : ℚ, start ≤ stop →
          ((announcer.times.filter fun time =>
              decide (start ≤ time ∧ time ≤ stop)).length - 1) •
            announceInterval ≤ stop - start := by
  intro announcer hmem
  have hspaced := (announcers_kept_of_run hrun announcer hmem).paced.spaced
  exact ⟨hspaced, fun start stop hwindow => hspaced.gaps_le_filter hwindow⟩

end Runs

def threeTurns : List Event :=
  [.start "10.0.0.2" fun _ => "10.0.0.255", .check 0 7 7, .check 0 8 8,
    .check 0 12 12]

def afterThreeTurns : World :=
  (execute World.step (.created "0.0.0.0" 8899 defaultBroadcast none .empty)
    threeTurns).get (by decide +kernel)

theorem threeTurns_run :
    Run (graph World.step)
      (.created "0.0.0.0" 8899 defaultBroadcast none .empty) threeTurns
      afterThreeTurns :=
  run_of_execute (Option.some_get _).symm

theorem broadcasts_interval_apart_two :
    afterThreeTurns.announcers.map Announcer.times = [[7, 12]] ∧
      ∀ announcer ∈ afterThreeTurns.announcers,
        Spaced announceInterval announcer.times := by
  constructor
  · decide +kernel
  · intro announcer hmem
    exact (broadcasts_interval_apart threeTurns_run announcer hmem).1

/-! ## A missing dongle is called within an interval -/

/-- A live session carries this product number. -/
def Identified (manager : Manager) (pn : String) : Prop :=
  pn ≠ "" ∧ ∃ sid ∈ manager.maps.live, manager.pnOf sid = pn

/-- An enabled dongle is offline; where none is enabled, every dongle is. -/
def Missing (manager : Manager) : Prop :=
  (∃ pn ∈ manager.registry.enabledPns, ¬ Identified manager pn) ∨
    (manager.registry.enabledPns = [] ∧ ∀ pn, ¬ Identified manager pn)

section Missing

variable {manager : Manager} {world after : World} {event : Event}
  {task : ℕ} {asked now : ℚ} {announcer : Announcer}

theorem mem_byPn_keys_iff (hinv : MapsInvariant manager.view) {pn : String} :
    pn ∈ manager.maps.byPn.keys ↔ Identified manager pn := by
  have hmaps : manager.maps.Consistent manager.outline.pnOf :=
    hinv.consistent
  simp only [Dict.mem_keys_iff, Identified, ← manager.outline_pnOf]
  constructor
  · rintro ⟨sid, hget⟩
    have hmapped := hmaps.mapped pn sid hget
    exact ⟨hmapped.1, sid, hmapped.2⟩
  · rintro ⟨hpn, sid, hlive, rfl⟩
    exact ⟨sid, hmaps.identified sid hlive hpn⟩

theorem expectedMissing_iff (hinv : MapsInvariant manager.view) :
    expectedMissing manager = true ↔ Missing manager := by
  have hkeys : ∀ pn, pn ∈ manager.maps.byPn.keys ↔ Identified manager pn :=
    fun pn => mem_byPn_keys_iff hinv
  by_cases hexpected : manager.registry.enabledPns = []
  · simp [expectedMissing, Missing, hexpected, List.eq_nil_iff_forall_not_mem,
      hkeys]
  · simp [expectedMissing, Missing, hexpected, hkeys]

theorem mapsInvariant_after_step (hstep : world.step event = some after)
    (hinv : MapsInvariant world.manager.view) :
    MapsInvariant after.manager.view := by
  cases event with
  | session event =>
      obtain ⟨manager, hmanager, rfl⟩ := Option.map_eq_some_iff.mp hstep
      exact hinv.after_step (mapsStep_of_step hinv hmanager)
  | configure registry =>
      cases hstep
      exact hinv
  | forceRediscovery now duration =>
      cases hstep
      exact hinv
  | getManager broadcast announceIp =>
      cases hstep
      unfold World.getManager
      split_ifs <;> exact hinv
  | start localIp resolve =>
      cases hstep
      exact hinv
  | stop task =>
      cases hstep
      exact hinv
  | check task asked now =>
      cases hannouncer : world.announcers[task]? with
      | none => simp [World.step, World.check, hannouncer] at hstep
      | some announcer =>
          rw [(check_eq hannouncer hstep).1]
          exact hinv

theorem mapsInvariant_of_announce_run {bindHost broadcast : String}
    {bindPort : ℕ} {announceIp : Option String} {registry : EybondRegistry}
    {events : List Event}
    (hrun : Run (graph World.step)
      (.created bindHost bindPort broadcast announceIp registry) events
      world) : MapsInvariant world.manager.view := by
  apply hrun.invariant (fun world => MapsInvariant world.manager.view)
    initial_mapsInvariant
  intro before event after hbefore hstep
  exact mapsInvariant_after_step hstep hbefore

theorem shouldAnnounce_iff (hinv : MapsInvariant world.manager.view) :
    (world.shouldAnnounce asked).1 = true ↔
      world.Forced asked ∨ Missing world.manager := by
  unfold World.shouldAnnounce
  by_cases hforced : world.Forced asked
  · simp [hforced]
  · simp [hforced, expectedMissing_iff hinv]

/-- An announcer that sent nothing recent sends now. -/
theorem Announcer.Kept.recent (hkept : announcer.Kept) (address : String)
    (hnow : announceInterval ≤ now) :
    ∃ announcement ∈
        (if announceInterval ≤ now - announcer.lastSend then
          announcer.send now address else announcer).sent,
      now - announcement.time < announceInterval := by
  by_cases hready : announceInterval ≤ now - announcer.lastSend
  · rw [if_pos hready]
    refine ⟨⟨now, announcer.payload, address⟩, by simp [Announcer.send], ?_⟩
    norm_num [announceInterval]
  · rw [if_neg hready]
    rw [not_le] at hready
    rcases hkept.last with hzero | hsent
    · rw [hzero, sub_zero] at hready
      exact absurd hnow (not_le.mpr hready)
    · obtain ⟨announcement, hmem, htime⟩ := List.mem_map.mp hsent
      rw [← htime] at hready
      exact ⟨announcement, hmem, hready⟩

/-- After every look of an announcer, a wanted broadcast went out less than an
interval ago; while every dongle it waits for is connected and no window is
open, it sends nothing. -/
theorem missing_dongle_called {bindHost broadcast : String}
    {bindPort : ℕ} {announceIp : Option String} {registry : EybondRegistry}
    {events : List Event}
    (hrun : Run (graph World.step)
      (.created bindHost bindPort broadcast announceIp registry) events
      world)
    (hannouncer : world.announcers[task]? = some announcer)
    (hcheck : world.step (.check task asked now) = some after) :
    ∃ next, after.announcers[task]? = some next ∧
      (¬ (world.Forced asked ∨ Missing world.manager) →
        next.sent = announcer.sent) ∧
      (world.Forced asked ∨ Missing world.manager → announceInterval ≤ now →
        ∃ announcement ∈ next.sent,
          now - announcement.time < announceInterval) := by
  have hwanted : (world.shouldAnnounce asked).1 = true ↔
      world.Forced asked ∨ Missing world.manager :=
    shouldAnnounce_iff (mapsInvariant_of_announce_run hrun)
  have hkept := announcers_kept_of_run hrun announcer
    (List.mem_of_getElem? hannouncer)
  have hlength := (List.getElem?_eq_some_iff.mp hannouncer).1
  rw [(check_eq hannouncer hcheck).2]
  by_cases hasked : world.Forced asked ∨ Missing world.manager
  · have hsend := hwanted.mpr hasked
    refine ⟨_, ?_, fun hquiet => absurd hasked hquiet, fun _ hnow =>
      hkept.recent world.broadcast hnow⟩
    by_cases hready : announceInterval ≤ now - announcer.lastSend
    · simp [hsend, hready, hlength]
    · simp [hready, hannouncer]
  · have hpaused := mt hwanted.mp hasked
    exact ⟨announcer, by simp [hpaused, hannouncer], fun _ => rfl,
      fun hcalled => absurd hcalled hasked⟩

end Missing

/-- Nobody is connected, so the next turn calls again. -/
theorem missing_dongle_called_again :
    ∃ after announcer next : _, afterThreeTurns.step (.check 0 18 18) =
        some after ∧
      afterThreeTurns.announcers[0]? = some announcer ∧
      announcer.times = [7, 12] ∧ after.announcers[0]? = some next ∧
      ∃ announcement ∈ next.sent, 18 - announcement.time < announceInterval := by
  let announcer := afterThreeTurns.announcers.get ⟨0, by decide +kernel⟩
  let after := (afterThreeTurns.step (.check 0 18 18)).get (by decide +kernel)
  have hmissing : Missing afterThreeTurns.manager := by
    right
    constructor
    · decide +kernel
    · rintro pn ⟨-, sid, hlive, -⟩
      have hnone : afterThreeTurns.manager.maps.live = ∅ := by decide +kernel
      simp [hnone] at hlive
  have hannouncer : afterThreeTurns.announcers[0]? = some announcer :=
    List.getElem?_eq_getElem _
  have hcheck : afterThreeTurns.step (.check 0 18 18) = some after :=
    (Option.some_get _).symm
  obtain ⟨next, hnext, -, hcalled⟩ :=
    missing_dongle_called threeTurns_run hannouncer hcheck
  exact ⟨after, announcer, next, hcheck, hannouncer, by decide +kernel, hnext,
    hcalled (.inr hmissing) (by norm_num [announceInterval])⟩

end AnnounceLoop
end Eybond
end DessMonitor
