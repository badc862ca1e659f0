import DessMonitor.EybondSessionMaps
import DessMonitor.EybondTargetStability

/-!
# Connected records and live sessions

Sessions write the registry as well as the session maps, each in its own time.
The two agree on which dongles are connected, and from where, in every run in
which no heartbeat is handled that was still buffered on an evicted session.
-/

namespace DessMonitor
namespace Eybond

open LabelledRun ListUpdate

/-! ## Where the registry says a dongle is -/

/-- The peer of a connected record. -/
def EybondRegistry.livePeer (registry : EybondRegistry) (pn : String) :
    Option String :=
  ((registry.get? pn).filter fun record =>
    decide (record.status = .connected)).map DongleRecord.peer

namespace EybondRegistry

variable {registry : EybondRegistry}

theorem livePeer_of_get? {pn : String} {record : DongleRecord}
    (hget : registry.get? pn = some record) :
    registry.livePeer pn =
      if record.status = .connected then some record.peer else none := by
  unfold livePeer
  rw [hget]
  by_cases hstatus : record.status = .connected
  · simp [hstatus]
  · simp [hstatus]

theorem livePeer_of_none {pn : String} (hget : registry.get? pn = none) :
    registry.livePeer pn = none := by
  unfold livePeer
  rw [hget]
  rfl

theorem livePeer_eq_some_iff {pn peer : String} :
    registry.livePeer pn = some peer ↔
      ∃ record, registry.get? pn = some record ∧
        record.status = .connected ∧ record.peer = peer := by
  cases hget : registry.get? pn with
  | none =>
      rw [livePeer_of_none hget]
      simp
  | some record =>
      rw [livePeer_of_get? hget]
      by_cases hstatus : record.status = .connected
      · simp [hstatus]
      · simp [hstatus]

theorem livePeer_set (registry : EybondRegistry) (pn other : String)
    (record : DongleRecord) :
    livePeer (registry.set pn record) other =
      if other = pn then
        if record.status = .connected then some record.peer else none
      else registry.livePeer other := by
  by_cases heq : other = pn
  · subst heq
    rw [if_pos rfl]
    exact livePeer_of_get? (Dict.get?_set_self registry other record)
  · rw [if_neg heq]
    unfold livePeer
    rw [Dict.get?_set_of_ne registry heq]

/-- A dongle that was seen is connected from where it was seen. -/
theorem livePeer_recordSeen (registry : EybondRegistry) {pn peer : String}
    (hpeer : peer ≠ "") (now other : String) :
    (registry.recordSeen pn peer .connected now).livePeer other =
      if other = pn then some peer else registry.livePeer other := by
  unfold recordSeen
  split
  next =>
    rw [livePeer_set]
    rfl
  next =>
    rw [livePeer_set, if_neg hpeer]
    rfl

theorem livePeer_markDisconnected (registry : EybondRegistry)
    (pn now other : String) :
    (registry.markDisconnected pn now).livePeer other =
      if other = pn then none else registry.livePeer other := by
  unfold markDisconnected
  split
  next hget =>
    split
    next heq =>
      rw [heq]
      exact livePeer_of_none hget
    next => rfl
  next =>
    rw [livePeer_set]
    rfl

theorem livePeer_set_sameLifecycle {pn : String} {changed : DongleRecord}
    (hchanged : SameLifecycle (registry.ensure pn) changed)
    (other : String) :
    livePeer (registry.set pn changed) other = registry.livePeer other := by
  rw [livePeer_set, hchanged.status, hchanged.peer]
  split
  next heq =>
    subst heq
    unfold ensure
    cases hget : registry.get? other with
    | none =>
        rw [livePeer_of_none hget]
        rfl
    | some record =>
        rw [livePeer_of_get? hget]
        rfl
  next => rfl

/-- A setter connects and disconnects nothing. -/
theorem livePeer_setter {op : RegistryOp} (hsetter : op.isSetter = true)
    (pn : String) : (op.apply registry).livePeer pn = registry.livePeer pn := by
  cases op with
  | recordSeen | markDisconnected | resetConnectionState | put | remove |
      load =>
      cases hsetter
  | setEnabled | setProtocol | setDevaddr | setName =>
      apply livePeer_set_sameLifecycle
      exact ⟨rfl, rfl, rfl, rfl⟩

end EybondRegistry

/-! ## The system -/

/-- The text of a peer address. -/
def peerText : Option (String × ℕ) → String
  | some (host, port) => host ++ ":" ++ toString port
  | none => "unknown"

theorem peerText_ne_empty (address : Option (String × ℕ)) :
    peerText address ≠ "" := by
  intro hempty
  have hlength := congrArg String.length hempty
  cases address with
  | none =>
      revert hlength
      decide
  | some address =>
      unfold peerText at hlength
      rw [String.length_append, String.length_append] at hlength
      have hcolon : ":".length = 1 := rfl
      have hnone : "".length = 0 := rfl
      omega

/-- What sessions and the options flow do; no record is removed. -/
inductive DiscoveryEvent where
  | accept (address : Option (String × ℕ))
  | session (event : Event)
  | configure (op : RegistryOp)

def discoveryStep (manager : Manager) : DiscoveryEvent → Option Manager
  | .accept address => some (manager.connect (peerText address))
  | .session (.connect _) => none
  | .session event => manager.step event
  | .configure op =>
      if op.isSetter then
        some { manager with registry := op.apply manager.registry }
      else none

namespace Manager

def peers (manager : Manager) : List String :=
  manager.sessions.map Session.peer

/-- The peer of the session that owns a product number. -/
def ownerPeer (manager : Manager) (pn : String) : Option String :=
  (manager.maps.byPn.get? pn).bind fun sid => manager.peers[sid]?

/-- A heartbeat of an identified session comes from where the session of its
product number is. -/
def fromOwner (manager : Manager) : DiscoveryEvent → Bool
  | .session (.frame sid received _ _) =>
      match manager.sessions[sid]? with
      | none => true
      | some session =>
          received.fcode ≠ fcHeartbeat || session.pn = "" ||
            manager.ownerPeer session.pn = some session.peer
  | _ => true

end Manager

/-- The registry and the session maps agree. -/
structure RegistryLive (manager : Manager) : Prop where
  connected : ∀ pn,
    (∃ record, manager.registry.get? pn = some record ∧
      record.status = .connected) ↔
    ∃ sid, manager.maps.byPn.get? pn = some sid
  peer : ∀ pn sid, manager.maps.byPn.get? pn = some sid →
    ∃ record session, manager.registry.get? pn = some record ∧
      manager.sessions[sid]? = some session ∧ record.peer = session.peer

structure LiveInvariant (manager : Manager) : Prop where
  maps : MapsInvariant manager.view
  named : ∀ peer ∈ manager.peers, peer ≠ ""
  live : ∀ pn, manager.registry.livePeer pn = manager.ownerPeer pn

section Invariant

variable {manager after : Manager}

theorem LiveInvariant.session_of_mapped (hinv : LiveInvariant manager)
    {pn : String} {sid : ℕ} (hmapped : manager.maps.byPn.get? pn = some sid) :
    ∃ session, manager.sessions[sid]? = some session :=
  Manager.sessions_of_outline
    (hinv.maps.bounded sid (hinv.maps.consistent.mapped pn sid hmapped).2.1)

theorem Manager.ownerPeer_of_mapped {pn : String} {sid : ℕ}
    {session : Session} (hmapped : manager.maps.byPn.get? pn = some sid)
    (hsession : manager.sessions[sid]? = some session) :
    manager.ownerPeer pn = some session.peer := by
  unfold ownerPeer peers
  rw [hmapped, Option.bind_some, List.getElem?_map, hsession]
  rfl

theorem Manager.ownerPeer_of_unmapped {pn : String}
    (hunmapped : manager.maps.byPn.get? pn = none) :
    manager.ownerPeer pn = none := by
  unfold ownerPeer
  rw [hunmapped]
  rfl

theorem LiveInvariant.registryLive (hinv : LiveInvariant manager) :
    RegistryLive manager := by
  constructor
  · intro pn
    constructor
    · rintro ⟨record, hget, hstatus⟩
      have hlive : manager.registry.livePeer pn = some record.peer :=
        EybondRegistry.livePeer_eq_some_iff.mpr ⟨record, hget, hstatus, rfl⟩
      rw [hinv.live] at hlive
      cases hmapped : manager.maps.byPn.get? pn with
      | none =>
          rw [Manager.ownerPeer_of_unmapped hmapped] at hlive
          cases hlive
      | some sid => exact ⟨sid, rfl⟩
    · rintro ⟨sid, hmapped⟩
      obtain ⟨session, hsession⟩ := hinv.session_of_mapped hmapped
      have hlive := hinv.live pn
      rw [Manager.ownerPeer_of_mapped hmapped hsession] at hlive
      obtain ⟨record, hget, hstatus, -⟩ :=
        EybondRegistry.livePeer_eq_some_iff.mp hlive
      exact ⟨record, hget, hstatus⟩
  · intro pn sid hmapped
    obtain ⟨session, hsession⟩ := hinv.session_of_mapped hmapped
    have hlive := hinv.live pn
    rw [Manager.ownerPeer_of_mapped hmapped hsession] at hlive
    obtain ⟨record, hget, -, hpeer⟩ :=
      EybondRegistry.livePeer_eq_some_iff.mp hlive
    exact ⟨record, session, hget, hsession, hpeer⟩

end Invariant

/-! ## Events that write neither -/

/-- Nothing that the agreement is about has changed. -/
structure Untouched (before after : Manager) : Prop where
  registry : after.registry = before.registry
  peers : after.peers = before.peers
  byPn : after.maps.byPn = before.maps.byPn

namespace Untouched

variable {manager middle after : Manager} {sid : ℕ}

theorem refl (manager : Manager) : Untouched manager manager :=
  ⟨rfl, rfl, rfl⟩

theorem trans (hfirst : Untouched manager middle)
    (hsecond : Untouched middle after) : Untouched manager after :=
  ⟨hsecond.registry.trans hfirst.registry,
    hsecond.peers.trans hfirst.peers, hsecond.byPn.trans hfirst.byPn⟩

theorem ownerPeer (hsame : Untouched manager after) (pn : String) :
    after.ownerPeer pn = manager.ownerPeer pn := by
  unfold Manager.ownerPeer
  rw [hsame.byPn, hsame.peers]

theorem setRequest (manager : Manager) (rid : ℕ) (request : Request) :
    Untouched manager (manager.setRequest rid request) := ⟨rfl, rfl, rfl⟩

theorem settle (manager : Manager) (rid : ℕ) (request : Request)
    (phase : RequestPhase) :
    Untouched manager (manager.settle rid request phase) := ⟨rfl, rfl, rfl⟩

theorem setSession {session replacement : Session}
    (hsession : manager.sessions[sid]? = some session)
    (hpeer : replacement.peer = session.peer) :
    Untouched manager (manager.setSession sid replacement) :=
  ⟨rfl, map_set_of_eq hsession hpeer, rfl⟩

theorem releaseLock (manager : Manager) (sid : ℕ) :
    Untouched manager (manager.releaseLock sid) := by
  unfold Manager.releaseLock
  cases hsession : manager.sessions[sid]? with
  | none => exact refl manager
  | some session => exact setSession hsession rfl

theorem popPending (manager : Manager) (sid tid : ℕ) :
    Untouched manager (manager.popPending sid tid) := by
  unfold Manager.popPending
  cases hsession : manager.sessions[sid]? with
  | none => exact refl manager
  | some session => exact setSession hsession rfl

theorem awaitNumber (manager : Manager) (pn : String) :
    Untouched manager
      { manager with maps := (manager.maps.readyEventFor pn).1 } := by
  refine ⟨rfl, rfl, ?_⟩
  unfold SessionMaps.readyEventFor
  dsimp only
  split <;> rfl

theorem forwardFrame {session : Session}
    (hsession : manager.sessions[sid]? = some session) (tid : ℕ)
    (payload : Bytes) :
    Untouched manager (manager.forwardFrame sid session tid payload) := by
  unfold Manager.forwardFrame
  cases session.pending.get? tid with
  | none => exact refl manager
  | some rid =>
      have hpopped : Untouched manager (manager.setSession sid
          { session with pending := session.pending.erase tid }) :=
        setSession hsession rfl
      dsimp only
      split
      · exact hpopped
      · split
        · exact hpopped
        · exact hpopped.trans (setRequest _ _ _)

end Untouched

/-- Events other than a connection, a heartbeat or a teardown. -/
def Event.quiet : Event → Bool
  | .connect _ => false
  | .frame _ received _ _ => received.fcode ≠ fcHeartbeat
  | .teardown _ _ => false
  | _ => true

theorem untouched_of_quiet {manager after : Manager} {event : Event}
    (hquiet : event.quiet = true) (hstep : manager.step event = some after) :
    Untouched manager after := by
  cases stepped_of_step hstep with
  | connect => cases hquiet
  | heartbeat _ _ hcode => simp [Event.quiet, hcode] at hquiet
  | forward hsession => exact .forwardFrame hsession _ _
  | otherFrame => exact .refl manager
  | disconnect hsession => exact .setSession hsession rfl
  | teardown => cases hquiet
  | heartbeatTick hsession => exact .setSession hsession rfl
  | heartbeatFailed hsession => exact .setSession hsession rfl
  | sendFrame => exact ⟨rfl, rfl, rfl⟩
  | startFailed => exact .settle _ _ _ _
  | chosen => exact .settle _ _ _ _
  | unrouted => exact .settle _ _ _ _
  | awaitNumber => exact (Untouched.awaitNumber _ _).trans (.settle _ _ _ _)
  | awaitAny => exact .settle _ _ _ _
  | waitTimeout => exact .settle _ _ _ _
  | @acquire rid sid _ session _ _ hsession =>
      have hregistered : Untouched manager
          (manager.setSession sid (session.register rid)) :=
        .setSession hsession rfl
      exact hregistered.trans (.setRequest _ _ _)
  | drained => exact .settle _ _ _ _
  | drainFailed _ sid tid =>
      exact ((Untouched.popPending _ sid tid).trans
        (.releaseLock _ sid)).trans (.settle _ _ _ _)
  | replied _ _ sid =>
      exact (Untouched.releaseLock _ sid).trans (.settle _ _ _ _)
  | replyTimeout _ sid tid =>
      exact ((Untouched.popPending _ sid tid).trans
        (.releaseLock _ sid)).trans (.setRequest _ _ _)
  | abandoned => exact .settle _ _ _ _
  | cancelWrite _ sid =>
      exact (Untouched.releaseLock _ sid).trans (.settle _ _ _ _)
  | cancelReply _ sid =>
      exact (Untouched.releaseLock _ sid).trans (.setRequest _ _ _)

/-! ## Events that write both -/

section Writes

variable {manager after : Manager} {sid : ℕ} {session : Session}

/-- Dropping a session unmaps the number it owns, and no other. -/
theorem SessionMaps.byPn_drop (maps : SessionMaps) (sid : ℕ)
    (pn other : String) :
    (maps.drop sid pn).byPn.get? other =
      if other = pn ∧ pn ≠ "" ∧ maps.byPn.get? pn = some sid then none
      else maps.byPn.get? other := by
  unfold SessionMaps.drop
  dsimp only
  by_cases howned : pn ≠ "" ∧ maps.byPn.get? pn = some sid
  · rw [if_pos howned]
    have herase : (maps.unmap pn).byPn.get? other =
        if other = pn then none else maps.byPn.get? other :=
      Dict.get?_erase maps.byPn pn other
    rw [herase]
    by_cases heq : other = pn
    · rw [if_pos heq, if_pos ⟨heq, howned⟩]
    · rw [if_neg heq, if_neg fun hboth => heq hboth.1]
  · rw [if_neg howned, if_neg fun hboth => howned hboth.2]

theorem Manager.dropSession_eq
    (hsession : manager.sessions[sid]? = some session) :
    (manager.dropSession sid).registry = manager.registry ∧
      (manager.dropSession sid).peers = manager.peers ∧
      (manager.dropSession sid).maps =
        manager.maps.drop sid session.pn := by
  unfold Manager.dropSession
  simp only [hsession]
  have hpeers : ((({ manager with
      maps := manager.maps.drop sid session.pn } : Manager).failPending
        session.pending).setSession sid
          { session with pending := .empty }).peers = manager.peers :=
    map_set_of_eq hsession rfl
  exact ⟨rfl, hpeers, rfl⟩

/-- Evicting the owner of a number only unmaps that number. -/
theorem evict_byPn {maps : SessionMaps} {outline : Outline}
    (hmaps : maps.Consistent outline.pnOf) (sid : ℕ) {pn other : String}
    (hne : other ≠ pn) :
    (evict maps outline sid pn).byPn.get? other = maps.byPn.get? other := by
  unfold evict
  cases hmapped : maps.byPn.get? pn with
  | none => rfl
  | some old =>
      have hpn := (hmaps.mapped pn old hmapped).2.2
      dsimp only
      split
      · rfl
      · rw [SessionMaps.byPn_drop, hpn, if_neg fun hboth => hne hboth.1]

theorem Manager.evictOwner_registry (manager : Manager) (sid : ℕ)
    (pn : String) :
    (manager.evictOwner sid pn).registry = manager.registry ∧
      (manager.evictOwner sid pn).peers = manager.peers := by
  unfold Manager.evictOwner
  split
  next old hmapped =>
    split
    · exact ⟨rfl, rfl⟩
    · cases hold : manager.sessions[old]? with
      | none =>
          unfold Manager.dropSession
          rw [hold]
          exact ⟨rfl, rfl⟩
      | some stale =>
          have hdropped := Manager.dropSession_eq hold
          exact ⟨hdropped.1, hdropped.2.1⟩
  next => exact ⟨rfl, rfl⟩

theorem Manager.identify_registry
    (hsession : manager.sessions[sid]? = some session) (pn now : String) :
    (manager.identify sid session pn now).registry =
        manager.registry.recordSeen pn session.peer .connected now ∧
      (manager.identify sid session pn now).peers = manager.peers := by
  have hnamed : Untouched manager
      (manager.setSession sid { session with pn := pn }) :=
    .setSession hsession rfl
  have hevicted := (manager.setSession sid
    { session with pn := pn }).evictOwner_registry sid pn
  rw [hnamed.registry, hnamed.peers] at hevicted
  constructor
  · exact congrArg (fun registry : EybondRegistry =>
      registry.recordSeen pn session.peer .connected now) hevicted.1
  · exact hevicted.2

/-- The first heartbeat of a session makes it the owner of its number. -/
theorem LiveInvariant.identify (hinv : LiveInvariant manager)
    (hsession : manager.sessions[sid]? = some session)
    (pn now other : String) :
    (manager.identify sid session pn now).registry.livePeer other =
      (manager.identify sid session pn now).ownerPeer other := by
  have hmem : session.peer ∈ manager.peers :=
    List.mem_map_of_mem (List.mem_of_getElem? hsession)
  have hpeer := hinv.named session.peer hmem
  have hview := congrArg Prod.fst
    (Manager.view_identify hinv.maps sid session pn now)
  have hmaps : (manager.identify sid session pn now).maps =
      (evict manager.maps manager.outline sid pn).claim pn sid := hview
  obtain ⟨hregistry, hpeers⟩ := Manager.identify_registry hsession pn now
  have hby : (manager.identify sid session pn now).maps.byPn.get? other =
      if other = pn then some sid
      else (evict manager.maps manager.outline sid pn).byPn.get? other := by
    rw [hmaps]
    exact Dict.get?_set _ pn other sid
  have hconsistent : manager.maps.Consistent manager.outline.pnOf :=
    hinv.maps.consistent
  rw [hregistry, EybondRegistry.livePeer_recordSeen _ hpeer]
  unfold Manager.ownerPeer
  rw [hby, hpeers]
  by_cases heq : other = pn
  · rw [if_pos heq, if_pos heq, Option.bind_some, Manager.peers,
      List.getElem?_map, hsession]
    rfl
  · rw [if_neg heq, if_neg heq, evict_byPn hconsistent sid heq]
    exact hinv.live other

theorem LiveInvariant.heartbeat (hinv : LiveInvariant manager)
    (hsession : manager.sessions[sid]? = some session) (payload : Bytes)
    (now : String)
    (howner : session.pn ≠ "" →
      manager.ownerPeer session.pn = some session.peer) :
    (∀ pn, (manager.heartbeatFrame sid session payload now).registry.livePeer
        pn =
      (manager.heartbeatFrame sid session payload now).ownerPeer pn) ∧
    (manager.heartbeatFrame sid session payload now).peers =
      manager.peers := by
  have hmem : session.peer ∈ manager.peers :=
    List.mem_map_of_mem (List.mem_of_getElem? hsession)
  have hpeer := hinv.named session.peer hmem
  unfold Manager.heartbeatFrame
  dsimp only
  split
  · exact ⟨hinv.identify hsession _ now,
      (Manager.identify_registry hsession _ now).2⟩
  · split
    next hidentified =>
      refine ⟨?_, rfl⟩
      intro pn
      have hlive := hinv.live pn
      rw [EybondRegistry.livePeer_recordSeen _ hpeer]
      split
      next heq =>
        rw [heq]
        exact (howner hidentified).symm
      next => exact hlive
    next => exact ⟨hinv.live, rfl⟩

/-- A teardown disconnects the record of a number that is left unmapped. -/
theorem LiveInvariant.teardown (hinv : LiveInvariant manager)
    {now : String} (hstep : manager.teardown sid now = some after) :
    (∀ pn, after.registry.livePeer pn = after.ownerPeer pn) ∧
      after.peers = manager.peers := by
  unfold Manager.teardown at hstep
  simp only [Option.bind_eq_bind, Option.bind_eq_some_iff] at hstep
  obtain ⟨session, hsession, hstep⟩ := hstep
  split at hstep
  · cases hstep
  · have hlength : sid < manager.sessions.length :=
      (List.getElem?_eq_some_iff.mp hsession).1
    have hclosed : (manager.setSession sid
        { session with handler := .closed }).sessions[sid]? =
          some { session with handler := .closed } :=
      List.getElem?_set_self hlength
    have hsame : Untouched manager
        (manager.setSession sid { session with handler := .closed }) :=
      .setSession hsession rfl
    obtain ⟨hregistry, hpeers, hmaps⟩ := Manager.dropSession_eq hclosed
    rw [hsame.registry] at hregistry
    rw [hsame.peers] at hpeers
    have hby : ∀ other, ((manager.setSession sid
        { session with handler := .closed }).dropSession
          sid).maps.byPn.get? other =
        if other = session.pn ∧ session.pn ≠ "" ∧
            manager.maps.byPn.get? session.pn = some sid then none
        else manager.maps.byPn.get? other := by
      intro other
      rw [hmaps]
      exact SessionMaps.byPn_drop manager.maps sid session.pn other
    generalize (manager.setSession sid
      { session with handler := .closed }).dropSession sid = dropped
      at hstep hregistry hpeers hby
    have howner : ∀ other, dropped.ownerPeer other =
        if other = session.pn ∧ session.pn ≠ "" ∧
            manager.maps.byPn.get? session.pn = some sid then none
        else manager.ownerPeer other := by
      intro other
      unfold Manager.ownerPeer
      rw [hby, hpeers]
      split <;> rfl
    split at hstep
    next hunmapped =>
      obtain rfl := Option.some.inj hstep
      refine ⟨?_, hpeers⟩
      intro pn
      have hnone : dropped.maps.byPn.get? session.pn = none := by
        simpa [Dict.contains] using hunmapped.2
      have hafter : ({ dropped with
          registry := dropped.registry.markDisconnected session.pn now } :
            Manager).ownerPeer pn = dropped.ownerPeer pn := rfl
      rw [EybondRegistry.livePeer_markDisconnected, hafter]
      split
      next heq =>
        rw [heq]
        exact (Manager.ownerPeer_of_unmapped hnone).symm
      next hne =>
        rw [howner, if_neg fun hboth => hne hboth.1, hregistry]
        exact hinv.live pn
    next hmapped =>
      obtain rfl := Option.some.inj hstep
      refine ⟨?_, hpeers⟩
      intro pn
      rw [howner, hregistry, hinv.live pn]
      split
      next howned =>
        have hdropped := hby session.pn
        rw [if_pos ⟨rfl, howned.2⟩] at hdropped
        exact absurd ⟨howned.2.1, by simp [Dict.contains, hdropped]⟩ hmapped
      next => rfl

end Writes

/-! ## Runs -/

section Steps

variable {manager after : Manager}

theorem LiveInvariant.accept (hinv : LiveInvariant manager)
    (address : Option (String × ℕ)) :
    LiveInvariant (manager.connect (peerText address)) := by
  have hstep : manager.step (.connect (peerText address)) =
      some (manager.connect (peerText address)) := rfl
  have hpeers : (manager.connect (peerText address)).peers =
      manager.peers ++ [peerText address] := by
    simp [Manager.connect, Manager.wake, Manager.peers, Session.connected]
  constructor
  · exact hinv.maps.after_step (mapsStep_of_step hinv.maps hstep)
  · rw [hpeers]
    intro peer hmem
    rcases List.mem_append.mp hmem with hold | hnew
    · exact hinv.named peer hold
    · rw [List.mem_singleton.mp hnew]
      exact peerText_ne_empty address
  · intro pn
    have hregistry : (manager.connect (peerText address)).registry =
        manager.registry := rfl
    have hby : (manager.connect (peerText address)).maps.byPn =
        manager.maps.byPn := rfl
    rw [hregistry, hinv.live pn]
    unfold Manager.ownerPeer
    rw [hby, hpeers]
    cases hmapped : manager.maps.byPn.get? pn with
    | none => rfl
    | some sid =>
        obtain ⟨session, hsession⟩ := hinv.session_of_mapped hmapped
        have hlength : sid < manager.peers.length := by
          rw [Manager.peers, List.length_map]
          exact (List.getElem?_eq_some_iff.mp hsession).1
        rw [Option.bind_some, Option.bind_some,
          List.getElem?_append_left hlength]

theorem LiveInvariant.of_untouched (hinv : LiveInvariant manager)
    (hmaps : MapsInvariant after.view) (hsame : Untouched manager after) :
    LiveInvariant after := by
  refine ⟨hmaps, ?_, ?_⟩
  · rw [hsame.peers]
    exact hinv.named
  · intro pn
    rw [hsame.registry, hsame.ownerPeer]
    exact hinv.live pn

theorem LiveInvariant.frame (hinv : LiveInvariant manager) {sid : ℕ}
    {received : Frame} {replyTo : Option ℕ} {now : String}
    (hstep : manager.step (.frame sid received replyTo now) = some after)
    (howner : manager.fromOwner
      (.session (.frame sid received replyTo now)) = true) :
    LiveInvariant after := by
  have hmaps := hinv.maps.after_step (mapsStep_of_step hinv.maps hstep)
  cases stepped_of_step hstep with
  | @heartbeat _ session _ hsession _ hcode =>
      have hpeer : session.pn ≠ "" →
          manager.ownerPeer session.pn = some session.peer := by
        intro hidentified
        simpa [Manager.fromOwner, hsession, hcode, hidentified] using howner
      obtain ⟨hlive, hpeers⟩ :=
        hinv.heartbeat hsession received.payload now hpeer
      refine ⟨hmaps, ?_, hlive⟩
      rw [hpeers]
      exact hinv.named
  | forward hsession =>
      exact hinv.of_untouched hmaps (.forwardFrame hsession _ _)
  | otherFrame => exact hinv
  | chosen hevent => cases hevent
  | unrouted hevent => cases hevent

theorem LiveInvariant.session (hinv : LiveInvariant manager) {event : Event}
    (hstep : manager.step event = some after)
    (hconnect : ∀ peer, event ≠ .connect peer)
    (howner : manager.fromOwner (.session event) = true) :
    LiveInvariant after := by
  have hmaps := hinv.maps.after_step (mapsStep_of_step hinv.maps hstep)
  cases hevent : event with
  | connect peer => exact absurd hevent (hconnect peer)
  | frame sid received replyTo now =>
      rw [hevent] at hstep howner
      exact hinv.frame hstep howner
  | teardown sid now =>
      rw [hevent] at hstep
      obtain ⟨hlive, hpeers⟩ := hinv.teardown hstep
      refine ⟨hmaps, ?_, hlive⟩
      rw [hpeers]
      exact hinv.named
  | disconnect | heartbeatTick | heartbeatFailed | sendFrame | startFailed |
      resolve | resume | waitTimeout | acquire | drained | drainFailed |
      replied | replyTimeout | cancel =>
      have hquiet : event.quiet = true := by
        rw [hevent]
        rfl
      exact hinv.of_untouched hmaps (untouched_of_quiet hquiet hstep)

theorem step_of_session {event : Event}
    (hstep : discoveryStep manager (.session event) = some after) :
    (∀ peer, event ≠ .connect peer) ∧ manager.step event = some after := by
  cases hevent : event with
  | connect peer =>
      rw [hevent] at hstep
      cases hstep
  | frame | teardown | disconnect | heartbeatTick | heartbeatFailed |
      sendFrame | startFailed | resolve | resume | waitTimeout | acquire |
      drained | drainFailed | replied | replyTimeout | cancel =>
      rw [hevent] at hstep
      exact ⟨by simp, hstep⟩

theorem LiveInvariant.after_step (hinv : LiveInvariant manager)
    {event : DiscoveryEvent} (hstep : discoveryStep manager event = some after)
    (howner : manager.fromOwner event = true) : LiveInvariant after := by
  cases event with
  | accept address =>
      obtain rfl := Option.some.inj hstep
      exact hinv.accept address
  | session event =>
      obtain ⟨hconnect, hevent⟩ := step_of_session hstep
      exact hinv.session hevent hconnect howner
  | configure op =>
      cases hsetter : op.isSetter with
      | true =>
          simp only [discoveryStep, hsetter, if_true,
            Option.some.injEq] at hstep
          subst hstep
          refine ⟨hinv.maps, hinv.named, ?_⟩
          intro pn
          have hkept : EybondRegistry.livePeer
              (op.apply manager.registry) pn =
                manager.registry.livePeer pn :=
            EybondRegistry.livePeer_setter hsetter pn
          exact hkept.trans (hinv.live pn)
      | false => simp [discoveryStep, hsetter] at hstep

end Steps

theorem initial_liveInvariant {registry : EybondRegistry}
    (hstart : ∀ pn record, registry.get? pn = some record →
      record.status = .disconnected) :
    LiveInvariant (Manager.initial registry) := by
  refine ⟨initial_mapsInvariant, ?_, ?_⟩
  · intro peer hmem
    cases hmem
  · intro pn
    have hnone : registry.livePeer pn = none := by
      cases hget : registry.get? pn with
      | none => exact EybondRegistry.livePeer_of_none hget
      | some record =>
          rw [EybondRegistry.livePeer_of_get? hget, hstart pn record hget]
          rfl
    exact hnone

/-- As long as every heartbeat of an identified session comes from where the
owner of its number is, a record is connected exactly while its number is
mapped, from the peer of the mapped session. -/
theorem registryLive_of_run {registry : EybondRegistry}
    {events : List DiscoveryEvent} {final : Manager}
    (hstart : ∀ pn record, registry.get? pn = some record →
      record.status = .disconnected)
    (hrun : Run (guarded (graph discoveryStep)
      fun manager event => manager.fromOwner event = true)
      (Manager.initial registry) events final) :
    RegistryLive final := by
  have hinv := hrun.invariant LiveInvariant (initial_liveInvariant hstart)
    fun _ _ _ hbefore hstep => hbefore.after_step hstep.1 hstep.2
  exact hinv.registryLive

/-- Any other heartbeat ends the agreement. -/
theorem not_registryLive_of_stale {manager : Manager} {sid : ℕ}
    {session : Session} (hinv : LiveInvariant manager)
    (hsession : manager.sessions[sid]? = some session)
    (hidentified : session.pn ≠ "")
    (hstale : manager.ownerPeer session.pn ≠ some session.peer)
    (payload : Bytes) (now : String) :
    ¬ RegistryLive (manager.heartbeatFrame sid session payload now) := by
  intro hafter
  have hmem : session.peer ∈ manager.peers :=
    List.mem_map_of_mem (List.mem_of_getElem? hsession)
  have hframe : manager.heartbeatFrame sid session payload now =
      { manager with
        registry := manager.registry.recordSeen session.pn session.peer
          .connected now } := by
    simp [Manager.heartbeatFrame, hidentified]
  rw [hframe] at hafter
  have hlive : (manager.registry.recordSeen session.pn session.peer
      .connected now).livePeer session.pn = some session.peer := by
    rw [EybondRegistry.livePeer_recordSeen _ (hinv.named _ hmem), if_pos rfl]
  obtain ⟨record, hget, hstatus, hpeer⟩ :=
    EybondRegistry.livePeer_eq_some_iff.mp hlive
  obtain ⟨owner, hmapped⟩ :=
    (hafter.connected session.pn).mp ⟨record, hget, hstatus⟩
  obtain ⟨other, owning, hother, howning, hsame⟩ :=
    hafter.peer session.pn owner hmapped
  rw [hget] at hother
  obtain rfl := Option.some.inj hother
  have howner : manager.ownerPeer session.pn = some owning.peer :=
    Manager.ownerPeer_of_mapped hmapped howning
  apply hstale
  rw [howner, ← hsame, hpeer]

/-- A dongle connects, reconnects before its first connection has ended, and
is configured. -/
def reconnect : List DiscoveryEvent :=
  let hello := heartbeatOf "E5000020000001"
  [.accept (some ("10.0.0.7", 5001)), .session (.frame 0 hello none "t0"),
    .accept (some ("10.0.0.7", 5002)), .session (.frame 1 hello none "t1"),
    .configure (.setEnabled "E5000020000001" true),
    .session (.disconnect 0), .session (.teardown 0 "t2")]

def afterReconnect : Manager :=
  (execute (guardedNext discoveryStep Manager.fromOwner)
    (Manager.initial .empty) reconnect).get (by decide +kernel)

theorem registryLive_reconnect : RegistryLive afterReconnect := by
  have hrun : Run (guarded (graph discoveryStep)
      fun manager event => manager.fromOwner event = true)
      (Manager.initial .empty) reconnect afterReconnect :=
    run_of_guarded_execute (Option.some_get _).symm
  refine registryLive_of_run ?_ hrun
  intro pn record hget
  cases hget

/-- The same with a heartbeat that was still buffered on the evicted
session. -/
def staleHeartbeat : List DiscoveryEvent :=
  let hello := heartbeatOf "E5000020000001"
  [.accept (some ("10.0.0.7", 5001)), .session (.frame 0 hello none "t0"),
    .accept (some ("10.0.0.7", 5002)), .session (.frame 1 hello none "t1"),
    .session (.frame 0 hello none "t2")]

def afterStaleHeartbeat : Manager :=
  (execute discoveryStep (Manager.initial .empty) staleHeartbeat).get
    (by decide +kernel)

theorem staleHeartbeat_moves_peer :
    ¬ ∀ (registry : EybondRegistry) (events : List DiscoveryEvent)
      (final : Manager),
      (∀ pn record, registry.get? pn = some record →
        record.status = .disconnected) →
      Run (graph discoveryStep) (Manager.initial registry) events final →
      RegistryLive final := by
  intro hall
  have hrun : Run (graph discoveryStep) (Manager.initial .empty)
      staleHeartbeat afterStaleHeartbeat :=
    run_of_execute (Option.some_get _).symm
  have hlive := hall .empty staleHeartbeat afterStaleHeartbeat
    (by intro pn record hget; cases hget) hrun
  have hmapped : afterStaleHeartbeat.maps.byPn.get? "E5000020000001" =
      some 1 := by
    decide +kernel
  obtain ⟨record, session, hget, hsession, hpeer⟩ :=
    hlive.peer "E5000020000001" 1 hmapped
  have hrecord : (afterStaleHeartbeat.registry.get?
      "E5000020000001").map DongleRecord.peer = some "10.0.0.7:5001" := by
    decide +kernel
  have howner : (afterStaleHeartbeat.sessions[1]?).map Session.peer =
      some "10.0.0.7:5002" := by
    decide +kernel
  rw [hget] at hrecord
  rw [hsession] at howner
  have hsame : "10.0.0.7:5001" = "10.0.0.7:5002" := by
    rw [← Option.some.inj hrecord, ← Option.some.inj howner]
    exact hpeer
  exact absurd hsame (by decide)

end Eybond
end DessMonitor
