import DessMonitor.EybondSessionMaps
import DessMonitor.Foundation.StoreGrowth

/-!
# Events that exchange nothing

Most events neither issue a transaction id nor deliver a reply.  All they can
do to the sessions and requests is summed up in a relation that composes:
sessions keep their id and forget pending futures, requests keep their result
and are written by nobody.
-/

namespace DessMonitor
namespace Eybond

open StoreGrowth

/-! ## Sessions -/

structure Session.Drifts (session moved : Session) : Prop where
  pn : moved.pn = session.pn ∨ session.pn = ""
  tid : moved.tid = session.tid
  pending : ∀ id rid, moved.pending.get? id = some rid →
    session.pending.get? id = some rid

structure Session.Blank (session : Session) : Prop where
  tid : session.tid = 0
  pending : ∀ id, session.pending.get? id = none

theorem Session.Drifts.refl (session : Session) : session.Drifts session := by
  constructor
  · exact .inl rfl
  · rfl
  · intro id rid hpending
    exact hpending

theorem Session.Drifts.trans {first second third : Session}
    (hleft : first.Drifts second) (hright : second.Drifts third) :
    first.Drifts third := by
  constructor
  · rcases hleft.pn with hsame | hempty
    · rw [← hsame]
      exact hright.pn
    · exact .inr hempty
  · exact hright.tid.trans hleft.tid
  · intro id rid hpending
    exact hleft.pending id rid (hright.pending id rid hpending)

theorem Session.Blank.drift {session moved : Session} (hblank : session.Blank)
    (hdrift : session.Drifts moved) : moved.Blank := by
  constructor
  · exact hdrift.tid.trans hblank.tid
  · intro id
    cases hpending : moved.pending.get? id with
    | none => rfl
    | some rid =>
        have hold := hdrift.pending id rid hpending
        rw [hblank.pending id] at hold
        cases hold

theorem Session.Drifts.erase (session : Session) (id : ℕ) :
    session.Drifts { session with pending := session.pending.erase id } := by
  constructor
  · exact .inl rfl
  · rfl
  · intro other rid hpending
    rw [Dict.get?_erase] at hpending
    by_cases heq : other = id
    · rw [if_pos heq] at hpending
      cases hpending
    · rw [if_neg heq] at hpending
      exact hpending

theorem Session.Drifts.clear (session : Session) :
    session.Drifts { session with pending := .empty } := by
  constructor
  · exact .inl rfl
  · rfl
  · intro id rid hpending
    cases hpending

/-! ## Requests -/

/-- `route` tells to which session a request for a target may be queued. -/
structure Request.Drifts (route : Option String → ℕ → Prop)
    (request moved : Request) : Prop where
  pn : moved.pn = request.pn
  result : ∀ payload, moved.future = .result payload ↔
    request.future = .result payload
  returned : ∀ payload, moved.phase = .returned (some payload) →
    request.phase = .returned (some payload) ∨
      request.future = .result payload
  unwritten : moved.phase.unwritten = true → request.phase.unwritten = true
  queued : ∀ sid, moved.phase = .queued sid →
    request.phase = .queued sid ∨ route request.target sid

structure Request.Blank (route : Option String → ℕ → Prop)
    (request : Request) : Prop where
  result : ∀ payload, request.future ≠ .result payload
  returned : ∀ payload, request.phase ≠ .returned (some payload)
  queued : ∀ sid, request.phase = .queued sid → route request.target sid

section Requests

variable {route : Option String → ℕ → Prop}
  {request moved first second third : Request}

theorem Request.target_congr (hpn : moved.pn = request.pn) :
    moved.target = request.target := by
  unfold Request.target
  rw [hpn]

theorem Request.target_ne_empty {pn : String}
    (htarget : request.target = some pn) : pn ≠ "" := by
  unfold Request.target at htarget
  have hkept := (Option.filter_eq_some_iff.mp htarget).2
  simpa using hkept

theorem Request.Drifts.refl (request : Request) :
    request.Drifts route request := by
  constructor
  · rfl
  · intro payload
    exact Iff.rfl
  · intro payload hreturned
    exact .inl hreturned
  · intro hunwritten
    exact hunwritten
  · intro sid hqueued
    exact .inl hqueued

theorem Request.Drifts.trans (hleft : first.Drifts route second)
    (hright : second.Drifts route third) : first.Drifts route third := by
  constructor
  · exact hright.pn.trans hleft.pn
  · intro payload
    exact (hright.result payload).trans (hleft.result payload)
  · intro payload hreturned
    rcases hright.returned payload hreturned with hmiddle | hresult
    · exact hleft.returned payload hmiddle
    · exact .inr ((hleft.result payload).mp hresult)
  · intro hunwritten
    exact hleft.unwritten (hright.unwritten hunwritten)
  · intro sid hqueued
    rcases hright.queued sid hqueued with hmiddle | hroute
    · exact hleft.queued sid hmiddle
    · right
      rw [← Request.target_congr hleft.pn]
      exact hroute

theorem Request.Blank.drift (hblank : request.Blank route)
    (hdrift : request.Drifts route moved) : moved.Blank route := by
  constructor
  · intro payload hresult
    exact hblank.result payload ((hdrift.result payload).mp hresult)
  · intro payload hreturned
    rcases hdrift.returned payload hreturned with hold | hresult
    · exact hblank.returned payload hold
    · exact hblank.result payload hresult
  · intro sid hqueued
    rw [Request.target_congr hdrift.pn]
    rcases hdrift.queued sid hqueued with hold | hroute
    · exact hblank.queued sid hold
    · exact hroute

/-- Moving to a phase that waits or ends without a reply. -/
theorem Request.Drifts.phase {phase : RequestPhase}
    (hreturned : ∀ payload, phase = .returned (some payload) →
      request.future = .result payload)
    (hunwritten : phase.unwritten = true → request.phase.unwritten = true)
    (hqueued : ∀ sid, phase = .queued sid → route request.target sid) :
    request.Drifts route { request with phase := phase } := by
  constructor
  · rfl
  · intro payload
    exact Iff.rfl
  · intro payload hphase
    exact .inr (hreturned payload hphase)
  · exact hunwritten
  · intro sid hphase
    exact .inr (hqueued sid hphase)

theorem Request.Drifts.future {future : Future}
    (hresult : ∀ payload, future = .result payload ↔
      request.future = .result payload) :
    request.Drifts route { request with future := future } := by
  constructor
  · rfl
  · exact hresult
  · intro payload hphase
    exact .inl hphase
  · intro hphase
    exact hphase
  · intro sid hphase
    exact .inl hphase

theorem cancel_result (future : Future) (payload : Bytes) :
    Manager.Future.cancel future = .result payload ↔
      future = .result payload := by
  unfold Manager.Future.cancel
  cases future <;> simp [Future.done]

end Requests

/-! ## The manager -/

structure Manager.Drifts (routes : ℕ → Option String → ℕ → Prop)
    (before after : Manager) : Prop where
  sessions : Grows (fun _ => Session.Drifts) (fun _ => Session.Blank)
    before.sessions after.sessions
  requests : Grows (fun rid => Request.Drifts (routes rid))
    (fun rid => Request.Blank (routes rid)) before.requests after.requests

namespace Manager

variable {routes : ℕ → Option String → ℕ → Prop}
  {manager before middle after : Manager} {sid rid : ℕ} {session : Session}
  {request : Request}

theorem Drifts.of_eq (hsessions : after.sessions = before.sessions)
    (hrequests : after.requests = before.requests) :
    before.Drifts routes after := by
  constructor
  · rw [hsessions]
    exact Grows.refl (fun _ => Session.Drifts.refl) _
  · rw [hrequests]
    exact Grows.refl (fun _ => Request.Drifts.refl) _

theorem Drifts.trans (hleft : before.Drifts routes middle)
    (hright : middle.Drifts routes after) : before.Drifts routes after := by
  constructor
  · apply Grows.trans _ _ hleft.sessions hright.sessions
    · intro _ first second third hfirst hsecond
      exact hfirst.trans hsecond
    · intro _ first second hblank hdrift
      exact hblank.drift hdrift
  · apply Grows.trans _ _ hleft.requests hright.requests
    · intro _ first second third hfirst hsecond
      exact hfirst.trans hsecond
    · intro _ first second hblank hdrift
      exact hblank.drift hdrift

theorem Drifts.setSession (hsession : manager.sessions[sid]? = some session)
    {moved : Session} (hdrift : session.Drifts moved) :
    manager.Drifts routes (manager.setSession sid moved) := by
  constructor
  · exact Grows.set (fun _ => Session.Drifts.refl) hsession hdrift
  · exact Grows.refl (fun _ => Request.Drifts.refl) _

/-- The lock, the handler and the heartbeat task do not matter. -/
theorem Drifts.setFlags (hsession : manager.sessions[sid]? = some session)
    {moved : Session} (hpn : moved.pn = session.pn)
    (htid : moved.tid = session.tid)
    (hpending : moved.pending = session.pending) :
    manager.Drifts routes (manager.setSession sid moved) := by
  apply Drifts.setSession hsession
  constructor
  · exact .inl hpn
  · exact htid
  · intro id rid hfound
    rw [hpending] at hfound
    exact hfound

theorem Drifts.setRequest (hrequest : manager.requests[rid]? = some request)
    {moved : Request} (hdrift : request.Drifts (routes rid) moved) :
    manager.Drifts routes (manager.setRequest rid moved) := by
  constructor
  · exact Grows.refl (fun _ => Session.Drifts.refl) _
  · exact Grows.set (fun _ => Request.Drifts.refl) hrequest hdrift

theorem Drifts.wake (manager : Manager) (target : Option String) :
    manager.Drifts routes (manager.wake target) := by
  constructor
  · exact Grows.refl (fun _ => Session.Drifts.refl) _
  · apply Grows.map
    intro rid request hrequest
    split
    next woken hphase =>
      apply Request.Drifts.phase
      · intro payload hreturned
        cases hreturned
      · intro _
        rw [hphase]
        rfl
      · intro sid hqueued
        cases hqueued
    next => exact Request.Drifts.refl request

theorem Drifts.failPending (manager : Manager) (pending : Dict ℕ ℕ) :
    manager.Drifts routes (manager.failPending pending) := by
  constructor
  · exact Grows.refl (fun _ => Session.Drifts.refl) _
  · apply Grows.mapIdx
    intro rid request hrequest
    split
    next hpending =>
      apply Request.Drifts.future
      intro payload
      simp [hpending.2]
    next => exact Request.Drifts.refl request

theorem Drifts.dropSession (manager : Manager) (sid : ℕ) :
    manager.Drifts routes (manager.dropSession sid) := by
  unfold Manager.dropSession
  cases hsession : manager.sessions[sid]? with
  | none => exact Drifts.of_eq rfl rfl
  | some session =>
      have hmaps : manager.Drifts routes
          { manager with maps := manager.maps.drop sid session.pn } :=
        Drifts.of_eq rfl rfl
      apply (hmaps.trans (Drifts.failPending _ session.pending)).trans
      have hsame : ({ manager with
          maps := manager.maps.drop sid session.pn } : Manager).failPending
            session.pending |>.sessions[sid]? = some session := hsession
      exact Drifts.setSession hsame (Session.Drifts.clear session)

theorem Drifts.evictOwner (manager : Manager) (sid : ℕ) (pn : String) :
    manager.Drifts routes (manager.evictOwner sid pn) := by
  unfold Manager.evictOwner
  split
  · split
    · exact Drifts.of_eq rfl rfl
    · exact Drifts.dropSession manager _
  · exact Drifts.of_eq rfl rfl

theorem Drifts.popPending (manager : Manager) (sid tid : ℕ) :
    manager.Drifts routes (manager.popPending sid tid) := by
  unfold Manager.popPending
  cases hsession : manager.sessions[sid]? with
  | none => exact Drifts.of_eq rfl rfl
  | some session =>
      exact Drifts.setSession hsession (Session.Drifts.erase session tid)

theorem Drifts.releaseLock (manager : Manager) (sid : ℕ) :
    manager.Drifts routes (manager.releaseLock sid) := by
  unfold Manager.releaseLock
  cases hsession : manager.sessions[sid]? with
  | none => exact Drifts.of_eq rfl rfl
  | some session => exact Drifts.setFlags hsession rfl rfl rfl

@[simp] theorem requests_popPending (manager : Manager) (sid tid : ℕ) :
    (manager.popPending sid tid).requests = manager.requests := by
  unfold Manager.popPending
  split <;> rfl

@[simp] theorem requests_releaseLock (manager : Manager) (sid : ℕ) :
    (manager.releaseLock sid).requests = manager.requests := by
  unfold Manager.releaseLock
  split <;> rfl

/-- Ending a request, or moving it on after its frame was written. -/
theorem Drifts.settle (hrequest : manager.requests[rid]? = some request)
    {phase : RequestPhase} (hunwritten : phase.unwritten = false)
    (hreturned : ∀ payload, phase = .returned (some payload) →
      request.future = .result payload) :
    manager.Drifts routes (manager.settle rid request phase) := by
  apply Drifts.setRequest hrequest
  apply Request.Drifts.phase hreturned
  · intro hphase
    rw [hunwritten] at hphase
    cases hphase
  · intro sid hqueued
    rw [hqueued] at hunwritten
    cases hunwritten

theorem Drifts.await (hrequest : manager.requests[rid]? = some request)
    (hphase : request.phase.unwritten = true) (ready : Bool) :
    manager.Drifts routes (manager.settle rid request (.waiting ready)) := by
  apply Drifts.setRequest hrequest
  apply Request.Drifts.phase
  · intro payload hreturned
    cases hreturned
  · intro _
    exact hphase
  · intro sid hqueued
    cases hqueued

theorem Drifts.abort (hrequest : manager.requests[rid]? = some request)
    {phase : RequestPhase} (hunwritten : phase.unwritten = false)
    (hreply : ∀ payload, phase ≠ .returned (some payload)) :
    manager.Drifts routes (manager.setRequest rid
      { request with
        phase := phase
        future := Manager.Future.cancel request.future }) := by
  apply Drifts.setRequest hrequest
  constructor
  · rfl
  · intro payload
    exact cancel_result request.future payload
  · intro payload hphase
    exact absurd hphase (hreply payload)
  · intro hphase
    rw [hunwritten] at hphase
    cases hphase
  · intro sid hqueued
    have hphase : phase = .queued sid := hqueued
    rw [hphase] at hunwritten
    cases hunwritten

theorem Drifts.connect (manager : Manager) (peer : String) :
    manager.Drifts routes (manager.connect peer) := by
  apply Drifts.trans _ (Drifts.wake _ none)
  constructor
  · apply Grows.append (fun _ => Session.Drifts.refl)
    constructor
    · rfl
    · intro id
      rfl
  · exact Grows.refl (fun _ => Request.Drifts.refl) _

theorem Drifts.sendFrame (manager : Manager) (pn : Option String) :
    manager.Drifts routes (manager.sendFrame pn) := by
  constructor
  · exact Grows.refl (fun _ => Session.Drifts.refl) _
  · apply Grows.append (fun _ => Request.Drifts.refl)
    constructor
    · intro payload hresult
      cases hresult
    · intro payload hreturned
      cases hreturned
    · intro sid hqueued
      cases hqueued

theorem Drifts.identify (hsession : manager.sessions[sid]? = some session)
    (hunnamed : session.pn = "") (pn now : String) :
    manager.Drifts routes (manager.identify sid session pn now) := by
  have hnamed : manager.Drifts routes
      (manager.setSession sid { session with pn := pn }) := by
    apply Drifts.setSession hsession
    constructor
    · exact .inr hunnamed
    · rfl
    · intro id rid hpending
      exact hpending
  have hevicted := hnamed.trans (Drifts.evictOwner _ sid pn)
  unfold Manager.identify
  dsimp only
  generalize (manager.setSession sid { session with pn := pn }).evictOwner
    sid pn = evicted at hevicted ⊢
  have hclaimed : manager.Drifts routes
      { evicted with maps := evicted.maps.claim pn sid } :=
    hevicted.trans (Drifts.of_eq rfl rfl)
  exact (hclaimed.trans (Drifts.wake _ (some pn))).trans
    (Drifts.of_eq rfl rfl)

theorem Drifts.heartbeatFrame
    (hsession : manager.sessions[sid]? = some session) (payload : Bytes)
    (now : String) :
    manager.Drifts routes (manager.heartbeatFrame sid session payload now) := by
  unfold Manager.heartbeatFrame
  dsimp only
  split
  next hfirst => exact Drifts.identify hsession hfirst.2 _ now
  next =>
    split
    · exact Drifts.of_eq rfl rfl
    · exact Drifts.of_eq rfl rfl

theorem Drifts.teardown (hsession : manager.sessions[sid]? = some session)
    (registry : EybondRegistry) :
    manager.Drifts routes
      { (manager.setSession sid
          { session with handler := .closed }).dropSession sid with
        registry := registry } := by
  have hclosed : manager.Drifts routes
      (manager.setSession sid { session with handler := .closed }) :=
    Drifts.setFlags hsession rfl rfl rfl
  apply (hclosed.trans (Drifts.dropSession _ sid)).trans
  exact Drifts.of_eq rfl rfl

end Manager

end Eybond
end DessMonitor
