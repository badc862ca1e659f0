import DessMonitor.EybondManagerModel

/-!
# What one event of the manager can do

`Stepped` lists the changes an event can make, each with the facts the code
has checked before making it.  Every invariant of the manager is a case
analysis over this list.
-/

namespace DessMonitor
namespace Eybond

/-! ## The list -/

/-- The request whose session an event looks up. -/
def Event.resolving : Event → Option ℕ
  | .resolve rid => some rid
  | .resume rid => some rid
  | _ => none

/-- A request is routed to the session of its product number, or, without
one, to the only session there is. -/
def SessionMaps.Chosen (maps : SessionMaps) (target : Option String)
    (sid : ℕ) : Prop :=
  match target with
  | some pn => maps.byPn.get? pn = some sid
  | none => maps.live = {sid}

def RequestPhase.unwritten : RequestPhase → Bool
  | .starting => true
  | .waiting _ => true
  | .queued _ => true
  | _ => false

inductive Stepped (manager : Manager) : Event → Manager → Prop where
  | connect (peer : String) :
      Stepped manager (.connect peer) (manager.connect peer)
  | heartbeat {sid : ℕ} {session : Session} {received : Frame}
      (hsession : manager.sessions[sid]? = some session)
      (hreading : session.handler = .reading)
      (hcode : received.fcode = fcHeartbeat)
      (replyTo : Option ℕ) (now : String) :
      Stepped manager (.frame sid received replyTo now)
        (manager.heartbeatFrame sid session received.payload now)
  | forward {sid : ℕ} {session : Session} {received : Frame}
      (hsession : manager.sessions[sid]? = some session)
      (hcode : received.fcode = fcForward2Device)
      (replyTo : Option ℕ) (now : String) :
      Stepped manager (.frame sid received replyTo now)
        (manager.forwardFrame sid session received.tid received.payload)
  | otherFrame {received : Frame} (hcode : received.fcode ≠ fcForward2Device)
      (sid : ℕ) (replyTo : Option ℕ) (now : String) :
      Stepped manager (.frame sid received replyTo now) manager
  | disconnect {sid : ℕ} {session : Session}
      (hsession : manager.sessions[sid]? = some session)
      (hreading : session.handler = .reading) :
      Stepped manager (.disconnect sid)
        (manager.setSession sid
          { session with handler := .closing, heartbeat := false })
  | teardown {sid : ℕ} {session : Session}
      (hsession : manager.sessions[sid]? = some session)
      (hclosing : session.handler = .closing)
      (now : String) (registry : EybondRegistry) :
      Stepped manager (.teardown sid now)
        { (manager.setSession sid
            { session with handler := .closed }).dropSession sid with
          registry := registry }
  | heartbeatTick {sid : ℕ} {session : Session}
      (hsession : manager.sessions[sid]? = some session) :
      Stepped manager (.heartbeatTick sid)
        (manager.setSession sid { session with tid := nextTid session.tid })
  | heartbeatFailed {sid : ℕ} {session : Session}
      (hsession : manager.sessions[sid]? = some session) :
      Stepped manager (.heartbeatFailed sid)
        (manager.setSession sid { session with heartbeat := false })
  | sendFrame (pn : Option String) :
      Stepped manager (.sendFrame pn) (manager.sendFrame pn)
  | startFailed {rid : ℕ} {request : Request}
      (hrequest : manager.requests[rid]? = some request) :
      Stepped manager (.startFailed rid) (manager.settle rid request .raised)
  | chosen {event : Event} {rid sid : ℕ} {request : Request}
      (hevent : event.resolving = some rid)
      (hrequest : manager.requests[rid]? = some request)
      (hphase : request.phase.unwritten = true)
      (hchosen : manager.maps.Chosen request.target sid) :
      Stepped manager event (manager.settle rid request (.queued sid))
  | unrouted {event : Event} {rid : ℕ} {request : Request}
      (hevent : event.resolving = some rid)
      (hrequest : manager.requests[rid]? = some request) :
      Stepped manager event (manager.settle rid request (.returned none))
  | awaitNumber {rid : ℕ} {request : Request} {pn : String}
      (hrequest : manager.requests[rid]? = some request)
      (hphase : request.phase.unwritten = true)
      (hunmapped : manager.maps.byPn.get? pn = none) (ready : Bool) :
      Stepped manager (.resolve rid)
        (({ manager with maps := (manager.maps.readyEventFor pn).1 }).settle
          rid request (.waiting ready))
  | awaitAny {rid : ℕ} {request : Request}
      (hrequest : manager.requests[rid]? = some request)
      (hphase : request.phase.unwritten = true) (ready : Bool) :
      Stepped manager (.resolve rid)
        (manager.settle rid request (.waiting ready))
  | waitTimeout {rid : ℕ} {request : Request}
      (hrequest : manager.requests[rid]? = some request) :
      Stepped manager (.waitTimeout rid)
        (manager.settle rid request (.returned none))
  | acquire {rid sid : ℕ} {request : Request} {session : Session}
      (hrequest : manager.requests[rid]? = some request)
      (hphase : request.phase = .queued sid)
      (hsession : manager.sessions[sid]? = some session) :
      Stepped manager (.acquire rid)
        ((manager.setSession sid (session.register rid)).setRequest rid
          { request with
            phase := .draining sid (session.register rid).tid
            future := .pending })
  | drained {rid sid tid : ℕ} {request : Request}
      (hrequest : manager.requests[rid]? = some request)
      (hphase : request.phase = .draining sid tid) :
      Stepped manager (.drained rid)
        (manager.settle rid request (.awaiting sid tid))
  | drainFailed {rid : ℕ} {request : Request}
      (hrequest : manager.requests[rid]? = some request) (sid tid : ℕ) :
      Stepped manager (.drainFailed rid)
        (((manager.popPending sid tid).releaseLock sid).settle rid request
          (.returned none))
  | replied {rid : ℕ} {request : Request} {reply : Option Bytes}
      (hrequest : manager.requests[rid]? = some request)
      (hreply : ∀ payload, reply = some payload →
        request.future = .result payload) (sid : ℕ) :
      Stepped manager (.replied rid)
        ((manager.releaseLock sid).settle rid request (.returned reply))
  | replyTimeout {rid : ℕ} {request : Request}
      (hrequest : manager.requests[rid]? = some request) (sid tid : ℕ) :
      Stepped manager (.replyTimeout rid)
        (((manager.popPending sid tid).releaseLock sid).setRequest rid
          { request with
            phase := .returned none
            future := Manager.Future.cancel request.future })
  | abandoned {rid : ℕ} {request : Request}
      (hrequest : manager.requests[rid]? = some request) :
      Stepped manager (.cancel rid) (manager.settle rid request .raised)
  | cancelWrite {rid : ℕ} {request : Request}
      (hrequest : manager.requests[rid]? = some request) (sid : ℕ) :
      Stepped manager (.cancel rid)
        ((manager.releaseLock sid).settle rid request .raised)
  | cancelReply {rid : ℕ} {request : Request}
      (hrequest : manager.requests[rid]? = some request) (sid : ℕ) :
      Stepped manager (.cancel rid)
        ((manager.releaseLock sid).setRequest rid
          { request with
            phase := .raised
            future := Manager.Future.cancel request.future })

/-! ## It is complete -/

theorem SessionMaps.chosen_of_pnlessTarget {maps : SessionMaps}
    {sessions sid : ℕ} (htarget : maps.pnlessTarget sessions = some sid) :
    maps.Chosen none sid := by
  unfold SessionMaps.pnlessTarget at htarget
  by_cases hcard : maps.live.card = 1
  · rw [if_pos hcard] at htarget
    have hmem : sid ∈ maps.live := by
      simpa using List.find?_some htarget
    obtain ⟨only, honly⟩ := Finset.card_eq_one.mp hcard
    rw [honly, Finset.mem_singleton] at hmem
    subst hmem
    exact honly
  · rw [if_neg hcard] at htarget
    cases htarget

section Completeness

variable {manager after : Manager} {rid sid : ℕ}

theorem stepped_of_routed {event : Event} {request : Request}
    (hevent : event.resolving = some rid)
    (hrequest : manager.requests[rid]? = some request)
    (hphase : request.phase.unwritten = true) {found : Option ℕ}
    (hchosen : ∀ sid, found = some sid →
      manager.maps.Chosen request.target sid) :
    Stepped manager event (manager.routed rid request found) := by
  cases found with
  | none => exact .unrouted hevent hrequest
  | some sid => exact .chosen hevent hrequest hphase (hchosen sid rfl)

theorem stepped_of_frame {received : Frame} {now : String}
    (replyTo : Option ℕ)
    (hstep : manager.frame sid received now = some after) :
    Stepped manager (.frame sid received replyTo now) after := by
  unfold Manager.frame at hstep
  simp only [Option.bind_eq_bind, Option.bind_eq_some_iff] at hstep
  obtain ⟨session, hsession, hstep⟩ := hstep
  by_cases hreading : session.handler = .reading
  · rw [if_neg (not_not.mpr hreading)] at hstep
    by_cases hheartbeat : received.fcode = fcHeartbeat
    · rw [if_pos hheartbeat] at hstep
      obtain rfl := Option.some.inj hstep
      exact .heartbeat hsession hreading hheartbeat replyTo now
    · rw [if_neg hheartbeat] at hstep
      by_cases hforward : received.fcode = fcForward2Device
      · rw [if_pos hforward] at hstep
        obtain rfl := Option.some.inj hstep
        exact .forward hsession hforward replyTo now
      · rw [if_neg hforward] at hstep
        obtain rfl := Option.some.inj hstep
        exact .otherFrame hforward sid replyTo now
  · rw [if_pos hreading] at hstep
    cases hstep

theorem stepped_of_disconnect (hstep : manager.disconnect sid = some after) :
    Stepped manager (.disconnect sid) after := by
  unfold Manager.disconnect at hstep
  simp only [Option.bind_eq_bind, Option.bind_eq_some_iff] at hstep
  obtain ⟨session, hsession, hstep⟩ := hstep
  by_cases hreading : session.handler = .reading
  · rw [if_neg (not_not.mpr hreading)] at hstep
    obtain rfl := Option.some.inj hstep
    exact .disconnect hsession hreading
  · rw [if_pos hreading] at hstep
    cases hstep

theorem stepped_of_teardown {now : String}
    (hstep : manager.teardown sid now = some after) :
    Stepped manager (.teardown sid now) after := by
  unfold Manager.teardown at hstep
  simp only [Option.bind_eq_bind, Option.bind_eq_some_iff] at hstep
  obtain ⟨session, hsession, hstep⟩ := hstep
  by_cases hclosing : session.handler = .closing
  · rw [if_neg (not_not.mpr hclosing)] at hstep
    obtain rfl := Option.some.inj hstep
    split
    · exact .teardown hsession hclosing now _
    · exact .teardown hsession hclosing now
        ((manager.setSession sid
          { session with handler := .closed }).dropSession sid).registry
  · rw [if_pos hclosing] at hstep
    cases hstep

theorem stepped_of_heartbeatTick
    (hstep : manager.heartbeatTick sid = some after) :
    Stepped manager (.heartbeatTick sid) after := by
  unfold Manager.heartbeatTick at hstep
  simp only [Option.bind_eq_bind, Option.bind_eq_some_iff] at hstep
  obtain ⟨session, hsession, hstep⟩ := hstep
  split at hstep
  · obtain rfl := Option.some.inj hstep
    exact .heartbeatTick hsession
  · cases hstep

theorem stepped_of_heartbeatFailed
    (hstep : manager.heartbeatFailed sid = some after) :
    Stepped manager (.heartbeatFailed sid) after := by
  unfold Manager.heartbeatFailed at hstep
  simp only [Option.bind_eq_bind, Option.bind_eq_some_iff] at hstep
  obtain ⟨session, hsession, hstep⟩ := hstep
  split at hstep
  · obtain rfl := Option.some.inj hstep
    exact .heartbeatFailed hsession
  · cases hstep

theorem stepped_of_startFailed (hstep : manager.startFailed rid = some after) :
    Stepped manager (.startFailed rid) after := by
  unfold Manager.startFailed at hstep
  simp only [Option.bind_eq_bind, Option.bind_eq_some_iff] at hstep
  obtain ⟨request, hrequest, hstep⟩ := hstep
  split at hstep
  · obtain rfl := Option.some.inj hstep
    exact .startFailed hrequest
  · cases hstep

theorem stepped_of_resolve (hstep : manager.resolve rid = some after) :
    Stepped manager (.resolve rid) after := by
  unfold Manager.resolve at hstep
  simp only [Option.bind_eq_bind, Option.bind_eq_some_iff] at hstep
  obtain ⟨request, hrequest, hstep⟩ := hstep
  by_cases hstarting : request.phase = .starting
  · rw [if_neg (not_not.mpr hstarting)] at hstep
    have hphase : request.phase.unwritten = true := by
      rw [hstarting]
      rfl
    cases htarget : request.target with
    | some pn =>
        simp only [htarget] at hstep
        cases hmapped : manager.maps.byPn.get? pn with
        | some sid =>
            simp only [hmapped, Option.some.injEq] at hstep
            subst hstep
            apply Stepped.chosen rfl hrequest hphase
            rw [htarget]
            exact hmapped
        | none =>
            simp only [hmapped, Option.some.injEq] at hstep
            subst hstep
            exact .awaitNumber hrequest hphase hmapped _
    | none =>
        simp only [htarget] at hstep
        split at hstep
        · obtain rfl := Option.some.inj hstep
          exact .awaitAny hrequest hphase _
        · obtain rfl := Option.some.inj hstep
          apply stepped_of_routed rfl hrequest hphase
          intro sid hfound
          rw [htarget]
          exact SessionMaps.chosen_of_pnlessTarget hfound
  · rw [if_pos hstarting] at hstep
    cases hstep

theorem stepped_of_resume (hstep : manager.resume rid = some after) :
    Stepped manager (.resume rid) after := by
  unfold Manager.resume at hstep
  simp only [Option.bind_eq_bind, Option.bind_eq_some_iff] at hstep
  obtain ⟨request, hrequest, hstep⟩ := hstep
  by_cases hwoken : request.phase = .waiting true
  · rw [if_neg (not_not.mpr hwoken)] at hstep
    have hphase : request.phase.unwritten = true := by
      rw [hwoken]
      rfl
    cases htarget : request.target with
    | some pn =>
        simp only [htarget, Option.some.injEq] at hstep
        subst hstep
        apply stepped_of_routed rfl hrequest hphase
        intro sid hfound
        rw [htarget]
        exact hfound
    | none =>
        simp only [htarget, Option.some.injEq] at hstep
        subst hstep
        apply stepped_of_routed rfl hrequest hphase
        intro sid hfound
        rw [htarget]
        exact SessionMaps.chosen_of_pnlessTarget hfound
  · rw [if_pos hwoken] at hstep
    cases hstep

theorem stepped_of_waitTimeout (hstep : manager.waitTimeout rid = some after) :
    Stepped manager (.waitTimeout rid) after := by
  unfold Manager.waitTimeout at hstep
  simp only [Option.bind_eq_bind, Option.bind_eq_some_iff] at hstep
  obtain ⟨request, hrequest, hstep⟩ := hstep
  split at hstep
  · obtain rfl := Option.some.inj hstep
    exact .waitTimeout hrequest
  · cases hstep

theorem stepped_of_acquire (hstep : manager.acquire rid = some after) :
    Stepped manager (.acquire rid) after := by
  unfold Manager.acquire at hstep
  simp only [Option.bind_eq_bind, Option.bind_eq_some_iff] at hstep
  obtain ⟨request, hrequest, hstep⟩ := hstep
  split at hstep
  next sid hphase =>
    obtain ⟨session, hsession, hstep⟩ := Option.bind_eq_some_iff.mp hstep
    split at hstep
    · cases hstep
    · obtain rfl := Option.some.inj hstep
      exact .acquire hrequest hphase hsession
  next => cases hstep

theorem stepped_of_drained (hstep : manager.drained rid = some after) :
    Stepped manager (.drained rid) after := by
  unfold Manager.drained at hstep
  simp only [Option.bind_eq_bind, Option.bind_eq_some_iff] at hstep
  obtain ⟨request, hrequest, hstep⟩ := hstep
  split at hstep
  next sid tid hphase =>
    obtain rfl := Option.some.inj hstep
    exact .drained hrequest hphase
  next => cases hstep

theorem stepped_of_drainFailed (hstep : manager.drainFailed rid = some after) :
    Stepped manager (.drainFailed rid) after := by
  unfold Manager.drainFailed at hstep
  simp only [Option.bind_eq_bind, Option.bind_eq_some_iff] at hstep
  obtain ⟨request, hrequest, hstep⟩ := hstep
  split at hstep
  · obtain rfl := Option.some.inj hstep
    exact .drainFailed hrequest _ _
  · cases hstep

theorem stepped_of_replied (hstep : manager.replied rid = some after) :
    Stepped manager (.replied rid) after := by
  unfold Manager.replied at hstep
  simp only [Option.bind_eq_bind, Option.bind_eq_some_iff] at hstep
  obtain ⟨request, hrequest, hstep⟩ := hstep
  split at hstep
  · split at hstep
    next payload hfuture =>
      obtain rfl := Option.some.inj hstep
      apply Stepped.replied hrequest
      intro payload' hsame
      obtain rfl := Option.some.inj hsame
      exact hfuture
    next =>
      obtain rfl := Option.some.inj hstep
      apply Stepped.replied hrequest
      intro payload hsome
      cases hsome
    next => cases hstep
  · cases hstep

theorem stepped_of_replyTimeout
    (hstep : manager.replyTimeout rid = some after) :
    Stepped manager (.replyTimeout rid) after := by
  unfold Manager.replyTimeout at hstep
  simp only [Option.bind_eq_bind, Option.bind_eq_some_iff] at hstep
  obtain ⟨request, hrequest, hstep⟩ := hstep
  split at hstep
  · obtain rfl := Option.some.inj hstep
    exact .replyTimeout hrequest _ _
  · cases hstep

theorem stepped_of_cancel (hstep : manager.cancel rid = some after) :
    Stepped manager (.cancel rid) after := by
  unfold Manager.cancel at hstep
  simp only [Option.bind_eq_bind, Option.bind_eq_some_iff] at hstep
  obtain ⟨request, hrequest, hstep⟩ := hstep
  cases hphase : request.phase with
  | starting =>
      simp only [hphase, Option.some.injEq] at hstep
      subst hstep
      exact .abandoned hrequest
  | waiting woken =>
      simp only [hphase, Option.some.injEq] at hstep
      subst hstep
      exact .abandoned hrequest
  | queued sid =>
      simp only [hphase, Option.some.injEq] at hstep
      subst hstep
      exact .abandoned hrequest
  | draining sid tid =>
      simp only [hphase, Option.some.injEq] at hstep
      subst hstep
      exact .cancelWrite hrequest sid
  | awaiting sid tid =>
      simp only [hphase, Option.some.injEq] at hstep
      subst hstep
      exact .cancelReply hrequest sid
  | returned reply =>
      simp only [hphase] at hstep
      cases hstep
  | raised =>
      simp only [hphase] at hstep
      cases hstep

end Completeness

theorem stepped_of_step {manager after : Manager} {event : Event}
    (hstep : manager.step event = some after) :
    Stepped manager event after := by
  cases event with
  | connect peer =>
      obtain rfl := Option.some.inj hstep
      exact .connect peer
  | frame sid received replyTo now => exact stepped_of_frame replyTo hstep
  | disconnect sid => exact stepped_of_disconnect hstep
  | teardown sid now => exact stepped_of_teardown hstep
  | heartbeatTick sid => exact stepped_of_heartbeatTick hstep
  | heartbeatFailed sid => exact stepped_of_heartbeatFailed hstep
  | sendFrame pn =>
      obtain rfl := Option.some.inj hstep
      exact .sendFrame pn
  | startFailed rid => exact stepped_of_startFailed hstep
  | resolve rid => exact stepped_of_resolve hstep
  | resume rid => exact stepped_of_resume hstep
  | waitTimeout rid => exact stepped_of_waitTimeout hstep
  | acquire rid => exact stepped_of_acquire hstep
  | drained rid => exact stepped_of_drained hstep
  | drainFailed rid => exact stepped_of_drainFailed hstep
  | replied rid => exact stepped_of_replied hstep
  | replyTimeout rid => exact stepped_of_replyTimeout hstep
  | cancel rid => exact stepped_of_cancel hstep

end Eybond
end DessMonitor
