import DessMonitor.EybondRequestDrift

/-!
# What requests leave behind

A request registers its future on a session and the entry is removed by the
reply, by a failed write, by the reply timeout or with the session.  A caller
that is cancelled in between removes nothing.  Without such cancellations
every entry belongs to a request that still waits for it.
-/

namespace DessMonitor
namespace Eybond

open LabelledRun ListUpdate

/-! ## Entries and their requests -/

/-- The request that is registered on a session under an id. -/
def Manager.pendingAt (manager : Manager) (sid tid : ℕ) : Option ℕ :=
  manager.sessions[sid]?.bind fun session => session.pending.get? tid

/-- A request that still waits for the future it registered. -/
structure Request.Holds (request : Request) (sid tid : ℕ) : Prop where
  phase : request.phase = .draining sid tid ∨
    request.phase = .awaiting sid tid
  future : request.future = .pending

theorem phase_unique {phase : RequestPhase} {sid tid sid' tid' : ℕ}
    (hphase : phase = .draining sid tid ∨ phase = .awaiting sid tid)
    (hphase' : phase = .draining sid' tid' ∨ phase = .awaiting sid' tid') :
    sid = sid' ∧ tid = tid' := by
  rcases hphase with rfl | rfl <;> rcases hphase' with heq | heq <;>
    cases heq <;> exact ⟨rfl, rfl⟩

/-- Every entry belongs to a request that waits for it. -/
def Manager.Owned (manager : Manager) : Prop :=
  ∀ sid tid rid, manager.pendingAt sid tid = some rid →
    ∃ request, manager.requests[rid]? = some request ∧ request.Holds sid tid

/-- The request is in no pending map. -/
def Manager.Unregistered (manager : Manager) (rid : ℕ) : Prop :=
  ∀ sid tid, manager.pendingAt sid tid ≠ some rid

namespace Manager

variable {manager after : Manager} {sid tid rid : ℕ} {request : Request}
  {session : Session}

theorem initial_owned (registry : EybondRegistry) :
    (initial registry).Owned := by
  intro sid tid rid hentry
  simp [pendingAt, initial] at hentry

theorem pendingAt_of_session
    (hsession : manager.sessions[sid]? = some session) (tid : ℕ) :
    manager.pendingAt sid tid = session.pending.get? tid := by
  unfold pendingAt
  rw [hsession]
  rfl

theorem pendingAt_setSession {moved : Session}
    (hsession : manager.sessions[sid]? = some session) (other tid : ℕ) :
    (manager.setSession sid moved).pendingAt other tid =
      if other = sid then moved.pending.get? tid
      else manager.pendingAt other tid := by
  have hlength := (List.getElem?_eq_some_iff.mp hsession).1
  unfold pendingAt setSession
  by_cases hother : other = sid
  · subst hother
    rw [if_pos rfl, List.getElem?_set_self hlength]
    rfl
  · rw [if_neg hother, List.getElem?_set_ne (Ne.symm hother)]

theorem pendingAt_dropSession
    (hsession : manager.sessions[sid]? = some session) (other tid : ℕ) :
    (manager.dropSession sid).pendingAt other tid =
      if other = sid then none else manager.pendingAt other tid := by
  have hlength := (List.getElem?_eq_some_iff.mp hsession).1
  unfold dropSession
  rw [hsession]
  unfold pendingAt setSession failPending
  by_cases hother : other = sid
  · subst hother
    rw [if_pos rfl, List.getElem?_set_self hlength]
    rfl
  · rw [if_neg hother, List.getElem?_set_ne (Ne.symm hother)]

namespace Owned

/-- Entries are only removed, and the requests of those that stay are kept. -/
theorem keep (howned : manager.Owned)
    (hentries : ∀ sid tid rid, after.pendingAt sid tid = some rid →
      manager.pendingAt sid tid = some rid)
    (hrequests : ∀ sid tid rid request, after.pendingAt sid tid = some rid →
      manager.requests[rid]? = some request → request.Holds sid tid →
        ∃ moved, after.requests[rid]? = some moved ∧ moved.Holds sid tid) :
    after.Owned := by
  intro sid tid rid hentry
  obtain ⟨request, hrequest, hholds⟩ :=
    howned sid tid rid (hentries sid tid rid hentry)
  exact hrequests sid tid rid request hentry hrequest hholds

/-- A session forgets entries, or nothing. -/
theorem setSession (howned : manager.Owned)
    (hsession : manager.sessions[sid]? = some session) {moved : Session}
    (hpending : ∀ tid rid, moved.pending.get? tid = some rid →
      session.pending.get? tid = some rid) :
    (manager.setSession sid moved).Owned := by
  apply howned.keep
  · intro other tid rid hentry
    rw [pendingAt_setSession hsession] at hentry
    by_cases hother : other = sid
    · subst hother
      rw [if_pos rfl] at hentry
      rw [pendingAt_of_session hsession]
      exact hpending tid rid hentry
    · rwa [if_neg hother] at hentry
  · intro other tid rid request _ hrequest hholds
    exact ⟨request, hrequest, hholds⟩

/-- A request that is not registered may change in any way. -/
theorem setRequest (howned : manager.Owned)
    (hfree : manager.Unregistered rid) (moved : Request) :
    (manager.setRequest rid moved).Owned := by
  apply howned.keep
  · intro sid tid other hentry
    exact hentry
  · intro sid tid other request hentry hrequest hholds
    have hne : rid ≠ other := by
      rintro rfl
      exact hfree sid tid hentry
    refine ⟨request, ?_, hholds⟩
    unfold Manager.setRequest
    rw [List.getElem?_set_ne hne]
    exact hrequest

theorem unregistered (howned : manager.Owned)
    (hrequest : manager.requests[rid]? = some request)
    (hnot : ∀ sid tid, ¬request.Holds sid tid) :
    manager.Unregistered rid := by
  intro sid tid hentry
  obtain ⟨other, hother, hholds⟩ := howned sid tid rid hentry
  rw [hrequest] at hother
  obtain rfl := Option.some.inj hother
  exact hnot sid tid hholds

theorem wake (howned : manager.Owned) (target : Option String) :
    (manager.wake target).Owned := by
  apply howned.keep
  · intro sid tid rid hentry
    exact hentry
  · intro sid tid rid request _ hrequest hholds
    refine ⟨request, ?_, hholds⟩
    unfold Manager.wake
    rw [List.getElem?_map, hrequest]
    rcases hholds.phase with hphase | hphase <;> simp [hphase]

theorem sendFrame (howned : manager.Owned) (pn : Option String) :
    (manager.sendFrame pn).Owned := by
  apply howned.keep
  · intro sid tid rid hentry
    exact hentry
  · intro sid tid rid request _ hrequest hholds
    refine ⟨request, ?_, hholds⟩
    unfold Manager.sendFrame
    have hlength := (List.getElem?_eq_some_iff.mp hrequest).1
    rw [List.getElem?_append_left hlength]
    exact hrequest

theorem connect (howned : manager.Owned) (peer : String) :
    (manager.connect peer).Owned := by
  unfold Manager.connect
  apply Owned.wake
  apply howned.keep
  · intro sid tid rid hentry
    obtain ⟨session, hsession, hpending⟩ := Option.bind_eq_some_iff.mp hentry
    rcases getElem?_append_singleton_cases hsession with hold | ⟨-, rfl⟩
    · rw [pendingAt_of_session hold]
      exact hpending
    · cases hpending
  · intro sid tid rid request _ hrequest hholds
    exact ⟨request, hrequest, hholds⟩

/-! ### Dropped sessions -/

/-- Two entries are not of one request. -/
theorem entry_unique (howned : manager.Owned) {sid' tid' : ℕ}
    (hentry : manager.pendingAt sid tid = some rid)
    (hentry' : manager.pendingAt sid' tid' = some rid) :
    sid = sid' ∧ tid = tid' := by
  obtain ⟨owner, howner, hholds⟩ := howned sid tid rid hentry
  obtain ⟨owner', howner', hholds'⟩ := howned sid' tid' rid hentry'
  rw [howner] at howner'
  obtain rfl := Option.some.inj howner'
  exact phase_unique hholds.phase hholds'.phase

theorem notMem_values (howned : manager.Owned)
    (hsession : manager.sessions[sid]? = some session) {other : ℕ}
    (hother : other ≠ sid)
    (hrequest : manager.requests[rid]? = some request)
    (hholds : request.Holds other tid) : rid ∉ session.pending.values := by
  intro hmem
  obtain ⟨⟨id, other'⟩, hentry, rfl⟩ := List.mem_map.mp hmem
  have hpending : manager.pendingAt sid id = some other' := by
    rw [pendingAt_of_session hsession]
    exact (Dict.get?_eq_some_iff _).mpr hentry
  obtain ⟨owner, howner, hheld⟩ := howned sid id other' hpending
  rw [hrequest] at howner
  obtain rfl := Option.some.inj howner
  exact hother (phase_unique hholds.phase hheld.phase).1

theorem dropSession (howned : manager.Owned) (sid : ℕ) :
    (manager.dropSession sid).Owned := by
  cases hsession : manager.sessions[sid]? with
  | none =>
      unfold Manager.dropSession
      rw [hsession]
      exact howned
  | some session =>
      apply howned.keep
      · intro other tid rid hentry
        rw [pendingAt_dropSession hsession] at hentry
        split at hentry
        · cases hentry
        · exact hentry
      · intro other tid rid request hentry hrequest hholds
        have hother : other ≠ sid := by
          intro heq
          rw [pendingAt_dropSession hsession, if_pos heq] at hentry
          cases hentry
        have hkept := howned.notMem_values hsession hother hrequest hholds
        refine ⟨request, ?_, hholds⟩
        simp [Manager.dropSession, Manager.setSession, Manager.failPending,
          hsession, hrequest, hkept]

theorem evictOwner (howned : manager.Owned) (sid : ℕ) (pn : String) :
    (manager.evictOwner sid pn).Owned := by
  unfold Manager.evictOwner
  split
  · split
    · exact howned
    · exact howned.dropSession _
  · exact howned

/-! ### Session handlers -/

theorem heartbeatFrame (howned : manager.Owned)
    (hsession : manager.sessions[sid]? = some session) (payload : Bytes)
    (now : String) :
    (manager.heartbeatFrame sid session payload now).Owned := by
  unfold Manager.heartbeatFrame
  dsimp only
  split_ifs
  · have hnamed : (manager.setSession sid
        { session with pn := heartbeatPn payload }).Owned :=
      howned.setSession hsession fun _ _ hentry => hentry
    have hevicted := hnamed.evictOwner sid (heartbeatPn payload)
    have hclaimed : Manager.Owned
        { (manager.setSession sid
            { session with pn := heartbeatPn payload }).evictOwner sid
              (heartbeatPn payload) with
          maps := ((manager.setSession sid
            { session with pn := heartbeatPn payload }).evictOwner sid
              (heartbeatPn payload)).maps.claim (heartbeatPn payload) sid } :=
      hevicted
    exact hclaimed.wake (some (heartbeatPn payload))
  · exact howned
  · exact howned

theorem teardown (howned : manager.Owned)
    (hsession : manager.sessions[sid]? = some session)
    (registry : EybondRegistry) :
    Manager.Owned { (manager.setSession sid
      { session with handler := .closed }).dropSession sid with
        registry := registry } := by
  have hclosed : (manager.setSession sid
      { session with handler := .closed }).Owned :=
    howned.setSession hsession fun _ _ hentry => hentry
  exact hclosed.dropSession sid

/-- The entry that a reply finds is removed with the future it resolves. -/
theorem forwardFrame (howned : manager.Owned)
    (hsession : manager.sessions[sid]? = some session) (tid : ℕ)
    (payload : Bytes) :
    (manager.forwardFrame sid session tid payload).Owned := by
  unfold Manager.forwardFrame
  cases hpending : session.pending.get? tid with
  | none => exact howned
  | some rid =>
      have hpopped : (manager.setSession sid
          { session with pending := session.pending.erase tid }).Owned := by
        apply howned.setSession hsession
        intro id other hentry
        rw [Dict.get?_erase] at hentry
        split at hentry
        · cases hentry
        · exact hentry
      have hentry : manager.pendingAt sid tid = some rid := by
        rw [pendingAt_of_session hsession, hpending]
      have hfree : (manager.setSession sid
          { session with
            pending := session.pending.erase tid }).Unregistered rid := by
        intro other id hleft
        rw [pendingAt_setSession hsession] at hleft
        by_cases hother : other = sid
        · rw [if_pos hother, Dict.get?_erase] at hleft
          split at hleft
          · cases hleft
          next hid =>
            rw [← pendingAt_of_session hsession] at hleft
            exact hid (howned.entry_unique hleft hentry).2
        · rw [if_neg hother] at hleft
          exact hother (howned.entry_unique hleft hentry).1
      dsimp only
      split
      · exact hpopped
      · split
        · exact hpopped
        · exact hpopped.setRequest hfree _

/-! ### Requests -/

theorem setUnwritten (howned : manager.Owned)
    (hrequest : manager.requests[rid]? = some request)
    (hphase : request.phase.unwritten = true) (moved : Request) :
    (manager.setRequest rid moved).Owned := by
  apply howned.setRequest
  apply howned.unregistered hrequest
  intro sid tid hholds
  rcases hholds.phase with hheld | hheld <;> rw [hheld] at hphase <;>
    cases hphase

theorem popPending (howned : manager.Owned) (sid tid : ℕ) :
    (manager.popPending sid tid).Owned := by
  unfold Manager.popPending
  split
  · exact howned
  next session hsession =>
    apply howned.setSession hsession
    intro id rid hentry
    rw [Dict.get?_erase] at hentry
    split at hentry
    · cases hentry
    · exact hentry

theorem releaseLock (howned : manager.Owned) (sid : ℕ) :
    (manager.releaseLock sid).Owned := by
  unfold Manager.releaseLock
  split
  · exact howned
  next session hsession =>
    exact howned.setSession hsession fun _ _ hentry => hentry

end Owned

theorem pendingAt_releaseLock (manager : Manager) (sid other tid : ℕ) :
    (manager.releaseLock sid).pendingAt other tid =
      manager.pendingAt other tid := by
  unfold releaseLock
  split
  · rfl
  next session hsession =>
    rw [pendingAt_setSession hsession]
    split
    next heq => rw [heq, pendingAt_of_session hsession]
    next => rfl

theorem Unregistered.releaseLock (hfree : manager.Unregistered rid)
    (sid : ℕ) : (manager.releaseLock sid).Unregistered rid := by
  intro other tid hentry
  rw [pendingAt_releaseLock] at hentry
  exact hfree other tid hentry

/-- A request whose own entry is removed has no other one. -/
theorem Owned.unregistered_popPending (howned : manager.Owned)
    (hrequest : manager.requests[rid]? = some request)
    (hphase : request.phase = .draining sid tid ∨
      request.phase = .awaiting sid tid) :
    (manager.popPending sid tid).Unregistered rid := by
  intro other id hentry
  have hnone : (manager.popPending sid tid).pendingAt sid tid = none := by
    unfold Manager.popPending
    cases hsession : manager.sessions[sid]? with
    | none =>
        dsimp only
        unfold pendingAt
        rw [hsession]
        rfl
    | some session =>
        dsimp only
        rw [pendingAt_setSession hsession, if_pos rfl, Dict.get?_erase,
          if_pos rfl]
  obtain ⟨owner, howner, hheld⟩ := howned.popPending sid tid other id rid hentry
  rw [requests_popPending, hrequest] at howner
  obtain rfl := Option.some.inj howner
  have hsame := phase_unique hheld.phase hphase
  rw [hsame.1, hsame.2, hnone] at hentry
  cases hentry

namespace Owned

/-- A new entry belongs to the request that writes its frame next. -/
theorem acquire (howned : manager.Owned)
    (hrequest : manager.requests[rid]? = some request)
    (hphase : request.phase = .queued sid)
    (hsession : manager.sessions[sid]? = some session) :
    Manager.Owned ((manager.setSession sid (session.register rid)).setRequest
      rid { request with
        phase := .draining sid (session.register rid).tid
        future := .pending }) := by
  have hlength := (List.getElem?_eq_some_iff.mp hrequest).1
  have hfree : manager.Unregistered rid := by
    apply howned.unregistered hrequest
    intro other id hholds
    rcases hholds.phase with hheld | hheld <;> rw [hphase] at hheld <;>
      cases hheld
  intro other id owner hentry
  have hold : (other = sid ∧ id = nextTid session.tid ∧ owner = rid) ∨
      manager.pendingAt other id = some owner := by
    have hset : (manager.setSession sid (session.register rid)).pendingAt
        other id = some owner := hentry
    rw [pendingAt_setSession hsession] at hset
    by_cases hother : other = sid
    · rw [if_pos hother, Session.register] at hset
      dsimp only at hset
      rw [Dict.get?_set] at hset
      by_cases hid : id = nextTid session.tid
      · rw [if_pos hid] at hset
        exact .inl ⟨hother, hid, (Option.some.inj hset).symm⟩
      · rw [if_neg hid, ← pendingAt_of_session hsession, ← hother] at hset
        exact .inr hset
    · rw [if_neg hother] at hset
      exact .inr hset
  unfold Manager.setRequest
  rcases hold with ⟨rfl, rfl, rfl⟩ | hold
  · exact ⟨_, List.getElem?_set_self hlength, ⟨.inl rfl, rfl⟩⟩
  · have hne : rid ≠ owner := by
      rintro rfl
      exact hfree other id hold
    obtain ⟨found, hfound, hholds⟩ := howned other id owner hold
    refine ⟨found, ?_, hholds⟩
    rw [List.getElem?_set_ne hne]
    exact hfound

theorem drained (howned : manager.Owned)
    (hrequest : manager.requests[rid]? = some request)
    (hphase : request.phase = .draining sid tid) :
    (manager.settle rid request (.awaiting sid tid)).Owned := by
  have hlength := (List.getElem?_eq_some_iff.mp hrequest).1
  unfold settle
  apply howned.keep
  · intro other id owner hentry
    exact hentry
  · intro other id owner found hentry hfound hholds
    unfold Manager.setRequest
    by_cases heq : rid = owner
    · subst heq
      rw [hrequest] at hfound
      obtain rfl := Option.some.inj hfound
      have hsame := phase_unique hholds.phase (.inl hphase)
      refine ⟨_, List.getElem?_set_self hlength, ⟨.inr ?_, hholds.future⟩⟩
      rw [hsame.1, hsame.2]
    · refine ⟨found, ?_, hholds⟩
      rw [List.getElem?_set_ne heq]
      exact hfound

/-- A failed write and a reply timeout remove the entry of the request. -/
theorem finish (howned : manager.Owned)
    (hrequest : manager.requests[rid]? = some request)
    (hphase : request.phase = .draining sid tid ∨
      request.phase = .awaiting sid tid) (moved : Request) :
    (((manager.popPending sid tid).releaseLock sid).setRequest rid
      moved).Owned := by
  apply Owned.setRequest
  · exact (howned.popPending sid tid).releaseLock sid
  · exact (howned.unregistered_popPending hrequest hphase).releaseLock sid

/-! ### Steps of a request -/

theorem startFailed_step (howned : manager.Owned)
    (hstep : manager.startFailed rid = some after) : after.Owned := by
  unfold Manager.startFailed at hstep
  simp only [Option.bind_eq_bind, Option.bind_eq_some_iff] at hstep
  obtain ⟨request, hrequest, hstep⟩ := hstep
  split at hstep
  next hphase =>
    obtain rfl := Option.some.inj hstep
    exact howned.setUnwritten hrequest (by rw [hphase]; rfl) _
  next => cases hstep

theorem routed (howned : manager.Owned)
    (hrequest : manager.requests[rid]? = some request)
    (hphase : request.phase.unwritten = true) (found : Option ℕ) :
    (manager.routed rid request found).Owned := by
  cases found with
  | none => exact howned.setUnwritten hrequest hphase _
  | some sid => exact howned.setUnwritten hrequest hphase _

theorem resolve_step (howned : manager.Owned)
    (hstep : manager.resolve rid = some after) : after.Owned := by
  unfold Manager.resolve at hstep
  simp only [Option.bind_eq_bind, Option.bind_eq_some_iff] at hstep
  obtain ⟨request, hrequest, hstep⟩ := hstep
  split at hstep
  · cases hstep
  next hphase =>
    have hunwritten : request.phase.unwritten = true := by
      rw [not_not.mp hphase]
      rfl
    split at hstep
    next pn htarget =>
      split at hstep
      · obtain rfl := Option.some.inj hstep
        exact howned.routed hrequest hunwritten _
      · obtain rfl := Option.some.inj hstep
        have hready : Manager.Owned
            { manager with maps := (manager.maps.readyEventFor pn).1 } :=
          howned
        exact hready.setUnwritten hrequest hunwritten _
    next htarget =>
      split at hstep
      · obtain rfl := Option.some.inj hstep
        exact howned.setUnwritten hrequest hunwritten _
      · obtain rfl := Option.some.inj hstep
        exact howned.routed hrequest hunwritten _

theorem resume_step (howned : manager.Owned)
    (hstep : manager.resume rid = some after) : after.Owned := by
  unfold Manager.resume at hstep
  simp only [Option.bind_eq_bind, Option.bind_eq_some_iff] at hstep
  obtain ⟨request, hrequest, hstep⟩ := hstep
  split at hstep
  · cases hstep
  next hphase =>
    have hunwritten : request.phase.unwritten = true := by
      rw [not_not.mp hphase]
      rfl
    split at hstep
    · obtain rfl := Option.some.inj hstep
      exact howned.routed hrequest hunwritten _
    · obtain rfl := Option.some.inj hstep
      exact howned.routed hrequest hunwritten _

theorem waitTimeout_step (howned : manager.Owned)
    (hstep : manager.waitTimeout rid = some after) : after.Owned := by
  unfold Manager.waitTimeout at hstep
  simp only [Option.bind_eq_bind, Option.bind_eq_some_iff] at hstep
  obtain ⟨request, hrequest, hstep⟩ := hstep
  split at hstep
  next hphase =>
    obtain rfl := Option.some.inj hstep
    exact howned.setUnwritten hrequest (by rw [hphase]; rfl) _
  next => cases hstep

theorem acquire_step (howned : manager.Owned)
    (hstep : manager.acquire rid = some after) : after.Owned := by
  have hstepped := stepped_of_acquire hstep
  cases hstepped with
  | chosen hevent => cases hevent
  | unrouted hevent => cases hevent
  | acquire hrequest hphase hsession =>
      exact howned.acquire hrequest hphase hsession

theorem drained_step (howned : manager.Owned)
    (hstep : manager.drained rid = some after) : after.Owned := by
  have hstepped := stepped_of_drained hstep
  cases hstepped with
  | chosen hevent => cases hevent
  | unrouted hevent => cases hevent
  | drained hrequest hphase => exact howned.drained hrequest hphase

theorem drainFailed_step (howned : manager.Owned)
    (hstep : manager.drainFailed rid = some after) : after.Owned := by
  unfold Manager.drainFailed at hstep
  simp only [Option.bind_eq_bind, Option.bind_eq_some_iff] at hstep
  obtain ⟨request, hrequest, hstep⟩ := hstep
  split at hstep
  next sid tid hphase =>
    obtain rfl := Option.some.inj hstep
    exact howned.finish hrequest (.inl hphase) _
  next => cases hstep

theorem replyTimeout_step (howned : manager.Owned)
    (hstep : manager.replyTimeout rid = some after) : after.Owned := by
  unfold Manager.replyTimeout at hstep
  simp only [Option.bind_eq_bind, Option.bind_eq_some_iff] at hstep
  obtain ⟨request, hrequest, hstep⟩ := hstep
  split at hstep
  next sid tid hphase =>
    obtain rfl := Option.some.inj hstep
    exact howned.finish hrequest (.inr hphase) _
  next => cases hstep

/-- A future that is done has lost its entry. -/
theorem replied_step (howned : manager.Owned)
    (hstep : manager.replied rid = some after) : after.Owned := by
  have hdone : ∀ {request : Request} (sid : ℕ) (moved : Request),
      manager.requests[rid]? = some request → request.future ≠ .pending →
        ((manager.releaseLock sid).setRequest rid moved).Owned := by
    intro request sid moved hrequest hfuture
    have hfree := howned.unregistered hrequest
      fun _ _ hholds => hfuture hholds.future
    exact (howned.releaseLock sid).setRequest (hfree.releaseLock sid) moved
  unfold Manager.replied at hstep
  simp only [Option.bind_eq_bind, Option.bind_eq_some_iff] at hstep
  obtain ⟨request, hrequest, hstep⟩ := hstep
  split at hstep
  next sid _ _ =>
    split at hstep
    next payload hfuture =>
      obtain rfl := Option.some.inj hstep
      exact hdone sid _ hrequest (by rw [hfuture]; simp)
    next hfuture =>
      obtain rfl := Option.some.inj hstep
      exact hdone sid _ hrequest (by rw [hfuture]; simp)
    next => cases hstep
  next => cases hstep

/-- A cancelled request leaves its entry, if it has one. -/
theorem cancel_step (howned : manager.Owned)
    (hfree : manager.Unregistered rid)
    (hstep : manager.cancel rid = some after) : after.Owned := by
  have hstepped := stepped_of_cancel hstep
  cases hstepped with
  | chosen hevent => cases hevent
  | unrouted hevent => cases hevent
  | abandoned hrequest => exact howned.setRequest hfree _
  | cancelWrite hrequest sid =>
      exact (howned.releaseLock sid).setRequest (hfree.releaseLock sid) _
  | cancelReply hrequest sid =>
      exact (howned.releaseLock sid).setRequest (hfree.releaseLock sid) _

end Owned

/-! ## Runs -/

/-- The request is in a pending map. -/
def registered (manager : Manager) (rid : ℕ) : Bool :=
  manager.sessions.any fun session => decide (rid ∈ session.pending.values)

/-- No caller is cancelled while its future is registered. -/
def spares (manager : Manager) : Event → Bool
  | .cancel rid => !manager.registered rid
  | _ => true

theorem unregistered_of_registered
    (hregistered : manager.registered rid = false) :
    manager.Unregistered rid := by
  intro sid tid hentry
  obtain ⟨session, hsession, hpending⟩ := Option.bind_eq_some_iff.mp hentry
  unfold registered at hregistered
  rw [List.any_eq_false] at hregistered
  apply hregistered session (List.mem_of_getElem? hsession)
  rw [decide_eq_true_eq]
  exact List.mem_map_of_mem ((Dict.get?_eq_some_iff _).mp hpending)

theorem Owned.after_step {event : Event} (howned : manager.Owned)
    (hstep : manager.step event = some after)
    (hspares : manager.spares event = true) : after.Owned := by
  have hstepped := stepped_of_step hstep
  cases event with
  | connect peer =>
      obtain rfl := Option.some.inj hstep
      exact howned.connect peer
  | frame sid received replyTo now =>
      cases hstepped with
      | heartbeat hsession => exact howned.heartbeatFrame hsession _ _
      | forward hsession => exact howned.forwardFrame hsession _ _
      | otherFrame => exact howned
      | chosen hevent => cases hevent
      | unrouted hevent => cases hevent
  | disconnect sid =>
      cases hstepped with
      | disconnect hsession =>
          exact howned.setSession hsession fun _ _ hentry => hentry
      | chosen hevent => cases hevent
      | unrouted hevent => cases hevent
  | teardown sid now =>
      cases hstepped with
      | teardown hsession => exact howned.teardown hsession _
      | chosen hevent => cases hevent
      | unrouted hevent => cases hevent
  | heartbeatTick sid =>
      cases hstepped with
      | heartbeatTick hsession =>
          exact howned.setSession hsession fun _ _ hentry => hentry
      | chosen hevent => cases hevent
      | unrouted hevent => cases hevent
  | heartbeatFailed sid =>
      cases hstepped with
      | heartbeatFailed hsession =>
          exact howned.setSession hsession fun _ _ hentry => hentry
      | chosen hevent => cases hevent
      | unrouted hevent => cases hevent
  | sendFrame pn =>
      obtain rfl := Option.some.inj hstep
      exact howned.sendFrame pn
  | startFailed rid => exact howned.startFailed_step hstep
  | resolve rid => exact howned.resolve_step hstep
  | resume rid => exact howned.resume_step hstep
  | waitTimeout rid => exact howned.waitTimeout_step hstep
  | acquire rid => exact howned.acquire_step hstep
  | drained rid => exact howned.drained_step hstep
  | drainFailed rid => exact howned.drainFailed_step hstep
  | replied rid => exact howned.replied_step hstep
  | replyTimeout rid => exact howned.replyTimeout_step hstep
  | cancel rid =>
      have hregistered : manager.registered rid = false := by
        simpa [spares] using hspares
      exact howned.cancel_step (unregistered_of_registered hregistered) hstep

end Manager

/-- The request is between choosing the session and its end. -/
def RequestPhase.onSession (sid : ℕ) : RequestPhase → Bool
  | .queued target => target = sid
  | .draining target _ => target = sid
  | .awaiting target _ => target = sid
  | _ => false

/-- No request is in progress on the session. -/
def Manager.Idle (manager : Manager) (sid : ℕ) : Prop :=
  ∀ request ∈ manager.requests, request.phase.onSession sid = false

instance (manager : Manager) (sid : ℕ) : Decidable (manager.Idle sid) :=
  inferInstanceAs (Decidable (∀ request ∈ manager.requests,
    request.phase.onSession sid = false))

theorem Manager.Owned.pending_empty {manager : Manager} {sid : ℕ}
    {session : Session} (howned : manager.Owned)
    (hsession : manager.sessions[sid]? = some session)
    (hidle : manager.Idle sid) : session.pending = .empty := by
  apply Dict.eq_empty_of_isEmpty
  unfold Dict.isEmpty
  rw [List.isEmpty_iff]
  by_contra hne
  obtain ⟨⟨tid, rid⟩, hentry⟩ := List.exists_mem_of_ne_nil _ hne
  have hpending : manager.pendingAt sid tid = some rid := by
    rw [Manager.pendingAt_of_session hsession]
    exact (Dict.get?_eq_some_iff _).mpr hentry
  obtain ⟨request, hrequest, hholds⟩ := howned sid tid rid hpending
  have hquiet := hidle request (List.mem_of_getElem? hrequest)
  rcases hholds.phase with hphase | hphase <;> rw [hphase] at hquiet <;>
    simp [RequestPhase.onSession] at hquiet

/-- In every run in which no caller is cancelled while its future is
registered, a session that no request uses has nothing pending. -/
theorem pending_empty_of_run {registry : EybondRegistry}
    {events : List Event} {final : Manager}
    (hrun : Run (guarded (graph Manager.step)
      fun manager event => manager.spares event = true)
      (Manager.initial registry) events final)
    {sid : ℕ} {session : Session}
    (hsession : final.sessions[sid]? = some session)
    (hidle : final.Idle sid) : session.pending = .empty := by
  have howned : final.Owned := by
    apply hrun.invariant Manager.Owned (Manager.initial_owned registry)
    rintro before event after hbefore ⟨hstep, hspares⟩
    exact hbefore.after_step hstep hspares
  exact howned.pending_empty hsession hidle

/-- A request on the only session up to the wait for its reply. -/
def awaitedRequest : List Event :=
  [.connect "10.0.0.7:5001", .sendFrame none, .resolve 0, .acquire 0,
    .drained 0]

/-- The caller is cancelled after the reply has arrived. -/
def cancelledAfterReply : Manager :=
  (execute (guardedNext Manager.step Manager.spares) (Manager.initial .empty)
    (awaitedRequest ++
      [.frame 0 ⟨1, fcForward2Device, [1]⟩ (some 0) "t0", .cancel 0])).get
        (by decide +kernel)

theorem pending_empty_after_reply :
    ∃ session, cancelledAfterReply.sessions[0]? = some session ∧
      session.pending = .empty := by
  have hrun : Run (guarded (graph Manager.step)
      fun manager event => manager.spares event = true)
      (Manager.initial .empty) _ cancelledAfterReply :=
    run_of_guarded_execute (Option.some_get _).symm
  have hsession : ∃ session,
      cancelledAfterReply.sessions[0]? = some session :=
    ⟨_, rfl⟩
  obtain ⟨session, hsession⟩ := hsession
  have hidle : cancelledAfterReply.Idle 0 := by
    decide +kernel
  exact ⟨session, hsession, pending_empty_of_run hrun hsession hidle⟩

/-- The caller is cancelled while it waits for the reply. -/
def cancelledBeforeReply : Manager :=
  (execute Manager.step (Manager.initial .empty)
    (awaitedRequest ++ [.cancel 0])).get (by decide +kernel)

theorem cancelled_request_stays :
    ¬∀ (registry : EybondRegistry) (events : List Event) (final : Manager)
      (sid : ℕ) (session : Session),
      Run (graph Manager.step) (Manager.initial registry) events final →
        final.sessions[sid]? = some session → final.Idle sid →
          session.pending = .empty := by
  intro hall
  have hrun : Run (graph Manager.step) (Manager.initial .empty) _
      cancelledBeforeReply :=
    run_of_execute (Option.some_get _).symm
  have hidle : cancelledBeforeReply.Idle 0 := by
    decide +kernel
  have hentry : cancelledBeforeReply.pendingAt 0 1 = some 0 := by
    decide +kernel
  obtain ⟨session, hsession, hpending⟩ := Option.bind_eq_some_iff.mp hentry
  rw [hall _ _ _ 0 session hrun hsession hidle] at hpending
  cases hpending

end Eybond
end DessMonitor
