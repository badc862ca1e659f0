import DessMonitor.EybondRequestDrift
import DessMonitor.Foundation.WrappingIds

/-!
# Replies reach the request they answer

A history of the run records which sessions were connected when a request was
resolved, how many ids each session has issued, what was written where, which
replies arrived and to whom they were given.  While fewer than 65536 ids are
issued between a request and any reply to it, the wrapping id under which a
reply arrives names the request it answers or none.
-/

namespace DessMonitor
namespace Eybond

open LabelledRun ListUpdate StoreGrowth WrappingIds

/-! ## The history of a run -/

/-- A frame with function code 4 that a session received. -/
structure Arrival where
  session : ℕ
  tid : ℕ
  payload : Bytes
  replyTo : Option ℕ

/-- A request that was registered and written: `pn` is the number the session
had identified itself with, `issue` counts the ids of the session, `arrivals`
the frames received before. -/
structure Written where
  request : ℕ
  session : ℕ
  pn : String
  tid : ℕ
  issue : ℕ
  arrivals : ℕ

/-- `resolved` pairs a request with the sessions connected when it was
resolved; `answered` pairs it with the arrival its future was resolved by. -/
structure Trace where
  resolved : List (ℕ × Finset ℕ)
  issued : ℕ → ℕ
  written : List Written
  arrivals : List Arrival
  answered : List (ℕ × ℕ)

namespace Trace

def empty : Trace := ⟨[], fun _ => 0, [], [], []⟩

def resolve (trace : Trace) (rid : ℕ) (connected : Finset ℕ) : Trace :=
  { trace with resolved := trace.resolved ++ [(rid, connected)] }

def issue (trace : Trace) (sid : ℕ) : Trace :=
  { trace with
    issued := Function.update trace.issued sid (trace.issued sid + 1) }

def write (trace : Trace) (rid sid : ℕ) (session : Session) : Trace :=
  { trace.issue sid with
    written := trace.written ++
      [{ request := rid
         session := sid
         pn := session.pn
         tid := nextTid session.tid
         issue := trace.issued sid + 1
         arrivals := trace.arrivals.length }] }

def arrive (trace : Trace) (arrival : Arrival) (answering : Option ℕ) :
    Trace :=
  { trace with
    arrivals := trace.arrivals ++ [arrival]
    answered := trace.answered ++
      answering.toList.map fun rid => (rid, trace.arrivals.length) }

/-- The numbers and requests registered on one session. -/
def registered (trace : Trace) (sid : ℕ) : Set (ℕ × ℕ) :=
  { entry | ∃ written ∈ trace.written, written.session = sid ∧
      written.issue = entry.1 ∧ written.request = entry.2 }

end Trace

/-- The session a request waits for, with its index. -/
def Manager.queuedOn (manager : Manager) (rid : ℕ) : Option (ℕ × Session) := do
  let request ← manager.requests[rid]?
  match request.phase with
  | .queued sid => do
      let session ← manager.sessions[sid]?
      some (sid, session)
  | _ => none

/-- The request whose future a reply resolves. -/
def Manager.answering (manager : Manager) (sid tid : ℕ) : Option ℕ := do
  let session ← manager.sessions[sid]?
  let rid ← session.pending.get? tid
  let request ← manager.requests[rid]?
  if request.future.done then none else some rid

def Trace.observe (manager : Manager) (event : Event) (trace : Trace) :
    Trace :=
  match event with
  | .resolve rid => trace.resolve rid manager.maps.live
  | .resume rid => trace.resolve rid manager.maps.live
  | .heartbeatTick sid => trace.issue sid
  | .acquire rid =>
      match manager.queuedOn rid with
      | some (sid, session) => trace.write rid sid session
      | none => trace
  | .frame sid received replyTo _ =>
      if received.fcode = fcForward2Device then
        trace.arrive ⟨sid, received.tid, received.payload, replyTo⟩
          (manager.answering sid received.tid)
      else trace
  | _ => trace

/-- A reply arrives on the session its request was written to and under the
id of the request, with fewer than 65536 ids issued in between. -/
def Timely (state : Manager × Trace) : Event → Bool
  | .frame sid received (some owner) _ =>
      received.fcode ≠ fcForward2Device ||
        state.2.written.any fun written =>
          decide (written.request = owner ∧ written.session = sid ∧
            written.tid = received.tid ∧
            state.2.issued sid < written.issue + 65536)
  | _ => true

/-! ## Invariants -/

/-- Request `rid` for `target` may be written to a session numbered `pn`. -/
structure RoutedTo (resolved : List (ℕ × Finset ℕ)) (pn : String)
    (target : Option String) (rid sid : ℕ) : Prop where
  number : ∀ wanted, target = some wanted → pn = wanted
  sole : target = none → (rid, {sid}) ∈ resolved

structure Session.Accounted (trace : Trace) (sid : ℕ) (session : Session) :
    Prop where
  tid : session.tid = trace.issued sid % 65536
  correlated : Correlated 65536 (trace.issued sid) (trace.registered sid)
    session.pending.get?

structure Request.Accounted (trace : Trace) (pnOf : ℕ → String) (rid : ℕ)
    (request : Request) : Prop where
  queued : ∀ sid, request.phase = .queued sid →
    RoutedTo trace.resolved (pnOf sid) request.target rid sid
  returned : ∀ payload, request.phase = .returned (some payload) →
    request.future = .result payload
  result : ∀ payload, request.future = .result payload →
    ∃ index arrival, (rid, index) ∈ trace.answered ∧
      trace.arrivals[index]? = some arrival ∧ arrival.payload = payload

/-- The arrival answers what was written: same session, same id, later. -/
structure Answers (written : Written) (index : ℕ) (arrival : Arrival) :
    Prop where
  session : arrival.session = written.session
  tid : arrival.tid = written.tid
  later : written.arrivals ≤ index
  genuine : ∀ owner, arrival.replyTo = some owner → owner = written.request

structure Trace.Sound (trace : Trace) : Prop where
  tid : ∀ written ∈ trace.written, written.tid = written.issue % 65536
  past : ∀ written ∈ trace.written, written.arrivals ≤ trace.arrivals.length
  answered : ∀ rid index, (rid, index) ∈ trace.answered →
    ∃ written ∈ trace.written, ∃ arrival, written.request = rid ∧
      trace.arrivals[index]? = some arrival ∧ Answers written index arrival
  once : ∀ first ∈ trace.written, ∀ second ∈ trace.written,
    first.request = second.request → first = second
  answeredOnce : ∀ first index second other,
    (first, index) ∈ trace.answered → (second, other) ∈ trace.answered →
      (first = second ↔ index = other)

structure Correlation (manager : Manager) (trace : Trace) : Prop where
  sessions : ∀ (sid : ℕ) (session : Session),
    manager.sessions[sid]? = some session → session.Accounted trace sid
  absent : ∀ sid, manager.sessions[sid]? = none →
    trace.issued sid = 0 ∧ trace.registered sid = ∅
  requests : ∀ (rid : ℕ) (request : Request),
    manager.requests[rid]? = some request →
      request.Accounted trace manager.pnOf rid
  written : ∀ written ∈ trace.written, ∃ request,
    manager.requests[written.request]? = some request ∧
      request.phase.unwritten = false ∧
      RoutedTo trace.resolved written.pn request.target written.request
        written.session
  answered : ∀ rid index, (rid, index) ∈ trace.answered →
    ∃ (request : Request) (payload : Bytes), manager.requests[rid]? = some request ∧
      request.future = .result payload
  sound : trace.Sound

theorem initial_correlation (registry : EybondRegistry) :
    Correlation (Manager.initial registry) .empty := by
  constructor
  · intro sid session hsession
    simp [Manager.initial] at hsession
  · intro sid _
    constructor
    · rfl
    · simp [Trace.registered, Trace.empty]
  · intro rid request hrequest
    simp [Manager.initial] at hrequest
  · intro written hmem
    cases hmem
  · intro rid index hmem
    cases hmem
  · constructor
    · intro written hmem
      cases hmem
    · intro written hmem
      cases hmem
    · intro rid index hmem
      cases hmem
    · intro first hmem
      cases hmem
    · intro first index second other hmem
      cases hmem

/-! ## Events that exchange nothing -/

/-- More sessions connected and frames received, nothing issued, written or
answered. -/
structure Trace.Extends (trace later : Trace) : Prop where
  resolved : trace.resolved ⊆ later.resolved
  issued : later.issued = trace.issued
  written : later.written = trace.written
  arrivals : trace.arrivals <+: later.arrivals
  answered : later.answered = trace.answered

theorem Trace.Extends.refl (trace : Trace) : trace.Extends trace := by
  constructor
  · exact List.Subset.refl _
  · rfl
  · rfl
  · exact List.prefix_refl _
  · rfl

theorem Trace.extends_resolve (trace : Trace) (rid : ℕ)
    (connected : Finset ℕ) : trace.Extends (trace.resolve rid connected) := by
  constructor
  · exact List.subset_append_left _ _
  · rfl
  · rfl
  · exact List.prefix_refl _
  · rfl

theorem Trace.extends_arrive (trace : Trace) (arrival : Arrival) :
    trace.Extends (trace.arrive arrival none) := by
  constructor
  · exact List.Subset.refl _
  · rfl
  · rfl
  · exact List.prefix_append _ _
  · exact List.append_nil _

section Drift

variable {trace later : Trace} {manager after : Manager}

theorem Trace.Extends.registered (hextends : trace.Extends later) (sid : ℕ) :
    later.registered sid = trace.registered sid := by
  unfold Trace.registered
  rw [hextends.written]

theorem Trace.Extends.arrival (hextends : trace.Extends later) {index : ℕ}
    {arrival : Arrival} (harrival : trace.arrivals[index]? = some arrival) :
    later.arrivals[index]? = some arrival := by
  obtain ⟨more, hmore⟩ := hextends.arrivals
  have hlength := (List.getElem?_eq_some_iff.mp harrival).1
  rw [← hmore, List.getElem?_append_left hlength]
  exact harrival

theorem Trace.Sound.extend (hsound : trace.Sound)
    (hextends : trace.Extends later) : later.Sound := by
  constructor
  · rw [hextends.written]
    exact hsound.tid
  · rw [hextends.written]
    intro written hmem
    exact (hsound.past written hmem).trans hextends.arrivals.length_le
  · rw [hextends.written, hextends.answered]
    intro rid index hmem
    obtain ⟨written, hwritten, arrival, hrequest, harrival, hanswers⟩ :=
      hsound.answered rid index hmem
    exact ⟨written, hwritten, arrival, hrequest, hextends.arrival harrival,
      hanswers⟩
  · rw [hextends.written]
    exact hsound.once
  · rw [hextends.answered]
    exact hsound.answeredOnce

theorem Manager.pnOf_of_getElem? {sid : ℕ} {session : Session}
    (hsession : manager.sessions[sid]? = some session) :
    manager.pnOf sid = session.pn := by
  simp [Manager.pnOf, hsession]

variable {routes : ℕ → Option String → ℕ → Prop}

/-- A session that has identified itself keeps its product number. -/
theorem Manager.Drifts.pnOf (hdrift : manager.Drifts routes after) {sid : ℕ}
    (hnamed : manager.pnOf sid ≠ "") :
    after.pnOf sid = manager.pnOf sid := by
  cases hsession : manager.sessions[sid]? with
  | none => simp [Manager.pnOf, hsession] at hnamed
  | some session =>
      obtain ⟨moved, hmoved, hmove⟩ :=
        hdrift.sessions.kept sid session hsession
      rw [Manager.pnOf_of_getElem? hsession] at hnamed ⊢
      rw [Manager.pnOf_of_getElem? hmoved]
      rcases hmove.pn with hsame | hempty
      · exact hsame
      · exact absurd hempty hnamed

theorem RoutedTo.drift {request moved : Request} {rid sid : ℕ}
    (hrouted : RoutedTo trace.resolved (manager.pnOf sid) request.target rid
      sid)
    (hdrift : manager.Drifts routes after)
    (hextends : trace.resolved ⊆ later.resolved)
    (hpn : moved.pn = request.pn) :
    RoutedTo later.resolved (after.pnOf sid) moved.target rid sid := by
  rw [Request.target_congr hpn]
  constructor
  · intro wanted htarget
    have hpnOf := hrouted.number wanted htarget
    have hnamed : manager.pnOf sid ≠ "" := by
      rw [hpnOf]
      exact Request.target_ne_empty htarget
    rw [hdrift.pnOf hnamed]
    exact hpnOf
  · intro htarget
    exact hextends (hrouted.sole htarget)

theorem Session.Accounted.drift {session moved : Session} {sid : ℕ}
    (haccounted : session.Accounted trace sid)
    (hdrift : session.Drifts moved) (hextends : trace.Extends later) :
    moved.Accounted later sid := by
  constructor
  · rw [hdrift.tid, hextends.issued]
    exact haccounted.tid
  · rw [hextends.issued, hextends.registered]
    exact haccounted.correlated.forget hdrift.pending

/-- Whatever exchanges nothing keeps the correlation. -/
theorem Correlation.drift (hcorrelation : Correlation manager trace)
    (hdrift : manager.Drifts routes after) (hextends : trace.Extends later)
    (hroutes : ∀ rid target sid, routes rid target sid →
      RoutedTo later.resolved (manager.pnOf sid) target rid sid) :
    Correlation after later := by
  constructor
  · intro sid moved hmoved
    rcases hdrift.sessions.cases hmoved with
      ⟨session, hsession, hmove⟩ | ⟨hnone, hblank⟩
    · exact (hcorrelation.sessions sid session hsession).drift hmove hextends
    · have habsent := hcorrelation.absent sid hnone
      constructor
      · rw [hblank.tid, hextends.issued, habsent.1]
      · rw [hextends.issued, hextends.registered, habsent.1, habsent.2]
        apply (Correlated.initial 65536).forget
        intro id rid hpending
        rw [hblank.pending id] at hpending
        cases hpending
  · intro sid hnone
    rw [hextends.issued, hextends.registered]
    apply hcorrelation.absent sid
    cases hsession : manager.sessions[sid]? with
    | none => rfl
    | some session =>
        obtain ⟨moved, hmoved, _⟩ := hdrift.sessions.kept sid session hsession
        rw [hnone] at hmoved
        cases hmoved
  · intro rid moved hmoved
    rcases hdrift.requests.cases hmoved with
      ⟨request, hrequest, hmove⟩ | ⟨_, hblank⟩
    · have haccounted := hcorrelation.requests rid request hrequest
      have hresult : ∀ payload, moved.future = .result payload →
          ∃ index arrival, (rid, index) ∈ later.answered ∧
            later.arrivals[index]? = some arrival ∧
            arrival.payload = payload := by
        intro payload hfuture
        obtain ⟨index, arrival, hmem, harrival, hpayload⟩ :=
          haccounted.result payload ((hmove.result payload).mp hfuture)
        refine ⟨index, arrival, ?_, hextends.arrival harrival, hpayload⟩
        rw [hextends.answered]
        exact hmem
      constructor
      · intro sid hqueued
        rcases hmove.queued sid hqueued with hold | hroute
        · exact (haccounted.queued sid hold).drift hdrift hextends.resolved
            hmove.pn
        · exact (hroutes rid request.target sid hroute).drift hdrift
            (List.Subset.refl _) hmove.pn
      · intro payload hreturned
        apply (hmove.result payload).mpr
        rcases hmove.returned payload hreturned with hold | hfuture
        · exact haccounted.returned payload hold
        · exact hfuture
      · exact hresult
    · constructor
      · intro sid hqueued
        have hroute := hblank.queued sid hqueued
        exact (hroutes rid moved.target sid hroute).drift hdrift
          (List.Subset.refl _) rfl
      · intro payload hreturned
        exact absurd hreturned (hblank.returned payload)
      · intro payload hfuture
        exact absurd hfuture (hblank.result payload)
  · intro written hmem
    rw [hextends.written] at hmem
    obtain ⟨request, hrequest, hunwritten, hrouted⟩ :=
      hcorrelation.written written hmem
    obtain ⟨moved, hmoved, hmove⟩ :=
      hdrift.requests.kept written.request request hrequest
    refine ⟨moved, hmoved, ?_, ?_⟩
    · by_contra hphase
      have hback := hmove.unwritten (by simpa using hphase)
      rw [hunwritten] at hback
      cases hback
    · rw [Request.target_congr hmove.pn]
      constructor
      · exact hrouted.number
      · intro htarget
        exact hextends.resolved (hrouted.sole htarget)
  · intro rid index hmem
    rw [hextends.answered] at hmem
    obtain ⟨request, payload, hrequest, hfuture⟩ :=
      hcorrelation.answered rid index hmem
    obtain ⟨moved, hmoved, hmove⟩ :=
      hdrift.requests.kept rid request hrequest
    exact ⟨moved, payload, hmoved, (hmove.result payload).mpr hfuture⟩
  · exact hcorrelation.sound.extend hextends

/-- For the events that choose no session. -/
def noRoute : ℕ → Option String → ℕ → Prop := fun _ _ _ => False

theorem Correlation.still (hcorrelation : Correlation manager trace)
    (hdrift : manager.Drifts noRoute after)
    (hextends : trace.Extends later) : Correlation after later := by
  apply hcorrelation.drift hdrift hextends
  intro rid target sid hroute
  cases hroute

end Drift

/-! ## Issuing an id -/

section Exchange

variable {trace : Trace} {manager : Manager} {sid rid : ℕ}
  {session : Session} {request : Request}

theorem nextTid_mod (issued : ℕ) :
    nextTid (issued % 65536) = (issued + 1) % 65536 := by
  unfold nextTid
  omega

theorem Trace.issued_issue_self (trace : Trace) (sid : ℕ) :
    (trace.issue sid).issued sid = trace.issued sid + 1 := by
  simp [Trace.issue]

theorem Trace.issued_issue_of_ne (trace : Trace) {sid other : ℕ}
    (hne : other ≠ sid) :
    (trace.issue sid).issued other = trace.issued other := by
  simp [Trace.issue, Function.update_of_ne hne]

theorem Manager.pnOf_setSession
    (hsession : manager.sessions[sid]? = some session) {moved : Session}
    (hpn : moved.pn = session.pn) (other : ℕ) :
    (manager.setSession sid moved).pnOf other = manager.pnOf other := by
  by_cases heq : sid = other
  · subst heq
    have hlength := (List.getElem?_eq_some_iff.mp hsession).1
    have hmoved : (manager.setSession sid moved).sessions[sid]? =
        some moved := List.getElem?_set_self hlength
    rw [Manager.pnOf_of_getElem? hmoved, Manager.pnOf_of_getElem? hsession,
      hpn]
  · unfold Manager.pnOf Manager.setSession
    rw [List.getElem?_set_ne heq]

theorem Manager.absent_of_setSession {moved : Session} {other : ℕ}
    (hnone : (manager.setSession sid moved).sessions[other]? = none) :
    manager.sessions[other]? = none := by
  rw [List.getElem?_eq_none_iff] at hnone ⊢
  simpa [Manager.setSession] using hnone

theorem Correlation.heartbeatTick
    (hcorrelation : Correlation manager trace)
    (hsession : manager.sessions[sid]? = some session) :
    Correlation
      (manager.setSession sid { session with tid := nextTid session.tid })
      (trace.issue sid) := by
  have haccounted := hcorrelation.sessions sid session hsession
  have hpnOf : ∀ other, (manager.setSession sid
      { session with tid := nextTid session.tid }).pnOf other =
        manager.pnOf other :=
    Manager.pnOf_setSession hsession rfl
  constructor
  · intro other moved hmoved
    rcases getElem?_set_cases hmoved with ⟨rfl, rfl⟩ | ⟨hne, hold⟩
    · constructor
      · rw [Trace.issued_issue_self, ← nextTid_mod, ← haccounted.tid]
      · rw [Trace.issued_issue_self]
        exact haccounted.correlated.skip
    · have hother := hcorrelation.sessions other moved hold
      constructor
      · rw [trace.issued_issue_of_ne hne]
        exact hother.tid
      · rw [trace.issued_issue_of_ne hne]
        exact hother.correlated
  · intro other hnone
    have hbefore := Manager.absent_of_setSession hnone
    have hne : other ≠ sid := by
      rintro rfl
      rw [hsession] at hbefore
      cases hbefore
    rw [trace.issued_issue_of_ne hne]
    exact hcorrelation.absent other hbefore
  · intro other moved hmoved
    have hother := hcorrelation.requests other moved hmoved
    constructor
    · intro queued hphase
      rw [hpnOf]
      exact hother.queued queued hphase
    · exact hother.returned
    · exact hother.result
  · exact hcorrelation.written
  · exact hcorrelation.answered
  · constructor
    · exact hcorrelation.sound.tid
    · exact hcorrelation.sound.past
    · exact hcorrelation.sound.answered
    · exact hcorrelation.sound.once
    · exact hcorrelation.sound.answeredOnce

/-! ## Writing a request -/

theorem Trace.registered_write_self (trace : Trace) (rid sid : ℕ)
    (session : Session) :
    (trace.write rid sid session).registered sid =
      insert (trace.issued sid + 1, rid) (trace.registered sid) := by
  ext ⟨number, owner⟩
  simp only [Trace.registered, Trace.write, Set.mem_ofPred_eq,
    List.mem_append, List.mem_singleton, Set.mem_insert_iff, Prod.mk.injEq]
  constructor
  · rintro ⟨written, hmem | rfl, hsession, hissue, hrequest⟩
    · exact .inr ⟨written, hmem, hsession, hissue, hrequest⟩
    · exact .inl ⟨hissue.symm, hrequest.symm⟩
  · rintro (⟨rfl, rfl⟩ | ⟨written, hmem, hsession, hissue, hrequest⟩)
    · exact ⟨_, .inr rfl, rfl, rfl, rfl⟩
    · exact ⟨written, .inl hmem, hsession, hissue, hrequest⟩

theorem Trace.registered_write_of_ne (trace : Trace) (rid : ℕ)
    (session : Session) {sid other : ℕ} (hne : other ≠ sid) :
    (trace.write rid sid session).registered other =
      trace.registered other := by
  ext ⟨number, owner⟩
  simp only [Trace.registered, Trace.write, Set.mem_ofPred_eq,
    List.mem_append, List.mem_singleton]
  constructor
  · rintro ⟨written, hmem | rfl, hsession, hissue, hrequest⟩
    · exact ⟨written, hmem, hsession, hissue, hrequest⟩
    · exact absurd hsession.symm hne
  · rintro ⟨written, hmem, hsession, hissue, hrequest⟩
    exact ⟨written, .inl hmem, hsession, hissue, hrequest⟩

theorem Session.Accounted.register
    (haccounted : session.Accounted trace sid) (rid : ℕ) :
    (session.register rid).Accounted (trace.write rid sid session) sid := by
  have hissued : (trace.write rid sid session).issued sid =
      trace.issued sid + 1 := trace.issued_issue_self sid
  have hnext : nextTid session.tid = (trace.issued sid + 1) % 65536 := by
    rw [haccounted.tid, nextTid_mod]
  constructor
  · rw [hissued]
    exact hnext
  · rw [hissued, trace.registered_write_self rid sid session]
    apply haccounted.correlated.register rid
    · rw [← hnext]
      exact session.pending.get?_set_self (nextTid session.tid) rid
    · intro id hid
      rw [← hnext] at hid
      exact session.pending.get?_set_of_ne hid rid

/-- A request that waits for a session has not been written. -/
theorem Correlation.notWritten (hcorrelation : Correlation manager trace)
    (hrequest : manager.requests[rid]? = some request)
    (hunwritten : request.phase.unwritten = true) :
    ∀ written ∈ trace.written, written.request ≠ rid := by
  intro written hmem heq
  obtain ⟨found, hfound, hphase, _⟩ := hcorrelation.written written hmem
  rw [heq, hrequest] at hfound
  obtain rfl := Option.some.inj hfound
  rw [hunwritten] at hphase
  cases hphase

theorem Trace.Sound.write (hsound : trace.Sound)
    (htid : session.tid = trace.issued sid % 65536)
    (hfresh : ∀ written ∈ trace.written, written.request ≠ rid) :
    (trace.write rid sid session).Sound := by
  constructor
  · intro written hmem
    rcases List.mem_append.mp hmem with hold | hnew
    · exact hsound.tid written hold
    · obtain rfl := List.mem_singleton.mp hnew
      dsimp only
      rw [htid, nextTid_mod]
  · intro written hmem
    rcases List.mem_append.mp hmem with hold | hnew
    · exact hsound.past written hold
    · obtain rfl := List.mem_singleton.mp hnew
      exact le_refl _
  · intro owner index hmem
    obtain ⟨written, hwritten, hanswers⟩ :=
      hsound.answered owner index hmem
    exact ⟨written, List.mem_append_left _ hwritten, hanswers⟩
  · intro first hfirst second hsecond hsame
    rcases List.mem_append.mp hfirst with hold | hnew <;>
      rcases List.mem_append.mp hsecond with hold' | hnew'
    · exact hsound.once first hold second hold' hsame
    · obtain rfl := List.mem_singleton.mp hnew'
      exact absurd hsame (hfresh first hold)
    · obtain rfl := List.mem_singleton.mp hnew
      exact absurd hsame.symm (hfresh second hold')
    · rw [List.mem_singleton.mp hnew, List.mem_singleton.mp hnew']
  · exact hsound.answeredOnce

theorem Correlation.acquire (hcorrelation : Correlation manager trace)
    (hrequest : manager.requests[rid]? = some request)
    (hphase : request.phase = .queued sid)
    (hsession : manager.sessions[sid]? = some session) :
    Correlation
      ((manager.setSession sid (session.register rid)).setRequest rid
        { request with
          phase := .draining sid (session.register rid).tid
          future := .pending })
      (trace.write rid sid session) := by
  have haccounted := hcorrelation.sessions sid session hsession
  have hunwritten : request.phase.unwritten = true := by
    rw [hphase]
    rfl
  have hfresh := hcorrelation.notWritten hrequest hunwritten
  have hlength := (List.getElem?_eq_some_iff.mp hrequest).1
  constructor
  · intro other moved hmoved
    rcases getElem?_set_cases hmoved with ⟨rfl, rfl⟩ | ⟨hne, hold⟩
    · exact haccounted.register rid
    · have hother := hcorrelation.sessions other moved hold
      have hissued : (trace.write rid sid session).issued other =
          trace.issued other := trace.issued_issue_of_ne hne
      constructor
      · rw [hissued]
        exact hother.tid
      · rw [hissued, trace.registered_write_of_ne rid session hne]
        exact hother.correlated
  · intro other hnone
    have hbefore := Manager.absent_of_setSession hnone
    have hne : other ≠ sid := by
      rintro rfl
      rw [hsession] at hbefore
      cases hbefore
    have hissued : (trace.write rid sid session).issued other =
        trace.issued other := trace.issued_issue_of_ne hne
    rw [hissued, trace.registered_write_of_ne rid session hne]
    exact hcorrelation.absent other hbefore
  · intro other moved hmoved
    rcases getElem?_set_cases hmoved with ⟨rfl, rfl⟩ | ⟨hne, hold⟩
    · constructor
      · intro queued hqueued
        cases hqueued
      · intro payload hreturned
        cases hreturned
      · intro payload hfuture
        cases hfuture
    · have hother := hcorrelation.requests other moved hold
      constructor
      · intro queued hqueued
        have hpn : (session.register rid).pn = session.pn := rfl
        have hrouted := hother.queued queued hqueued
        rw [← Manager.pnOf_setSession hsession hpn queued] at hrouted
        exact hrouted
      · exact hother.returned
      · exact hother.result
  · intro written hmem
    rcases List.mem_append.mp hmem with hold | hnew
    · obtain ⟨found, hfound, hbegun, hrouted⟩ :=
        hcorrelation.written written hold
      refine ⟨found, ?_, hbegun, hrouted⟩
      have hset : (manager.requests.set rid { request with
          phase := .draining sid (session.register rid).tid
          future := .pending })[written.request]? = some found := by
        rw [List.getElem?_set_ne (Ne.symm (hfresh written hold))]
        exact hfound
      exact hset
    · obtain rfl := List.mem_singleton.mp hnew
      refine ⟨_, List.getElem?_set_self hlength, rfl, ?_⟩
      have hrouted :=
        (hcorrelation.requests rid request hrequest).queued sid hphase
      rw [Manager.pnOf_of_getElem? hsession] at hrouted
      exact hrouted
  · intro owner index hmem
    obtain ⟨written, hwritten, _, howner, _⟩ :=
      hcorrelation.sound.answered owner index hmem
    obtain ⟨found, payload, hfound, hfuture⟩ :=
      hcorrelation.answered owner index hmem
    refine ⟨found, payload, ?_, hfuture⟩
    have hne : rid ≠ owner := by
      rw [← howner]
      exact Ne.symm (hfresh written hwritten)
    have hset : (manager.requests.set rid { request with
        phase := .draining sid (session.register rid).tid
        future := .pending })[owner]? = some found := by
      rw [List.getElem?_set_ne hne]
      exact hfound
    exact hset
  · exact hcorrelation.sound.write haccounted.tid hfresh

/-! ## Answering a request -/

/-- The pending table names a request that was written under the id. -/
theorem Correlation.written_of_pending
    (hcorrelation : Correlation manager trace)
    (hsession : manager.sessions[sid]? = some session) {tid : ℕ}
    (hpending : session.pending.get? tid = some rid) :
    ∃ written ∈ trace.written, written.request = rid ∧
      written.session = sid ∧ written.tid = tid := by
  obtain ⟨number, hregistered, hnumber, _⟩ :=
    (hcorrelation.sessions sid session hsession).correlated.latest tid rid
      hpending
  obtain ⟨written, hmem, hsid, hissue, hrid⟩ := hregistered
  refine ⟨written, hmem, hrid, hsid, ?_⟩
  rw [hcorrelation.sound.tid written hmem, hissue]
  exact hnumber

/-- A timely reply finds its own request pending, or none. -/
theorem Correlation.owner_eq (hcorrelation : Correlation manager trace)
    (hsession : manager.sessions[sid]? = some session)
    {received : Frame} {owner : ℕ} {now : String}
    (hcode : received.fcode = fcForward2Device)
    (htimely : Timely (manager, trace)
      (.frame sid received (some owner) now) = true)
    (hpending : session.pending.get? received.tid = some rid) :
    rid = owner := by
  have hany : ∃ written ∈ trace.written, written.request = owner ∧
      written.session = sid ∧ written.tid = received.tid ∧
      trace.issued sid < written.issue + 65536 := by
    simpa [Timely, hcode] using htimely
  obtain ⟨written, hmem, howner, hsid, htid, hwithin⟩ := hany
  have hregistered : (written.issue, owner) ∈ trace.registered sid :=
    ⟨written, hmem, hsid, rfl, howner⟩
  rw [← htid, hcorrelation.sound.tid written hmem] at hpending
  exact (hcorrelation.sessions sid session hsession).correlated.owner_eq
    hregistered hwithin hpending

theorem Trace.Sound.answer (hsound : trace.Sound) {arrival : Arrival}
    {written : Written} (hwritten : written ∈ trace.written)
    (hrid : written.request = rid)
    (hanswers : Answers written trace.arrivals.length arrival)
    (hopen : ∀ index, (rid, index) ∉ trace.answered) :
    (trace.arrive arrival (some rid)).Sound := by
  have hbelow : ∀ owner index, (owner, index) ∈ trace.answered →
      index < trace.arrivals.length := by
    intro owner index hmem
    obtain ⟨_, _, found, _, hfound, _⟩ := hsound.answered owner index hmem
    exact (List.getElem?_eq_some_iff.mp hfound).1
  constructor
  · exact hsound.tid
  · intro other hmem
    have hpast := hsound.past other hmem
    have hlength : (trace.arrivals ++ [arrival]).length =
        trace.arrivals.length + 1 := by simp
    exact hpast.trans (by rw [Trace.arrive, hlength]; omega)
  · intro owner index hmem
    rcases List.mem_append.mp hmem with hold | hnew
    · obtain ⟨other, hother, found, howner, hfound, hfits⟩ :=
        hsound.answered owner index hold
      have hlt := (List.getElem?_eq_some_iff.mp hfound).1
      refine ⟨other, hother, found, howner, ?_, hfits⟩
      exact (List.getElem?_append_left hlt).trans hfound
    · have hpair : (owner, index) = (rid, trace.arrivals.length) := by
        simpa using hnew
      obtain ⟨rfl, rfl⟩ := Prod.mk.inj hpair
      refine ⟨written, hwritten, arrival, hrid, ?_, hanswers⟩
      exact List.getElem?_concat_length
  · exact hsound.once
  · intro first index second other hfirst hsecond
    rcases List.mem_append.mp hfirst with hold | hnew <;>
      rcases List.mem_append.mp hsecond with hold' | hnew'
    · exact hsound.answeredOnce first index second other hold hold'
    · have hpair : (second, other) = (rid, trace.arrivals.length) := by
        simpa using hnew'
      obtain ⟨rfl, rfl⟩ := Prod.mk.inj hpair
      have hlt := hbelow first index hold
      constructor
      · intro heq
        rw [heq] at hold
        exact absurd hold (hopen index)
      · intro heq
        omega
    · have hpair : (first, index) = (rid, trace.arrivals.length) := by
        simpa using hnew
      obtain ⟨rfl, rfl⟩ := Prod.mk.inj hpair
      have hlt := hbelow second other hold'
      constructor
      · intro heq
        rw [← heq] at hold'
        exact absurd hold' (hopen other)
      · intro heq
        omega
    · have hpair : (first, index) = (rid, trace.arrivals.length) := by
        simpa using hnew
      have hpair' : (second, other) = (rid, trace.arrivals.length) := by
        simpa using hnew'
      obtain ⟨rfl, rfl⟩ := Prod.mk.inj hpair
      obtain ⟨rfl, rfl⟩ := Prod.mk.inj hpair'
      exact iff_of_true rfl rfl

theorem Correlation.resolveFuture (hcorrelation : Correlation manager trace)
    (hrequest : manager.requests[rid]? = some request)
    (hfuture : request.future = .pending) {written : Written}
    (hwritten : written ∈ trace.written) (hrid : written.request = rid)
    {arrival : Arrival}
    (hanswers : Answers written trace.arrivals.length arrival) :
    Correlation
      (manager.setRequest rid
        { request with future := .result arrival.payload })
      (trace.arrive arrival (some rid)) := by
  have hlength := (List.getElem?_eq_some_iff.mp hrequest).1
  have hopen : ∀ index, (rid, index) ∉ trace.answered := by
    intro index hmem
    obtain ⟨found, payload, hfound, hresult⟩ :=
      hcorrelation.answered rid index hmem
    rw [hrequest] at hfound
    obtain rfl := Option.some.inj hfound
    rw [hfuture] at hresult
    cases hresult
  have hbegun : request.phase.unwritten = false := by
    obtain ⟨found, hfound, hphase, _⟩ := hcorrelation.written written hwritten
    rw [hrid, hrequest] at hfound
    obtain rfl := Option.some.inj hfound
    exact hphase
  have haccounted := hcorrelation.requests rid request hrequest
  constructor
  · intro sid session hsession
    have hold := hcorrelation.sessions sid session hsession
    constructor
    · exact hold.tid
    · exact hold.correlated
  · exact hcorrelation.absent
  · intro other moved hmoved
    rcases getElem?_set_cases hmoved with ⟨rfl, rfl⟩ | ⟨_, hold⟩
    · constructor
      · intro sid hqueued
        have hphase : request.phase = .queued sid := hqueued
        rw [hphase] at hbegun
        cases hbegun
      · intro payload hreturned
        have hresult := haccounted.returned payload hreturned
        rw [hfuture] at hresult
        cases hresult
      · intro payload hresult
        have hpayload : arrival.payload = payload := Future.result.inj hresult
        refine ⟨trace.arrivals.length, arrival, ?_, ?_, hpayload⟩
        · simp [Trace.arrive]
        · exact List.getElem?_concat_length
    · have hother := hcorrelation.requests other moved hold
      constructor
      · exact hother.queued
      · exact hother.returned
      · intro payload hresult
        obtain ⟨index, found, hmem, hfound, hpayload⟩ :=
          hother.result payload hresult
        have hlt := (List.getElem?_eq_some_iff.mp hfound).1
        refine ⟨index, found, List.mem_append_left _ hmem, ?_, hpayload⟩
        exact (List.getElem?_append_left hlt).trans hfound
  · intro other hmem
    obtain ⟨found, hfound, hphase, hrouted⟩ :=
      hcorrelation.written other hmem
    by_cases heq : rid = other.request
    · subst heq
      rw [hrequest] at hfound
      obtain rfl := Option.some.inj hfound
      exact ⟨_, List.getElem?_set_self hlength, hphase, hrouted⟩
    · exact ⟨found, (List.getElem?_set_ne heq).trans hfound, hphase, hrouted⟩
  · intro owner index hmem
    rcases List.mem_append.mp hmem with hold | hnew
    · obtain ⟨found, payload, hfound, hresult⟩ :=
        hcorrelation.answered owner index hold
      have hne : rid ≠ owner := by
        rintro rfl
        exact hopen index hold
      exact ⟨found, payload, (List.getElem?_set_ne hne).trans hfound, hresult⟩
    · have hpair : (owner, index) = (rid, trace.arrivals.length) := by
        simpa using hnew
      obtain ⟨rfl, _⟩ := Prod.mk.inj hpair
      exact ⟨_, arrival.payload, List.getElem?_set_self hlength, rfl⟩
  · exact hcorrelation.sound.answer hwritten hrid hanswers hopen

theorem Correlation.answer (hcorrelation : Correlation manager trace)
    (hsession : manager.sessions[sid]? = some session)
    (hrequest : manager.requests[rid]? = some request)
    (hfuture : request.future = .pending) {received : Frame}
    (hpending : session.pending.get? received.tid = some rid)
    {replyTo : Option ℕ}
    (hgenuine : ∀ owner, replyTo = some owner → owner = rid) :
    Correlation
      ((manager.setSession sid { session with
          pending := session.pending.erase received.tid }).setRequest rid
        { request with future := .result received.payload })
      (trace.arrive ⟨sid, received.tid, received.payload, replyTo⟩
        (some rid)) := by
  obtain ⟨written, hwritten, hrid, hsid, htid⟩ :=
    hcorrelation.written_of_pending hsession hpending
  have hpopped : Correlation (manager.setSession sid { session with
      pending := session.pending.erase received.tid }) trace :=
    hcorrelation.still (Manager.Drifts.setSession hsession
      (Session.Drifts.erase session received.tid)) (.refl trace)
  have hanswers : Answers written trace.arrivals.length
      ⟨sid, received.tid, received.payload, replyTo⟩ := by
    constructor
    · exact hsid.symm
    · exact htid.symm
    · exact hcorrelation.sound.past written hwritten
    · intro owner howner
      rw [hrid]
      exact hgenuine owner howner
  exact hpopped.resolveFuture hrequest hfuture hwritten hrid hanswers

/-- A received frame either resolves one future or exchanges nothing. -/
theorem Correlation.forward (hcorrelation : Correlation manager trace)
    (hsession : manager.sessions[sid]? = some session)
    {received : Frame} {replyTo : Option ℕ} {now : String}
    (hcode : received.fcode = fcForward2Device)
    (htimely : Timely (manager, trace) (.frame sid received replyTo now) =
      true) :
    Correlation
      (manager.forwardFrame sid session received.tid received.payload)
      (trace.arrive ⟨sid, received.tid, received.payload, replyTo⟩
        (manager.answering sid received.tid)) := by
  have hquiet : ∀ after : Manager, manager.Drifts noRoute after →
      Correlation after (trace.arrive
        ⟨sid, received.tid, received.payload, replyTo⟩ none) := by
    intro after hdrift
    exact hcorrelation.still hdrift (trace.extends_arrive _)
  unfold Manager.forwardFrame Manager.answering
  rw [hsession]
  cases hpending : session.pending.get? received.tid with
  | none =>
      simp only [Option.bind_eq_bind, Option.bind_some, hpending,
        Option.bind_none]
      exact hquiet manager (Manager.Drifts.of_eq rfl rfl)
  | some rid =>
      have hpopped : manager.Drifts noRoute (manager.setSession sid
          { session with
            pending := session.pending.erase received.tid }) :=
        Manager.Drifts.setSession hsession
          (Session.Drifts.erase session received.tid)
      have hrequests : (manager.setSession sid
          { session with
            pending := session.pending.erase received.tid }).requests =
          manager.requests := rfl
      simp only [Option.bind_eq_bind, Option.bind_some, hpending, hrequests]
      cases hrequest : manager.requests[rid]? with
      | none => exact hquiet _ hpopped
      | some request =>
          simp only [Option.bind_some]
          by_cases hdone : request.future.done = true
          · rw [if_pos hdone, if_pos hdone]
            exact hquiet _ hpopped
          · rw [if_neg hdone, if_neg hdone]
            have hfuture : request.future = .pending := by
              simpa [Future.done] using hdone
            apply hcorrelation.answer hsession hrequest hfuture hpending
            intro owner howner
            rw [howner] at htimely
            exact (hcorrelation.owner_eq hsession hcode htimely
              hpending).symm

end Exchange

/-! ## Runs -/

section Runs

variable {trace : Trace} {manager after : Manager} {event : Event}

/-- The session a step chooses is the one the request is to be routed to. -/
theorem RoutedTo.of_chosen (hmaps : MapsInvariant manager.view)
    {target : Option String} {rid sid : ℕ}
    (hchosen : manager.maps.Chosen target sid) :
    RoutedTo (trace.resolve rid manager.maps.live).resolved
      (manager.pnOf sid) target rid sid := by
  constructor
  · intro wanted htarget
    rw [htarget] at hchosen
    have hmapped := (hmaps.consistent.mapped wanted sid hchosen).2.2
    rw [← manager.outline_pnOf]
    exact hmapped
  · intro htarget
    rw [htarget] at hchosen
    have hlive : manager.maps.live = {sid} := hchosen
    rw [hlive]
    exact List.mem_append_right _ (List.mem_singleton_self _)

theorem Correlation.choose (hcorrelation : Correlation manager trace)
    (hmaps : MapsInvariant manager.view) {rid sid : ℕ} {request : Request}
    (hrequest : manager.requests[rid]? = some request)
    (hphase : request.phase.unwritten = true)
    (hchosen : manager.maps.Chosen request.target sid) :
    Correlation (manager.settle rid request (.queued sid))
      (trace.resolve rid manager.maps.live) := by
  have hdrift : manager.Drifts
      (fun owner target found => owner = rid ∧
        manager.maps.Chosen target found)
      (manager.settle rid request (.queued sid)) := by
    apply Manager.Drifts.setRequest hrequest
    apply Request.Drifts.phase
    · intro payload hreturned
      cases hreturned
    · intro _
      exact hphase
    · intro found hqueued
      obtain rfl := RequestPhase.queued.inj hqueued
      exact ⟨rfl, hchosen⟩
  apply hcorrelation.drift hdrift (trace.extends_resolve rid _)
  rintro owner target found ⟨rfl, hfound⟩
  exact RoutedTo.of_chosen hmaps hfound

theorem Trace.observe_resolving {rid : ℕ}
    (hevent : event.resolving = some rid) :
    trace.observe manager event = trace.resolve rid manager.maps.live := by
  cases event <;> simp_all [Event.resolving, Trace.observe]

theorem Correlation.after_step (hcorrelation : Correlation manager trace)
    (hmaps : MapsInvariant manager.view)
    (hstep : manager.step event = some after)
    (htimely : Timely (manager, trace) event = true) :
    Correlation after (Trace.observe manager event trace) := by
  cases stepped_of_step hstep with
  | connect peer =>
      exact hcorrelation.still (Manager.Drifts.connect manager peer)
        (.refl trace)
  | heartbeat hsession _ hcode _ now =>
      have hother : ¬fcHeartbeat = fcForward2Device := by decide
      simp only [Trace.observe, hcode, if_neg hother]
      exact hcorrelation.still
        (Manager.Drifts.heartbeatFrame hsession _ now) (.refl trace)
  | forward hsession hcode =>
      simp only [Trace.observe, if_pos hcode]
      exact hcorrelation.forward hsession hcode htimely
  | otherFrame hcode =>
      simp only [Trace.observe, if_neg hcode]
      exact hcorrelation
  | disconnect hsession =>
      apply hcorrelation.still _ (.refl trace)
      exact Manager.Drifts.setFlags hsession rfl rfl rfl
  | teardown hsession _ _ registry =>
      exact hcorrelation.still (Manager.Drifts.teardown hsession registry)
        (.refl trace)
  | heartbeatTick hsession => exact hcorrelation.heartbeatTick hsession
  | heartbeatFailed hsession =>
      apply hcorrelation.still _ (.refl trace)
      exact Manager.Drifts.setFlags hsession rfl rfl rfl
  | sendFrame pn =>
      exact hcorrelation.still (Manager.Drifts.sendFrame manager pn)
        (.refl trace)
  | startFailed hrequest =>
      exact hcorrelation.still
        (Manager.Drifts.settle hrequest rfl (by simp)) (.refl trace)
  | @chosen _ rid sid request hevent hrequest hphase hchosen =>
      rw [Trace.observe_resolving hevent]
      exact hcorrelation.choose hmaps hrequest hphase hchosen
  | @unrouted _ rid request hevent hrequest =>
      rw [Trace.observe_resolving hevent]
      exact hcorrelation.still
        (Manager.Drifts.settle hrequest rfl (by simp))
        (trace.extends_resolve _ _)
  | @awaitNumber rid request pn hrequest hphase _ ready =>
      apply hcorrelation.still _ (trace.extends_resolve _ _)
      have hevent : manager.Drifts noRoute
          { manager with maps := (manager.maps.readyEventFor pn).1 } :=
        Manager.Drifts.of_eq rfl rfl
      apply hevent.trans
      apply Manager.Drifts.await _ hphase ready
      exact hrequest
  | awaitAny hrequest hphase ready =>
      exact hcorrelation.still (Manager.Drifts.await hrequest hphase ready)
        (trace.extends_resolve _ _)
  | waitTimeout hrequest =>
      exact hcorrelation.still
        (Manager.Drifts.settle hrequest rfl (by simp)) (.refl trace)
  | @acquire rid sid request session hrequest hphase hsession =>
      have hqueued : manager.queuedOn rid = some (sid, session) := by
        simp [Manager.queuedOn, hrequest, hphase, hsession]
      simp only [Trace.observe, hqueued]
      exact hcorrelation.acquire hrequest hphase hsession
  | drained hrequest =>
      exact hcorrelation.still
        (Manager.Drifts.settle hrequest rfl (by simp)) (.refl trace)
  | drainFailed hrequest sid tid =>
      apply hcorrelation.still _ (.refl trace)
      apply Manager.Drifts.trans (Manager.Drifts.popPending manager sid tid)
      apply Manager.Drifts.trans (Manager.Drifts.releaseLock _ sid)
      exact Manager.Drifts.settle (by simpa using hrequest) rfl (by simp)
  | replied hrequest hreply sid =>
      apply hcorrelation.still _ (.refl trace)
      apply Manager.Drifts.trans (Manager.Drifts.releaseLock manager sid)
      apply Manager.Drifts.settle (by simpa using hrequest) rfl
      intro payload hreturned
      exact hreply payload (RequestPhase.returned.inj hreturned)
  | replyTimeout hrequest sid tid =>
      apply hcorrelation.still _ (.refl trace)
      apply Manager.Drifts.trans (Manager.Drifts.popPending manager sid tid)
      apply Manager.Drifts.trans (Manager.Drifts.releaseLock _ sid)
      exact Manager.Drifts.abort (by simpa using hrequest) rfl (by simp)
  | abandoned hrequest =>
      exact hcorrelation.still
        (Manager.Drifts.settle hrequest rfl (by simp)) (.refl trace)
  | cancelWrite hrequest sid =>
      apply hcorrelation.still _ (.refl trace)
      apply Manager.Drifts.trans (Manager.Drifts.releaseLock manager sid)
      exact Manager.Drifts.settle (by simpa using hrequest) rfl (by simp)
  | cancelReply hrequest sid =>
      apply hcorrelation.still _ (.refl trace)
      apply Manager.Drifts.trans (Manager.Drifts.releaseLock manager sid)
      exact Manager.Drifts.abort (by simpa using hrequest) rfl (by simp)

end Runs

/-- The state of a run together with its history. -/
def Exchange (state : Manager × Trace) : Prop :=
  MapsInvariant state.1.view ∧ Correlation state.1 state.2

theorem Exchange.after_step (before : Manager × Trace) (event : Event)
    (after : Manager × Trace) (hexchange : Exchange before)
    (hstep : guarded (tracked (graph Manager.step) Trace.observe)
      (fun state event => Timely state event = true) before event after) :
    Exchange after := by
  obtain ⟨hmaps, hcorrelation⟩ := hexchange
  obtain ⟨⟨hnext, htrace⟩, htimely⟩ := hstep
  constructor
  · exact hmaps.after_step (mapsStep_of_step hmaps hnext)
  · rw [htrace]
    exact hcorrelation.after_step hmaps hnext htimely

/-- In every run in which fewer than 65536 ids are issued between a request
and any reply to it: a request is written once, to a session that identified
itself with its product number or was the only one connected; the bytes
returned are those of a later frame of that session under the id of the
request; a frame answers one request at most, the one it replies to. -/
theorem correlation_of_run {registry : EybondRegistry} {events : List Event}
    {final : Manager} {trace : Trace}
    (hrun : Run (guarded (tracked (graph Manager.step) Trace.observe)
      fun state event => Timely state event = true)
      (Manager.initial registry, .empty) events (final, trace)) :
    (∀ written ∈ trace.written, ∃ request,
      final.requests[written.request]? = some request ∧
        (∀ pn, request.target = some pn → written.pn = pn) ∧
        (request.target = none →
          (written.request, {written.session}) ∈ trace.resolved) ∧
        ∀ other ∈ trace.written, other.request = written.request →
          other = written) ∧
    (∀ rid request payload, final.requests[rid]? = some request →
      request.phase = .returned (some payload) →
        ∃ written ∈ trace.written, ∃ index arrival,
          written.request = rid ∧ (rid, index) ∈ trace.answered ∧
            trace.arrivals[index]? = some arrival ∧
            arrival.payload = payload ∧
            arrival.session = written.session ∧
            arrival.tid = written.tid ∧ written.arrivals ≤ index) ∧
    (∀ first index second other, (first, index) ∈ trace.answered →
      (second, other) ∈ trace.answered →
        (first = second ↔ index = other)) ∧
    (∀ rid index arrival owner, (rid, index) ∈ trace.answered →
      trace.arrivals[index]? = some arrival →
        arrival.replyTo = some owner → rid = owner) := by
  have hexchange : Exchange (final, trace) := by
    apply hrun.invariant Exchange _ Exchange.after_step
    exact ⟨initial_mapsInvariant, initial_correlation registry⟩
  have hcorrelation : Correlation final trace := hexchange.2
  have hsound := hcorrelation.sound
  constructor
  · intro written hmem
    obtain ⟨request, hrequest, _, hrouted⟩ :=
      hcorrelation.written written hmem
    refine ⟨request, hrequest, hrouted.number, hrouted.sole, ?_⟩
    intro other hother hsame
    exact hsound.once other hother written hmem hsame
  · refine ⟨?_, hsound.answeredOnce, ?_⟩
    · intro rid request payload hrequest hreturned
      have haccounted := hcorrelation.requests rid request hrequest
      have hfuture := haccounted.returned payload hreturned
      obtain ⟨index, arrival, hanswered, harrival, hpayload⟩ :=
        haccounted.result payload hfuture
      obtain ⟨written, hwritten, found, hrid, hfound, hanswers⟩ :=
        hsound.answered rid index hanswered
      rw [harrival] at hfound
      obtain rfl := Option.some.inj hfound
      exact ⟨written, hwritten, index, arrival, hrid, hanswered, harrival,
        hpayload, hanswers.session, hanswers.tid, hanswers.later⟩
    · intro rid index arrival owner hanswered harrival howner
      obtain ⟨written, _, found, hrid, hfound, hanswers⟩ :=
        hsound.answered rid index hanswered
      rw [harrival] at hfound
      obtain rfl := Option.some.inj hfound
      rw [← hrid]
      exact (hanswers.genuine owner howner).symm

/-- The first request times out; its late reply arrives before the reply to
the second one. -/
def lateReply : List Event :=
  let send (rid : ℕ) : List Event :=
    [.sendFrame (some "E5000020000001"), .resolve rid, .acquire rid,
      .drained rid]
  [.connect "10.0.0.7:5001",
    .frame 0 (heartbeatOf "E5000020000001") none "t0"] ++
    send 0 ++ [.replyTimeout 0] ++ send 1 ++
    [.frame 0 ⟨1, fcForward2Device, [1]⟩ (some 0) "t1",
      .frame 0 ⟨2, fcForward2Device, [2]⟩ (some 1) "t2", .replied 1]

def lateReplyWorld : Manager × Trace :=
  (execute (guardedNext (trackedNext Manager.step Trace.observe) Timely)
    (Manager.initial .empty, .empty) lateReply).get (by decide +kernel)

theorem correlation_of_lateReply :
    ∃ written ∈ lateReplyWorld.2.written, ∃ index arrival,
      written.request = 1 ∧ (1, index) ∈ lateReplyWorld.2.answered ∧
        lateReplyWorld.2.arrivals[index]? = some arrival ∧
        arrival.payload = [2] ∧ arrival.session = written.session ∧
        arrival.tid = written.tid ∧ written.arrivals ≤ index := by
  have hrun : Run (guarded (tracked (graph Manager.step) Trace.observe)
      fun state event => Timely state event = true)
      (Manager.initial .empty, .empty) lateReply lateReplyWorld :=
    guarded_run_of_execute (Option.some_get _).symm
  have hrequest : lateReplyWorld.1.requests[1]? = some
      ⟨some "E5000020000001", .returned (some [2]), .result [2]⟩ := by
    decide +kernel
  exact (correlation_of_run hrun).2.1 1 _ [2] hrequest rfl

end Eybond
end DessMonitor
