import DessMonitor.EybondRegistry
import DessMonitor.Foundation.LabelledRun
import Mathlib.Data.Finset.Insert

/-!
# The EyBond session manager

One listener accepts any number of dongles.  A session joins unidentified and
claims its product number with the first heartbeat that carries one, evicting
a stale session of the same number.  A request resolves its session, waits for
the send lock, registers a future under a fresh 16-bit id, writes its frame
and awaits the future.

Tasks switch only where the source awaits, so every event below is the code
between two awaits: of a session handler, of a heartbeat loop, or of one
`send_frame` call.
-/

namespace DessMonitor
namespace Eybond

abbrev Bytes := List UInt8

/-! ## Session maps -/

/-- `_sessions`, `_sessions_by_pn`, `_ready_by_pn` and `_any_ready`. -/
structure SessionMaps where
  live : Finset ℕ
  byPn : Dict String ℕ
  readyByPn : Dict String Bool
  anyReady : Bool

namespace SessionMaps

def initial : SessionMaps := ⟨∅, .empty, .empty, false⟩

def join (maps : SessionMaps) (sid : ℕ) : SessionMaps :=
  { maps with live := insert sid maps.live, anyReady := true }

/-- The flag of the event the caller will wait on, created when missing. -/
def readyEventFor (maps : SessionMaps) (pn : String) : SessionMaps × Bool :=
  match maps.readyByPn.get? pn with
  | some ready => (maps, ready)
  | none => ({ maps with readyByPn := maps.readyByPn.set pn false }, false)

def claim (maps : SessionMaps) (pn : String) (sid : ℕ) : SessionMaps :=
  { maps with
    byPn := maps.byPn.set pn sid
    readyByPn := maps.readyByPn.set pn true }

def unmap (maps : SessionMaps) (pn : String) : SessionMaps :=
  { maps with
    byPn := maps.byPn.erase pn
    readyByPn :=
      if maps.readyByPn.contains pn then maps.readyByPn.set pn false
      else maps.readyByPn }

/-- The map part of `_drop_session` for a session that carries `pn`. -/
def drop (maps : SessionMaps) (sid : ℕ) (pn : String) : SessionMaps :=
  let kept :=
    if pn ≠ "" ∧ maps.byPn.get? pn = some sid then maps.unmap pn else maps
  let live := kept.live.erase sid
  { kept with
    live := live
    anyReady := if live = ∅ then false else kept.anyReady }

/-- Routing without a product number needs exactly one connected session. -/
def pnlessTarget (maps : SessionMaps) (sessions : ℕ) : Option ℕ :=
  if maps.live.card = 1 then
    (List.range sessions).find? fun sid => decide (sid ∈ maps.live)
  else none

end SessionMaps

/-! ## Sessions and requests -/

inductive HandlerPhase where
  | reading
  | closing
  | closed
  deriving DecidableEq

/-- `pending` maps a transaction id to the request whose future it holds. -/
structure Session where
  peer : String
  pn : String
  tid : ℕ
  pending : Dict ℕ ℕ
  sendLock : Option ℕ
  handler : HandlerPhase
  heartbeat : Bool

def Session.connected (peer : String) : Session where
  peer := peer
  pn := ""
  tid := 0
  pending := .empty
  sendLock := none
  handler := .reading
  heartbeat := true

/-- `(self._tid + 1) & 0xFFFF`. -/
def nextTid (tid : ℕ) : ℕ := (tid + 1) % 65536

/-- The session takes the next id, keeps the request pending under it, and is
locked until the request is done. -/
def Session.register (session : Session) (rid : ℕ) : Session :=
  let tid := nextTid session.tid
  { session with
    tid := tid
    pending := session.pending.set tid rid
    sendLock := some rid }

inductive Future where
  | pending
  | result (payload : Bytes)
  | failed
  | cancelled
  deriving DecidableEq

def Future.done (future : Future) : Bool := future ≠ .pending

inductive RequestPhase where
  | starting
  | waiting (woken : Bool)
  | queued (sid : ℕ)
  | draining (sid tid : ℕ)
  | awaiting (sid tid : ℕ)
  | returned (reply : Option Bytes)
  | raised
  deriving DecidableEq

/-- One `send_frame` call. -/
structure Request where
  pn : Option String
  phase : RequestPhase
  future : Future
  deriving DecidableEq

/-- The product number a request is routed by; the empty text is none. -/
def Request.target (request : Request) : Option String :=
  request.pn.filter (· ≠ "")

/-! ## Frames -/

def fcHeartbeat : ℕ := 1
def fcForward2Device : ℕ := 4

structure Frame where
  tid : ℕ
  fcode : ℕ
  payload : Bytes
  deriving DecidableEq

/-- `payload[:14].decode("ascii", errors="replace").strip("\x00")`. -/
def heartbeatPn (payload : Bytes) : String :=
  let decoded := (payload.take 14).map fun byte =>
    if byte.toNat < 128 then Char.ofNat byte.toNat else Char.ofNat 0xfffd
  let nul : Char → Bool := fun c => c.toNat = 0
  .ofList (((decoded.dropWhile nul).reverse.dropWhile nul).reverse)

/-! ## The manager -/

/-- Sessions and requests are named by the order of their creation. -/
structure Manager where
  maps : SessionMaps
  sessions : List Session
  requests : List Request
  registry : EybondRegistry

namespace Manager

def initial (registry : EybondRegistry) : Manager :=
  ⟨.initial, [], [], registry⟩

def setSession (manager : Manager) (sid : ℕ) (session : Session) : Manager :=
  { manager with sessions := manager.sessions.set sid session }

def setRequest (manager : Manager) (rid : ℕ) (request : Request) : Manager :=
  { manager with requests := manager.requests.set rid request }

/-- Set an event: requests waiting for it will run again. -/
def wake (manager : Manager) (target : Option String) : Manager :=
  { manager with
    requests := manager.requests.map fun request =>
      match request.phase with
      | .waiting woken =>
          { request with
            phase := .waiting (woken || decide (request.target = target)) }
      | _ => request }

/-- Fail the pending futures of a session that is being dropped. -/
def failPending (manager : Manager) (pending : Dict ℕ ℕ) : Manager :=
  { manager with
    requests := manager.requests.mapIdx fun rid request =>
      if rid ∈ pending.values ∧ request.future = .pending then
        { request with future := .failed }
      else request }

def dropSession (manager : Manager) (sid : ℕ) : Manager :=
  match manager.sessions[sid]? with
  | none => manager
  | some session =>
      let dropped := { manager with maps := manager.maps.drop sid session.pn }
      (dropped.failPending session.pending).setSession sid
        { session with pending := .empty }

/-! ## Session handlers -/

def connect (manager : Manager) (peer : String) : Manager :=
  ({ manager with
    maps := manager.maps.join manager.sessions.length
    sessions := manager.sessions ++ [Session.connected peer] }).wake none

/-- A stale session of the same product number is dropped. -/
def evictOwner (manager : Manager) (sid : ℕ) (pn : String) : Manager :=
  match manager.maps.byPn.get? pn with
  | some old => if old = sid then manager else manager.dropSession old
  | none => manager

/-- The first heartbeat that carries a product number. -/
def identify (manager : Manager) (sid : ℕ) (session : Session)
    (pn now : String) : Manager :=
  let named := manager.setSession sid { session with pn := pn }
  let evicted := named.evictOwner sid pn
  let claimed := ({ evicted with
    maps := evicted.maps.claim pn sid }).wake (some pn)
  { claimed with
    registry := claimed.registry.recordSeen pn session.peer .connected now }

def heartbeatFrame (manager : Manager) (sid : ℕ) (session : Session)
    (payload : Bytes) (now : String) : Manager :=
  let pn := heartbeatPn payload
  if pn ≠ "" ∧ session.pn = "" then manager.identify sid session pn now
  else if session.pn ≠ "" then
    { manager with
      registry :=
        manager.registry.recordSeen session.pn session.peer .connected now }
  else manager

/-- A reply resolves the future registered under its id and removes it. -/
def forwardFrame (manager : Manager) (sid : ℕ) (session : Session)
    (tid : ℕ) (payload : Bytes) : Manager :=
  match session.pending.get? tid with
  | none => manager
  | some rid =>
      let popped := manager.setSession sid
        { session with pending := session.pending.erase tid }
      match popped.requests[rid]? with
      | none => popped
      | some request =>
          if request.future.done then popped
          else popped.setRequest rid { request with future := .result payload }

def frame (manager : Manager) (sid : ℕ) (received : Frame) (now : String) :
    Option Manager := do
  let session ← manager.sessions[sid]?
  if session.handler ≠ .reading then none
  else if received.fcode = fcHeartbeat then
    some (manager.heartbeatFrame sid session received.payload now)
  else if received.fcode = fcForward2Device then
    some (manager.forwardFrame sid session received.tid received.payload)
  else some manager

/-- The read loop ends; its heartbeat task is cancelled. -/
def disconnect (manager : Manager) (sid : ℕ) : Option Manager := do
  let session ← manager.sessions[sid]?
  if session.handler ≠ .reading then none
  else
    some (manager.setSession sid
      { session with handler := .closing, heartbeat := false })

/-- The rest of the handler, once the heartbeat task has ended. -/
def teardown (manager : Manager) (sid : ℕ) (now : String) :
    Option Manager := do
  let session ← manager.sessions[sid]?
  if session.handler ≠ .closing then none
  else
    let closed := manager.setSession sid { session with handler := .closed }
    let dropped := closed.dropSession sid
    some <|
      if session.pn ≠ "" ∧ dropped.maps.byPn.contains session.pn = false then
        { dropped with
          registry := dropped.registry.markDisconnected session.pn now }
      else dropped

def heartbeatTick (manager : Manager) (sid : ℕ) : Option Manager := do
  let session ← manager.sessions[sid]?
  if session.heartbeat then
    some (manager.setSession sid { session with tid := nextTid session.tid })
  else none

/-- The write of a heartbeat failed, which closes the connection. -/
def heartbeatFailed (manager : Manager) (sid : ℕ) : Option Manager := do
  let session ← manager.sessions[sid]?
  if session.heartbeat then
    some (manager.setSession sid { session with heartbeat := false })
  else none

/-! ## Requests -/

def sendFrame (manager : Manager) (pn : Option String) : Manager :=
  { manager with
    requests := manager.requests ++ [⟨pn, .starting, .pending⟩] }

def settle (manager : Manager) (rid : ℕ) (request : Request)
    (phase : RequestPhase) : Manager :=
  manager.setRequest rid { request with phase := phase }

/-- The session found, or no reply at all. -/
def routed (manager : Manager) (rid : ℕ) (request : Request) :
    Option ℕ → Manager
  | some sid => manager.settle rid request (.queued sid)
  | none => manager.settle rid request (.returned none)

/-- `ensure_started` raised. -/
def startFailed (manager : Manager) (rid : ℕ) : Option Manager := do
  let request ← manager.requests[rid]?
  if request.phase = .starting then
    some (manager.settle rid request .raised)
  else none

/-- `_wait_for_session` up to its await. -/
def resolve (manager : Manager) (rid : ℕ) : Option Manager := do
  let request ← manager.requests[rid]?
  if request.phase ≠ .starting then none
  else
    match request.target with
    | some pn =>
        match manager.maps.byPn.get? pn with
        | some sid => some (manager.routed rid request (some sid))
        | none =>
            let (maps, ready) := manager.maps.readyEventFor pn
            some (({ manager with maps := maps }).settle rid request
              (.waiting ready))
    | none =>
        if manager.maps.live = ∅ then
          some (manager.settle rid request (.waiting manager.maps.anyReady))
        else
          some (manager.routed rid request
            (manager.maps.pnlessTarget manager.sessions.length))

/-- The awaited event was set; the session is looked up again. -/
def resume (manager : Manager) (rid : ℕ) : Option Manager := do
  let request ← manager.requests[rid]?
  if request.phase ≠ .waiting true then none
  else
    match request.target with
    | some pn => some (manager.routed rid request (manager.maps.byPn.get? pn))
    | none =>
        some (manager.routed rid request
          (manager.maps.pnlessTarget manager.sessions.length))

def waitTimeout (manager : Manager) (rid : ℕ) : Option Manager := do
  let request ← manager.requests[rid]?
  match request.phase with
  | .waiting _ => some (manager.settle rid request (.returned none))
  | _ => none

/-- The send lock is free: register the future and write the frame. -/
def acquire (manager : Manager) (rid : ℕ) : Option Manager := do
  let request ← manager.requests[rid]?
  match request.phase with
  | .queued sid => do
      let session ← manager.sessions[sid]?
      if session.sendLock.isSome then none
      else
        let registered := session.register rid
        some ((manager.setSession sid registered).setRequest rid
          { request with
            phase := .draining sid registered.tid
            future := .pending })
  | _ => none

def releaseLock (manager : Manager) (sid : ℕ) : Manager :=
  match manager.sessions[sid]? with
  | none => manager
  | some session => manager.setSession sid { session with sendLock := none }

def popPending (manager : Manager) (sid tid : ℕ) : Manager :=
  match manager.sessions[sid]? with
  | none => manager
  | some session =>
      manager.setSession sid
        { session with pending := session.pending.erase tid }

def drained (manager : Manager) (rid : ℕ) : Option Manager := do
  let request ← manager.requests[rid]?
  match request.phase with
  | .draining sid tid => some (manager.settle rid request (.awaiting sid tid))
  | _ => none

def drainFailed (manager : Manager) (rid : ℕ) : Option Manager := do
  let request ← manager.requests[rid]?
  match request.phase with
  | .draining sid tid =>
      some (((manager.popPending sid tid).releaseLock sid).settle rid request
        (.returned none))
  | _ => none

/-- The awaited future is done: a result is returned, a failure is not. -/
def replied (manager : Manager) (rid : ℕ) : Option Manager := do
  let request ← manager.requests[rid]?
  match request.phase with
  | .awaiting sid _ =>
      match request.future with
      | .result payload =>
          some ((manager.releaseLock sid).settle rid request
            (.returned (some payload)))
      | .failed =>
          some ((manager.releaseLock sid).settle rid request (.returned none))
      | _ => none
  | _ => none

/-- Cancelling an awaited future has no effect once it is done. -/
def Future.cancel (future : Future) : Future :=
  if future.done then future else .cancelled

def replyTimeout (manager : Manager) (rid : ℕ) : Option Manager := do
  let request ← manager.requests[rid]?
  match request.phase with
  | .awaiting sid tid =>
      some (((manager.popPending sid tid).releaseLock sid).setRequest rid
        { request with
          phase := .returned none
          future := Future.cancel request.future })
  | _ => none

/-- The caller is cancelled; whatever the request registered stays. -/
def cancel (manager : Manager) (rid : ℕ) : Option Manager := do
  let request ← manager.requests[rid]?
  match request.phase with
  | .starting => some (manager.settle rid request .raised)
  | .waiting _ => some (manager.settle rid request .raised)
  | .queued _ => some (manager.settle rid request .raised)
  | .draining sid _ =>
      some ((manager.releaseLock sid).settle rid request .raised)
  | .awaiting sid _ =>
      some ((manager.releaseLock sid).setRequest rid
        { request with
          phase := .raised
          future := Future.cancel request.future })
  | .returned _ => none
  | .raised => none

end Manager

/-! ## Events -/

/-- `replyTo` of a frame names the request the dongle answers, when it answers
one; the manager does not see it. -/
inductive Event where
  | connect (peer : String)
  | frame (sid : ℕ) (received : Frame) (replyTo : Option ℕ) (now : String)
  | disconnect (sid : ℕ)
  | teardown (sid : ℕ) (now : String)
  | heartbeatTick (sid : ℕ)
  | heartbeatFailed (sid : ℕ)
  | sendFrame (pn : Option String)
  | startFailed (rid : ℕ)
  | resolve (rid : ℕ)
  | resume (rid : ℕ)
  | waitTimeout (rid : ℕ)
  | acquire (rid : ℕ)
  | drained (rid : ℕ)
  | drainFailed (rid : ℕ)
  | replied (rid : ℕ)
  | replyTimeout (rid : ℕ)
  | cancel (rid : ℕ)
  deriving DecidableEq

def Manager.step (manager : Manager) : Event → Option Manager
  | .connect peer => some (manager.connect peer)
  | .frame sid received _ now => manager.frame sid received now
  | .disconnect sid => manager.disconnect sid
  | .teardown sid now => manager.teardown sid now
  | .heartbeatTick sid => manager.heartbeatTick sid
  | .heartbeatFailed sid => manager.heartbeatFailed sid
  | .sendFrame pn => some (manager.sendFrame pn)
  | .startFailed rid => manager.startFailed rid
  | .resolve rid => manager.resolve rid
  | .resume rid => manager.resume rid
  | .waitTimeout rid => manager.waitTimeout rid
  | .acquire rid => manager.acquire rid
  | .drained rid => manager.drained rid
  | .drainFailed rid => manager.drainFailed rid
  | .replied rid => manager.replied rid
  | .replyTimeout rid => manager.replyTimeout rid
  | .cancel rid => manager.cancel rid

end Eybond
end DessMonitor
