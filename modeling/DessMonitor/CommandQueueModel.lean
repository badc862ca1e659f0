import DessMonitor.DeviceUri
import DessMonitor.Foundation.LabelledRun
import DessMonitor.Foundation.PythonValue
import Mathlib.Data.Finset.Erase
import Mathlib.Data.Finset.Insert
import Mathlib.Data.List.MinMax
import Mathlib.Data.Prod.Lex

/-!
# The command queues

Every transport has one queue with one worker, which runs the queued commands
one after the other.  A registry creates a queue when it is first used, counts
the entries that own it, and stops it when the last of them is released.

A worker that is cancelled meets `CancelledError` where it waits.  Between two
commands this ends it.  In a command it is up to the command: it may let the
error through, or catch it and end in its own way.  Commands raise the error
only when their worker was cancelled.
-/

namespace DessMonitor
namespace Bus

/-! ## Queues -/

inductive Outcome where
  | result (value : PyValue)
  | exception (error : String)

/-- The future that the caller of `enqueue` awaits; it is cancelled together
with its caller. -/
inductive Future where
  | pending
  | resolved (outcome : Outcome)
  | cancelled

/-- The outcome is set if the future is not done. -/
def Future.resolve (outcome : Outcome) : Future → Future
  | .pending => .resolved outcome
  | .resolved earlier => .resolved earlier
  | .cancelled => .cancelled

/-- The tuple `(priority, seq, fn, fut, desc)`, with the numbers of the
command and of its future. -/
structure Item where
  priority : ℤ
  seq : ℕ
  command : ℕ
  future : ℕ
  deriving DecidableEq

/-- The order on `ℤ` which comes first here is not computable. -/
instance keyOrder : LinearOrder (ℤ ×ₗ ℕ) :=
  @Prod.Lex.instLinearOrder ℤ ℕ Int.instLinearOrder Nat.instLinearOrder

/-- Tuples are compared from the left, and no two have the same `seq`. -/
def Item.key (item : Item) : ℤ ×ₗ ℕ := toLex (item.priority, item.seq)

/-- Where the worker task is: waiting for an item, in a command, in the sleep
after it, in the sleep after a command that was cancelled, or at its end. -/
inductive Worker where
  | waiting
  | running (item : Item)
  | resting
  | aborting
  | ended
  deriving DecidableEq

/-- Neither ended nor about to end. -/
def Worker.alive : Worker → Bool
  | .waiting => true
  | .running _ => true
  | .resting => true
  | .aborting => false
  | .ended => false

def Worker.item? : Worker → Option Item
  | .running item => some item
  | _ => none

/-- `task` is whether `_worker_task` is set; `cancelled` is a cancellation
that has not reached the worker yet. -/
structure CommandQueue where
  key : String
  items : List Item
  seq : ℕ
  worker : Worker
  cancelled : Bool
  task : Bool
  deriving DecidableEq

namespace CommandQueue

/-- A new queue whose worker was started. -/
def start (key : String) : CommandQueue :=
  ⟨key, [], 0, .waiting, false, true⟩

def put (queue : CommandQueue) (priority : ℤ) (command future : ℕ) :
    CommandQueue :=
  { queue with
    items := queue.items ++ [⟨priority, queue.seq, command, future⟩]
    seq := queue.seq + 1 }

/-- The next item of the priority queue. -/
def first? (queue : CommandQueue) : Option Item :=
  @List.argmin Item (ℤ ×ₗ ℕ) keyOrder.toPreorder _ Item.key queue.items

def pick (queue : CommandQueue) (item : Item) : CommandQueue :=
  { queue with items := queue.items.erase item, worker := .running item }

/-- The command is over; if its worker was cancelled meanwhile, it has caught
the error. -/
def rest (queue : CommandQueue) : CommandQueue :=
  { queue with worker := .resting, cancelled := false }

/-- The command let the cancellation through. -/
def abort (queue : CommandQueue) : CommandQueue :=
  { queue with worker := .aborting, cancelled := false }

def wait (queue : CommandQueue) : CommandQueue :=
  { queue with worker := .waiting }

def exit (queue : CommandQueue) : CommandQueue :=
  { queue with worker := .ended, cancelled := false }

/-- `stop` up to its await. -/
def cancel (queue : CommandQueue) : CommandQueue :=
  if queue.worker = .ended then queue else { queue with cancelled := true }

/-- The rest of `stop`. -/
def stopped (queue : CommandQueue) : CommandQueue :=
  { queue with task := false }

/-- The cancellation, or the error that the worker is handing on, ends it. -/
def exits (queue : CommandQueue) : Bool :=
  match queue.worker with
  | .waiting => queue.cancelled
  | .resting => queue.cancelled
  | .aborting => true
  | _ => false

end CommandQueue

/-! ## The registry -/

/-- A call of `enqueue` that has found its queue; it has a future from when it
has put its command there. -/
structure Call where
  qid : ℕ
  priority : ℤ
  future : Option ℕ
  deriving DecidableEq

/-- A `release_entry` that holds the lock: the keys it has not looked at, and
the queue it is stopping. -/
structure Release where
  keys : Finset String
  stopping : Option ℕ
  deriving DecidableEq

/-- `started` and `finished` are histories. -/
structure World where
  queues : Dict String ℕ
  refcount : Dict String ℤ
  entryKeys : Dict String (Finset String)
  ensureLock : Option Release
  objects : List CommandQueue
  calls : List Call
  futures : List Future
  started : List ℕ
  finished : List (ℕ × Outcome)

def World.initial : World :=
  ⟨.empty, .empty, .empty, none, [], [], [], [], []⟩

/-- What `QueueRegistry` and the workers do between two awaits.  `put` is the
part of `enqueue` after the queue was looked up, and `cancelCall` cancels a
caller that awaits its future. -/
inductive Event where
  | enqueue (entryId uri : String) (priority : ℤ)
  | put (command : ℕ)
  | cancelCall (future : ℕ)
  | pick (qid : ℕ)
  | finish (qid : ℕ) (outcome : Outcome)
  | abort (qid : ℕ)
  | rested (qid : ℕ)
  | exit (qid : ℕ)
  | releaseEntry (entryId : String)
  | releaseKey (key : String)
  | joined
  | released

namespace World

def setQueue (world : World) (qid : ℕ) (queue : CommandQueue) : World :=
  { world with objects := world.objects.set qid queue }

def owned (world : World) (entryId : String) : Finset String :=
  (world.entryKeys.get? entryId).getD ∅

/-- The queue of a key, created if there is none. -/
def ensureQueue (world : World) (key : String) : World :=
  if world.queues.contains key then world
  else
    { world with
      queues := world.queues.set key world.objects.length
      refcount := world.refcount.set key 0
      objects := world.objects ++ [.start key] }

def own (world : World) (entryId key : String) : World :=
  if key ∈ world.owned entryId then world
  else
    { world with
      entryKeys := world.entryKeys.set entryId
        (insert key (world.owned entryId))
      refcount := world.refcount.set key
        ((world.refcount.get? key).getD 0 + 1) }

/-- `_ensure`. -/
def ensure (world : World) (entryId key : String) : World :=
  (world.ensureQueue key).own entryId key

/-- `CommandQueue.enqueue` up to its await. -/
def put (world : World) (command : ℕ) (call : Call) (queue : CommandQueue) :
    World :=
  { world with
    objects := world.objects.set call.qid
      (queue.put call.priority command world.futures.length)
    calls := world.calls.set command
      { call with future := world.futures.length }
    futures := world.futures ++ [.pending] }

def pick (world : World) (qid : ℕ) (queue : CommandQueue) (item : Item) :
    World :=
  { world.setQueue qid (queue.pick item) with
    started := world.started ++ [item.command] }

def finish (world : World) (qid : ℕ) (queue : CommandQueue) (item : Item)
    (outcome : Outcome) : World :=
  { world.setQueue qid queue.rest with
    futures := world.futures.modify item.future (Future.resolve outcome)
    finished := world.finished ++ [(item.command, outcome)] }

def beginRelease (world : World) (entryId : String) : World :=
  { world with
    entryKeys := world.entryKeys.erase entryId
    ensureLock := some ⟨world.owned entryId, none⟩ }

/-- One turn of the loop of `release_entry`, up to its await if it stops a
queue. -/
def releaseKey (world : World) (keys : Finset String) (key : String) : World :=
  let left := (world.refcount.get? key).getD 1 - 1
  if left ≤ 0 then
    let removed : World := { world with
      refcount := world.refcount.erase key
      queues := world.queues.erase key
      ensureLock := some ⟨keys.erase key, none⟩ }
    match world.queues.get? key with
    | none => removed
    | some qid =>
        match world.objects[qid]? with
        | none => removed
        | some queue =>
            if queue.task then
              { removed.setQueue qid queue.cancel with
                ensureLock := some ⟨keys.erase key, qid⟩ }
            else removed
  else
    { world with
      refcount := world.refcount.set key left
      ensureLock := some ⟨keys.erase key, none⟩ }

def step (world : World) : Event → Option World
  | .enqueue entryId uri priority => do
      let key ← Device.transportKey uri
      if world.ensureLock.isSome then none
      else
        let ensured := world.ensure entryId key
        let qid ← ensured.queues.get? key
        some { ensured with
          calls := ensured.calls ++ [⟨qid, priority, none⟩] }
  | .put command => do
      let call ← world.calls[command]?
      let queue ← world.objects[call.qid]?
      if call.future.isSome then none else some (world.put command call queue)
  | .cancelCall future =>
      match world.futures[future]? with
      | some .pending =>
          some { world with futures := world.futures.set future .cancelled }
      | _ => none
  | .pick qid => do
      let queue ← world.objects[qid]?
      let item ← queue.first?
      if queue.worker = .waiting ∧ queue.cancelled = false then
        some (world.pick qid queue item)
      else none
  | .finish qid outcome => do
      let queue ← world.objects[qid]?
      let item ← queue.worker.item?
      some (world.finish qid queue item outcome)
  | .abort qid => do
      let queue ← world.objects[qid]?
      if queue.worker.item?.isSome ∧ queue.cancelled = true then
        some (world.setQueue qid queue.abort)
      else none
  | .rested qid => do
      let queue ← world.objects[qid]?
      if queue.worker = .resting ∧ queue.cancelled = false then
        some (world.setQueue qid queue.wait)
      else none
  | .exit qid => do
      let queue ← world.objects[qid]?
      if queue.exits then some (world.setQueue qid queue.exit) else none
  | .releaseEntry entryId =>
      if world.ensureLock.isSome then none
      else some (world.beginRelease entryId)
  | .releaseKey key =>
      match world.ensureLock with
      | some ⟨keys, none⟩ =>
          if key ∈ keys then some (world.releaseKey keys key) else none
      | _ => none
  | .joined =>
      match world.ensureLock with
      | some ⟨keys, some qid⟩ => do
          let queue ← world.objects[qid]?
          if queue.worker = .ended then
            some { world.setQueue qid queue.stopped with
              ensureLock := some ⟨keys, none⟩ }
          else none
      | _ => none
  | .released =>
      match world.ensureLock with
      | some ⟨keys, none⟩ =>
          if keys = ∅ then some { world with ensureLock := none } else none
      | _ => none

end World

/-! ## Queues used without the registry -/

/-- `enqueueOn` and `stop` are `CommandQueue.enqueue`, up to its `put`, and
`CommandQueue.stop`, called on a queue itself. -/
inductive DirectEvent where
  | registry (event : Event)
  | enqueueOn (qid : ℕ) (priority : ℤ)
  | stop (qid : ℕ)
  | stopReturned (qid : ℕ)

def World.directStep (world : World) : DirectEvent → Option World
  | .registry event => world.step event
  | .enqueueOn qid priority => do
      let _ ← world.objects[qid]?
      some { world with calls := world.calls ++ [⟨qid, priority, none⟩] }
  | .stop qid => do
      let queue ← world.objects[qid]?
      if queue.task then some (world.setQueue qid queue.cancel)
      else some world
  | .stopReturned qid => do
      let queue ← world.objects[qid]?
      if queue.worker = .ended then some (world.setQueue qid queue.stopped)
      else none

end Bus
end DessMonitor
