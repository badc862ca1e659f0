import DessMonitor.CommandQueueModel

/-!
# The steps of the queues

What every event can do, with everything that the source has checked before.
The invariants below are proved by cases on this relation.
-/

namespace DessMonitor
namespace Bus

inductive Stepped (world : World) : Event → World → Prop where
  | enqueue {entryId uri key : String} {priority : ℤ} {qid : ℕ}
      (hkey : Device.transportKey uri = some key)
      (hfree : world.ensureLock = none)
      (hqid : (world.ensure entryId key).queues.get? key = some qid) :
      Stepped world (.enqueue entryId uri priority)
        { world.ensure entryId key with
          calls := (world.ensure entryId key).calls ++
            [⟨qid, priority, none⟩] }
  | put {command : ℕ} {call : Call} {queue : CommandQueue}
      (hcall : world.calls[command]? = some call)
      (hqueue : world.objects[call.qid]? = some queue)
      (hnew : call.future = none) :
      Stepped world (.put command) (world.put command call queue)
  | cancelCall {future : ℕ}
      (hpending : world.futures[future]? = some .pending) :
      Stepped world (.cancelCall future)
        { world with futures := world.futures.set future .cancelled }
  | pick {qid : ℕ} {queue : CommandQueue} {item : Item}
      (hqueue : world.objects[qid]? = some queue)
      (hfirst : queue.first? = some item)
      (hwaiting : queue.worker = .waiting) (hcancelled : queue.cancelled = false) :
      Stepped world (.pick qid) (world.pick qid queue item)
  | finish {qid : ℕ} {queue : CommandQueue} {item : Item}
      (hqueue : world.objects[qid]? = some queue)
      (hitem : queue.worker.item? = some item) (outcome : Outcome) :
      Stepped world (.finish qid outcome)
        (world.finish qid queue item outcome)
  | abort {qid : ℕ} {queue : CommandQueue} {item : Item}
      (hqueue : world.objects[qid]? = some queue)
      (hitem : queue.worker.item? = some item)
      (hcancelled : queue.cancelled = true) :
      Stepped world (.abort qid) (world.setQueue qid queue.abort)
  | rested {qid : ℕ} {queue : CommandQueue}
      (hqueue : world.objects[qid]? = some queue)
      (hresting : queue.worker = .resting)
      (hcancelled : queue.cancelled = false) :
      Stepped world (.rested qid) (world.setQueue qid queue.wait)
  | exit {qid : ℕ} {queue : CommandQueue}
      (hqueue : world.objects[qid]? = some queue)
      (hexits : queue.exits = true) :
      Stepped world (.exit qid) (world.setQueue qid queue.exit)
  | releaseEntry {entryId : String} (hfree : world.ensureLock = none) :
      Stepped world (.releaseEntry entryId) (world.beginRelease entryId)
  | releaseKey {keys : Finset String} {key : String}
      (hlock : world.ensureLock = some ⟨keys, none⟩) (hkey : key ∈ keys) :
      Stepped world (.releaseKey key) (world.releaseKey keys key)
  | joined {keys : Finset String} {qid : ℕ} {queue : CommandQueue}
      (hlock : world.ensureLock = some ⟨keys, some qid⟩)
      (hqueue : world.objects[qid]? = some queue)
      (hended : queue.worker = .ended) :
      Stepped world .joined { world.setQueue qid queue.stopped with
        ensureLock := some ⟨keys, none⟩ }
  | released (hlock : world.ensureLock = some ⟨∅, none⟩) :
      Stepped world .released { world with ensureLock := none }

theorem stepped_of_step {world after : World} {event : Event}
    (hstep : world.step event = some after) : Stepped world event after := by
  cases event with
  | enqueue entryId uri priority =>
      simp only [World.step, Option.bind_eq_bind,
        Option.bind_eq_some_iff] at hstep
      obtain ⟨key, hkey, hstep⟩ := hstep
      split at hstep
      · cases hstep
      next hfree =>
        obtain ⟨qid, hqid, hstep⟩ := Option.bind_eq_some_iff.mp hstep
        obtain rfl := Option.some.inj hstep
        exact .enqueue hkey (Option.not_isSome_iff_eq_none.mp hfree) hqid
  | put command =>
      simp only [World.step, Option.bind_eq_bind,
        Option.bind_eq_some_iff] at hstep
      obtain ⟨call, hcall, queue, hqueue, hstep⟩ := hstep
      split at hstep
      · cases hstep
      next hnew =>
        obtain rfl := Option.some.inj hstep
        exact .put hcall hqueue (Option.not_isSome_iff_eq_none.mp hnew)
  | cancelCall future =>
      simp only [World.step] at hstep
      split at hstep
      next hpending =>
        obtain rfl := Option.some.inj hstep
        exact .cancelCall hpending
      next => cases hstep
  | pick qid =>
      simp only [World.step, Option.bind_eq_bind,
        Option.bind_eq_some_iff] at hstep
      obtain ⟨queue, hqueue, item, hfirst, hstep⟩ := hstep
      split at hstep
      next hwaiting =>
        obtain rfl := Option.some.inj hstep
        exact .pick hqueue hfirst hwaiting.1 hwaiting.2
      next => cases hstep
  | finish qid outcome =>
      simp only [World.step, Option.bind_eq_bind,
        Option.bind_eq_some_iff] at hstep
      obtain ⟨queue, hqueue, item, hitem, hstep⟩ := hstep
      obtain rfl := Option.some.inj hstep
      exact .finish hqueue hitem outcome
  | abort qid =>
      simp only [World.step, Option.bind_eq_bind,
        Option.bind_eq_some_iff] at hstep
      obtain ⟨queue, hqueue, hstep⟩ := hstep
      split at hstep
      next hrunning =>
        obtain rfl := Option.some.inj hstep
        obtain ⟨item, hitem⟩ := Option.isSome_iff_exists.mp hrunning.1
        exact .abort hqueue hitem hrunning.2
      next => cases hstep
  | rested qid =>
      simp only [World.step, Option.bind_eq_bind,
        Option.bind_eq_some_iff] at hstep
      obtain ⟨queue, hqueue, hstep⟩ := hstep
      split at hstep
      next hresting =>
        obtain rfl := Option.some.inj hstep
        exact .rested hqueue hresting.1 hresting.2
      next => cases hstep
  | exit qid =>
      simp only [World.step, Option.bind_eq_bind,
        Option.bind_eq_some_iff] at hstep
      obtain ⟨queue, hqueue, hstep⟩ := hstep
      split at hstep
      next hexits =>
        obtain rfl := Option.some.inj hstep
        exact .exit hqueue hexits
      next => cases hstep
  | releaseEntry entryId =>
      simp only [World.step] at hstep
      split at hstep
      · cases hstep
      next hfree =>
        obtain rfl := Option.some.inj hstep
        exact .releaseEntry (Option.not_isSome_iff_eq_none.mp hfree)
  | releaseKey key =>
      simp only [World.step] at hstep
      split at hstep
      next keys hlock =>
        split at hstep
        next hkey =>
          obtain rfl := Option.some.inj hstep
          exact .releaseKey hlock hkey
        next => cases hstep
      next => cases hstep
  | joined =>
      simp only [World.step] at hstep
      split at hstep
      next keys qid hlock =>
        obtain ⟨queue, hqueue, hstep⟩ := Option.bind_eq_some_iff.mp hstep
        split at hstep
        next hended =>
          obtain rfl := Option.some.inj hstep
          exact .joined hlock hqueue hended
        next => cases hstep
      next => cases hstep
  | released =>
      simp only [World.step] at hstep
      split at hstep
      next keys hlock =>
        split at hstep
        next hempty =>
          obtain rfl := Option.some.inj hstep
          subst hempty
          exact .released hlock
        next => cases hstep
      next => cases hstep

/-! ## Items -/

theorem first?_mem {queue : CommandQueue} {item : Item}
    (hfirst : queue.first? = some item) : item ∈ queue.items :=
  List.argmin_mem hfirst

theorem not_ended_of_item? {queue : CommandQueue} {item : Item}
    (hitem : queue.worker.item? = some item) : queue.worker ≠ .ended := by
  intro hended
  rw [hended] at hitem
  cases hitem

/-- A worker that ends is in no command. -/
theorem item?_of_exits {queue : CommandQueue} (hexits : queue.exits = true) :
    queue.worker.item? = none := by
  unfold CommandQueue.exits at hexits
  cases hworker : queue.worker with
  | running item =>
      rw [hworker] at hexits
      cases hexits
  | waiting => rfl
  | resting => rfl
  | aborting => rfl
  | ended => rfl

end Bus
end DessMonitor
