import DessMonitor.CommandQueueSteps
import DessMonitor.Foundation.ListUpdate

/-!
# Ownership of the queues

The reference count of a key is the number of entries that own it, counting
an entry that is being released until its release has looked at the key.  A
key with a positive count has a registered queue with a live worker, and every
other queue is stopped, or being stopped by the release that holds the lock.
-/

namespace DessMonitor
namespace Bus

open LabelledRun ListUpdate

/-! ## Counting owners -/

/-- The worker has not ended and nothing has told it to. -/
def CommandQueue.Live (queue : CommandQueue) : Prop :=
  queue.task = true ∧ queue.cancelled = false ∧ queue.worker.alive = true

/-- A `stop` has returned. -/
def CommandQueue.Ended (queue : CommandQueue) : Prop :=
  queue.worker = .ended ∧ queue.task = false

namespace World

def Owns (world : World) (entryId key : String) : Prop :=
  key ∈ world.owned entryId

/-- The number of entries that own the key. -/
def owners (world : World) (key : String) : ℕ :=
  world.entryKeys.count fun keys => decide (key ∈ keys)

/-- The release that holds the lock has not looked at the key. -/
def releasing (world : World) (key : String) : Bool :=
  world.ensureLock.any fun release => decide (key ∈ release.keys)

def claims (world : World) (key : String) : ℕ :=
  world.owners key + (world.releasing key).toNat

def stopping? (world : World) : Option ℕ :=
  world.ensureLock.bind Release.stopping

theorem any_owned (world : World) (entryId key : String) :
    (world.entryKeys.get? entryId).any (fun keys => decide (key ∈ keys)) =
      decide (key ∈ world.owned entryId) := by
  unfold owned
  cases world.entryKeys.get? entryId with
  | none => simp
  | some keys => rfl

/-- Adding a key to an entry. -/
theorem count_set_owned (world : World) (entryId key : String)
    (keys : Finset String) :
    (world.entryKeys.set entryId keys).count
          (fun owned => decide (key ∈ owned)) +
        (decide (key ∈ world.owned entryId)).toNat =
      world.owners key + (decide (key ∈ keys)).toNat := by
  rw [← any_owned]
  exact Dict.count_set _ world.entryKeys entryId keys

theorem count_erase_owned (world : World) (entryId key : String) :
    (world.entryKeys.erase entryId).count
          (fun owned => decide (key ∈ owned)) +
        (decide (key ∈ world.owned entryId)).toNat =
      world.owners key := by
  rw [← any_owned]
  exact Dict.count_erase _ world.entryKeys entryId

theorem owners_pos {world : World} {entryId key : String}
    (howned : world.Owns entryId key) : 0 < world.owners key := by
  have hcount := world.count_erase_owned entryId key
  have hmem : decide (key ∈ world.owned entryId) = true := by
    rw [decide_eq_true_iff]
    exact howned
  rw [hmem] at hcount
  simp only [Bool.toNat_true] at hcount
  omega

end World

/-! ## The invariant -/

structure Accounted (world : World) : Prop where
  refcount : ∀ key,
    (world.refcount.get? key).getD 0 = (world.claims key : ℤ)
  claimed : ∀ key, 0 < world.claims key →
    ∃ qid, world.queues.get? key = some qid
  registered : ∀ key qid, world.queues.get? key = some qid →
    0 < world.claims key ∧
      ∃ queue, world.objects[qid]? = some queue ∧ queue.key = key ∧ queue.Live
  others : ∀ qid queue, world.objects[qid]? = some queue →
    world.queues.get? queue.key = some qid ∨ world.stopping? = some qid ∨
      queue.Ended
  stopping : ∀ qid queue, world.stopping? = some qid →
    world.objects[qid]? = some queue → world.queues.get? queue.key = none

theorem initial_accounted : Accounted World.initial := by
  constructor
  · intro key
    rfl
  · intro key hpos
    cases hpos
  · intro key qid hget
    cases hget
  · intro qid queue hqueue
    cases hqueue
  · intro qid queue hstopping
    cases hstopping

section Steps

variable {world after : World} {qid : ℕ} {queue moved : CommandQueue}

theorem Accounted.get?_refcount (haccounted : Accounted world) {key : String}
    (hpos : 0 < world.claims key) :
    world.refcount.get? key = some (world.claims key : ℤ) := by
  have hcount := haccounted.refcount key
  cases hget : world.refcount.get? key with
  | none =>
      rw [hget, Option.getD_none] at hcount
      omega
  | some count =>
      rw [hget, Option.getD_some] at hcount
      rw [hcount]

/-! ## Workers and callers -/

structure SameRegistry (world after : World) : Prop where
  queues : after.queues = world.queues
  refcount : after.refcount = world.refcount
  entryKeys : after.entryKeys = world.entryKeys
  ensureLock : after.ensureLock = world.ensureLock

/-- What anything but the registry does to a queue. -/
structure LocalMove (queue moved : CommandQueue) : Prop where
  key : moved.key = queue.key
  task : moved.task = queue.task
  live : queue.Live → moved.Live
  ended : queue.worker = .ended → moved.worker = .ended

theorem SameRegistry.claims (hsame : SameRegistry world after)
    (key : String) : after.claims key = world.claims key := by
  unfold World.claims World.owners World.releasing
  rw [hsame.entryKeys, hsame.ensureLock]

theorem Accounted.keep (haccounted : Accounted world)
    (hsame : SameRegistry world after) (hobjects : after.objects = world.objects) :
    Accounted after := by
  have hstopping : after.stopping? = world.stopping? := by
    unfold World.stopping?
    rw [hsame.ensureLock]
  constructor
  · intro key
    rw [hsame.refcount, hsame.claims]
    exact haccounted.refcount key
  · intro key
    rw [hsame.queues, hsame.claims]
    exact haccounted.claimed key
  · intro key qid
    rw [hsame.queues, hsame.claims, hobjects]
    exact haccounted.registered key qid
  · intro qid queue
    rw [hsame.queues, hobjects, hstopping]
    exact haccounted.others qid queue
  · intro qid queue
    rw [hsame.queues, hobjects, hstopping]
    exact haccounted.stopping qid queue

theorem Accounted.move (haccounted : Accounted world)
    (hsame : SameRegistry world after)
    (hqueue : world.objects[qid]? = some queue)
    (hobjects : after.objects = world.objects.set qid moved)
    (hmove : LocalMove queue moved) : Accounted after := by
  have hstopping : after.stopping? = world.stopping? := by
    unfold World.stopping?
    rw [hsame.ensureLock]
  have hlength := (List.getElem?_eq_some_iff.mp hqueue).1
  constructor
  · intro key
    rw [hsame.refcount, hsame.claims]
    exact haccounted.refcount key
  · intro key
    rw [hsame.queues, hsame.claims]
    exact haccounted.claimed key
  · intro key other hget
    rw [hsame.queues] at hget
    obtain ⟨hpos, found, hfound, hkey, hlive⟩ :=
      haccounted.registered key other hget
    rw [hsame.claims, hobjects]
    refine ⟨hpos, ?_⟩
    by_cases heq : qid = other
    · subst heq
      rw [hqueue] at hfound
      obtain rfl := Option.some.inj hfound
      exact ⟨moved, List.getElem?_set_self hlength, hmove.key.trans hkey,
        hmove.live hlive⟩
    · exact ⟨found, by rw [List.getElem?_set_ne heq]; exact hfound, hkey,
        hlive⟩
  · intro other found hfound
    rw [hobjects] at hfound
    rw [hsame.queues, hstopping]
    rcases getElem?_set_cases hfound with ⟨rfl, rfl⟩ | ⟨-, hold⟩
    · rw [hmove.key]
      rcases haccounted.others other queue hqueue with hreg | hstop | hended
      · exact .inl hreg
      · exact .inr (.inl hstop)
      · exact .inr (.inr ⟨hmove.ended hended.1, hmove.task.trans hended.2⟩)
    · exact haccounted.others other found hold
  · intro other found hstop hfound
    rw [hobjects] at hfound
    rw [hstopping] at hstop
    rw [hsame.queues]
    rcases getElem?_set_cases hfound with ⟨rfl, rfl⟩ | ⟨-, hold⟩
    · rw [hmove.key]
      exact haccounted.stopping other queue hstop hqueue
    · exact haccounted.stopping other found hstop hold

theorem localMove_put (queue : CommandQueue) (priority : ℤ)
    (command future : ℕ) :
    LocalMove queue (queue.put priority command future) :=
  ⟨rfl, rfl, id, id⟩

theorem localMove_pick (item : Item) (hwaiting : queue.worker = .waiting) :
    LocalMove queue (queue.pick item) := by
  refine ⟨rfl, rfl, ?_, ?_⟩
  · intro hlive
    exact ⟨hlive.1, hlive.2.1, rfl⟩
  · intro hended
    rw [hwaiting] at hended
    cases hended

theorem localMove_rest {item : Item}
    (hitem : queue.worker.item? = some item) : LocalMove queue queue.rest := by
  refine ⟨rfl, rfl, ?_, ?_⟩
  · intro hlive
    exact ⟨hlive.1, rfl, rfl⟩
  · intro hended
    exact absurd hended (not_ended_of_item? hitem)

theorem localMove_abort {item : Item}
    (hitem : queue.worker.item? = some item)
    (hcancelled : queue.cancelled = true) : LocalMove queue queue.abort := by
  refine ⟨rfl, rfl, ?_, ?_⟩
  · intro hlive
    rw [hlive.2.1] at hcancelled
    cases hcancelled
  · intro hended
    exact absurd hended (not_ended_of_item? hitem)

theorem localMove_wait (hresting : queue.worker = .resting) :
    LocalMove queue queue.wait := by
  refine ⟨rfl, rfl, ?_, ?_⟩
  · intro hlive
    exact ⟨hlive.1, hlive.2.1, rfl⟩
  · intro hended
    rw [hresting] at hended
    cases hended

/-- Only a worker that was cancelled ends. -/
theorem localMove_exit (hexits : queue.exits = true) :
    LocalMove queue queue.exit := by
  refine ⟨rfl, rfl, ?_, fun _ => rfl⟩
  intro hlive
  obtain ⟨-, hcancelled, halive⟩ := hlive
  unfold CommandQueue.exits at hexits
  rw [hcancelled] at hexits
  cases hworker : queue.worker with
  | waiting =>
      rw [hworker] at hexits
      cases hexits
  | running item =>
      rw [hworker] at hexits
      cases hexits
  | resting =>
      rw [hworker] at hexits
      cases hexits
  | aborting =>
      rw [hworker] at halive
      cases halive
  | ended =>
      rw [hworker] at halive
      cases halive

/-- The events of workers and callers. -/
def Event.isLocal : Event → Bool
  | .put _ => true
  | .cancelCall _ => true
  | .pick _ => true
  | .finish _ _ => true
  | .abort _ => true
  | .rested _ => true
  | .exit _ => true
  | _ => false

theorem localMove_of_step {event : Event} (hstep : Stepped world event after)
    (hlocal : event.isLocal = true) :
    SameRegistry world after ∧ (after.objects = world.objects ∨
      ∃ qid queue moved, world.objects[qid]? = some queue ∧
        after.objects = world.objects.set qid moved ∧
        LocalMove queue moved) := by
  cases hstep with
  | put _ hqueue _ =>
      exact ⟨⟨rfl, rfl, rfl, rfl⟩, .inr ⟨_, _, _, hqueue, rfl,
        localMove_put _ _ _ _⟩⟩
  | cancelCall _ => exact ⟨⟨rfl, rfl, rfl, rfl⟩, .inl rfl⟩
  | pick hqueue _ hwaiting _ =>
      exact ⟨⟨rfl, rfl, rfl, rfl⟩, .inr ⟨_, _, _, hqueue, rfl,
        localMove_pick _ hwaiting⟩⟩
  | finish hqueue hitem _ =>
      exact ⟨⟨rfl, rfl, rfl, rfl⟩, .inr ⟨_, _, _, hqueue, rfl,
        localMove_rest hitem⟩⟩
  | abort hqueue hitem hcancelled =>
      exact ⟨⟨rfl, rfl, rfl, rfl⟩, .inr ⟨_, _, _, hqueue, rfl,
        localMove_abort hitem hcancelled⟩⟩
  | rested hqueue hresting _ =>
      exact ⟨⟨rfl, rfl, rfl, rfl⟩, .inr ⟨_, _, _, hqueue, rfl,
        localMove_wait hresting⟩⟩
  | exit hqueue hexits =>
      exact ⟨⟨rfl, rfl, rfl, rfl⟩, .inr ⟨_, _, _, hqueue, rfl,
        localMove_exit hexits⟩⟩
  | enqueue => cases hlocal
  | releaseEntry => cases hlocal
  | releaseKey => cases hlocal
  | joined => cases hlocal
  | released => cases hlocal

/-! ## The registry -/

theorem claims_of_free (hfree : world.ensureLock = none) (key : String) :
    world.claims key = world.owners key := by
  unfold World.claims World.releasing
  rw [hfree]
  rfl

/-- An entry becomes an owner of a key. -/
theorem owners_insert {entryId key : String}
    (hnew : key ∉ world.owned entryId)
    (hentryKeys : after.entryKeys = world.entryKeys.set entryId
      (insert key (world.owned entryId))) (other : String) :
    after.owners other = world.owners other + if other = key then 1 else 0 := by
  have hcount := world.count_set_owned entryId other
    (insert key (world.owned entryId))
  unfold World.owners at hcount ⊢
  rw [hentryKeys]
  by_cases heq : other = key
  · subst heq
    simp only [Finset.mem_insert, true_or, decide_true, hnew, decide_false,
      Bool.toNat_true, Bool.toNat_false, if_true] at hcount ⊢
    omega
  · simp only [Finset.mem_insert, heq, false_or, if_false] at hcount ⊢
    omega

theorem ensureQueue_fresh {key : String}
    (hfresh : world.queues.get? key = none) :
    world.ensureQueue key = { world with
      queues := world.queues.set key world.objects.length
      refcount := world.refcount.set key 0
      objects := world.objects ++ [.start key] } := by
  unfold World.ensureQueue Dict.contains
  rw [hfresh]
  rfl

theorem ensureQueue_registered {key : String}
    (hget : world.queues.get? key = some qid) :
    world.ensureQueue key = world := by
  unfold World.ensureQueue Dict.contains
  rw [hget]
  rfl

theorem own_new {entryId key : String}
    (hnew : key ∉ world.owned entryId) :
    world.own entryId key = { world with
      entryKeys := world.entryKeys.set entryId
        (insert key (world.owned entryId))
      refcount := world.refcount.set key
        ((world.refcount.get? key).getD 0 + 1) } :=
  if_neg hnew

theorem Accounted.own (haccounted : Accounted world) {entryId key : String}
    (hfree : world.ensureLock = none) (hpos : 0 < world.claims key) :
    Accounted (world.own entryId key) := by
  by_cases howned : key ∈ world.owned entryId
  · unfold World.own
    rw [if_pos howned]
    exact haccounted
  · rw [own_new howned]
    set owning : World := { world with
      entryKeys := world.entryKeys.set entryId
        (insert key (world.owned entryId))
      refcount := world.refcount.set key
        ((world.refcount.get? key).getD 0 + 1) }
    have hclaims : ∀ other, owning.claims other =
        world.claims other + if other = key then 1 else 0 := by
      intro other
      have hlock : owning.ensureLock = none := hfree
      rw [claims_of_free hfree, claims_of_free hlock]
      exact owners_insert howned rfl other
    constructor
    · intro other
      have hrefcount : owning.refcount.get? other = if other = key then
          some ((world.refcount.get? key).getD 0 + 1)
          else world.refcount.get? other :=
        Dict.get?_set world.refcount key other _
      rw [hclaims, hrefcount]
      by_cases heq : other = key
      · subst heq
        rw [if_pos rfl, if_pos rfl, Option.getD_some,
          haccounted.refcount other, Nat.cast_add, Nat.cast_one]
      · rw [if_neg heq, if_neg heq]
        exact haccounted.refcount other
    · intro other hclaimed
      rw [hclaims] at hclaimed
      by_cases heq : other = key
      · rw [heq]
        exact haccounted.claimed key hpos
      · rw [if_neg heq] at hclaimed
        exact haccounted.claimed other hclaimed
    · intro other qid hget
      obtain ⟨hcount, hlive⟩ := haccounted.registered other qid hget
      rw [hclaims]
      exact ⟨Nat.add_pos_left hcount _, hlive⟩
    · exact haccounted.others
    · exact haccounted.stopping

/-- A key without a queue has no claims. -/
theorem Accounted.claims_of_fresh (haccounted : Accounted world) {key : String}
    (hfresh : world.queues.get? key = none) : world.claims key = 0 := by
  by_contra hne
  obtain ⟨qid, hqid⟩ := haccounted.claimed key (Nat.pos_of_ne_zero hne)
  rw [hfresh] at hqid
  cases hqid

theorem ensure_eq_of_fresh {entryId key : String}
    (hfresh : world.queues.get? key = none)
    (hunowned : key ∉ world.owned entryId) :
    world.ensure entryId key = { world with
      queues := world.queues.set key world.objects.length
      refcount := (world.refcount.set key 0).set key 1
      entryKeys := world.entryKeys.set entryId
        (insert key (world.owned entryId))
      objects := world.objects ++ [.start key] } := by
  have hnew : key ∉ (world.ensureQueue key).owned entryId := by
    rw [ensureQueue_fresh hfresh]
    exact hunowned
  unfold World.ensure
  rw [own_new hnew, ensureQueue_fresh hfresh]
  dsimp only
  rw [Dict.get?_set_self, Option.getD_some, zero_add]
  rfl

/-- A queue is created for a key that nobody owned. -/
theorem Accounted.ensure_fresh (haccounted : Accounted world)
    {entryId key : String} (hfree : world.ensureLock = none)
    (hfresh : world.queues.get? key = none) :
    Accounted (world.ensure entryId key) := by
  have hclaims := haccounted.claims_of_fresh hfresh
  have hunowned : key ∉ world.owned entryId := by
    intro howned
    have howns : world.Owns entryId key := howned
    have hpos := World.owners_pos howns
    rw [claims_of_free hfree] at hclaims
    omega
  have hensured := ensure_eq_of_fresh hfresh hunowned
  have hcounts : ∀ other, (world.ensure entryId key).claims other =
      world.claims other + if other = key then 1 else 0 := by
    intro other
    have hlock : (world.ensure entryId key).ensureLock = none := by
      rw [hensured]
      exact hfree
    rw [claims_of_free hfree, claims_of_free hlock]
    exact owners_insert hunowned (by rw [hensured]) other
  have hstopping : (world.ensure entryId key).stopping? = none := by
    unfold World.stopping?
    rw [hensured]
    dsimp only
    rw [hfree]
    rfl
  have hqueues : ∀ other, (world.ensure entryId key).queues.get? other =
      if other = key then some world.objects.length
      else world.queues.get? other := by
    intro other
    rw [hensured]
    exact Dict.get?_set world.queues key other _
  have hobjects : (world.ensure entryId key).objects =
      world.objects ++ [.start key] := by
    rw [hensured]
  constructor
  · intro other
    rw [hcounts, hensured]
    dsimp only
    rw [Dict.get?_set, Dict.get?_set]
    by_cases heq : other = key
    · subst heq
      rw [if_pos rfl, if_pos rfl, hclaims]
      rfl
    · rw [if_neg heq, if_neg heq, if_neg heq]
      exact haccounted.refcount other
  · intro other hclaimed
    rw [hqueues]
    rw [hcounts] at hclaimed
    by_cases heq : other = key
    · rw [if_pos heq]
      exact ⟨_, rfl⟩
    · rw [if_neg heq] at hclaimed ⊢
      exact haccounted.claimed other hclaimed
  · intro other qid hget
    rw [hqueues] at hget
    rw [hcounts, hobjects]
    by_cases heq : other = key
    · rw [if_pos heq] at hget ⊢
      obtain rfl := Option.some.inj hget
      refine ⟨Nat.succ_pos _, .start key, ?_, heq.symm, rfl, rfl, rfl⟩
      rw [List.getElem?_append_right le_rfl, Nat.sub_self]
      rfl
    · rw [if_neg heq] at hget ⊢
      obtain ⟨hpos, queue, hqueue, hkey, hlive⟩ :=
        haccounted.registered other qid hget
      refine ⟨hpos, queue, ?_, hkey, hlive⟩
      rw [List.getElem?_append_left
        (List.getElem?_eq_some_iff.mp hqueue).1]
      exact hqueue
  · intro qid queue hqueue
    rw [hobjects] at hqueue
    rw [hqueues, hstopping]
    rcases getElem?_append_singleton_cases hqueue with hold | ⟨rfl, rfl⟩
    · rcases haccounted.others qid queue hold with hreg | hstop | hended
      · left
        rw [if_neg]
        · exact hreg
        · intro heq
          rw [heq, hfresh] at hreg
          cases hreg
      · unfold World.stopping? at hstop
        rw [hfree] at hstop
        cases hstop
      · exact .inr (.inr hended)
    · left
      rw [if_pos (show (CommandQueue.start key).key = key from rfl)]
  · intro qid queue hstop
    rw [hstopping] at hstop
    cases hstop

theorem Accounted.ensure (haccounted : Accounted world) (entryId key : String)
    (hfree : world.ensureLock = none) :
    Accounted (world.ensure entryId key) := by
  cases hget : world.queues.get? key with
  | none => exact haccounted.ensure_fresh hfree hget
  | some qid =>
      unfold World.ensure
      rw [ensureQueue_registered hget]
      exact haccounted.own hfree (haccounted.registered key qid hget).1

theorem Accounted.beginRelease (haccounted : Accounted world)
    (entryId : String) (hfree : world.ensureLock = none) :
    Accounted (world.beginRelease entryId) := by
  have hclaims : ∀ key, (world.beginRelease entryId).claims key =
      world.claims key := by
    intro key
    rw [claims_of_free hfree, ← world.count_erase_owned entryId key]
    rfl
  have hstopping : ∀ qid, world.stopping? ≠ some qid := by
    intro qid hstop
    unfold World.stopping? at hstop
    rw [hfree] at hstop
    cases hstop
  constructor
  · intro key
    rw [hclaims]
    exact haccounted.refcount key
  · intro key
    rw [hclaims]
    exact haccounted.claimed key
  · intro key qid
    rw [hclaims]
    exact haccounted.registered key qid
  · intro qid queue hqueue
    rcases haccounted.others qid queue hqueue with hreg | hstop | hended
    · exact .inl hreg
    · exact absurd hstop (hstopping qid)
    · exact .inr (.inr hended)
  · intro qid queue hstop
    cases hstop

/-! ## A release -/

theorem claims_of_lock {keys : Finset String} {stopping : Option ℕ}
    (hlock : world.ensureLock = some ⟨keys, stopping⟩) (key : String) :
    world.claims key = world.owners key + (decide (key ∈ keys)).toNat := by
  unfold World.claims World.releasing
  rw [hlock]
  rfl

/-- Looking at one key drops one claim to it. -/
theorem claims_releaseKey {keys : Finset String} {key : String}
    {before stopping : Option ℕ}
    (hlock : world.ensureLock = some ⟨keys, before⟩) (hkey : key ∈ keys)
    (hentryKeys : after.entryKeys = world.entryKeys)
    (hafter : after.ensureLock = some ⟨keys.erase key, stopping⟩)
    (other : String) :
    after.claims other + (if other = key then 1 else 0) =
      world.claims other := by
  rw [claims_of_lock hlock, claims_of_lock hafter]
  unfold World.owners
  rw [hentryKeys]
  by_cases heq : other = key
  · subst heq
    simp [hkey]
  · simp [heq]

/-- The key stays registered. -/
theorem Accounted.drop (haccounted : Accounted world) {keys : Finset String}
    {key : String} (hlock : world.ensureLock = some ⟨keys, none⟩)
    (hkey : key ∈ keys) (hshared : 1 < world.claims key) :
    Accounted { world with
      refcount := world.refcount.set key ((world.claims key : ℤ) - 1)
      ensureLock := some ⟨keys.erase key, none⟩ } := by
  set dropped : World := { world with
    refcount := world.refcount.set key ((world.claims key : ℤ) - 1)
    ensureLock := some ⟨keys.erase key, none⟩ }
  have hclaims : ∀ other,
      dropped.claims other + (if other = key then 1 else 0) =
        world.claims other :=
    claims_releaseKey hlock hkey rfl rfl
  have hrefcount : ∀ other, dropped.refcount.get? other =
      if other = key then some ((world.claims key : ℤ) - 1)
      else world.refcount.get? other :=
    fun other => Dict.get?_set world.refcount key other _
  constructor
  · intro other
    have hother := hclaims other
    rw [hrefcount]
    by_cases heq : other = key
    · subst heq
      rw [if_pos rfl] at hother ⊢
      rw [Option.getD_some]
      omega
    · rw [if_neg heq] at hother ⊢
      rw [haccounted.refcount other]
      omega
  · intro other hclaimed
    have hother := hclaims other
    exact haccounted.claimed other (by omega)
  · intro other qid hget
    have hother := hclaims other
    obtain ⟨hpos, hlive⟩ := haccounted.registered other qid hget
    refine ⟨?_, hlive⟩
    by_cases heq : other = key
    · subst heq
      rw [if_pos rfl] at hother
      omega
    · rw [if_neg heq] at hother
      omega
  · intro qid queue hqueue
    rcases haccounted.others qid queue hqueue with hreg | hstop | hended
    · exact .inl hreg
    · unfold World.stopping? at hstop
      rw [hlock] at hstop
      cases hstop
    · exact .inr (.inr hended)
  · intro qid queue hstop
    cases hstop

/-- The last claim is dropped, and the queue is told to stop. -/
theorem Accounted.stop (haccounted : Accounted world) {keys : Finset String}
    {key : String} (hlock : world.ensureLock = some ⟨keys, none⟩)
    (hkey : key ∈ keys) (hlast : world.claims key = 1)
    (hget : world.queues.get? key = some qid)
    (hqueue : world.objects[qid]? = some queue) :
    Accounted { world.setQueue qid queue.cancel with
      refcount := world.refcount.erase key
      queues := world.queues.erase key
      ensureLock := some ⟨keys.erase key, some qid⟩ } := by
  set stopping : World := { world.setQueue qid queue.cancel with
    refcount := world.refcount.erase key
    queues := world.queues.erase key
    ensureLock := some ⟨keys.erase key, some qid⟩ }
  have hclaims : ∀ other,
      stopping.claims other + (if other = key then 1 else 0) =
        world.claims other :=
    claims_releaseKey hlock hkey rfl rfl
  obtain ⟨-, found, hfound, hqueueKey, -⟩ :=
    haccounted.registered key qid hget
  rw [hqueue] at hfound
  obtain rfl := Option.some.inj hfound
  have hcancelKey : queue.cancel.key = key := by
    unfold CommandQueue.cancel
    split <;> exact hqueueKey
  have hqueues : ∀ other, stopping.queues.get? other =
      if other = key then none else world.queues.get? other :=
    Dict.get?_erase world.queues key
  have hrefcount : ∀ other, stopping.refcount.get? other =
      if other = key then none else world.refcount.get? other :=
    Dict.get?_erase world.refcount key
  constructor
  · intro other
    have hother := hclaims other
    rw [hrefcount]
    by_cases heq : other = key
    · subst heq
      rw [if_pos rfl] at hother ⊢
      rw [Option.getD_none]
      omega
    · rw [if_neg heq] at hother ⊢
      rw [haccounted.refcount other]
      omega
  · intro other hclaimed
    have hother := hclaims other
    rw [hqueues]
    by_cases heq : other = key
    · subst heq
      rw [if_pos rfl] at hother
      omega
    · rw [if_neg heq] at hother ⊢
      exact haccounted.claimed other (by omega)
  · intro other oid hoid
    have hother := hclaims other
    rw [hqueues] at hoid
    by_cases heq : other = key
    · rw [if_pos heq] at hoid
      cases hoid
    · rw [if_neg heq] at hoid hother
      obtain ⟨hpos, found, hfound, hfoundKey, hlive⟩ :=
        haccounted.registered other oid hoid
      refine ⟨by omega, found, ?_, hfoundKey, hlive⟩
      have hne : qid ≠ oid := by
        rintro rfl
        rw [hqueue] at hfound
        obtain rfl := Option.some.inj hfound
        exact heq (hfoundKey.symm.trans hqueueKey)
      rw [← hfound]
      exact List.getElem?_set_ne hne
  · intro oid found hfound
    rcases getElem?_set_cases hfound with ⟨rfl, -⟩ | ⟨hne, hold⟩
    · exact .inr (.inl rfl)
    · rcases haccounted.others oid found hold with hreg | hstop | hended
      · left
        rw [hqueues, if_neg]
        · exact hreg
        · intro heq
          rw [heq, hget] at hreg
          exact hne (Option.some.inj hreg).symm
      · unfold World.stopping? at hstop
        rw [hlock] at hstop
        cases hstop
      · exact .inr (.inr hended)
  · intro oid found hstop hfound
    obtain rfl : qid = oid := Option.some.inj hstop
    rcases getElem?_set_cases hfound with ⟨-, rfl⟩ | ⟨hne, -⟩
    · rw [hqueues, if_pos hcancelKey]
    · exact absurd rfl hne

theorem Accounted.releaseKey (haccounted : Accounted world)
    {keys : Finset String} {key : String}
    (hlock : world.ensureLock = some ⟨keys, none⟩) (hkey : key ∈ keys) :
    Accounted (world.releaseKey keys key) := by
  have hpos : 0 < world.claims key := by
    rw [claims_of_lock hlock, decide_eq_true hkey]
    exact Nat.succ_pos _
  have hcount := haccounted.get?_refcount hpos
  obtain ⟨qid, hget⟩ := haccounted.claimed key hpos
  obtain ⟨-, queue, hqueue, -, hlive⟩ := haccounted.registered key qid hget
  unfold World.releaseKey
  rw [hcount, hget, Option.getD_some]
  by_cases hlast : world.claims key = 1
  · dsimp only
    rw [if_pos (by omega)]
    simp only [hqueue, hlive.1, if_true]
    exact haccounted.stop hlock hkey hlast hget hqueue
  · dsimp only
    rw [if_neg (by omega)]
    exact haccounted.drop hlock hkey (by omega)

theorem Accounted.joined (haccounted : Accounted world)
    {keys : Finset String} (hlock : world.ensureLock = some ⟨keys, some qid⟩)
    (hqueue : world.objects[qid]? = some queue)
    (hended : queue.worker = .ended) :
    Accounted { world.setQueue qid queue.stopped with
      ensureLock := some ⟨keys, none⟩ } := by
  set joined : World := { world.setQueue qid queue.stopped with
    ensureLock := some ⟨keys, none⟩ }
  have hclaims : ∀ key, joined.claims key = world.claims key := by
    intro key
    have hjoined : joined.ensureLock = some ⟨keys, none⟩ := rfl
    rw [claims_of_lock hlock, claims_of_lock hjoined]
    rfl
  have hunregistered := haccounted.stopping qid queue
    (by unfold World.stopping?; rw [hlock]; rfl) hqueue
  constructor
  · intro key
    rw [hclaims]
    exact haccounted.refcount key
  · intro key
    rw [hclaims]
    exact haccounted.claimed key
  · intro key oid hget
    rw [hclaims]
    obtain ⟨hpos, found, hfound, hkey, hlive⟩ :=
      haccounted.registered key oid hget
    refine ⟨hpos, found, ?_, hkey, hlive⟩
    have hne : qid ≠ oid := by
      rintro rfl
      rw [hqueue] at hfound
      obtain rfl := Option.some.inj hfound
      change world.queues.get? key = some qid at hget
      rw [← hkey, hunregistered] at hget
      cases hget
    rw [← hfound]
    exact List.getElem?_set_ne hne
  · intro oid found hfound
    rcases getElem?_set_cases hfound with ⟨-, rfl⟩ | ⟨hne, hold⟩
    · exact .inr (.inr ⟨hended, rfl⟩)
    · rcases haccounted.others oid found hold with hreg | hstop | hold
      · exact .inl hreg
      · unfold World.stopping? at hstop
        rw [hlock] at hstop
        exact absurd (Option.some.inj hstop).symm hne
      · exact .inr (.inr hold)
  · intro oid found hstop
    cases hstop

theorem Accounted.released (haccounted : Accounted world)
    (hlock : world.ensureLock = some ⟨∅, none⟩) :
    Accounted { world with ensureLock := none } := by
  set released : World := { world with ensureLock := none }
  have hclaims : ∀ key, released.claims key = world.claims key := by
    intro key
    have hreleased : released.ensureLock = none := rfl
    rw [claims_of_lock hlock, claims_of_free hreleased]
    simp [released, World.owners]
  constructor
  · intro key
    rw [hclaims]
    exact haccounted.refcount key
  · intro key
    rw [hclaims]
    exact haccounted.claimed key
  · intro key qid
    rw [hclaims]
    exact haccounted.registered key qid
  · intro qid queue hqueue
    rcases haccounted.others qid queue hqueue with hreg | hstop | hended
    · exact .inl hreg
    · unfold World.stopping? at hstop
      rw [hlock] at hstop
      cases hstop
    · exact .inr (.inr hended)
  · intro qid queue hstop
    cases hstop

theorem Accounted.after_step {event : Event} (haccounted : Accounted world)
    (hstep : Stepped world event after) : Accounted after := by
  by_cases hlocal : event.isLocal = true
  · obtain ⟨hsame, hobjects | ⟨qid, queue, moved, hqueue, hobjects, hmove⟩⟩ :=
      localMove_of_step hstep hlocal
    · exact haccounted.keep hsame hobjects
    · exact haccounted.move hsame hqueue hobjects hmove
  · cases hstep with
    | enqueue _ hfree _ =>
        exact (haccounted.ensure _ _ hfree).keep ⟨rfl, rfl, rfl, rfl⟩ rfl
    | releaseEntry hfree => exact haccounted.beginRelease _ hfree
    | releaseKey hlock hkey => exact haccounted.releaseKey hlock hkey
    | joined hlock hqueue hended => exact haccounted.joined hlock hqueue hended
    | released hlock => exact haccounted.released hlock
    | put => exact absurd rfl hlocal
    | cancelCall => exact absurd rfl hlocal
    | pick => exact absurd rfl hlocal
    | finish => exact absurd rfl hlocal
    | abort => exact absurd rfl hlocal
    | rested => exact absurd rfl hlocal
    | exit => exact absurd rfl hlocal

end Steps

theorem accounted_of_run {events : List Event} {final : World}
    (hrun : Run (graph World.step) World.initial events final) :
    Accounted final :=
  hrun.invariant Accounted initial_accounted
    fun _ _ _ hbefore hstep => hbefore.after_step (stepped_of_step hstep)

end Bus
end DessMonitor
