import DessMonitor.CommandQueueOwnership

/-!
# Releasing an entry

While a release holds the lock no queue is created and no entry becomes an
owner, so what the registry holds at its end is decided by the owners at its
start.
-/

namespace DessMonitor
namespace Bus

open LabelledRun

/-! ## The effect of one release -/

namespace World

def StoppedQueue (world : World) (qid : ℕ) : Prop :=
  ∃ queue, world.objects[qid]? = some queue ∧ queue.Ended

/-- The key has a queue with a live worker. -/
def LiveQueue (world : World) (key : String) (qid : ℕ) : Prop :=
  world.queues.get? key = some qid ∧
    ∃ queue, world.objects[qid]? = some queue ∧ queue.key = key ∧ queue.Live

structure OwnersAgree (world : World) : Prop where
  refcount : ∀ key,
    (world.refcount.get? key).getD 0 = (world.owners key : ℤ)
  live : ∀ key, (∃ qid, world.LiveQueue key qid) ↔ 0 < world.owners key
  others : ∀ qid queue, world.objects[qid]? = some queue →
    world.LiveQueue queue.key qid ∨ queue.Ended

/-- What a release of the entry does, from its first step until it leaves the
lock: the queues that only this entry owned are stopped, and the others stay
registered and live. -/
def ReleaseStops (world : World) (entryId : String) : Prop :=
  ∀ begun events ending after,
    world.step (.releaseEntry entryId) = some begun →
    Run (graph World.step) begun events ending → Event.released ∉ events →
    ending.step .released = some after →
    ∀ key qid, world.queues.get? key = some qid →
      (after.StoppedQueue qid ↔ world.Owns entryId key ∧
        ∀ other, other ≠ entryId → ¬ world.Owns other key) ∧
      (after.StoppedQueue qid ∨ after.LiveQueue key qid)

theorem owners_pos_iff (world : World) (key : String) :
    0 < world.owners key ↔ ∃ entryId, world.Owns entryId key := by
  constructor
  · intro hpos
    unfold owners Dict.count Dict.values at hpos
    obtain ⟨keys, hmem, hkey⟩ := List.countP_pos_iff.mp hpos
    obtain ⟨⟨entryId, _⟩, hentry, rfl⟩ := List.mem_map.mp hmem
    refine ⟨entryId, ?_⟩
    unfold Owns owned
    rw [(Dict.get?_eq_some_iff _).mpr hentry]
    exact of_decide_eq_true hkey
  · rintro ⟨entryId, howned⟩
    exact owners_pos howned

end World

/-- The state of the registry while the release of `entryId` holds the lock
that it took in `start`. -/
structure Releasing (start : World) (entryId : String) (world : World) :
    Prop where
  locked : world.ensureLock.isSome = true
  entryKeys : world.entryKeys = start.entryKeys.erase entryId
  queues : ∀ key qid, world.queues.get? key = some qid →
    start.queues.get? key = some qid
  keys : ∀ (qid : ℕ) (queue : CommandQueue), start.objects[qid]? = some queue →
    ∃ moved : CommandQueue, world.objects[qid]? = some moved ∧
      moved.key = queue.key

section Releases

variable {start world after : World} {entryId : String} {qid : ℕ}
  {queue moved : CommandQueue}

theorem keys_set (hqueue : world.objects[qid]? = some queue)
    (hobjects : after.objects = world.objects.set qid moved)
    (hkey : moved.key = queue.key) {other : ℕ} {found : CommandQueue}
    (hfound : world.objects[other]? = some found) :
    ∃ kept, after.objects[other]? = some kept ∧ kept.key = found.key := by
  rw [hobjects]
  by_cases heq : qid = other
  · subst heq
    rw [hqueue] at hfound
    obtain rfl := Option.some.inj hfound
    exact ⟨moved, List.getElem?_set_self
      (List.getElem?_eq_some_iff.mp hqueue).1, hkey⟩
  · exact ⟨found, by rw [List.getElem?_set_ne heq]; exact hfound, rfl⟩

theorem Releasing.set (hreleasing : Releasing start entryId world)
    (hlocked : after.ensureLock.isSome = true)
    (hentryKeys : after.entryKeys = world.entryKeys)
    (hqueues : ∀ key qid, after.queues.get? key = some qid →
      world.queues.get? key = some qid)
    (hqueue : world.objects[qid]? = some queue)
    (hobjects : after.objects = world.objects.set qid moved)
    (hkey : moved.key = queue.key) : Releasing start entryId after := by
  constructor
  · exact hlocked
  · exact hentryKeys.trans hreleasing.entryKeys
  · intro key oid hget
    exact hreleasing.queues key oid (hqueues key oid hget)
  · intro oid found hfound
    obtain ⟨kept, hkept, hkeptKey⟩ := hreleasing.keys oid found hfound
    obtain ⟨last, hlast, hlastKey⟩ := keys_set hqueue hobjects hkey hkept
    exact ⟨last, hlast, hlastKey.trans hkeptKey⟩

theorem Releasing.keep (hreleasing : Releasing start entryId world)
    (hlocked : after.ensureLock.isSome = true)
    (hentryKeys : after.entryKeys = world.entryKeys)
    (hqueues : ∀ key qid, after.queues.get? key = some qid →
      world.queues.get? key = some qid)
    (hobjects : after.objects = world.objects) :
    Releasing start entryId after := by
  constructor
  · exact hlocked
  · exact hentryKeys.trans hreleasing.entryKeys
  · intro key oid hget
    exact hreleasing.queues key oid (hqueues key oid hget)
  · intro oid found hfound
    rw [hobjects]
    exact hreleasing.keys oid found hfound

theorem cancel_key (queue : CommandQueue) : queue.cancel.key = queue.key := by
  unfold CommandQueue.cancel
  split <;> rfl

theorem Releasing.releaseKey (hreleasing : Releasing start entryId world)
    (keys : Finset String) (key : String) :
    Releasing start entryId (world.releaseKey keys key) := by
  have herase : ∀ other oid,
      (world.queues.erase key).get? other = some oid →
        world.queues.get? other = some oid := by
    intro other oid hget
    rw [Dict.get?_erase] at hget
    split at hget
    · cases hget
    · exact hget
  unfold World.releaseKey
  dsimp only
  split
  · split
    · exact hreleasing.keep rfl rfl herase rfl
    · split
      · exact hreleasing.keep rfl rfl herase rfl
      next hqueue =>
        split
        · exact hreleasing.set rfl rfl herase hqueue rfl (cancel_key _)
        · exact hreleasing.keep rfl rfl herase rfl
  · exact hreleasing.keep rfl rfl (fun _ _ hget => hget) rfl

theorem Releasing.after_step {event : Event}
    (hreleasing : Releasing start entryId world)
    (hstep : Stepped world event after) (hnot : event ≠ .released) :
    Releasing start entryId after := by
  by_cases hlocal : event.isLocal = true
  · obtain ⟨hsame, hmoved⟩ := localMove_of_step hstep hlocal
    have hlocked : after.ensureLock.isSome = true := by
      rw [hsame.ensureLock]
      exact hreleasing.locked
    have hqueues : ∀ key qid, after.queues.get? key = some qid →
        world.queues.get? key = some qid := by
      intro key qid hget
      rw [hsame.queues] at hget
      exact hget
    rcases hmoved with hobjects | ⟨qid, queue, moved, hqueue, hobjects, hmove⟩
    · exact hreleasing.keep hlocked hsame.entryKeys hqueues hobjects
    · exact hreleasing.set hlocked hsame.entryKeys hqueues hqueue hobjects
        hmove.key
  · have hheld := hreleasing.locked
    cases hstep with
    | enqueue _ hfree _ =>
        rw [hfree] at hheld
        cases hheld
    | releaseEntry hfree =>
        rw [hfree] at hheld
        cases hheld
    | releaseKey hlock _ => exact hreleasing.releaseKey _ _
    | joined hlock hqueue _ =>
        exact hreleasing.set rfl rfl (fun _ _ hget => hget) hqueue rfl rfl
    | released => exact absurd rfl hnot
    | put => exact absurd rfl hlocal
    | cancelCall => exact absurd rfl hlocal
    | pick => exact absurd rfl hlocal
    | finish => exact absurd rfl hlocal
    | abort => exact absurd rfl hlocal
    | rested => exact absurd rfl hlocal
    | exit => exact absurd rfl hlocal

theorem Accounted.ownersAgree (haccounted : Accounted world)
    (hfree : world.ensureLock = none) : world.OwnersAgree := by
  have hstopping : ∀ qid, world.stopping? ≠ some qid := by
    intro qid hstop
    unfold World.stopping? at hstop
    rw [hfree] at hstop
    cases hstop
  constructor
  · intro key
    rw [← claims_of_free hfree]
    exact haccounted.refcount key
  · intro key
    rw [← claims_of_free hfree]
    constructor
    · rintro ⟨qid, hget, -⟩
      exact (haccounted.registered key qid hget).1
    · intro hpos
      obtain ⟨qid, hget⟩ := haccounted.claimed key hpos
      exact ⟨qid, hget, (haccounted.registered key qid hget).2⟩
  · intro qid queue hqueue
    rcases haccounted.others qid queue hqueue with hreg | hstop | hended
    · exact .inl ⟨hreg, (haccounted.registered queue.key qid hreg).2⟩
    · exact absurd hstop (hstopping qid)
    · exact .inr hended

theorem owns_of_erase (hentryKeys : after.entryKeys =
      world.entryKeys.erase entryId) (other key : String) :
    after.Owns other key ↔ other ≠ entryId ∧ world.Owns other key := by
  unfold World.Owns World.owned
  rw [hentryKeys, Dict.get?_erase]
  by_cases heq : other = entryId
  · simp [heq]
  · simp [heq]

/-- What the registry holds when the release has left the lock. -/
theorem Accounted.stopped_or_live (hafter : Accounted after)
    (hstart : Accounted start) (hlock : start.ensureLock = none)
    (hreleasing : Releasing start entryId world)
    (hfree : after = { world with ensureLock := none }) {key : String}
    (hget : start.queues.get? key = some qid) :
    (after.StoppedQueue qid ↔ start.Owns entryId key ∧
        ∀ other, other ≠ entryId → ¬ start.Owns other key) ∧
      (after.StoppedQueue qid ∨ after.LiveQueue key qid) := by
  have hagree : after.OwnersAgree := hafter.ownersAgree (by rw [hfree])
  have howns : ∀ other, after.Owns other key ↔
      other ≠ entryId ∧ start.Owns other key := by
    intro other
    apply owns_of_erase
    rw [hfree]
    exact hreleasing.entryKeys
  have hsame : ∀ oid, after.LiveQueue key oid → oid = qid := by
    intro oid hlive
    have hold : world.queues.get? key = some oid := by
      rw [hfree] at hlive
      exact hlive.1
    have horigin := hreleasing.queues key oid hold
    rw [hget] at horigin
    exact (Option.some.inj horigin).symm
  have hexclusive : after.StoppedQueue qid → ¬ after.LiveQueue key qid := by
    rintro ⟨queue, hqueue, hended⟩ ⟨-, found, hfound, -, hlive⟩
    rw [hqueue] at hfound
    obtain rfl := Option.some.inj hfound
    have htask := hlive.1
    rw [hended.2] at htask
    cases htask
  obtain ⟨-, queue, hqueue, hkey, -⟩ := hstart.registered key qid hget
  obtain ⟨moved, hmoved, hmovedKey⟩ := hreleasing.keys qid queue hqueue
  have hobject : after.objects[qid]? = some moved := by
    rw [hfree]
    exact hmoved
  by_cases hother : ∃ other, other ≠ entryId ∧ start.Owns other key
  · obtain ⟨other, hne, howned⟩ := hother
    have hpos := World.owners_pos ((howns other).mpr ⟨hne, howned⟩)
    obtain ⟨oid, hlive⟩ := (hagree.live key).mpr hpos
    rw [hsame oid hlive] at hlive
    refine ⟨⟨fun hstopped => absurd hlive (hexclusive hstopped), ?_⟩,
      .inr hlive⟩
    rintro ⟨-, hnone⟩
    exact absurd howned (hnone other hne)
  · have hnone : ∀ other, ¬ after.Owns other key := by
      intro other howned
      exact hother ⟨other, (howns other).mp howned⟩
    have hstopped : after.StoppedQueue qid := by
      rcases hagree.others qid moved hobject with hlive | hended
      · rw [hmovedKey, hkey] at hlive
        obtain ⟨other, howned⟩ := (after.owners_pos_iff key).mp
          ((hagree.live key).mp ⟨qid, hlive⟩)
        exact absurd howned (hnone other)
      · exact ⟨moved, hobject, hended⟩
    have howner : start.Owns entryId key := by
      have hpos := (hstart.registered key qid hget).1
      rw [claims_of_free hlock] at hpos
      obtain ⟨owner, howned⟩ := (start.owners_pos_iff key).mp hpos
      by_cases heq : owner = entryId
      · rw [← heq]
        exact howned
      · exact absurd ⟨owner, heq, howned⟩ hother
    refine ⟨⟨fun _ => ⟨howner, ?_⟩, fun _ => hstopped⟩, .inl hstopped⟩
    intro other hne howned
    exact hother ⟨other, hne, howned⟩

theorem Accounted.releaseStops (haccounted : Accounted world)
    (entryId : String) : world.ReleaseStops entryId := by
  intro begun events ending after hbegin hrun hheld hend key qid hget
  have hbegun := haccounted.after_step (stepped_of_step hbegin)
  cases stepped_of_step hbegin with
  | releaseEntry hlock =>
      have hstart : Releasing world entryId (world.beginRelease entryId) :=
        ⟨rfl, rfl, fun _ _ hsame => hsame,
          fun _ queue hqueue => ⟨queue, hqueue, rfl⟩⟩
      have hguarded : Run (guarded (graph World.step)
          fun _ event => event ≠ .released)
          (world.beginRelease entryId) events ending :=
        hrun.guard fun event hmem heq => hheld (heq ▸ hmem)
      obtain ⟨hreleasing, hbefore⟩ := hguarded.invariant
        (fun held => Releasing world entryId held ∧ Accounted held)
        ⟨hstart, hbegun⟩ fun _ _ _ hheld hstep =>
          ⟨hheld.1.after_step (stepped_of_step hstep.1) hstep.2,
            hheld.2.after_step (stepped_of_step hstep.1)⟩
      have hafter := hbefore.after_step (stepped_of_step hend)
      cases stepped_of_step hend with
      | released =>
          exact hafter.stopped_or_live haccounted hlock hreleasing rfl hget

end Releases

/-! ## Runs -/

theorem ownersAgree_of_run {events : List Event} {final : World}
    (hrun : Run (graph World.step) World.initial events final)
    (hfree : final.ensureLock = none) :
    final.OwnersAgree ∧ ∀ entryId, final.ReleaseStops entryId := by
  have haccounted := accounted_of_run hrun
  exact ⟨haccounted.ownersAgree hfree, haccounted.releaseStops⟩

/-- Two entries share a transport; one of them is released and comes back. -/
def sharedTransport : List Event :=
  [.enqueue "a" "tcp://10.0.0.9:8899" 0, .put 0,
    .enqueue "b" "tcp://10.0.0.9:8899" 1, .put 1, .pick 0,
    .releaseEntry "a", .releaseKey "tcp:10.0.0.9:8899", .released,
    .enqueue "a" "/dev/ttyUSB0" 1]

def afterSharedTransport : World :=
  (execute World.step World.initial sharedTransport).get (by decide +kernel)

theorem ownersAgree_sharedTransport :
    afterSharedTransport.OwnersAgree ∧
      ∀ entryId, afterSharedTransport.ReleaseStops entryId := by
  have hrun : Run (graph World.step) World.initial sharedTransport
      afterSharedTransport :=
    run_of_execute (Option.some_get _).symm
  exact ownersAgree_of_run hrun (by decide +kernel)

end Bus
end DessMonitor
