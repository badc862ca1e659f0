import DessMonitor.CommandQueueOwnership
import DessMonitor.CommandQueuePairing

/-!
# One command at a time

Two queues of one key that have not ended are the same queue, so the commands
of a transport are run by one worker, which picks the most urgent of them.  No
outcome of a command keeps its worker from the commands behind it.
-/

namespace DessMonitor
namespace Bus

open LabelledRun ListUpdate

/-! ## The properties -/

namespace World

/-- The worker of the queue is in this command. -/
def Runs (world : World) (qid : ℕ) (key : String) (command : ℕ) : Prop :=
  ∃ queue item, world.objects[qid]? = some queue ∧ queue.key = key ∧
    queue.worker.item? = some item ∧ item.command = command

/-- Futures are numbered in the order of submission. -/
def Before (item other : Item) : Prop :=
  item.priority < other.priority ∨
    item.priority = other.priority ∧ item.future < other.future

/-- A worker picks the first of the commands on its queue, and any other queue
of the same key is stopped. -/
def PicksFirst (world : World) : Prop :=
  ∀ qid queue after, world.objects[qid]? = some queue →
    world.step (.pick qid) = some after →
    ∃ item ∈ queue.items, after = world.pick qid queue item ∧
      (∀ other ∈ queue.items, other ≠ item → Before item other) ∧
      ∀ oid (otherQueue : CommandQueue),
        world.objects[oid]? = some otherQueue →
          otherQueue.key = queue.key → oid ≠ qid → otherQueue.Ended

/-- What the worker of a queue does by itself, when its commands end with
these outcomes. -/
def WorkerEvent (qid : ℕ) (outcome : ℕ → Outcome) (world : World)
    (event : Event) : Prop :=
  event = .pick qid ∨ event = .rested qid ∨
    ∃ key command, world.Runs qid key command ∧
      event = .finish qid (outcome command)

/-- Whatever the commands end with, the worker of a registered queue gets to
every command on it. -/
def Progresses (world : World) : Prop :=
  ∀ (outcome : ℕ → Outcome) key qid queue item,
    world.queues.get? key = some qid → world.objects[qid]? = some queue →
    item ∈ queue.items →
    ∃ events after,
      Run (guarded (graph World.step) (WorkerEvent qid outcome)) world events
        after ∧
      item.command ∈ after.started

/-- `started` has an entry for every time a command was started, and
`finished` one for every time a command ended with an outcome. -/
structure Serialized (world : World) : Prop where
  serial : ∀ key left right command other,
    world.Runs left key command → world.Runs right key other →
      command = other
  first : world.PicksFirst
  once : world.started.Nodup
  own : ∀ command future outcome, world.futureOf? command = some future →
    world.futures[future]? = some (.resolved outcome) →
      (command, outcome) ∈ world.finished ∧
        ∀ other, (command, other) ∈ world.finished → other = outcome
  progresses : world.Progresses

end World

section Results

variable {world : World} {qid : ℕ} {queue : CommandQueue}

/-! ## Serialisation -/

theorem Accounted.unique (haccounted : Accounted world) {other : ℕ}
    {otherQueue : CommandQueue} (hqueue : world.objects[qid]? = some queue)
    (hother : world.objects[other]? = some otherQueue)
    (hkey : otherQueue.key = queue.key) (hrunning : ¬ queue.Ended)
    (hotherRunning : ¬ otherQueue.Ended) : qid = other := by
  rcases haccounted.others qid queue hqueue with hreg | hstop | hended
  · rcases haccounted.others other otherQueue hother with
      hotherReg | hotherStop | hotherEnded
    · rw [hkey, hreg] at hotherReg
      exact Option.some.inj hotherReg
    · have hnone := haccounted.stopping other otherQueue hotherStop hother
      rw [hkey, hreg] at hnone
      cases hnone
    · exact absurd hotherEnded hotherRunning
  · rcases haccounted.others other otherQueue hother with
      hotherReg | hotherStop | hotherEnded
    · have hnone := haccounted.stopping qid queue hstop hqueue
      rw [← hkey, hotherReg] at hnone
      cases hnone
    · rw [hstop] at hotherStop
      exact Option.some.inj hotherStop
    · exact absurd hotherEnded hotherRunning
  · exact absurd hended hrunning

theorem Accounted.serial (haccounted : Accounted world) {key : String}
    {left right command other : ℕ} (hleft : world.Runs left key command)
    (hright : world.Runs right key other) : command = other := by
  obtain ⟨leftQueue, leftItem, hleftQueue, hleftKey, hleftItem, rfl⟩ := hleft
  obtain ⟨rightQueue, rightItem, hrightQueue, hrightKey, hrightItem, rfl⟩ :=
    hright
  have hsame := haccounted.unique hleftQueue hrightQueue
    (hrightKey.trans hleftKey.symm)
    (fun hended => not_ended_of_item? hleftItem hended.1)
    (fun hended => not_ended_of_item? hrightItem hended.1)
  subst hsame
  rw [hleftQueue] at hrightQueue
  obtain rfl := Option.some.inj hrightQueue
  rw [hleftItem] at hrightItem
  rw [Option.some.inj hrightItem]

/-! ## The order of the commands -/

/-- On one queue, `seq` and the order of submission agree. -/
theorem QueuePaired.first (hpaired : QueuePaired world qid queue)
    {item other : Item} (hfirst : queue.first? = some item)
    (hother : other ∈ queue.items) (hne : other ≠ item) :
    World.Before item other := by
  have hitem := first?_mem hfirst
  have hle : item.key ≤ other.key := List.le_of_mem_argmin hother hfirst
  have hlex : item.priority < other.priority ∨
      item.priority = other.priority ∧ item.seq ≤ other.seq :=
    Prod.Lex.toLex_le_toLex.mp hle
  rcases hlex with hlt | ⟨heq, hseq⟩
  · exact .inl hlt
  · refine .inr ⟨heq, ?_⟩
    obtain ⟨place, hplace, hitemPlace⟩ := List.mem_iff_getElem.mp hitem
    obtain ⟨later, hlater, hotherPlace⟩ := List.mem_iff_getElem.mp hother
    have horder := List.pairwise_iff_getElem.mp hpaired.order
    rcases lt_trichotomy place later with hlt | rfl | hgt
    · have hbefore := horder place later hplace hlater hlt
      rw [hitemPlace, hotherPlace] at hbefore
      exact hbefore.2
    · rw [hitemPlace] at hotherPlace
      exact absurd hotherPlace.symm hne
    · have hafter := horder later place hlater hplace hgt
      rw [hitemPlace, hotherPlace] at hafter
      omega

theorem picksFirst (haccounted : Accounted world) (hpaired : Paired world) :
    world.PicksFirst := by
  intro qid queue after hqueue hstep
  cases stepped_of_step hstep with
  | @pick _ found item hfound hfirst hwaiting _ =>
      rw [hqueue] at hfound
      obtain rfl := Option.some.inj hfound
      refine ⟨item, first?_mem hfirst, rfl, ?_, ?_⟩
      · intro other hother hne
        exact (hpaired.queues qid queue hqueue).first hfirst hother hne
      · intro oid otherQueue hother hkey hne
        by_contra hrunning
        apply hne
        refine (haccounted.unique hqueue hother hkey ?_ hrunning).symm
        intro hended
        rw [hended.1] at hwaiting
        cases hwaiting

/-! ## Outcomes -/

theorem Paired.own_unique (hpaired : Paired world) {command future : ℕ}
    {outcome : Outcome} (hfuture : world.futureOf? command = some future)
    (hresolved : world.futures[future]? = some (.resolved outcome)) :
    (command, outcome) ∈ world.finished ∧
      ∀ other, (command, other) ∈ world.finished → other = outcome := by
  have hmem := hpaired.own command future outcome hfuture hresolved
  refine ⟨hmem, ?_⟩
  intro other hother
  have hsame := List.inj_on_of_nodup_map hpaired.finished hother hmem rfl
  exact congrArg Prod.snd hsame

/-! ## Progress -/

/-- The worker alone brings its queue back to waiting, and leaves the rest of
the queue as it is. -/
theorem waits (outcome : ℕ → Outcome)
    (hqueue : world.objects[qid]? = some queue)
    (hcancelled : queue.cancelled = false)
    (halive : queue.worker.alive = true) :
    ∃ events after moved,
      Run (guarded (graph World.step) (World.WorkerEvent qid outcome)) world
        events after ∧
      after.objects[qid]? = some moved ∧ moved.worker = .waiting ∧
      moved.cancelled = false ∧ moved.items = queue.items := by
  have hlength := (List.getElem?_eq_some_iff.mp hqueue).1
  have hrested : ∀ (rested : World) (resting : CommandQueue),
      rested.objects[qid]? = some resting → resting.worker = .resting →
      resting.cancelled = false →
        rested.step (.rested qid) =
          some (rested.setQueue qid resting.wait) := by
    intro rested resting hresting hworker hflag
    simp [World.step, hresting, hworker, hflag]
  cases hworker : queue.worker with
  | waiting =>
      exact ⟨[], world, queue, .start, hqueue, hworker, hcancelled, rfl⟩
  | resting =>
      refine ⟨[.rested qid], world.setQueue qid queue.wait, queue.wait, ?_,
        List.getElem?_set_self hlength, rfl, hcancelled, rfl⟩
      exact .extend .start
        ⟨hrested world queue hqueue hworker hcancelled, .inr (.inl rfl)⟩
  | running item =>
      have hitem : queue.worker.item? = some item := by
        rw [hworker, Worker.item?]
      have hfinish : world.step (.finish qid (outcome item.command)) =
          some (world.finish qid queue item (outcome item.command)) := by
        simp [World.step, hqueue, hitem]
      have hrunning : World.WorkerEvent qid outcome world
          (.finish qid (outcome item.command)) :=
        .inr (.inr ⟨queue.key, item.command,
          ⟨queue, item, hqueue, rfl, hitem, rfl⟩, rfl⟩)
      have hresting : (world.finish qid queue item
          (outcome item.command)).objects[qid]? = some queue.rest :=
        List.getElem?_set_self hlength
      refine ⟨[.finish qid (outcome item.command), .rested qid],
        (world.finish qid queue item (outcome item.command)).setQueue qid
          queue.rest.wait, queue.rest.wait, ?_, ?_, rfl, rfl, rfl⟩
      · have hfirst : Run
            (guarded (graph World.step) (World.WorkerEvent qid outcome)) world
            ([] ++ [.finish qid (outcome item.command)]) _ :=
          .extend .start ⟨hfinish, hrunning⟩
        exact .extend hfirst
          ⟨hrested _ _ hresting rfl rfl, .inr (.inl rfl)⟩
      · apply List.getElem?_set_self
        exact (List.getElem?_eq_some_iff.mp hresting).1
  | aborting =>
      rw [hworker] at halive
      cases halive
  | ended =>
      rw [hworker] at halive
      cases halive

/-- The worker gets to an item, by induction on the number of items. -/
theorem gets_to (outcome : ℕ → Outcome) (item : Item) (count : ℕ) :
    ∀ (world : World) (queue : CommandQueue),
      world.objects[qid]? = some queue → queue.cancelled = false →
      queue.worker.alive = true → item ∈ queue.items →
      queue.items.length = count →
        ∃ events after,
          Run (guarded (graph World.step) (World.WorkerEvent qid outcome))
            world events after ∧
          item.command ∈ after.started := by
  induction count with
  | zero =>
      intro world queue _ _ _ hmem hcount
      rw [List.length_eq_zero_iff.mp hcount] at hmem
      cases hmem
  | succ count ih =>
      intro world queue hqueue hcancelled halive hmem hcount
      obtain ⟨events, ready, moved, hrun, hmoved, hwaiting, hflag, hitems⟩ :=
        waits outcome hqueue hcancelled halive
      rw [← hitems] at hmem hcount
      obtain ⟨first, hfirst⟩ : ∃ first, moved.first? = some first := by
        cases hnone : moved.first? with
        | none =>
            rw [List.argmin_eq_none.mp hnone] at hmem
            cases hmem
        | some first => exact ⟨first, rfl⟩
      have hpick : ready.step (.pick qid) =
          some (ready.pick qid moved first) := by
        simp [World.step, hmoved, hfirst, hwaiting, hflag]
      have hpicked : Run
          (guarded (graph World.step) (World.WorkerEvent qid outcome)) world
          (events ++ [.pick qid]) (ready.pick qid moved first) :=
        .extend hrun ⟨hpick, .inl rfl⟩
      by_cases heq : item = first
      · refine ⟨_, _, hpicked, ?_⟩
        rw [heq]
        exact List.mem_append_right _ (List.mem_singleton_self _)
      · have hlength := (List.getElem?_eq_some_iff.mp hmoved).1
        have hleft : (moved.pick first).items.length = count := by
          have herase := List.length_erase_of_mem (first?_mem hfirst)
          change (moved.items.erase first).length = count
          omega
        obtain ⟨more, after, hmore, hstarted⟩ :=
          ih (ready.pick qid moved first) (moved.pick first)
            (List.getElem?_set_self hlength) hflag rfl
            ((List.mem_erase_of_ne heq).mpr hmem) hleft
        exact ⟨_, after, hpicked.append hmore, hstarted⟩

theorem Accounted.progresses (haccounted : Accounted world) :
    world.Progresses := by
  intro outcome key qid queue item hget hqueue hmem
  obtain ⟨-, found, hfound, -, -, hcancelled, halive⟩ :=
    haccounted.registered key qid hget
  rw [hqueue] at hfound
  obtain rfl := Option.some.inj hfound
  exact gets_to outcome item queue.items.length world queue hqueue hcancelled
    halive hmem rfl

end Results

/-! ## Runs -/

theorem serialized_of_run {events : List Event} {final : World}
    (hrun : Run (graph World.step) World.initial events final) :
    final.Serialized := by
  have haccounted := accounted_of_run hrun
  have hpaired := paired_of_run hrun
  constructor
  · intro key left right command other hleft hright
    exact haccounted.serial hleft hright
  · exact picksFirst haccounted hpaired
  · exact hpaired.started
  · intro command future outcome hfuture hresolved
    exact hpaired.own_unique hfuture hresolved
  · exact haccounted.progresses

/-- A poll fails, and the command that a user queued behind another poll is
picked next. -/
def userOvertakes : List Event :=
  let uri := "tcp://10.0.0.9:8899"
  [.enqueue "a" uri 1, .put 0, .pick 0, .enqueue "a" uri 1, .put 1,
    .enqueue "b" uri 0, .put 2, .finish 0 (.exception "timed out"),
    .rested 0, .pick 0]

def afterUserOvertakes : World :=
  (execute World.step World.initial userOvertakes).get (by decide +kernel)

theorem serialized_userOvertakes : afterUserOvertakes.Serialized := by
  have hrun : Run (graph World.step) World.initial userOvertakes
      afterUserOvertakes :=
    run_of_execute (Option.some_get _).symm
  exact serialized_of_run hrun

end Bus
end DessMonitor
