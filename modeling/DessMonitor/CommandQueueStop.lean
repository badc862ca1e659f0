import DessMonitor.CommandQueuePairing

/-!
# Stopping a queue

A future is resolved by the worker that has its command, unless the worker is
cancelled: then it drops a command that lets the error through, it leaves what
is still queued, and nobody takes what is put on the queue afterwards.
-/

namespace DessMonitor
namespace Bus

open LabelledRun ListUpdate

/-! ## The property -/

/-- The caller has got a result or an exception, or has gone. -/
def World.Answered (world : World) (future : ℕ) : Prop :=
  (∃ outcome, world.futures[future]? = some (.resolved outcome)) ∨
    world.futures[future]? = some .cancelled

/-- Once a `stop` of a queue has returned, every caller of the queue is
answered. -/
def World.StrandsNobody (world : World) : Prop :=
  ∀ qid queue, world.objects[qid]? = some queue → queue.task = false →
    ∀ (command : ℕ) (call : Call) future,
      world.calls[command]? = some call → call.qid = qid →
      call.future = some future → world.Answered future

def World.isPending (world : World) (future : ℕ) : Bool :=
  match world.futures[future]? with
  | some .pending => true
  | _ => false

/-- A command that lets the cancellation through has no caller left, a worker
does not end before the callers of all commands on its queue are answered, and
nothing is put on the queue of a worker that has ended. -/
def World.attends (world : World) : DirectEvent → Bool
  | .registry (.put command) =>
      ((world.calls[command]?.bind fun call =>
        world.objects[call.qid]?).all fun queue =>
          decide (queue.worker ≠ .ended))
  | .registry (.abort qid) =>
      ((world.objects[qid]?.bind fun queue => queue.worker.item?).all
        fun item => !world.isPending item.future)
  | .registry (.exit qid) =>
      (world.objects[qid]?.all fun queue =>
        queue.items.all fun item => !world.isPending item.future)
  | _ => true

/-! ## The invariant -/

structure Attended (world : World) : Prop where
  born : ∀ (command : ℕ) (call : Call) future,
    world.calls[command]? = some call → call.future = some future →
      future < world.futures.length
  held : ∀ (command : ℕ) (call : Call) future,
    world.calls[command]? = some call → call.future = some future →
    world.futures[future]? = some .pending →
      ∃ queue, world.objects[call.qid]? = some queue ∧
        queue.worker ≠ .ended ∧ ∃ item ∈ queue.held, item.future = future
  task : ∀ (qid : ℕ) queue, world.objects[qid]? = some queue →
    queue.task = false → queue.worker = .ended

theorem initial_attended : Attended World.initial := by
  constructor
  · intro command call future hcall
    cases hcall
  · intro command call future hcall
    cases hcall
  · intro qid queue hqueue
    cases hqueue

theorem Attended.strandsNobody {world : World} (hattended : Attended world) :
    world.StrandsNobody := by
  intro qid queue hqueue htask command call future hcall hqid hfuture
  have hended := hattended.task qid queue hqueue htask
  have hbound := hattended.born command call future hcall hfuture
  have hsome := List.getElem?_eq_getElem hbound
  cases hstate : world.futures[future] with
  | pending =>
      rw [hstate] at hsome
      obtain ⟨holder, hholder, hrunning, -⟩ :=
        hattended.held command call future hcall hfuture hsome
      rw [hqid, hqueue] at hholder
      obtain rfl := Option.some.inj hholder
      exact absurd hended hrunning
  | resolved outcome =>
      rw [hstate] at hsome
      exact .inl ⟨outcome, hsome⟩
  | cancelled =>
      rw [hstate] at hsome
      exact .inr hsome

section Steps

variable {world after : World} {qid : ℕ} {queue moved : CommandQueue}

theorem isPending_eq_true {future : ℕ}
    (hpending : world.futures[future]? = some .pending) :
    world.isPending future = true := by
  unfold World.isPending
  rw [hpending]

/-- Something other than the queues and the commands on them changes. -/
theorem Attended.keep (hattended : Attended world)
    (hcalls : ∀ (command : ℕ) (call : Call) future,
      after.calls[command]? = some call → call.future = some future →
        world.calls[command]? = some call)
    (hlength : after.futures.length = world.futures.length)
    (hpending : ∀ future : ℕ, after.futures[future]? = some .pending →
      world.futures[future]? = some .pending)
    (hobjects : ∀ (qid : ℕ) queue, world.objects[qid]? = some queue →
      after.objects[qid]? = some queue)
    (htask : ∀ (qid : ℕ) queue, after.objects[qid]? = some queue →
      queue.task = false → queue.worker = .ended) : Attended after := by
  constructor
  · intro command call future hcall hfuture
    rw [hlength]
    exact hattended.born command call future
      (hcalls command call future hcall hfuture) hfuture
  · intro command call future hcall hfuture hafter
    obtain ⟨queue, hqueue, hheld⟩ := hattended.held command call future
      (hcalls command call future hcall hfuture) hfuture
      (hpending future hafter)
    exact ⟨queue, hobjects call.qid queue hqueue, hheld⟩
  · exact htask

/-- One queue changes, and keeps the commands whose callers still wait. -/
theorem Attended.move (hattended : Attended world)
    (hcalls : after.calls = world.calls)
    (hlength : after.futures.length = world.futures.length)
    (hpending : ∀ future : ℕ, after.futures[future]? = some .pending →
      world.futures[future]? = some .pending)
    (hqueue : world.objects[qid]? = some queue)
    (hobjects : after.objects = world.objects.set qid moved)
    (htask : moved.task = false → moved.worker = .ended)
    (hheld : queue.worker ≠ .ended → ∀ item ∈ queue.held,
      after.futures[item.future]? = some .pending →
        moved.worker ≠ .ended ∧ item ∈ moved.held) : Attended after := by
  constructor
  · intro command call future hcall hfuture
    rw [hcalls] at hcall
    rw [hlength]
    exact hattended.born command call future hcall hfuture
  · intro command call future hcall hfuture hafter
    rw [hcalls] at hcall
    obtain ⟨holder, hholder, hrunning, item, hmem, hitem⟩ :=
      hattended.held command call future hcall hfuture (hpending future hafter)
    rw [hobjects]
    by_cases heq : qid = call.qid
    · rw [← heq] at hholder ⊢
      rw [hqueue] at hholder
      obtain rfl := Option.some.inj hholder
      rw [← hitem] at hafter
      obtain ⟨hmovedRunning, hmovedHeld⟩ := hheld hrunning item hmem hafter
      exact ⟨moved, List.getElem?_set_self
        (List.getElem?_eq_some_iff.mp hqueue).1, hmovedRunning, item,
        hmovedHeld, hitem⟩
    · refine ⟨holder, ?_, hrunning, item, hmem, hitem⟩
      rw [List.getElem?_set_ne heq]
      exact hholder
  · intro other found hfound
    rw [hobjects] at hfound
    rcases getElem?_set_cases hfound with ⟨-, rfl⟩ | ⟨-, hold⟩
    · exact htask
    · exact hattended.task other found hold

/-- The queue keeps its commands and its worker. -/
theorem Attended.same (hattended : Attended world)
    (hcalls : after.calls = world.calls)
    (hfutures : after.futures = world.futures)
    (hqueue : world.objects[qid]? = some queue)
    (hobjects : after.objects = world.objects.set qid moved)
    (hitems : moved.items = queue.items)
    (hworker : moved.worker = queue.worker)
    (htask : moved.task = queue.task ∨ queue.worker = .ended) :
    Attended after := by
  apply hattended.move hcalls (by rw [hfutures]) _ hqueue hobjects
  · intro hmoved
    rw [hworker]
    rcases htask with hsame | hended
    · rw [hsame] at hmoved
      exact hattended.task qid queue hqueue hmoved
    · exact hended
  · intro hrunning item hmem _
    refine ⟨by rw [hworker]; exact hrunning, ?_⟩
    unfold CommandQueue.held at hmem ⊢
    rw [hitems, hworker]
    exact hmem
  · intro future hpending
    rw [hfutures] at hpending
    exact hpending

theorem Attended.put (hattended : Attended world) {command : ℕ} {call : Call}
    (hqueue : world.objects[call.qid]? = some queue)
    (hrunning : queue.worker ≠ .ended) :
    Attended (world.put command call queue) := by
  have hlength := (List.getElem?_eq_some_iff.mp hqueue).1
  have hheld : (queue.put call.priority command world.futures.length).held =
      queue.held ++
        [⟨call.priority, queue.seq, command, world.futures.length⟩] :=
    (List.append_assoc _ _ _).symm
  constructor
  · intro other found future hfound hfuture
    have hfutures : (world.put command call queue).futures.length =
        world.futures.length + 1 := by
      simp [World.put]
    rw [hfutures]
    rcases getElem?_set_cases hfound with ⟨-, rfl⟩ | ⟨-, hold⟩
    · obtain rfl := Option.some.inj hfuture
      exact Nat.lt_succ_self _
    · exact Nat.lt_succ_of_lt (hattended.born other found future hold hfuture)
  · intro other found future hfound hfuture hpending
    rcases getElem?_set_cases hfound with ⟨-, rfl⟩ | ⟨-, hold⟩
    · obtain rfl := Option.some.inj hfuture
      refine ⟨_, List.getElem?_set_self hlength, hrunning,
        ⟨call.priority, queue.seq, command, world.futures.length⟩, ?_, rfl⟩
      rw [hheld]
      exact List.mem_append_right _ (List.mem_singleton_self _)
    · have hbound := hattended.born other found future hold hfuture
      have hbefore : world.futures[future]? = some .pending := by
        rw [← hpending]
        exact (List.getElem?_append_left hbound).symm
      obtain ⟨holder, hholder, hholding, item, hmem, hitem⟩ :=
        hattended.held other found future hold hfuture hbefore
      by_cases heq : call.qid = found.qid
      · rw [← heq] at hholder ⊢
        rw [hqueue] at hholder
        obtain rfl := Option.some.inj hholder
        refine ⟨_, List.getElem?_set_self hlength, hrunning, item, ?_, hitem⟩
        rw [hheld]
        exact List.mem_append_left _ hmem
      · refine ⟨holder, ?_, hholding, item, hmem, hitem⟩
        rw [← hholder]
        exact List.getElem?_set_ne heq
  · intro other found hfound htask
    rcases getElem?_set_cases hfound with ⟨-, rfl⟩ | ⟨-, hold⟩
    · exact hattended.task call.qid queue hqueue htask
    · exact hattended.task other found hold htask

theorem Attended.finish (hattended : Attended world)
    (hqueue : world.objects[qid]? = some queue) {item : Item}
    (hitem : queue.worker.item? = some item) (outcome : Outcome) :
    Attended (world.finish qid queue item outcome) := by
  have hpending : ∀ future : ℕ,
      (world.finish qid queue item outcome).futures[future]? =
        some .pending →
      future ≠ item.future ∧ world.futures[future]? = some .pending := by
    intro future hafter
    unfold World.finish at hafter
    dsimp only at hafter
    rw [List.getElem?_modify] at hafter
    obtain ⟨before, hbefore, hsame⟩ := Option.map_eq_some_iff.mp hafter
    by_cases heq : item.future = future
    · rw [if_pos heq] at hsame
      cases before <;> cases hsame
    · rw [if_neg heq] at hsame
      rw [hbefore, hsame]
      exact ⟨fun hfuture => heq hfuture.symm, rfl⟩
  have hrunning := not_ended_of_item? hitem
  refine hattended.move rfl (List.length_modify _ _ _)
    (fun future hafter => (hpending future hafter).2) hqueue rfl ?_ ?_
  · intro htask
    exact absurd (hattended.task qid queue hqueue htask) hrunning
  · intro _ other hmem hafter
    refine ⟨Worker.noConfusion, ?_⟩
    unfold CommandQueue.held at hmem
    rw [hitem] at hmem
    rcases List.mem_cons.mp hmem with rfl | hqueued
    · exact absurd rfl (hpending other.future hafter).1
    · exact List.mem_append_right _ hqueued

theorem Attended.abort (hattended : Attended world)
    (hqueue : world.objects[qid]? = some queue) {item : Item}
    (hitem : queue.worker.item? = some item)
    (hdone : world.isPending item.future = false) :
    Attended (world.setQueue qid queue.abort) := by
  have hrunning := not_ended_of_item? hitem
  refine hattended.move rfl rfl (fun _ hpending => hpending) hqueue rfl ?_ ?_
  · intro htask
    exact absurd (hattended.task qid queue hqueue htask) hrunning
  · intro _ other hmem hpending
    refine ⟨Worker.noConfusion, ?_⟩
    unfold CommandQueue.held at hmem
    rw [hitem] at hmem
    rcases List.mem_cons.mp hmem with rfl | hqueued
    · have htrue : world.isPending other.future = true :=
        isPending_eq_true hpending
      rw [hdone] at htrue
      cases htrue
    · exact List.mem_append_right _ hqueued

theorem Attended.exit (hattended : Attended world)
    (hqueue : world.objects[qid]? = some queue) (hexits : queue.exits = true)
    (hdone : ∀ item ∈ queue.items, world.isPending item.future = false) :
    Attended (world.setQueue qid queue.exit) := by
  have hidle : queue.held = queue.items := by
    unfold CommandQueue.held
    rw [item?_of_exits hexits]
    rfl
  refine hattended.move rfl rfl (fun _ hpending => hpending) hqueue rfl
    (fun _ => rfl) ?_
  intro _ item hmem hpending
  rw [hidle] at hmem
  have htrue : world.isPending item.future = true :=
    isPending_eq_true hpending
  rw [hdone item hmem] at htrue
  cases htrue

theorem Attended.pick (hattended : Attended world)
    (hqueue : world.objects[qid]? = some queue)
    (hwaiting : queue.worker = .waiting) {item : Item}
    (hitem : item ∈ queue.items) : Attended (world.pick qid queue item) := by
  refine hattended.move rfl rfl (fun _ hpending => hpending) hqueue rfl ?_ ?_
  · intro htask
    have hended := hattended.task qid queue hqueue htask
    rw [hwaiting] at hended
    cases hended
  · intro _ other hmem _
    refine ⟨Worker.noConfusion, ?_⟩
    have hqueued : other ∈ queue.items := by
      unfold CommandQueue.held at hmem
      rw [hwaiting] at hmem
      exact hmem
    exact (List.perm_cons_erase hitem).subset hqueued

theorem Attended.wait (hattended : Attended world)
    (hqueue : world.objects[qid]? = some queue)
    (hresting : queue.worker = .resting) :
    Attended (world.setQueue qid queue.wait) := by
  refine hattended.move rfl rfl (fun _ hpending => hpending) hqueue rfl ?_ ?_
  · intro htask
    have hended := hattended.task qid queue hqueue htask
    rw [hresting] at hended
    cases hended
  · intro _ item hmem _
    unfold CommandQueue.held at hmem
    rw [hresting] at hmem
    exact ⟨Worker.noConfusion, hmem⟩

theorem Attended.cancel (hattended : Attended world)
    (hqueue : world.objects[qid]? = some queue)
    (hcalls : after.calls = world.calls)
    (hfutures : after.futures = world.futures)
    (hobjects : after.objects = world.objects.set qid queue.cancel) :
    Attended after := by
  unfold CommandQueue.cancel at hobjects
  split at hobjects
  · exact hattended.same hcalls hfutures hqueue hobjects rfl rfl (.inl rfl)
  · exact hattended.same hcalls hfutures hqueue hobjects rfl rfl (.inl rfl)

theorem Attended.stopped (hattended : Attended world)
    (hqueue : world.objects[qid]? = some queue)
    (hended : queue.worker = .ended)
    (hcalls : after.calls = world.calls)
    (hfutures : after.futures = world.futures)
    (hobjects : after.objects = world.objects.set qid queue.stopped) :
    Attended after :=
  hattended.same hcalls hfutures hqueue hobjects rfl rfl (.inr hended)

/-- A new call has no future yet. -/
theorem Attended.append (hattended : Attended world) (qid : ℕ)
    (priority : ℤ) :
    Attended { world with
      calls := world.calls ++ [⟨qid, priority, none⟩] } := by
  refine hattended.keep ?_ rfl (fun _ hpending => hpending)
    (fun _ _ hqueue => hqueue) hattended.task
  intro command call future hcall hfuture
  rcases getElem?_append_singleton_cases hcall with hold | ⟨-, rfl⟩
  · exact hold
  · cases hfuture

/-- Calls, futures and queues stay as they are. -/
theorem Attended.frame (hattended : Attended world)
    (hcalls : after.calls = world.calls)
    (hfutures : after.futures = world.futures)
    (hobjects : after.objects = world.objects) : Attended after := by
  apply hattended.keep
  · intro command call future hcall _
    rw [hcalls] at hcall
    exact hcall
  · rw [hfutures]
  · intro future hpending
    rw [hfutures] at hpending
    exact hpending
  · intro qid queue hqueue
    rw [hobjects]
    exact hqueue
  · intro qid queue hqueue
    rw [hobjects] at hqueue
    exact hattended.task qid queue hqueue

theorem Attended.ensure (hattended : Attended world) (entryId key : String) :
    Attended (world.ensure entryId key) := by
  have hensured : Attended (world.ensureQueue key) := by
    unfold World.ensureQueue
    split
    · exact hattended
    · refine hattended.keep (fun _ _ _ hcall _ => hcall) rfl
        (fun _ hpending => hpending) ?_ ?_
      · intro qid queue hqueue
        rw [← hqueue]
        exact List.getElem?_append_left
          (List.getElem?_eq_some_iff.mp hqueue).1
      · intro qid queue hqueue htask
        rcases getElem?_append_singleton_cases hqueue with hold | ⟨-, rfl⟩
        · exact hattended.task qid queue hold htask
        · cases htask
  unfold World.ensure World.own
  split
  · exact hensured
  · exact hensured.frame rfl rfl rfl

theorem Attended.releaseKey (hattended : Attended world)
    (keys : Finset String) (key : String) :
    Attended (world.releaseKey keys key) := by
  unfold World.releaseKey
  dsimp only
  split
  · split
    · exact hattended.frame rfl rfl rfl
    · split
      · exact hattended.frame rfl rfl rfl
      next hqueue =>
        split
        · exact hattended.cancel hqueue rfl rfl rfl
        · exact hattended.frame rfl rfl rfl
  · exact hattended.frame rfl rfl rfl

theorem Attended.after_event {event : Event} (hattended : Attended world)
    (hstep : Stepped world event after)
    (hattends : world.attends (.registry event) = true) : Attended after := by
  cases hstep with
  | enqueue => exact (hattended.ensure _ _).append _ _
  | put hcall hqueue _ =>
      apply hattended.put hqueue
      unfold World.attends at hattends
      dsimp only at hattends
      rw [hcall, Option.bind_some, hqueue] at hattends
      exact of_decide_eq_true hattends
  | cancelCall =>
      refine hattended.keep (fun _ _ _ hcall _ => hcall) List.length_set ?_
        (fun _ _ hqueue => hqueue) hattended.task
      intro other hpending
      rcases getElem?_set_cases hpending with ⟨-, hcancelled⟩ | ⟨-, hold⟩
      · cases hcancelled
      · exact hold
  | pick hqueue hfirst hwaiting _ =>
      exact hattended.pick hqueue hwaiting (first?_mem hfirst)
  | finish hqueue hitem outcome => exact hattended.finish hqueue hitem outcome
  | abort hqueue hitem _ =>
      apply hattended.abort hqueue hitem
      unfold World.attends at hattends
      dsimp only at hattends
      rw [hqueue, Option.bind_some, hitem] at hattends
      simpa using hattends
  | rested hqueue hresting _ => exact hattended.wait hqueue hresting
  | exit hqueue hexits =>
      apply hattended.exit hqueue hexits
      intro item hmem
      unfold World.attends at hattends
      dsimp only at hattends
      rw [hqueue] at hattends
      simpa using List.all_eq_true.mp hattends item hmem
  | releaseEntry => exact hattended.frame rfl rfl rfl
  | releaseKey => exact hattended.releaseKey _ _
  | joined _ hqueue hended => exact hattended.stopped hqueue hended rfl rfl rfl
  | released => exact hattended.frame rfl rfl rfl

theorem Attended.after_step {event : DirectEvent} (hattended : Attended world)
    (hstep : world.directStep event = some after)
    (hattends : world.attends event = true) : Attended after := by
  cases event with
  | registry event =>
      exact hattended.after_event (stepped_of_step hstep) hattends
  | enqueueOn qid priority =>
      simp only [World.directStep, Option.bind_eq_bind,
        Option.bind_eq_some_iff] at hstep
      obtain ⟨_, -, hstep⟩ := hstep
      obtain rfl := Option.some.inj hstep
      exact hattended.append qid priority
  | stop qid =>
      simp only [World.directStep, Option.bind_eq_bind,
        Option.bind_eq_some_iff] at hstep
      obtain ⟨queue, hqueue, hstep⟩ := hstep
      split at hstep
      · obtain rfl := Option.some.inj hstep
        exact hattended.cancel hqueue rfl rfl rfl
      · obtain rfl := Option.some.inj hstep
        exact hattended
  | stopReturned qid =>
      simp only [World.directStep, Option.bind_eq_bind,
        Option.bind_eq_some_iff] at hstep
      obtain ⟨queue, hqueue, hstep⟩ := hstep
      split at hstep
      next hended =>
        obtain rfl := Option.some.inj hstep
        exact hattended.stopped hqueue hended rfl rfl rfl
      next => cases hstep

end Steps

/-! ## Runs -/

/-- As long as no cancellation goes through a command whose caller waits, no
worker ends before the commands on its queue, and nothing is put on the queue
of a worker that has ended, stopping strands nobody. -/
theorem strandsNobody_of_run {events : List DirectEvent} {final : World}
    (hrun : Run (guarded (graph World.directStep)
      fun world event => world.attends event = true)
      World.initial events final) :
    final.StrandsNobody := by
  have hattended := hrun.invariant Attended initial_attended
    fun _ _ _ hbefore hstep => hbefore.after_step hstep.1 hstep.2
  exact hattended.strandsNobody

/-- An entry is released when its only command is over. -/
def releaseAfterCommand : List DirectEvent :=
  [.registry (.enqueue "a" "tcp://10.0.0.9:8899" 1), .registry (.put 0),
    .registry (.pick 0), .registry (.finish 0 (.result (.int 1))),
    .registry (.releaseEntry "a"),
    .registry (.releaseKey "tcp:10.0.0.9:8899"), .registry (.exit 0),
    .registry .joined, .registry .released]

def afterReleaseAfterCommand : World :=
  (execute (guardedNext World.directStep World.attends) World.initial
    releaseAfterCommand).get (by decide +kernel)

theorem strandsNobody_releaseAfterCommand :
    afterReleaseAfterCommand.StrandsNobody := by
  have hrun : Run (guarded (graph World.directStep)
      fun world event => world.attends event = true) World.initial
      releaseAfterCommand afterReleaseAfterCommand :=
    run_of_guarded_execute (Option.some_get _).symm
  exact strandsNobody_of_run hrun

/-- An entry is released while its command is running. -/
def releaseDuringCommand : List DirectEvent :=
  [.registry (.enqueue "a" "tcp://10.0.0.9:8899" 1), .registry (.put 0),
    .registry (.pick 0), .registry (.releaseEntry "a"),
    .registry (.releaseKey "tcp:10.0.0.9:8899"), .registry (.abort 0),
    .registry (.exit 0), .registry .joined, .registry .released]

def afterReleaseDuringCommand : World :=
  (execute World.directStep World.initial releaseDuringCommand).get
    (by decide +kernel)

theorem releaseDuringCommand_strands :
    ¬ ∀ (events : List DirectEvent) (final : World),
      Run (graph World.directStep) World.initial events final →
      final.StrandsNobody := by
  intro hall
  have hrun : Run (graph World.directStep) World.initial releaseDuringCommand
      afterReleaseDuringCommand :=
    run_of_execute (Option.some_get _).symm
  have hobjects : afterReleaseDuringCommand.objects =
      [⟨"tcp:10.0.0.9:8899", [], 1, .ended, false, false⟩] := by
    decide +kernel
  have hcalls : afterReleaseDuringCommand.calls = [⟨0, 1, some 0⟩] := by
    decide +kernel
  have hpending : afterReleaseDuringCommand.isPending 0 = true := by
    decide +kernel
  have hanswered := hall releaseDuringCommand afterReleaseDuringCommand hrun
    0 ⟨"tcp:10.0.0.9:8899", [], 1, .ended, false, false⟩
    (by rw [hobjects]; rfl) rfl 0 ⟨0, 1, some 0⟩ 0 (by rw [hcalls]; rfl) rfl
    rfl
  unfold World.isPending at hpending
  rcases hanswered with ⟨outcome, hresolved⟩ | hcancelled
  · rw [hresolved] at hpending
    cases hpending
  · rw [hcancelled] at hpending
    cases hpending

end Bus
end DessMonitor
