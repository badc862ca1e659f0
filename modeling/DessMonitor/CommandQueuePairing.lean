import DessMonitor.CommandQueueSteps
import DessMonitor.Foundation.ListUpdate

/-!
# Commands and their futures

The tuples in the queues pair every command with the future of its own caller,
and the history of the workers shows which commands were started and what
became of them.
-/

namespace DessMonitor
namespace Bus

open LabelledRun ListUpdate

/-! ## The invariant -/

/-- The items that the worker has taken or will take. -/
def CommandQueue.held (queue : CommandQueue) : List Item :=
  queue.worker.item?.toList ++ queue.items

/-- The future that the caller of a command awaits. -/
def World.futureOf? (world : World) (command : ℕ) : Option ℕ :=
  world.calls[command]?.bind Call.future

/-- The number of a future is the place of its command in the order of
submission. -/
structure QueuePaired (world : World) (qid : ℕ) (queue : CommandQueue) :
    Prop where
  calls : ∀ item ∈ queue.held, ∃ call,
    world.calls[item.command]? = some call ∧ call.qid = qid ∧
      call.future = some item.future
  nodup : (queue.held.map Item.command).Nodup
  order : queue.items.Pairwise fun earlier later =>
    earlier.seq < later.seq ∧ earlier.future < later.future
  seq : ∀ item ∈ queue.items, item.seq < queue.seq
  fresh : ∀ item ∈ queue.items, item.command ∉ world.started
  running : ∀ item, queue.worker.item? = some item →
    item.command ∈ world.started ∧
      item.command ∉ world.finished.map Prod.fst

structure Paired (world : World) : Prop where
  queues : ∀ qid queue, world.objects[qid]? = some queue →
    QueuePaired world qid queue
  started : world.started.Nodup
  known : ∀ command ∈ world.started, (world.futureOf? command).isSome = true
  finished : (world.finished.map Prod.fst).Nodup
  ran : ∀ command ∈ world.finished.map Prod.fst, command ∈ world.started
  futures : ∀ command future, world.futureOf? command = some future →
    future < world.futures.length
  injective : ∀ command other future,
    world.futureOf? command = some future →
    world.futureOf? other = some future → command = other
  own : ∀ command future outcome, world.futureOf? command = some future →
    world.futures[future]? = some (.resolved outcome) →
      (command, outcome) ∈ world.finished

theorem initial_paired : Paired World.initial := by
  constructor
  · intro qid queue hqueue
    cases hqueue
  · exact List.nodup_nil
  · intro command hmem
    cases hmem
  · exact List.nodup_nil
  · intro command hmem
    cases hmem
  · intro command future hfuture
    cases hfuture
  · intro command other future hfuture
    cases hfuture
  · intro command future outcome hfuture
    cases hfuture

/-! ## Queues that take nothing new -/

/-- A queue keeps its items, and its worker at most drops its own. -/
structure Keeps (queue moved : CommandQueue) : Prop where
  items : moved.items = queue.items
  seq : moved.seq = queue.seq
  item : moved.worker.item? = queue.worker.item? ∨
    moved.worker.item? = none

structure SameHistory (world after : World) : Prop where
  calls : after.calls = world.calls
  futures : after.futures = world.futures
  started : after.started = world.started
  finished : after.finished = world.finished

section Steps

variable {world after : World} {qid : ℕ} {queue moved : CommandQueue}

theorem Keeps.held (hkeeps : Keeps queue moved) :
    moved.held.Sublist queue.held := by
  unfold CommandQueue.held
  rw [hkeeps.items]
  rcases hkeeps.item with hsame | hnone
  · rw [hsame]
  · rw [hnone]
    exact List.sublist_append_right _ _

theorem QueuePaired.keep (hpaired : QueuePaired world qid queue)
    (hsame : SameHistory world after) (hkeeps : Keeps queue moved) :
    QueuePaired after qid moved := by
  constructor
  · intro item hmem
    rw [hsame.calls]
    exact hpaired.calls item (hkeeps.held.subset hmem)
  · exact hpaired.nodup.sublist (hkeeps.held.map Item.command)
  · rw [hkeeps.items]
    exact hpaired.order
  · rw [hkeeps.items, hkeeps.seq]
    exact hpaired.seq
  · rw [hkeeps.items, hsame.started]
    exact hpaired.fresh
  · intro item hitem
    rw [hsame.started, hsame.finished]
    rcases hkeeps.item with heq | hnone
    · rw [heq] at hitem
      exact hpaired.running item hitem
    · rw [hnone] at hitem
      cases hitem

theorem Paired.keep (hpaired : Paired world) (hsame : SameHistory world after)
    (hobjects : ∀ (qid : ℕ) moved, after.objects[qid]? = some moved →
      ∃ queue, world.objects[qid]? = some queue ∧ Keeps queue moved) :
    Paired after := by
  have hfutureOf : after.futureOf? = world.futureOf? := by
    unfold World.futureOf?
    rw [hsame.calls]
  constructor
  · intro qid moved hmoved
    obtain ⟨queue, hqueue, hkeeps⟩ := hobjects qid moved hmoved
    exact (hpaired.queues qid queue hqueue).keep hsame hkeeps
  · rw [hsame.started]
    exact hpaired.started
  · rw [hsame.started, hfutureOf]
    exact hpaired.known
  · rw [hsame.finished]
    exact hpaired.finished
  · rw [hsame.finished, hsame.started]
    exact hpaired.ran
  · rw [hfutureOf, hsame.futures]
    exact hpaired.futures
  · rw [hfutureOf]
    exact hpaired.injective
  · rw [hfutureOf, hsame.futures, hsame.finished]
    exact hpaired.own

theorem Keeps.refl (queue : CommandQueue) : Keeps queue queue :=
  ⟨rfl, rfl, .inl rfl⟩

theorem keeps_of_set (hqueue : world.objects[qid]? = some queue)
    (hobjects : after.objects = world.objects.set qid moved)
    (hkeeps : Keeps queue moved) (other : ℕ) (found : CommandQueue)
    (hfound : after.objects[other]? = some found) :
    ∃ kept, world.objects[other]? = some kept ∧ Keeps kept found := by
  rw [hobjects] at hfound
  rcases getElem?_set_cases hfound with ⟨rfl, rfl⟩ | ⟨-, hold⟩
  · exact ⟨queue, hqueue, hkeeps⟩
  · exact ⟨found, hold, .refl found⟩

theorem keeps_cancel (queue : CommandQueue) : Keeps queue queue.cancel := by
  unfold CommandQueue.cancel
  split
  · exact .refl queue
  · exact ⟨rfl, rfl, .inl rfl⟩

/-! ## Commands -/

/-- Two items of one command are on the same queue. -/
theorem Paired.same_queue (hpaired : Paired world)
    {other : ℕ} {otherQueue : CommandQueue} {item otherItem : Item}
    (hqueue : world.objects[qid]? = some queue) (hitem : item ∈ queue.held)
    (hother : world.objects[other]? = some otherQueue)
    (hotherItem : otherItem ∈ otherQueue.held)
    (hcommand : item.command = otherItem.command) : qid = other := by
  obtain ⟨call, hcall, hqid, -⟩ :=
    (hpaired.queues qid queue hqueue).calls item hitem
  obtain ⟨otherCall, hotherCall, hotherQid, -⟩ :=
    (hpaired.queues other otherQueue hother).calls otherItem hotherItem
  rw [hcommand, hotherCall] at hcall
  obtain rfl := Option.some.inj hcall
  rw [← hqid, ← hotherQid]

theorem QueuePaired.futureOf? (hpaired : QueuePaired world qid queue)
    {item : Item} (hitem : item ∈ queue.held) :
    world.futureOf? item.command = some item.future := by
  obtain ⟨call, hcall, -, hfuture⟩ := hpaired.calls item hitem
  unfold World.futureOf?
  rw [hcall, Option.bind_some, hfuture]

theorem mem_held_of_items {item : Item} (hmem : item ∈ queue.items) :
    item ∈ queue.held :=
  List.mem_append_right _ hmem

theorem mem_held_of_item? {item : Item}
    (hitem : queue.worker.item? = some item) : item ∈ queue.held := by
  unfold CommandQueue.held
  rw [hitem]
  exact List.mem_append_left _ (List.mem_singleton_self item)

theorem Paired.pick (hpaired : Paired world)
    (hqueue : world.objects[qid]? = some queue)
    (hwaiting : queue.worker = .waiting) {item : Item}
    (hitem : item ∈ queue.items) : Paired (world.pick qid queue item) := by
  have hown := hpaired.queues qid queue hqueue
  have hheld : queue.held = queue.items := by
    unfold CommandQueue.held
    rw [hwaiting]
    rfl
  have hpicked : (queue.pick item).held.Perm queue.held := by
    rw [hheld]
    exact (List.perm_cons_erase hitem).symm
  have hfresh := hown.fresh item hitem
  have hnodup : ((queue.pick item).held.map Item.command).Nodup :=
    (hpicked.map Item.command).nodup_iff.mpr hown.nodup
  constructor
  · intro other found hfound
    rcases getElem?_set_cases hfound with ⟨rfl, rfl⟩ | ⟨hne, hold⟩
    · constructor
      · intro held hmem
        exact hown.calls held (hpicked.subset hmem)
      · exact hnodup
      · exact hown.order.sublist List.erase_sublist
      · intro held hmem
        exact hown.seq held (List.mem_of_mem_erase hmem)
      · intro held hmem hstarted
        rcases List.mem_append.mp hstarted with hbefore | hnew
        · exact hown.fresh held (List.mem_of_mem_erase hmem) hbefore
        · have hhead := (List.nodup_cons.mp hnodup).1
          rw [← List.mem_singleton.mp hnew] at hhead
          exact hhead (List.mem_map_of_mem hmem)
      · intro running hrunning
        obtain rfl : item = running := Option.some.inj hrunning
        refine ⟨List.mem_append_right _ (List.mem_singleton_self _), ?_⟩
        intro hfinished
        exact hfresh (hpaired.ran item.command hfinished)
    · have hthat := hpaired.queues other found hold
      refine ⟨hthat.calls, hthat.nodup, hthat.order, hthat.seq, ?_, ?_⟩
      · intro held hmem hstarted
        rcases List.mem_append.mp hstarted with hbefore | hnew
        · exact hthat.fresh held hmem hbefore
        · exact hne (hpaired.same_queue hold (mem_held_of_items hmem) hqueue
            (mem_held_of_items hitem) (List.mem_singleton.mp hnew))
      · intro running hrunning
        obtain ⟨hstarted, hnot⟩ := hthat.running running hrunning
        exact ⟨List.mem_append_left _ hstarted, hnot⟩
  · apply List.Nodup.append hpaired.started (List.nodup_singleton _)
    intro command hstarted hnew
    rw [List.mem_singleton.mp hnew] at hstarted
    exact hfresh hstarted
  · intro command hstarted
    rcases List.mem_append.mp hstarted with hbefore | hnew
    · exact hpaired.known command hbefore
    · rw [List.mem_singleton.mp hnew]
      change (world.futureOf? item.command).isSome = true
      rw [hown.futureOf? (mem_held_of_items hitem)]
      rfl
  · exact hpaired.finished
  · intro command hfinished
    exact List.mem_append_left _ (hpaired.ran command hfinished)
  · exact hpaired.futures
  · exact hpaired.injective
  · exact hpaired.own

/-- A queue takes a command that no worker knows yet, behind its items. -/
theorem QueuePaired.put {after : World} {qid command future : ℕ}
    (hown : QueuePaired world qid queue) (priority : ℤ)
    (hkept : ∀ item ∈ queue.held, ∃ kept,
      after.calls[item.command]? = some kept ∧ kept.qid = qid ∧
        kept.future = some item.future)
    (hadded : ∃ kept, after.calls[command]? = some kept ∧
      kept.qid = qid ∧ kept.future = some future)
    (hstarted : after.started = world.started)
    (hfinished : after.finished = world.finished)
    (hcommand : ∀ item ∈ queue.held, item.command ≠ command)
    (hfuture : ∀ item ∈ queue.items, item.future < future)
    (hfresh : command ∉ world.started) :
    QueuePaired after qid (queue.put priority command future) := by
  have hheld : (queue.put priority command future).held =
      queue.held ++ [⟨priority, queue.seq, command, future⟩] :=
    (List.append_assoc _ _ _).symm
  constructor
  · intro held hmem
    rw [hheld] at hmem
    rcases List.mem_append.mp hmem with hbefore | hlast
    · exact hkept held hbefore
    · rw [List.mem_singleton.mp hlast]
      exact hadded
  · rw [hheld, List.map_append]
    apply List.Nodup.append hown.nodup (List.nodup_singleton _)
    intro other hmem hlast
    obtain ⟨held, hheldMem, rfl⟩ := List.mem_map.mp hmem
    exact hcommand held hheldMem (List.mem_singleton.mp hlast)
  · apply List.pairwise_append.mpr
    refine ⟨hown.order, List.pairwise_singleton _ _, ?_⟩
    intro earlier hearlier later hlater
    rw [List.mem_singleton.mp hlater]
    exact ⟨hown.seq earlier hearlier, hfuture earlier hearlier⟩
  · intro held hmem
    rcases List.mem_append.mp hmem with hbefore | hlast
    · exact Nat.lt_succ_of_lt (hown.seq held hbefore)
    · rw [List.mem_singleton.mp hlast]
      exact Nat.lt_succ_self queue.seq
  · intro held hmem
    rw [hstarted]
    rcases List.mem_append.mp hmem with hbefore | hlast
    · exact hown.fresh held hbefore
    · rw [List.mem_singleton.mp hlast]
      exact hfresh
  · rw [hstarted, hfinished]
    exact hown.running

theorem futureOf?_put_cases {command : ℕ} {call : Call}
    (hcall : world.calls[command]? = some call) {other future : ℕ}
    (hsome : (world.put command call queue).futureOf? other = some future) :
    world.futureOf? other = some future ∨
      other = command ∧ future = world.futures.length := by
  have hself : (world.put command call queue).calls[command]? =
      some { call with future := world.futures.length } :=
    List.getElem?_set_self (List.getElem?_eq_some_iff.mp hcall).1
  by_cases heq : other = command
  · unfold World.futureOf? at hsome
    rw [heq, hself] at hsome
    exact .inr ⟨heq, (Option.some.inj hsome).symm⟩
  · have hcalls : (world.put command call queue).calls[other]? =
        world.calls[other]? := List.getElem?_set_ne (Ne.symm heq)
    unfold World.futureOf? at hsome ⊢
    rw [hcalls] at hsome
    exact .inl hsome

theorem Paired.put (hpaired : Paired world) {command : ℕ} {call : Call}
    (hcall : world.calls[command]? = some call)
    (hqueue : world.objects[call.qid]? = some queue)
    (hnew : call.future = none) : Paired (world.put command call queue) := by
  have hunborn : world.futureOf? command = none := by
    unfold World.futureOf?
    rw [hcall, Option.bind_some, hnew]
  have hcommand : ∀ {qid : ℕ} {found : CommandQueue},
      world.objects[qid]? = some found → ∀ item ∈ found.held,
        item.command ≠ command := by
    intro qid found hfound item hmem heq
    have hborn := (hpaired.queues qid found hfound).futureOf? hmem
    rw [heq, hunborn] at hborn
    cases hborn
  have hcalls : ∀ other, other ≠ command →
      (world.put command call queue).calls[other]? = world.calls[other]? :=
    fun other hne => List.getElem?_set_ne hne.symm
  have hself : (world.put command call queue).calls[command]? =
      some { call with future := world.futures.length } :=
    List.getElem?_set_self (List.getElem?_eq_some_iff.mp hcall).1
  have hstarted : ∀ other ∈ world.started, other ≠ command := by
    intro other hmem heq
    have hknown := hpaired.known other hmem
    rw [heq, hunborn] at hknown
    cases hknown
  have hkept : ∀ {qid : ℕ} {found : CommandQueue},
      world.objects[qid]? = some found → ∀ item ∈ found.held, ∃ kept,
        (world.put command call queue).calls[item.command]? = some kept ∧
          kept.qid = qid ∧ kept.future = some item.future := by
    intro qid found hfound item hmem
    rw [hcalls item.command (hcommand hfound item hmem)]
    exact (hpaired.queues qid found hfound).calls item hmem
  constructor
  · intro other found hfound
    rcases getElem?_set_cases hfound with ⟨rfl, rfl⟩ | ⟨-, hold⟩
    · have hown := hpaired.queues call.qid queue hqueue
      apply hown.put call.priority (hkept hqueue) ⟨_, hself, rfl, rfl⟩ rfl rfl
        (hcommand hqueue)
      · intro item hmem
        exact hpaired.futures item.command item.future
          (hown.futureOf? (mem_held_of_items hmem))
      · intro hmem
        exact hstarted command hmem rfl
    · have hthat := hpaired.queues other found hold
      exact ⟨hkept hold, hthat.nodup, hthat.order, hthat.seq, hthat.fresh,
        hthat.running⟩
  · exact hpaired.started
  · intro other hmem
    unfold World.futureOf?
    rw [hcalls other (hstarted other hmem)]
    exact hpaired.known other hmem
  · exact hpaired.finished
  · exact hpaired.ran
  · intro other future hsome
    have hlength : (world.put command call queue).futures.length =
        world.futures.length + 1 := by
      simp [World.put]
    rw [hlength]
    rcases futureOf?_put_cases hcall hsome with hbefore | ⟨-, rfl⟩
    · exact Nat.lt_succ_of_lt (hpaired.futures other future hbefore)
    · exact Nat.lt_succ_self _
  · intro left right future hleft hright
    rcases futureOf?_put_cases hcall hleft with hbefore | ⟨rfl, rfl⟩
    · rcases futureOf?_put_cases hcall hright with hother | ⟨rfl, rfl⟩
      · exact hpaired.injective left right future hbefore hother
      · exact absurd (hpaired.futures left _ hbefore) (lt_irrefl _)
    · rcases futureOf?_put_cases hcall hright with hother | ⟨rfl, -⟩
      · exact absurd (hpaired.futures right _ hother) (lt_irrefl _)
      · rfl
  · intro other future outcome hsome hresolved
    rcases futureOf?_put_cases hcall hsome with hbefore | ⟨-, rfl⟩
    · have hlt := hpaired.futures other future hbefore
      apply hpaired.own other future outcome hbefore
      rw [← hresolved]
      exact (List.getElem?_append_left hlt).symm
    · have hlast : (world.put command call queue).futures[
          world.futures.length]? = some .pending := by
        simp [World.put]
      rw [hlast] at hresolved
      cases hresolved

theorem resolved_of_modify {futures : List Future} {future other : ℕ}
    {outcome found : Outcome}
    (hresolved : (futures.modify future (Future.resolve outcome))[other]? =
      some (.resolved found)) :
    (other = future ∧ found = outcome) ∨
      futures[other]? = some (.resolved found) := by
  rw [List.getElem?_modify] at hresolved
  obtain ⟨before, hbefore, hafter⟩ := Option.map_eq_some_iff.mp hresolved
  by_cases heq : future = other
  · rw [if_pos heq] at hafter
    cases before with
    | pending =>
        obtain rfl : outcome = found := by simpa [Future.resolve] using hafter
        exact .inl ⟨heq.symm, rfl⟩
    | resolved earlier =>
        obtain rfl : earlier = found := by simpa [Future.resolve] using hafter
        exact .inr hbefore
    | cancelled => cases hafter
  · rw [if_neg heq] at hafter
    rw [hbefore, hafter]
    exact .inr rfl

theorem Paired.finish (hpaired : Paired world)
    (hqueue : world.objects[qid]? = some queue) {item : Item}
    (hitem : queue.worker.item? = some item) (outcome : Outcome) :
    Paired (world.finish qid queue item outcome) := by
  have hown := hpaired.queues qid queue hqueue
  have hheld := mem_held_of_item? hitem
  obtain ⟨hstarted, hunfinished⟩ := hown.running item hitem
  have hmap : (world.finished ++ [(item.command, outcome)]).map Prod.fst =
      world.finished.map Prod.fst ++ [item.command] :=
    List.map_append
  constructor
  · intro other found hfound
    rcases getElem?_set_cases hfound with ⟨rfl, rfl⟩ | ⟨hne, hold⟩
    · have hrest : Keeps queue queue.rest := ⟨rfl, rfl, .inr rfl⟩
      have hkept : QueuePaired world other queue.rest :=
        hown.keep ⟨rfl, rfl, rfl, rfl⟩ hrest
      refine ⟨hkept.calls, hkept.nodup, hkept.order, hkept.seq, hkept.fresh,
        ?_⟩
      intro running hrunning
      cases hrunning
    · have hthat := hpaired.queues other found hold
      refine ⟨hthat.calls, hthat.nodup, hthat.order, hthat.seq, hthat.fresh,
        ?_⟩
      intro running hrunning
      obtain ⟨hthere, hnot⟩ := hthat.running running hrunning
      refine ⟨hthere, ?_⟩
      intro hmem
      unfold World.finish at hmem
      rw [hmap] at hmem
      rcases List.mem_append.mp hmem with hbefore | hlast
      · exact hnot hbefore
      · exact hne (hpaired.same_queue hold (mem_held_of_item? hrunning)
          hqueue hheld (List.mem_singleton.mp hlast))
  · exact hpaired.started
  · exact hpaired.known
  · unfold World.finish
    rw [hmap]
    apply List.Nodup.append hpaired.finished (List.nodup_singleton _)
    intro command hmem hlast
    rw [List.mem_singleton.mp hlast] at hmem
    exact hunfinished hmem
  · intro command hmem
    unfold World.finish at hmem
    rw [hmap] at hmem
    rcases List.mem_append.mp hmem with hbefore | hlast
    · exact hpaired.ran command hbefore
    · rw [List.mem_singleton.mp hlast]
      exact hstarted
  · intro command future hsome
    unfold World.finish
    rw [List.length_modify]
    exact hpaired.futures command future hsome
  · exact hpaired.injective
  · intro command future found hsome hresolved
    rcases resolved_of_modify hresolved with ⟨rfl, rfl⟩ | hold
    · have hsame := hpaired.injective item.command command item.future
        (hown.futureOf? hheld) hsome
      rw [← hsame]
      exact List.mem_append_right _ (List.mem_singleton_self _)
    · exact List.mem_append_left _
        (hpaired.own command future found hsome hold)

theorem Paired.cancelCall (hpaired : Paired world) (future : ℕ) :
    Paired { world with futures := world.futures.set future .cancelled } := by
  constructor
  · intro qid queue hqueue
    have hown := hpaired.queues qid queue hqueue
    exact ⟨hown.calls, hown.nodup, hown.order, hown.seq, hown.fresh,
      hown.running⟩
  · exact hpaired.started
  · exact hpaired.known
  · exact hpaired.finished
  · exact hpaired.ran
  · intro command other hsome
    rw [List.length_set]
    exact hpaired.futures command other hsome
  · exact hpaired.injective
  · intro command other outcome hsome hresolved
    rcases getElem?_set_cases hresolved with ⟨-, hcancelled⟩ | ⟨-, hold⟩
    · cases hcancelled
    · exact hpaired.own command other outcome hsome hold

theorem Paired.append (hpaired : Paired world) (qid : ℕ) (priority : ℤ) :
    Paired { world with
      calls := world.calls ++ [⟨qid, priority, none⟩] } := by
  have hfutureOf : ∀ command, World.futureOf? { world with
      calls := world.calls ++ [⟨qid, priority, none⟩] } command =
        world.futureOf? command := by
    intro command
    unfold World.futureOf?
    dsimp only
    by_cases hlt : command < world.calls.length
    · rw [List.getElem?_append_left hlt]
    · rw [List.getElem?_eq_none (not_lt.mp hlt)]
      cases hcall : (world.calls ++ [⟨qid, priority, none⟩])[command]? with
      | none => rfl
      | some call =>
          rcases getElem?_append_singleton_cases hcall with hold | ⟨-, rfl⟩
          · exact absurd (List.getElem?_eq_some_iff.mp hold).1 hlt
          · rfl
  constructor
  · intro other queue hqueue
    have hown := hpaired.queues other queue hqueue
    refine ⟨?_, hown.nodup, hown.order, hown.seq, hown.fresh, hown.running⟩
    intro item hmem
    obtain ⟨call, hcall, hcallQid⟩ := hown.calls item hmem
    refine ⟨call, ?_, hcallQid⟩
    rw [← hcall]
    exact List.getElem?_append_left (List.getElem?_eq_some_iff.mp hcall).1
  · exact hpaired.started
  · intro command hmem
    rw [hfutureOf]
    exact hpaired.known command hmem
  · exact hpaired.finished
  · exact hpaired.ran
  · intro command future
    rw [hfutureOf]
    exact hpaired.futures command future
  · intro command other future
    rw [hfutureOf, hfutureOf]
    exact hpaired.injective command other future
  · intro command future outcome
    rw [hfutureOf]
    exact hpaired.own command future outcome

theorem queuePaired_start (world : World) (qid : ℕ) (key : String) :
    QueuePaired world qid (.start key) := by
  constructor
  · intro item hmem
    cases hmem
  · exact List.nodup_nil
  · exact .nil
  · intro item hmem
    cases hmem
  · intro item hmem
    cases hmem
  · intro item hitem
    cases hitem

theorem Paired.ensure (hpaired : Paired world) (entryId key : String) :
    Paired (world.ensure entryId key) := by
  have hown : ∀ before : World, Paired before →
      Paired (before.own entryId key) := by
    intro before hbefore
    unfold World.own
    split
    · exact hbefore
    · exact hbefore.keep ⟨rfl, rfl, rfl, rfl⟩
        fun _ queue hqueue => ⟨queue, hqueue, .refl queue⟩
  apply hown
  unfold World.ensureQueue
  split
  · exact hpaired
  · refine ⟨?_, hpaired.started, hpaired.known, hpaired.finished,
      hpaired.ran, hpaired.futures, hpaired.injective, hpaired.own⟩
    intro qid queue hqueue
    rcases getElem?_append_singleton_cases hqueue with hold | ⟨-, rfl⟩
    · exact (hpaired.queues qid queue hold).keep
        ⟨rfl, rfl, rfl, rfl⟩ (.refl queue)
    · exact queuePaired_start _ _ key

theorem Paired.releaseKey (hpaired : Paired world) (keys : Finset String)
    (key : String) : Paired (world.releaseKey keys key) := by
  have hsame : ∀ (qid : ℕ) queue, world.objects[qid]? = some queue →
      ∃ kept, world.objects[qid]? = some kept ∧ Keeps kept queue :=
    fun _ queue hqueue => ⟨queue, hqueue, .refl queue⟩
  unfold World.releaseKey
  dsimp only
  split
  · split
    · exact hpaired.keep ⟨rfl, rfl, rfl, rfl⟩ hsame
    · split
      · exact hpaired.keep ⟨rfl, rfl, rfl, rfl⟩ hsame
      next hqueue =>
        split
        · exact hpaired.keep ⟨rfl, rfl, rfl, rfl⟩
            (keeps_of_set hqueue rfl (keeps_cancel _))
        · exact hpaired.keep ⟨rfl, rfl, rfl, rfl⟩ hsame
  · exact hpaired.keep ⟨rfl, rfl, rfl, rfl⟩ hsame

theorem Paired.after_step {event : Event} (hpaired : Paired world)
    (hstep : Stepped world event after) : Paired after := by
  cases hstep with
  | enqueue => exact (hpaired.ensure _ _).append _ _
  | put hcall hqueue hnew => exact hpaired.put hcall hqueue hnew
  | cancelCall => exact hpaired.cancelCall _
  | pick hqueue hfirst hwaiting _ =>
      exact hpaired.pick hqueue hwaiting (first?_mem hfirst)
  | finish hqueue hitem outcome => exact hpaired.finish hqueue hitem outcome
  | abort hqueue =>
      exact hpaired.keep ⟨rfl, rfl, rfl, rfl⟩
        (keeps_of_set hqueue rfl ⟨rfl, rfl, .inr rfl⟩)
  | rested hqueue =>
      exact hpaired.keep ⟨rfl, rfl, rfl, rfl⟩
        (keeps_of_set hqueue rfl ⟨rfl, rfl, .inr rfl⟩)
  | exit hqueue =>
      exact hpaired.keep ⟨rfl, rfl, rfl, rfl⟩
        (keeps_of_set hqueue rfl ⟨rfl, rfl, .inr rfl⟩)
  | releaseEntry =>
      exact hpaired.keep ⟨rfl, rfl, rfl, rfl⟩
        fun _ queue hqueue => ⟨queue, hqueue, .refl queue⟩
  | releaseKey => exact hpaired.releaseKey _ _
  | joined _ hqueue =>
      exact hpaired.keep ⟨rfl, rfl, rfl, rfl⟩
        (keeps_of_set hqueue rfl ⟨rfl, rfl, .inl rfl⟩)
  | released =>
      exact hpaired.keep ⟨rfl, rfl, rfl, rfl⟩
        fun _ queue hqueue => ⟨queue, hqueue, .refl queue⟩

end Steps

theorem paired_of_run {events : List Event} {final : World}
    (hrun : Run (graph World.step) World.initial events final) :
    Paired final :=
  hrun.invariant Paired initial_paired
    fun _ _ _ hbefore hstep => hbefore.after_step (stepped_of_step hstep)

end Bus
end DessMonitor
