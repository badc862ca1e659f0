import DessMonitor.Foundation.ListUpdate
import DessMonitor.ModbusAdapterModel

/-!
# Reads after writes

A call that reads the registers itself sees every write before it.  A call
that is served from the cache sees the writes before the cached reading began,
and nothing drops the cache when a setter has written.
-/

namespace DessMonitor
namespace Smg

open LabelledRun ListUpdate

/-! ## The property -/

/-- The reading began after every write whose setter had returned success
before the call. -/
def Answer.SeesWrites (answer : Answer) (writes : List Write) : Prop :=
  ∀ write ∈ writes, ∀ landed returned, write.landed = some landed →
    write.returned = some (returned, true) → returned < answer.asked →
      landed < answer.begun

def World.ReadsYourWrites (world : World) : Prop :=
  ∀ answer ∈ world.answers, answer.snapshot.isSome = true →
    answer.SeesWrites world.writes

/-- The reading in the cache began after every write that was reported as
successful. -/
def World.cacheCurrent (world : World) : Bool :=
  world.writes.all fun write =>
    match write.landed, write.returned with
    | some landed, some (_, true) => decide (landed < world.origin)
    | _, _ => true

/-- A call that is served a snapshot from the cache is served from a current
one. -/
def World.servesCurrent (world : World) : Event → Bool
  | .getData _ time =>
      match world.cache.fresh? world.uri time with
      | some entry => entry.snapshot.isNone || world.cacheCurrent
      | none => true
  | _ => true

theorem World.landed_lt_origin {world : World}
    (hcurrent : world.cacheCurrent = true) {write : Write}
    (hmem : write ∈ world.writes) {landed returned : ℕ}
    (hlanded : write.landed = some landed)
    (hreturned : write.returned = some (returned, true)) :
    landed < world.origin := by
  unfold cacheCurrent at hcurrent
  have hwrite := List.all_eq_true.mp hcurrent write hmem
  rw [hlanded, hreturned] at hwrite
  simpa using hwrite

/-- A cache that is not current misses a write. -/
theorem World.origin_le_landed {world : World}
    (houtdated : world.cacheCurrent = false) :
    ∃ write ∈ world.writes, ∃ landed returned, write.landed = some landed ∧
      write.returned = some (returned, true) ∧ world.origin ≤ landed := by
  unfold cacheCurrent at houtdated
  obtain ⟨write, hmem, hwrite⟩ := List.all_eq_false.mp houtdated
  cases hlanded : write.landed with
  | none =>
      rw [hlanded] at hwrite
      exact absurd rfl hwrite
  | some landed =>
      rcases hreturned : write.returned with - | ⟨returned, success⟩
      · rw [hlanded, hreturned] at hwrite
        exact absurd rfl hwrite
      · rw [hlanded, hreturned] at hwrite
        cases success with
        | false => exact absurd rfl hwrite
        | true =>
            have hlate : ¬ landed < world.origin := by simpa using hwrite
            exact ⟨write, hmem, landed, returned, hlanded, hreturned,
              not_lt.mp hlate⟩

/-! ## The invariant -/

structure History (world : World) : Prop where
  asked : ∀ answer ∈ world.answers, answer.asked < world.now
  begun : ∀ reading ∈ world.readings, reading.begun < world.now
  landed : ∀ write ∈ world.writes, ∀ landed, write.landed = some landed →
    landed < world.now
  returned : ∀ write ∈ world.writes, ∀ landed returned,
    write.landed = some landed → write.returned = some (returned, true) →
      landed < returned ∧ returned < world.now
  answers : world.ReadsYourWrites

theorem initial_history (uri : String) : History (World.initial uri) := by
  constructor <;> intro _ hmem <;> cases hmem

section Steps

variable {world : World}

/-- The same history one event later. -/
theorem History.tick (hhistory : History world) : History world.tick := by
  have hnow : world.tick.now = world.now + 1 := rfl
  constructor
  · intro answer hmem
    have hasked := hhistory.asked answer hmem
    omega
  · intro reading hmem
    have hbegun := hhistory.begun reading hmem
    omega
  · intro write hmem landed hlanded
    have hbound := hhistory.landed write hmem landed hlanded
    omega
  · intro write hmem landed returned hlanded hreturned
    have hbound := hhistory.returned write hmem landed returned hlanded
      hreturned
    omega
  · exact hhistory.answers

/-- An answer that sees the writes so far is added. -/
theorem History.answer (hhistory : History world) {command : String}
    {asked begun : ℕ} {snapshot : Option Snapshot}
    (hasked : asked ≤ world.now)
    (hsees : snapshot.isSome = true →
      Answer.SeesWrites ⟨command, asked, begun, snapshot⟩ world.writes) :
    History (world.answer command asked begun snapshot).tick := by
  have hnow : (world.answer command asked begun snapshot).tick.now =
      world.now + 1 := rfl
  have htick := hhistory.tick
  constructor
  · intro answer hmem
    rcases List.mem_append.mp hmem with hold | hnew
    · exact htick.asked answer hold
    · rw [List.mem_singleton.mp hnew]
      dsimp only
      omega
  · exact htick.begun
  · exact htick.landed
  · exact htick.returned
  · intro answer hmem hsome
    rcases List.mem_append.mp hmem with hold | hnew
    · exact hhistory.answers answer hold hsome
    · rw [List.mem_singleton.mp hnew] at hsome ⊢
      exact hsees hsome

theorem History.setReading (hhistory : History world) {rid : ℕ}
    {reading replacement : Reading}
    (hreading : world.readings[rid]? = some reading)
    (hbegun : replacement.begun = reading.begun) :
    History (world.setReading rid replacement) := by
  refine ⟨hhistory.asked, ?_, hhistory.landed, hhistory.returned,
    hhistory.answers⟩
  intro other hmem
  rcases List.mem_or_eq_of_mem_set hmem with hold | rfl
  · exact hhistory.begun other hold
  · have hbound := hhistory.begun reading (List.mem_of_getElem? hreading)
    change other.begun < world.now
    omega

theorem History.getData (hhistory : History world) (command : String)
    (time : ℚ)
    (hcurrent : world.servesCurrent (.getData command time) = true) :
    History (world.getData command time).tick := by
  unfold World.getData
  unfold World.servesCurrent at hcurrent
  dsimp only at hcurrent
  cases hfresh : world.cache.fresh? world.uri time with
  | some entry =>
      rw [hfresh] at hcurrent
      dsimp only at hcurrent ⊢
      have hclock : History { world with clock := time } :=
        ⟨hhistory.asked, hhistory.begun, hhistory.landed, hhistory.returned,
          hhistory.answers⟩
      apply hclock.answer le_rfl
      intro hsome write hmem landed returned hlanded hreturned _
      have hcache : world.cacheCurrent = true := by
        cases hsnapshot : entry.snapshot with
        | none =>
            rw [hsnapshot] at hsome
            cases hsome
        | some snapshot =>
            rw [hsnapshot] at hcurrent
            exact hcurrent
      exact World.landed_lt_origin hcache hmem hlanded hreturned
  | none =>
      have htick := hhistory.tick
      refine ⟨htick.asked, ?_, htick.landed, htick.returned,
        hhistory.answers⟩
      intro reading hmem
      rcases List.mem_append.mp hmem with hold | hnew
      · exact htick.begun reading hold
      · rw [List.mem_singleton.mp hnew]
        exact Nat.lt_succ_self world.now

/-- A reading sees every write before it. -/
theorem History.finishReading (hhistory : History world) {rid : ℕ}
    {reading : Reading} (hreading : world.readings[rid]? = some reading)
    (snapshot : Option Snapshot) :
    History (world.finishReading rid reading snapshot).tick := by
  have hmem := List.mem_of_getElem? hreading
  have hbegun := hhistory.begun reading hmem
  have hcached : History { world with
      cache := world.cache.set world.uri ⟨reading.time, snapshot⟩
      origin := reading.begun } :=
    ⟨hhistory.asked, hhistory.begun, hhistory.landed, hhistory.returned,
      hhistory.answers⟩
  have hset : History (World.setReading _ rid
      { reading with finished := true }) := hcached.setReading hreading rfl
  unfold World.finishReading
  apply hset.answer (le_of_lt hbegun)
  intro _ write hwrite landed returned hlanded hreturned hbefore
  have hbound := hhistory.returned write hwrite landed returned hlanded
    hreturned
  dsimp only at hbefore ⊢
  omega

theorem History.set (hhistory : History world) (address : ℕ) (value : ℤ) :
    History (World.tick { world with
      writes := world.writes ++ [⟨address, value, none, none⟩] }) := by
  have htick := hhistory.tick
  refine ⟨htick.asked, htick.begun, ?_, ?_, ?_⟩
  · intro write hmem landed hlanded
    rcases List.mem_append.mp hmem with hold | hnew
    · exact htick.landed write hold landed hlanded
    · rw [List.mem_singleton.mp hnew] at hlanded
      cases hlanded
  · intro write hmem landed returned hlanded hreturned
    rcases List.mem_append.mp hmem with hold | hnew
    · exact htick.returned write hold landed returned hlanded hreturned
    · rw [List.mem_singleton.mp hnew] at hlanded
      cases hlanded
  · intro answer hmem hsome write hwrite landed returned hlanded
    rcases List.mem_append.mp hwrite with hold | hnew
    · exact hhistory.answers answer hmem hsome write hold landed returned
        hlanded
    · rw [List.mem_singleton.mp hnew] at hlanded
      cases hlanded

theorem History.land (hhistory : History world) {wid : ℕ} {write : Write}
    (hopen : write.returned = none) :
    History (world.setWrite wid { write with landed := world.now }).tick := by
  have htick := hhistory.tick
  refine ⟨htick.asked, htick.begun, ?_, ?_, ?_⟩
  · intro other hmem landed hlanded
    rcases List.mem_or_eq_of_mem_set hmem with hold | rfl
    · exact htick.landed other hold landed hlanded
    · obtain rfl := Option.some.inj hlanded
      exact Nat.lt_succ_self world.now
  · intro other hmem landed returned hlanded hreturned
    rcases List.mem_or_eq_of_mem_set hmem with hold | rfl
    · exact htick.returned other hold landed returned hlanded hreturned
    · rw [hopen] at hreturned
      cases hreturned
  · intro answer hmem hsome other hother landed returned hlanded hreturned
    rcases List.mem_or_eq_of_mem_set hother with hold | rfl
    · exact hhistory.answers answer hmem hsome other hold landed returned
        hlanded hreturned
    · rw [hopen] at hreturned
      cases hreturned

theorem History.returned_step (hhistory : History world) {wid : ℕ}
    {write : Write} (hwrite : world.writes[wid]? = some write)
    (success : Bool) :
    History (world.setWrite wid
      { write with returned := (world.now, success) }).tick := by
  have htick := hhistory.tick
  have hmemWrite := List.mem_of_getElem? hwrite
  refine ⟨htick.asked, htick.begun, ?_, ?_, ?_⟩
  · intro other hmem landed hlanded
    rcases List.mem_or_eq_of_mem_set hmem with hold | rfl
    · exact htick.landed other hold landed hlanded
    · exact htick.landed write hmemWrite landed hlanded
  · intro other hmem landed returned hlanded hreturned
    rcases List.mem_or_eq_of_mem_set hmem with hold | rfl
    · exact htick.returned other hold landed returned hlanded hreturned
    · have hbound := hhistory.landed write hmemWrite landed hlanded
      obtain ⟨rfl, -⟩ := Prod.mk.inj (Option.some.inj hreturned)
      exact ⟨hbound, Nat.lt_succ_self world.now⟩
  · intro answer hmem hsome other hother landed returned hlanded hreturned
      hbefore
    rcases List.mem_or_eq_of_mem_set hother with hold | rfl
    · exact hhistory.answers answer hmem hsome other hold landed returned
        hlanded hreturned hbefore
    · -- a setter that returns now returns after every call so far
      obtain ⟨rfl, -⟩ := Prod.mk.inj (Option.some.inj hreturned)
      have hasked := hhistory.asked answer hmem
      omega

theorem History.after_step {after : World} {event : Event}
    (hhistory : History world) (hstep : world.step event = some after)
    (hcurrent : world.servesCurrent event = true) : History after := by
  cases event with
  | getData command time =>
      unfold World.step at hstep
      dsimp only at hstep
      split at hstep
      · obtain rfl := Option.some.inj hstep
        exact hhistory.getData command time hcurrent
      · cases hstep
  | finishReading rid snapshot =>
      simp only [World.step, Option.bind_eq_bind,
        Option.bind_eq_some_iff] at hstep
      obtain ⟨reading, hreading, hstep⟩ := hstep
      split at hstep
      · cases hstep
      · obtain rfl := Option.some.inj hstep
        exact hhistory.finishReading hreading snapshot
  | cancelReading rid =>
      simp only [World.step, Option.bind_eq_bind,
        Option.bind_eq_some_iff] at hstep
      obtain ⟨reading, hreading, hstep⟩ := hstep
      split at hstep
      · cases hstep
      · obtain rfl := Option.some.inj hstep
        have hset : History (world.setReading rid
            { reading with finished := true }) :=
          hhistory.setReading hreading rfl
        exact hset.tick
  | set setter =>
      simp only [World.step, Option.bind_eq_bind,
        Option.bind_eq_some_iff] at hstep
      obtain ⟨⟨address, value⟩, -, hstep⟩ := hstep
      obtain rfl := Option.some.inj hstep
      exact hhistory.set address value
  | land wid =>
      simp only [World.step, Option.bind_eq_bind,
        Option.bind_eq_some_iff] at hstep
      obtain ⟨write, hwrite, hstep⟩ := hstep
      split at hstep
      · cases hstep
      next hopen =>
        obtain rfl := Option.some.inj hstep
        apply hhistory.land
        simpa using hopen
  | returned wid success =>
      simp only [World.step, Option.bind_eq_bind,
        Option.bind_eq_some_iff] at hstep
      obtain ⟨write, hwrite, hstep⟩ := hstep
      split at hstep
      · cases hstep
      · obtain rfl := Option.some.inj hstep
        exact hhistory.returned_step hwrite success

/-- Being served from an outdated cache is always seen. -/
theorem History.not_readsYourWrites (hhistory : History world)
    {command : String} {time : ℚ}
    (houtdated : world.servesCurrent (.getData command time) = false) :
    ¬ (world.getData command time).tick.ReadsYourWrites := by
  unfold World.servesCurrent at houtdated
  dsimp only at houtdated
  cases hfresh : world.cache.fresh? world.uri time with
  | none =>
      rw [hfresh] at houtdated
      cases houtdated
  | some entry =>
      rw [hfresh] at houtdated
      dsimp only at houtdated
      obtain ⟨hsnapshot, hcache⟩ := Bool.or_eq_false_iff.mp houtdated
      obtain ⟨write, hmem, landed, returned, hlanded, hreturned, hlate⟩ :=
        World.origin_le_landed hcache
      have hbound := hhistory.returned write hmem landed returned hlanded
        hreturned
      have hanswered : (world.getData command time).tick =
          (({ world with clock := time }).answer command world.now
            world.origin entry.snapshot).tick := by
        unfold World.getData
        rw [hfresh]
      rw [hanswered]
      intro hafter
      have hsees := hafter ⟨command, world.now, world.origin, entry.snapshot⟩
        (List.mem_append_right _ (List.mem_singleton_self _))
        (by rw [← Option.not_isNone, hsnapshot]; rfl)
      have hbefore := hsees write hmem landed returned hlanded hreturned
        hbound.2
      exact absurd hbefore (not_lt.mpr hlate)

end Steps

/-! ## Runs -/

/-- As long as no call is served a snapshot from an outdated cache, every call
that is answered with data sees the writes before it. -/
theorem readsYourWrites_of_run {uri : String} {events : List Event}
    {final : World}
    (hrun : Run (guarded (graph World.step)
      fun world event => world.servesCurrent event = true)
      (World.initial uri) events final) :
    final.ReadsYourWrites := by
  have hhistory := hrun.invariant History (initial_history uri)
    fun _ _ _ hbefore hstep => hbefore.after_step hstep.1 hstep.2
  exact hhistory.answers

/-- What an inverter answers whose registers are all zero. -/
def zeroSnapshot : Option Snapshot :=
  readSmg2SnapshotVia fun _ count => some (List.replicate count 0)

def utilityFirst : Event :=
  .set (.outputSourcePriority .utilityFirst)

/-- A read, a write, and a read after the cached snapshot has expired. -/
def readWriteWait : List Event :=
  [.getData "QPIRI" 0, .finishReading 0 zeroSnapshot, utilityFirst, .land 0,
    .returned 0 true, .getData "QPIRI" 6, .finishReading 1 zeroSnapshot]

def afterReadWriteWait : World :=
  (execute (guardedNext World.step World.servesCurrent)
    (World.initial "modbus://10.0.0.9:502")
    readWriteWait).get (by decide +kernel)

theorem readsYourWrites_readWriteWait :
    afterReadWriteWait.ReadsYourWrites := by
  have hrun : Run (guarded (graph World.step)
      fun world event => world.servesCurrent event = true)
      (World.initial "modbus://10.0.0.9:502") readWriteWait
      afterReadWriteWait :=
    run_of_guarded_execute (Option.some_get _).symm
  exact readsYourWrites_of_run hrun

/-- The read and the write, which the next read does not wait for. -/
def readWrite : List Event :=
  [.getData "QPIRI" 0, .finishReading 0 zeroSnapshot, utilityFirst, .land 0,
    .returned 0 true]

def afterReadWrite : World :=
  (execute (guardedNext World.step World.servesCurrent)
    (World.initial "modbus://10.0.0.9:502") readWrite).get (by decide +kernel)

theorem readWriteRead_outdated :
    ¬ ∀ (uri : String) (events : List Event) (final : World),
      Run (graph World.step) (World.initial uri) events final →
      final.ReadsYourWrites := by
  intro hall
  have hguarded : Run (guarded (graph World.step)
      fun world event => world.servesCurrent event = true)
      (World.initial "modbus://10.0.0.9:502") readWrite afterReadWrite :=
    run_of_guarded_execute (Option.some_get _).symm
  have hhistory := hguarded.invariant History (initial_history _)
    fun _ _ _ hbefore hstep => hbefore.after_step hstep.1 hstep.2
  have houtdated :
      afterReadWrite.servesCurrent (.getData "QPIRI" 1) = false := by
    decide +kernel
  have hstep : afterReadWrite.step (.getData "QPIRI" 1) =
      some (afterReadWrite.getData "QPIRI" 1).tick := by
    have hclock : ¬ (1 : ℚ) < afterReadWrite.clock := by decide +kernel
    simp [World.step, hclock]
  have hrun := (hguarded.mono fun _ _ _ hnext => hnext.1).extend hstep
  exact hhistory.not_readsYourWrites houtdated (hall _ _ _ hrun)

end Smg
end DessMonitor
