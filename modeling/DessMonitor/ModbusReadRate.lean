import DessMonitor.Foundation.Spacing
import DessMonitor.ModbusReadYourWrites

/-!
# How often the registers are read

Six commands a cycle ask for the same registers over a slow half-duplex line.
What a call is answered with was read within a few seconds before it, however
the calls overlap.  Calls that follow one another, as a queue or a poll makes
them, read the registers once in that time.
-/

namespace DessMonitor
namespace Smg

open LabelledRun ListUpdate Spacing

/-! ## Cached snapshots were read lately -/

/-- The finished reading that delivered the snapshot. -/
def World.Delivered (world : World) (reading : Reading)
    (snapshot : Option Snapshot) : Prop :=
  reading ∈ world.readings ∧ reading.finished = true ∧
    ⟨reading.command, reading.begun, reading.begun, snapshot⟩ ∈ world.answers

structure World.Sourced (world : World) : Prop where
  cached : ∀ entry, world.cache.get? world.uri = some entry →
    ∃ reading, world.Delivered reading entry.snapshot ∧
      reading.time = entry.time ∧ reading.begun = world.origin
  past : ∀ reading ∈ world.readings, reading.time ≤ world.clock

section Steps

variable {world after : World} {event : Event} {command : String}
  {time : ℚ} {entry : CacheEntry}

theorem get?_of_fresh? (hfresh : world.cache.fresh? world.uri time = some entry) :
    world.cache.get? world.uri = some entry ∧
      time - entry.time < snapshotTtl := by
  simpa [SnapshotCache.fresh?, Option.filter_eq_some_iff] using hfresh

/-- Answers and readings only join. -/
theorem World.Delivered.mono {reading : Reading} {snapshot : Option Snapshot}
    (hdelivered : world.Delivered reading snapshot)
    (hreadings : world.readings ⊆ after.readings)
    (hanswers : world.answers ⊆ after.answers) :
    after.Delivered reading snapshot :=
  ⟨hreadings hdelivered.1, hdelivered.2.1, hanswers hdelivered.2.2⟩

theorem World.Sourced.getData (hsourced : world.Sourced)
    (hclock : world.clock ≤ time) :
    (world.getData command time).tick.Sourced := by
  have hpast : ∀ reading ∈ world.readings, reading.time ≤ time :=
    fun reading hmem => (hsourced.past reading hmem).trans hclock
  unfold World.getData
  split
  next entry hfresh =>
    refine ⟨?_, hpast⟩
    intro other hother
    obtain ⟨reading, hdelivered, hreading⟩ := hsourced.cached other hother
    exact ⟨reading, hdelivered.mono (List.Subset.refl _)
      (List.subset_append_left _ _), hreading⟩
  next =>
    constructor
    · intro other hother
      obtain ⟨reading, hdelivered, hreading⟩ := hsourced.cached other hother
      exact ⟨reading, hdelivered.mono (List.subset_append_left _ _)
        (List.Subset.refl _), hreading⟩
    · intro reading hmem
      rcases List.mem_append.mp hmem with hold | hnew
      · exact hpast reading hold
      · rw [List.mem_singleton.mp hnew]
        exact le_rfl

/-- Finishing a reading leaves the finished ones where they were. -/
theorem mem_readings_finish {rid : ℕ} {reading other : Reading}
    (hreading : world.readings[rid]? = some reading)
    (hopen : reading.finished = false) (hmem : other ∈ world.readings)
    (hfinished : other.finished = true) :
    other ∈ world.readings.set rid { reading with finished := true } := by
  obtain ⟨index, hindex⟩ := List.mem_iff_getElem?.mp hmem
  have hne : rid ≠ index := by
    rintro rfl
    rw [hreading] at hindex
    cases hindex
    rw [hopen] at hfinished
    cases hfinished
  apply List.mem_of_getElem?
  rw [List.getElem?_set_ne hne, hindex]

theorem World.Sourced.setReading (hsourced : world.Sourced) {rid : ℕ}
    {reading : Reading} (hreading : world.readings[rid]? = some reading)
    (hopen : reading.finished = false) :
    (world.setReading rid { reading with finished := true }).Sourced := by
  constructor
  · intro entry hentry
    obtain ⟨other, ⟨hmem, hfinished, hanswer⟩, hother⟩ :=
      hsourced.cached entry hentry
    exact ⟨other, ⟨mem_readings_finish hreading hopen hmem hfinished,
      hfinished, hanswer⟩, hother⟩
  · intro other hmem
    rcases List.mem_or_eq_of_mem_set hmem with hold | rfl
    · exact hsourced.past other hold
    · exact hsourced.past reading (List.mem_of_getElem? hreading)

theorem World.Sourced.finishReading (hsourced : world.Sourced) {rid : ℕ}
    {reading : Reading} (hreading : world.readings[rid]? = some reading)
    (hopen : reading.finished = false) (snapshot : Option Snapshot) :
    (world.finishReading rid reading snapshot).tick.Sourced := by
  have hlength := (List.getElem?_eq_some_iff.mp hreading).1
  constructor
  · intro entry hentry
    have hset : (world.cache.set world.uri ⟨reading.time, snapshot⟩).get?
        world.uri = some entry := hentry
    rw [Dict.get?_set_self] at hset
    cases hset
    refine ⟨{ reading with finished := true }, ⟨?_, rfl, ?_⟩, rfl, rfl⟩
    · apply List.mem_of_getElem? (i := rid)
      simp [World.finishReading, World.setReading, World.answer, World.tick,
        hlength]
    · simp [World.finishReading, World.answer, World.tick]
  · exact (hsourced.setReading hreading hopen).past

theorem World.Sourced.after_step (hsourced : world.Sourced)
    (hstep : world.step event = some after) : after.Sourced := by
  cases event with
  | getData command time =>
      simp only [World.step] at hstep
      split_ifs at hstep with hclock
      cases hstep
      exact hsourced.getData hclock
  | finishReading rid snapshot =>
      simp only [World.step, Option.bind_eq_bind,
        Option.bind_eq_some_iff] at hstep
      obtain ⟨reading, hreading, hstep⟩ := hstep
      split_ifs at hstep with hopen
      cases hstep
      exact hsourced.finishReading hreading (by simpa using hopen) snapshot
  | cancelReading rid =>
      simp only [World.step, Option.bind_eq_bind,
        Option.bind_eq_some_iff] at hstep
      obtain ⟨reading, hreading, hstep⟩ := hstep
      split_ifs at hstep with hopen
      cases hstep
      have hset := hsourced.setReading hreading (by simpa using hopen)
      exact ⟨hset.cached, hset.past⟩
  | set setter =>
      simp only [World.step, Option.bind_eq_bind,
        Option.bind_eq_some_iff] at hstep
      obtain ⟨register, -, hstep⟩ := hstep
      cases hstep
      exact ⟨hsourced.cached, hsourced.past⟩
  | land wid =>
      simp only [World.step, Option.bind_eq_bind,
        Option.bind_eq_some_iff] at hstep
      obtain ⟨write, -, hstep⟩ := hstep
      split_ifs at hstep
      cases hstep
      exact ⟨hsourced.cached, hsourced.past⟩
  | returned wid success =>
      simp only [World.step, Option.bind_eq_bind,
        Option.bind_eq_some_iff] at hstep
      obtain ⟨write, -, hstep⟩ := hstep
      split_ifs at hstep
      cases hstep
      exact ⟨hsourced.cached, hsourced.past⟩

end Steps

/-- Whatever overlaps or is cancelled, a call reads the registers itself or is
answered with what a reading delivered that began less than the lifetime of
the cache before it. -/
theorem answered_from_recent_reading {uri command : String} {time : ℚ}
    {events : List Event} {world after : World}
    (hrun : Run (graph World.step) (World.initial uri) events world)
    (hstep : world.step (.getData command time) = some after) :
    (after.readings = world.readings ++ [⟨command, world.now, time, false⟩] ∧
        after.answers = world.answers) ∨
      (∃ reading snapshot, world.Delivered reading snapshot ∧
        reading.time ≤ time ∧ time < reading.time + snapshotTtl ∧
        after.readings = world.readings ∧
        after.answers = world.answers ++
          [⟨command, world.now, reading.begun, snapshot⟩]) := by
  have hsourced : world.Sourced := by
    apply hrun.invariant World.Sourced
    · constructor <;> simp [World.initial]
    · intro before event after hbefore hnext
      exact hbefore.after_step hnext
  simp only [World.step] at hstep
  split_ifs at hstep with hclock
  cases hstep
  cases hfresh : world.cache.fresh? world.uri time with
  | none =>
      left
      simp [World.getData, World.tick, hfresh]
  | some entry =>
      right
      obtain ⟨hcached, hrecent⟩ := get?_of_fresh? hfresh
      obtain ⟨reading, hdelivered, htime, hbegun⟩ :=
        hsourced.cached entry hcached
      have hpast := hsourced.past reading hdelivered.1
      refine ⟨reading, entry.snapshot, hdelivered, hpast.trans hclock, ?_, ?_⟩
      · rw [htime]
        linarith
      · simp [World.getData, World.tick, World.answer, hfresh, hbegun]

/-! ## Calls that follow one another -/

def World.times (world : World) : List ℚ := world.readings.map Reading.time

/-- Calls wait for each other and run to their end. -/
def World.alone (world : World) : Event → Bool
  | .getData _ _ => world.readings.all Reading.finished
  | .cancelReading _ => false
  | _ => true

/-- `last` is when the last reading began. -/
structure World.Rated (world : World) (last : ℚ) : Prop where
  paced : Paced snapshotTtl world.times last
  unfinished : ∀ reading ∈ world.readings, reading.finished = false →
    reading.time = last
  cached : world.readings ≠ [] →
    (∀ reading ∈ world.readings, reading.finished = true) →
    ∃ entry, world.cache.get? world.uri = some entry ∧ entry.time = last

section Steps

variable {world after : World} {event : Event} {command : String}
  {time last : ℚ}

/-- A call that is not answered from the cache comes late enough. -/
theorem World.Rated.getData (hrated : world.Rated last)
    (halone : ∀ reading ∈ world.readings, reading.finished = true) :
    ∃ last, (world.getData command time).tick.Rated last := by
  unfold World.getData
  split
  next entry hfresh =>
    exact ⟨last, hrated.paced, hrated.unfinished, hrated.cached⟩
  next hstale =>
    have htimes : ∃ begun, Paced snapshotTtl world.times begun ∧
        snapshotTtl ≤ time - begun := by
      by_cases hnone : world.readings = []
      · refine ⟨time - snapshotTtl, ?_, by simp⟩
        simpa [World.times, hnone] using
          paced_nil snapshotTtl (time - snapshotTtl)
      · obtain ⟨entry, hcached, rfl⟩ := hrated.cached hnone halone
        refine ⟨entry.time, hrated.paced, ?_⟩
        simpa [SnapshotCache.fresh?, hcached] using hstale
    obtain ⟨begun, hpaced, hready⟩ := htimes
    refine ⟨time, ?_, ?_, ?_⟩
    · have htake := hpaced.take (by norm_num [snapshotTtl]) hready
      simpa [World.times, World.tick] using htake
    · intro reading hmem hopen
      rcases List.mem_append.mp hmem with hold | hnew
      · rw [halone reading hold] at hopen
        cases hopen
      · rw [List.mem_singleton.mp hnew]
    · intro _ hall
      have hnew := hall ⟨command, world.now, time, false⟩
        (List.mem_append_right _ (List.mem_singleton_self _))
      cases hnew

theorem World.Rated.finishReading (hrated : world.Rated last) {rid : ℕ}
    {reading : Reading} (hreading : world.readings[rid]? = some reading)
    (hopen : reading.finished = false) (snapshot : Option Snapshot) :
    (world.finishReading rid reading snapshot).tick.Rated last := by
  have hbegun := hrated.unfinished reading (List.mem_of_getElem? hreading)
    hopen
  constructor
  · have htimes : (world.finishReading rid reading snapshot).tick.times =
        world.times := map_set_of_eq hreading rfl
    rw [htimes]
    exact hrated.paced
  · intro other hmem hother
    rcases List.mem_or_eq_of_mem_set hmem with hold | rfl
    · exact hrated.unfinished other hold hother
    · exact hbegun
  · intro _ _
    exact ⟨⟨reading.time, snapshot⟩, Dict.get?_set_self _ _ _, hbegun⟩

theorem World.Rated.after_step (hrated : world.Rated last)
    (hstep : world.step event = some after)
    (halone : world.alone event = true) : ∃ last, after.Rated last := by
  cases event with
  | getData command time =>
      simp only [World.step] at hstep
      split_ifs at hstep
      cases hstep
      exact hrated.getData (by simpa [World.alone] using halone)
  | finishReading rid snapshot =>
      simp only [World.step, Option.bind_eq_bind,
        Option.bind_eq_some_iff] at hstep
      obtain ⟨reading, hreading, hstep⟩ := hstep
      split_ifs at hstep with hopen
      cases hstep
      exact ⟨last, hrated.finishReading hreading (by simpa using hopen)
        snapshot⟩
  | cancelReading rid => cases halone
  | set setter =>
      simp only [World.step, Option.bind_eq_bind,
        Option.bind_eq_some_iff] at hstep
      obtain ⟨register, -, hstep⟩ := hstep
      cases hstep
      exact ⟨last, hrated.paced, hrated.unfinished, hrated.cached⟩
  | land wid =>
      simp only [World.step, Option.bind_eq_bind,
        Option.bind_eq_some_iff] at hstep
      obtain ⟨write, -, hstep⟩ := hstep
      split_ifs at hstep
      cases hstep
      exact ⟨last, hrated.paced, hrated.unfinished, hrated.cached⟩
  | returned wid success =>
      simp only [World.step, Option.bind_eq_bind,
        Option.bind_eq_some_iff] at hstep
      obtain ⟨write, -, hstep⟩ := hstep
      split_ifs at hstep
      cases hstep
      exact ⟨last, hrated.paced, hrated.unfinished, hrated.cached⟩

end Steps

/-- Calls that follow one another begin their readings a cache lifetime apart,
whatever they ask for and whether the readings succeed. -/
theorem readings_ttl_apart {uri : String} {events : List Event}
    {final : World}
    (hrun : Run (guarded (graph World.step)
      fun world event => world.alone event = true)
      (World.initial uri) events final) :
    Spaced snapshotTtl final.times ∧
      ∀ start stop : ℚ, start ≤ stop →
        ((final.times.filter fun time =>
            decide (start ≤ time ∧ time ≤ stop)).length - 1) •
          snapshotTtl ≤ stop - start := by
  have hrated : ∃ last, final.Rated last := by
    apply hrun.invariant fun world => ∃ last, world.Rated last
    · exact ⟨0, paced_nil snapshotTtl 0, by simp [World.initial],
        by simp [World.initial]⟩
    · rintro before event after ⟨last, hbefore⟩ ⟨hnext, halone⟩
      exact hbefore.after_step hnext halone
  obtain ⟨last, hlast⟩ := hrated
  have hspaced := hlast.paced.spaced
  exact ⟨hspaced, fun start stop hwindow => hspaced.gaps_le_filter hwindow⟩

/-- Two poll cycles: the second command of a cycle is served from the cache,
also when the reading failed. -/
def twoCycles : List Event :=
  [.getData "QPIGS" 10, .finishReading 0 none, .getData "QPIRI" 12,
    .getData "QPIGS" 20, .finishReading 1 zeroSnapshot, .getData "QMOD" 21]

def afterTwoCycles : World :=
  (execute (guardedNext World.step World.alone)
    (World.initial "modbus://10.0.0.9:502") twoCycles).get (by decide +kernel)

theorem readings_ttl_apart_two_cycles :
    afterTwoCycles.times = [10, 20] ∧
      Spaced snapshotTtl afterTwoCycles.times := by
  have hrun : Run (guarded (graph World.step)
      fun world event => world.alone event = true)
      (World.initial "modbus://10.0.0.9:502") twoCycles afterTwoCycles :=
    run_of_guarded_execute (Option.some_get _).symm
  exact ⟨by decide +kernel, (readings_ttl_apart hrun).1⟩

/-- One second after the last answer another command asks. -/
def afterFourthCommand : World :=
  (afterTwoCycles.step (.getData "QFWS" 22)).get (by decide +kernel)

theorem answered_from_recent_reading_cached :
    ∃ reading snapshot, afterTwoCycles.Delivered reading snapshot ∧
      reading.time ≤ 22 ∧ 22 < reading.time + snapshotTtl ∧
      afterFourthCommand.readings = afterTwoCycles.readings ∧
      afterFourthCommand.answers = afterTwoCycles.answers ++
        [⟨"QFWS", afterTwoCycles.now, reading.begun, snapshot⟩] := by
  have halone : Run (guarded (graph World.step)
      fun world event => world.alone event = true)
      (World.initial "modbus://10.0.0.9:502") twoCycles afterTwoCycles :=
    run_of_guarded_execute (Option.some_get _).symm
  have hrun := halone.mono fun _ _ _ hstep => hstep.1
  have hstep : afterTwoCycles.step (.getData "QFWS" 22) =
      some afterFourthCommand :=
    (Option.some_get _).symm
  rcases answered_from_recent_reading hrun hstep with ⟨hread, -⟩ | hcached
  · have hlength : afterFourthCommand.readings.length =
        afterTwoCycles.readings.length := by
      decide +kernel
    rw [hread] at hlength
    simp at hlength
  · exact hcached

/-! ## One task -/

/-- A call of `get_data`, and what the registers answer if it reads them. -/
structure Request where
  command : String
  time : ℚ
  readBlock : ReadBlock

/-- The calls after one another by `_cached_snapshot`: which snapshot each of
them uses, and the cache that is left. -/
def serve (uri : String) :
    SnapshotCache → List Request →
      List (String × Option Snapshot) × SnapshotCache
  | cache, [] => ([], cache)
  | cache, request :: later =>
      let (snapshot, next) :=
        cachedSnapshot cache uri request.time request.readBlock
      let (others, last) := serve uri next later
      ((request.command, snapshot) :: others, last)

def Answer.used (answer : Answer) : String × Option Snapshot :=
  (answer.command, answer.snapshot)

/-- Calls that wait for each other, as a run of the system. -/
abbrev World.AloneRun : World → List Event → World → Prop :=
  Run (guarded (graph World.step) fun world event => world.alone event = true)

section Requests

variable {world : World}

/-- A call that nothing interrupts is `_cached_snapshot`. -/
theorem serve_one (request : Request) (hclock : world.clock ≤ request.time)
    (hidle : ∀ reading ∈ world.readings, reading.finished = true) :
    ∃ events after, world.AloneRun events after ∧
      after.uri = world.uri ∧ after.clock = request.time ∧
      (∀ reading ∈ after.readings, reading.finished = true) ∧
      after.answers.map Answer.used = world.answers.map Answer.used ++
        [(request.command, (cachedSnapshot world.cache world.uri request.time
          request.readBlock).1)] ∧
      after.cache = (cachedSnapshot world.cache world.uri request.time
        request.readBlock).2 := by
  have halone : world.alone (.getData request.command request.time) = true := by
    simpa [World.alone] using hidle
  have hasked : world.step (.getData request.command request.time) =
      some (world.getData request.command request.time).tick :=
    if_pos hclock
  have hfirst : world.AloneRun ([] ++ [.getData request.command request.time])
      (world.getData request.command request.time).tick :=
    .extend .start ⟨hasked, halone⟩
  cases hfresh : world.cache.fresh? world.uri request.time with
  | some entry =>
      refine ⟨_, _, hfirst, ?_⟩
      simpa [World.getData, World.tick, World.answer, cachedSnapshot, hfresh,
        Answer.used] using hidle
  | none =>
      let reading : Reading := ⟨request.command, world.now, request.time, false⟩
      let snapshot := readSmg2SnapshotVia request.readBlock
      have hopen : (world.getData request.command request.time).tick.readings =
          world.readings ++ [reading] := by
        simp [World.getData, World.tick, hfresh, reading]
      have hread : (world.getData request.command request.time).tick.step
          (.finishReading world.readings.length snapshot) =
            some ((world.getData request.command request.time).tick.finishReading
              world.readings.length reading snapshot).tick := by
        simp [World.step, hopen, reading]
      refine ⟨_, _, hfirst.extend ⟨hread, rfl⟩, ?_⟩
      have hclosed : (world.readings ++ [reading]).set world.readings.length
          { reading with finished := true } =
            world.readings ++ [{ reading with finished := true }] := by
        simp [List.set_append_right]
      have hdone : ∀ other ∈ world.readings ++
          [{ reading with finished := true }], other.finished = true := by
        intro other hmem
        rcases List.mem_append.mp hmem with hbefore | hnew
        · exact hidle other hbefore
        · rw [List.mem_singleton.mp hnew]
      rw [← hclosed] at hdone
      simp only [World.getData, World.tick, World.answer, World.setReading,
        World.finishReading, cachedSnapshot, hfresh, Answer.used, reading,
        snapshot, List.map_append, List.map_cons, List.map_nil, true_and,
        and_true]
      exact hdone

theorem serve_all (requests : List Request) :
    ∀ world : World,
      (∀ reading ∈ world.readings, reading.finished = true) →
      (∀ request ∈ requests, world.clock ≤ request.time) →
      (requests.map Request.time).Pairwise (· ≤ ·) →
        ∃ events final, world.AloneRun events final ∧
          final.answers.map Answer.used = world.answers.map Answer.used ++
            (serve world.uri world.cache requests).1 ∧
          final.cache = (serve world.uri world.cache requests).2 := by
  induction requests with
  | nil =>
      intro world _ _ _
      exact ⟨[], world, .start, (List.append_nil _).symm, rfl⟩
  | cons request later ih =>
      intro world hidle hclock hsorted
      rw [List.map_cons, List.pairwise_cons] at hsorted
      obtain ⟨events, after, hrun, huri, htime, hafter, hanswers, hcache⟩ :=
        serve_one request (hclock request List.mem_cons_self) hidle
      have hlater : ∀ other ∈ later, after.clock ≤ other.time := by
        intro other hmem
        rw [htime]
        exact hsorted.1 other.time (List.mem_map_of_mem hmem)
      obtain ⟨others, final, hrest, hothers, hlast⟩ :=
        ih after hafter hlater hsorted.2
      rw [huri, hcache] at hothers hlast
      refine ⟨events ++ others, final, hrun.append hrest, ?_, hlast⟩
      rw [hothers, hanswers, List.append_assoc, List.singleton_append]
      rfl

end Requests

/-- Calls of one task are served as `_cached_snapshot` serves them after one
another, whatever the registers answer. -/
theorem served_as_cachedSnapshot {uri : String} {requests : List Request}
    (hstart : ∀ request ∈ requests, 0 ≤ request.time)
    (hsorted : (requests.map Request.time).Pairwise (· ≤ ·)) :
    ∃ events final, (World.initial uri).AloneRun events final ∧
      final.answers.map Answer.used = (serve uri .empty requests).1 ∧
      final.cache = (serve uri .empty requests).2 :=
  serve_all requests (World.initial uri) (by simp [World.initial]) hstart
    hsorted

/-- The registers answer zeros, fail while the second call is served from the
cache, and fail again when the third one reads them. -/
def threeRequests : List Request :=
  [⟨"QPIGS", 10, fun _ count => some (List.replicate count 0)⟩,
    ⟨"QPIRI", 12, fun _ _ => none⟩, ⟨"QPIGS", 20, fun _ _ => none⟩]

theorem served_as_cachedSnapshot_threeRequests :
    ∃ events final,
      (World.initial "modbus://10.0.0.9:502").AloneRun events final ∧
      (final.answers.map fun answer =>
        (answer.command, answer.snapshot.isSome)) =
        [("QPIGS", true), ("QPIRI", true), ("QPIGS", false)] ∧
      final.cache =
        (serve "modbus://10.0.0.9:502" .empty threeRequests).2 := by
  obtain ⟨events, final, hrun, hanswers, hcache⟩ :=
    @served_as_cachedSnapshot "modbus://10.0.0.9:502" threeRequests
      (by decide +kernel) (by decide +kernel)
  refine ⟨events, final, hrun, ?_, hcache⟩
  have hsome := congrArg (List.map fun used => (used.1, used.2.isSome)) hanswers
  rw [List.map_map] at hsome
  exact hsome.trans (by decide +kernel)

end Smg
end DessMonitor
