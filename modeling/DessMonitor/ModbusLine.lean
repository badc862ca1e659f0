import DessMonitor.ModbusReadRate
import DessMonitor.ModbusRequest

/-!
# The adapter and the inverter

A reading of the registers is three requests over the line, between which the
inverter goes on, setters write and other calls are answered from the cache.
The replies may be lost, cut or changed on the way.  Every snapshot that a
call is answered with nevertheless shows what the inverter held.
-/

namespace DessMonitor
namespace Smg

open LabelledRun ListUpdate
open Modbus (Controller Fault Transport)

/-! ## Requests of a reading -/

/-- The blocks that `read_smg2_snapshot_via` reads, one after the other. -/
def requests : List (ℕ × ℕ) := [(100, 16), (201, 31), (300, 38)]

/-- The request that follows the blocks received so far; `none` is a block
whose reading raised, which ends the reading unless it is the first. -/
def nextRequest : List (Option (List UInt16)) → Option (ℕ × ℕ)
  | [] => some (100, 16)
  | [_] => some (201, 31)
  | [_, some block] =>
      if (readSensors block).isSome then some (300, 38) else none
  | _ => none

/-- The blocks received, as the function they are asked from. -/
def replay (received : List (Option (List UInt16))) : ReadBlock :=
  fun start _ =>
    if start = 100 then received[0]?.join
    else if start = 201 then received[1]?.join
    else received[2]?.join

/-! ## The system -/

/-- `received` are the blocks that each reading has got. -/
structure Plant where
  world : World
  controller : Controller
  received : ℕ → List (Option (List UInt16))

def Plant.initial (uri : String) (controller : Controller) : Plant :=
  ⟨World.initial uri, controller, fun _ => []⟩

/-- Besides the calls, the inverter changes its registers by itself. -/
inductive PlantEvent where
  | adapter (event : Event)
  | drift (holding : ℕ → UInt16)
  | exchange (rid : ℕ) (fault : Fault)
  | finish (rid : ℕ)

/-- The inverter performs a write. -/
def store (controller : Controller) (write : Write) : Controller :=
  { controller with
    holding := Function.update controller.holding write.address
      (UInt16.ofNat (write.value % 0x10000).toNat) }

namespace Plant

def landed (plant : Plant) : Event → Controller
  | .land wid =>
      match plant.world.writes[wid]? with
      | none => plant.controller
      | some write => store plant.controller write
  | _ => plant.controller

def setReceived (plant : Plant) (rid : ℕ)
    (blocks : List (Option (List UInt16))) : Plant :=
  { plant with received := Function.update plant.received rid blocks }

/-- The next block of a reading over the line. -/
def exchange (transport : Transport) (unitId : ℤ) (plant : Plant)
    (rid : ℕ) (fault : Fault) (request : ℕ × ℕ) : Plant :=
  let registers := transport.readBlock (plant.controller.exchange fault)
    unitId request.1 request.2
  let block := registers.map fun values => values.map UInt16.ofNat
  plant.setReceived rid (plant.received rid ++ [block])

def step (transport : Transport) (unitId : ℤ) (plant : Plant) :
    PlantEvent → Option Plant
  | .adapter event =>
      match event with
      | .finishReading _ _ => none
      | event => do
          let world ← plant.world.step event
          some { plant with world := world, controller := plant.landed event }
  | .drift holding =>
      some { plant with controller := { plant.controller with
        holding := holding } }
  | .exchange rid fault => do
      let reading ← plant.world.readings[rid]?
      if reading.finished then none
      else
        let request ← nextRequest (plant.received rid)
        some (plant.exchange transport unitId rid fault request)
  | .finish rid =>
      match nextRequest (plant.received rid) with
      | some _ => none
      | none => do
          let snapshot := readSmg2SnapshotVia (replay (plant.received rid))
          let world ← plant.world.step (.finishReading rid snapshot)
          some { plant with world := world }

/-- The line loses, cuts and refuses replies as it likes, and changes them by
short bursts. -/
def Tame (plant : Plant) : PlantEvent → Prop
  | .exchange rid fault =>
      ∀ request, nextRequest (plant.received rid) = some request →
        fault.Tame (plant.controller.dataReply request.1 request.2)
  | _ => True

/-- The controller before every step, with the number of events that the
adapter had seen. -/
def observe (plant : Plant) (_ : PlantEvent)
    (past : List (ℕ × Controller)) : List (ℕ × Controller) :=
  past ++ [(plant.world.now, plant.controller)]

end Plant

/-! ## Snapshots that are vouched for -/

section Vouched

variable {world after : World} {event : Event}
  {vouched : ℕ → Snapshot → Prop}

/-- Every snapshot in the cache or an answer is vouched for, from when its
reading began. -/
structure World.Vouched (vouched : ℕ → Snapshot → Prop) (world : World) :
    Prop where
  cached : ∀ entry, world.cache.get? world.uri = some entry →
    ∀ snapshot, entry.snapshot = some snapshot →
      vouched world.origin snapshot
  answered : ∀ answer ∈ world.answers,
    ∀ snapshot, answer.snapshot = some snapshot →
      vouched answer.begun snapshot

theorem World.Vouched.mono {weaker : ℕ → Snapshot → Prop}
    (hvouched : world.Vouched vouched)
    (hweaker : ∀ begun snapshot, vouched begun snapshot →
      weaker begun snapshot) : world.Vouched weaker := by
  constructor
  · intro entry hentry snapshot hsnapshot
    exact hweaker _ _ (hvouched.cached entry hentry snapshot hsnapshot)
  · intro answer hmem snapshot hsnapshot
    exact hweaker _ _ (hvouched.answered answer hmem snapshot hsnapshot)

theorem World.Vouched.answer (hanswered : world.Vouched vouched)
    {command : String} {asked begun : ℕ} {given : Option Snapshot}
    (hgiven : ∀ snapshot, given = some snapshot → vouched begun snapshot) :
    (world.answer command asked begun given).tick.Vouched vouched := by
  refine ⟨hanswered.cached, ?_⟩
  intro answer hmem
  rcases List.mem_append.mp hmem with hold | hnew
  · exact hanswered.answered answer hold
  · rw [List.mem_singleton.mp hnew]
    exact hgiven

/-- What a finished reading delivers is to be vouched for; every other event
passes on what there is. -/
theorem World.Vouched.after_step (hvouched : world.Vouched vouched)
    (hstep : world.step event = some after)
    (hfinish : ∀ rid reading snapshot,
      event = .finishReading rid (some snapshot) →
        world.readings[rid]? = some reading →
          vouched reading.begun snapshot) :
    after.Vouched vouched := by
  cases event with
  | getData command time =>
      simp only [World.step] at hstep
      split_ifs at hstep
      cases hstep
      unfold World.getData
      split
      next entry hfresh =>
        have hcached := hvouched.cached entry (get?_of_fresh? hfresh).1
        have hclock : ({ world with clock := time } : World).Vouched
            vouched := ⟨hvouched.cached, hvouched.answered⟩
        exact hclock.answer hcached
      next => exact ⟨hvouched.cached, hvouched.answered⟩
  | finishReading rid snapshot =>
      simp only [World.step, Option.bind_eq_bind,
        Option.bind_eq_some_iff] at hstep
      obtain ⟨reading, hreading, hstep⟩ := hstep
      split_ifs at hstep
      cases hstep
      have hgiven : ∀ given, snapshot = some given →
          vouched reading.begun given := by
        rintro given rfl
        exact hfinish rid reading given rfl hreading
      apply World.Vouched.answer _ hgiven
      refine ⟨?_, hvouched.answered⟩
      intro entry hentry
      have hset : (world.cache.set world.uri ⟨reading.time, snapshot⟩).get?
          world.uri = some entry := hentry
      rw [Dict.get?_set_self] at hset
      cases hset
      exact hgiven
  | cancelReading rid =>
      simp only [World.step, Option.bind_eq_bind,
        Option.bind_eq_some_iff] at hstep
      obtain ⟨reading, -, hstep⟩ := hstep
      split_ifs at hstep
      cases hstep
      exact ⟨hvouched.cached, hvouched.answered⟩
  | set setter =>
      simp only [World.step, Option.bind_eq_bind,
        Option.bind_eq_some_iff] at hstep
      obtain ⟨register, -, hstep⟩ := hstep
      cases hstep
      exact ⟨hvouched.cached, hvouched.answered⟩
  | land wid =>
      simp only [World.step, Option.bind_eq_bind,
        Option.bind_eq_some_iff] at hstep
      obtain ⟨write, -, hstep⟩ := hstep
      split_ifs at hstep
      cases hstep
      exact ⟨hvouched.cached, hvouched.answered⟩
  | returned wid success =>
      simp only [World.step, Option.bind_eq_bind,
        Option.bind_eq_some_iff] at hstep
      obtain ⟨write, -, hstep⟩ := hstep
      split_ifs at hstep
      cases hstep
      exact ⟨hvouched.cached, hvouched.answered⟩

end Vouched

/-! ## What the inverter held -/

section Held

variable {past : List (ℕ × Controller)} {begun : ℕ}

/-- The controller was like this after the adapter had begun a reading. -/
def HeldSince (past : List (ℕ × Controller)) (begun : ℕ)
    (controller : Controller) : Prop :=
  ∃ moment, begun < moment ∧ (moment, controller) ∈ past

/-- Sensors and configuration are each what the inverter held at one moment
since then, and the faults are, or are missing. -/
def Snapshot.Held (past : List (ℕ × Controller)) (begun : ℕ)
    (snapshot : Snapshot) : Prop :=
  (∃ controller, HeldSince past begun controller ∧
      readSensors (controller.block 201 31) = some snapshot.sensors) ∧
    (∃ controller, HeldSince past begun controller ∧
      readConfig (controller.block 300 38) = some snapshot.config) ∧
    (snapshot.faults = .empty ∨
      ∃ controller, HeldSince past begun controller ∧
        snapshot.faults = readFaults (some (controller.block 100 16)))

/-- The blocks that a reading has received. -/
def ReceivedHeld (past : List (ℕ × Controller)) (begun : ℕ)
    (received : List (Option (List UInt16))) : Prop :=
  ∀ (index : ℕ) (request : ℕ × ℕ) block, requests[index]? = some request →
    received[index]? = some (some block) →
      ∃ controller, HeldSince past begun controller ∧
        block = controller.block request.1 request.2

theorem HeldSince.append {controller : Controller}
    (hheld : HeldSince past begun controller)
    (more : List (ℕ × Controller)) :
    HeldSince (past ++ more) begun controller := by
  obtain ⟨moment, hbegun, hmem⟩ := hheld
  exact ⟨moment, hbegun, List.mem_append_left _ hmem⟩

theorem Snapshot.Held.append {snapshot : Snapshot}
    (hheld : snapshot.Held past begun) (more : List (ℕ × Controller)) :
    snapshot.Held (past ++ more) begun := by
  obtain ⟨⟨first, hfirst, hsensors⟩, ⟨second, hsecond, hconfig⟩, hfaults⟩ :=
    hheld
  refine ⟨⟨first, hfirst.append more, hsensors⟩,
    ⟨second, hsecond.append more, hconfig⟩, ?_⟩
  rcases hfaults with hempty | ⟨third, hthird, hfaults⟩
  · exact .inl hempty
  · exact .inr ⟨third, hthird.append more, hfaults⟩

theorem ReceivedHeld.append {received : List (Option (List UInt16))}
    (hheld : ReceivedHeld past begun received)
    (more : List (ℕ × Controller)) :
    ReceivedHeld (past ++ more) begun received := by
  intro index request block hrequest hblock
  obtain ⟨controller, hsince, hvalue⟩ :=
    hheld index request block hrequest hblock
  exact ⟨controller, hsince.append more, hvalue⟩

theorem receivedHeld_nil : ReceivedHeld past begun [] := by
  intro index request block _ hblock
  simp at hblock

/-- One more block, if it came at all. -/
theorem ReceivedHeld.concat {received : List (Option (List UInt16))}
    (hheld : ReceivedHeld past begun received) {request : ℕ × ℕ}
    {block : Option (List UInt16)}
    (hrequest : requests[received.length]? = some request)
    (hblock : ∀ values, block = some values →
      ∃ controller, HeldSince past begun controller ∧
        values = controller.block request.1 request.2) :
    ReceivedHeld past begun (received ++ [block]) := by
  intro index other values hother hvalues
  rcases getElem?_append_singleton_cases hvalues with hold | ⟨rfl, hnew⟩
  · exact hheld index other values hother hold
  · rw [hrequest] at hother
    cases hother
    exact hblock values hnew.symm

/-- A reading of blocks that were held gives a snapshot that was. -/
theorem held_of_received {received : List (Option (List UInt16))}
    {snapshot : Snapshot} (hheld : ReceivedHeld past begun received)
    (hsnapshot : readSmg2SnapshotVia (replay received) = some snapshot) :
    snapshot.Held past begun := by
  simp only [readSmg2SnapshotVia, Option.bind_eq_bind,
    Option.bind_eq_some_iff, replay] at hsnapshot
  obtain ⟨sensorBlock, hsensorBlock, sensors, hsensors, configBlock,
    hconfigBlock, config, hconfig, hresult⟩ := hsnapshot
  obtain rfl := Option.some.inj hresult
  simp only [Nat.reduceEqDiff, if_false, if_true, Option.join_eq_some_iff]
    at hsensorBlock hconfigBlock
  refine ⟨?_, ?_, ?_⟩
  · obtain ⟨controller, hsince, rfl⟩ :=
      hheld 1 (201, 31) sensorBlock rfl hsensorBlock
    exact ⟨controller, hsince, hsensors⟩
  · obtain ⟨controller, hsince, rfl⟩ :=
      hheld 2 (300, 38) configBlock rfl hconfigBlock
    exact ⟨controller, hsince, hconfig⟩
  · dsimp only
    rw [if_true]
    cases hfirst : received[0]?.join with
    | none => exact .inl rfl
    | some faultBlock =>
        obtain ⟨controller, hsince, rfl⟩ :=
          hheld 0 (100, 16) faultBlock rfl
            (Option.join_eq_some_iff.mp hfirst)
        exact .inr ⟨controller, hsince, rfl⟩

end Held

/-! ## Runs -/

section Runs

variable {world afterWorld : World} {event : Event}

def World.begins (world : World) : List ℕ :=
  world.readings.map Reading.begun

/-- A call may begin a reading; no event changes when the others began. -/
theorem World.begins_of_step (hstep : world.step event = some afterWorld) :
    afterWorld.now = world.now + 1 ∧
      (afterWorld.begins = world.begins ∨
        afterWorld.begins = world.begins ++ [world.now]) := by
  cases event with
  | getData command time =>
      simp only [World.step] at hstep
      split_ifs at hstep
      cases hstep
      unfold World.getData
      split
      next => exact ⟨rfl, .inl rfl⟩
      next => exact ⟨rfl, .inr (by simp [World.begins, World.tick])⟩
  | finishReading rid snapshot =>
      simp only [World.step, Option.bind_eq_bind,
        Option.bind_eq_some_iff] at hstep
      obtain ⟨reading, hreading, hstep⟩ := hstep
      split_ifs at hstep
      cases hstep
      exact ⟨rfl, .inl (map_set_of_eq hreading rfl)⟩
  | cancelReading rid =>
      simp only [World.step, Option.bind_eq_bind,
        Option.bind_eq_some_iff] at hstep
      obtain ⟨reading, hreading, hstep⟩ := hstep
      split_ifs at hstep
      cases hstep
      exact ⟨rfl, .inl (map_set_of_eq hreading rfl)⟩
  | set setter =>
      simp only [World.step, Option.bind_eq_bind,
        Option.bind_eq_some_iff] at hstep
      obtain ⟨register, -, hstep⟩ := hstep
      cases hstep
      exact ⟨rfl, .inl rfl⟩
  | land wid =>
      simp only [World.step, Option.bind_eq_bind,
        Option.bind_eq_some_iff] at hstep
      obtain ⟨write, -, hstep⟩ := hstep
      split_ifs at hstep
      cases hstep
      exact ⟨rfl, .inl rfl⟩
  | returned wid success =>
      simp only [World.step, Option.bind_eq_bind,
        Option.bind_eq_some_iff] at hstep
      obtain ⟨write, -, hstep⟩ := hstep
      split_ifs at hstep
      cases hstep
      exact ⟨rfl, .inl rfl⟩

/-- Readings received what the inverter held since they began, and so did
whoever was answered. -/
structure Plant.Truthful (plant : Plant) (past : List (ℕ × Controller)) :
    Prop where
  begun : ∀ begun ∈ plant.world.begins, begun < plant.world.now
  fresh : ∀ rid, plant.world.begins.length ≤ rid → plant.received rid = []
  received : ∀ rid begun, plant.world.begins[rid]? = some begun →
    ReceivedHeld past begun (plant.received rid)
  vouched : plant.world.Vouched (Snapshot.Held past)

theorem Plant.initial_truthful (uri : String) (controller : Controller) :
    (Plant.initial uri controller).Truthful [] := by
  constructor
  · simp [Plant.initial, World.initial, World.begins]
  · intro rid _
    rfl
  · simp [Plant.initial, World.initial, World.begins]
  · constructor <;> simp [Plant.initial, World.initial]

variable {plant after : Plant} {past : List (ℕ × Controller)}
  {transport : Transport} {unitId : ℤ}

theorem Plant.Truthful.append (htruthful : plant.Truthful past)
    (more : List (ℕ × Controller)) : plant.Truthful (past ++ more) := by
  refine ⟨htruthful.begun, htruthful.fresh, ?_, ?_⟩
  · intro rid begun hbegun
    exact (htruthful.received rid begun hbegun).append more
  · apply htruthful.vouched.mono
    intro begun snapshot hheld
    exact hheld.append more

theorem Plant.Truthful.world_step (htruthful : plant.Truthful past)
    (hstep : plant.world.step event = some afterWorld)
    (hfinish : ∀ rid reading snapshot,
      event = .finishReading rid (some snapshot) →
        plant.world.readings[rid]? = some reading →
          snapshot.Held past reading.begun) (controller : Controller) :
    (Plant.mk afterWorld controller plant.received).Truthful past := by
  obtain ⟨hnow, hbegins⟩ := World.begins_of_step hstep
  have hvouched := htruthful.vouched.after_step hstep hfinish
  rcases hbegins with hsame | hmore
  · refine ⟨?_, ?_, ?_, hvouched⟩
    · intro begun hmem
      simp only [hsame, hnow] at hmem ⊢
      exact (htruthful.begun begun hmem).trans (Nat.lt_succ_self _)
    · simpa only [hsame] using htruthful.fresh
    · simpa only [hsame] using htruthful.received
  · refine ⟨?_, ?_, ?_, hvouched⟩
    · intro begun hmem
      simp only [hmore, hnow] at hmem ⊢
      rcases List.mem_append.mp hmem with hold | hnew
      · exact (htruthful.begun begun hold).trans (Nat.lt_succ_self _)
      · rw [List.mem_singleton.mp hnew]
        exact Nat.lt_succ_self _
    · intro rid hrid
      simp only [hmore, List.length_append] at hrid
      exact htruthful.fresh rid (by omega)
    · intro rid begun hbegun
      simp only [hmore] at hbegun
      rcases getElem?_append_singleton_cases hbegun with hold | ⟨rfl, -⟩
      · exact htruthful.received rid begun hold
      · -- a reading that begins now has received nothing yet
        simp only [htruthful.fresh _ le_rfl]
        exact receivedHeld_nil

theorem requests_of_nextRequest {received : List (Option (List UInt16))}
    {request : ℕ × ℕ} (hnext : nextRequest received = some request) :
    requests[received.length]? = some request := by
  match received, hnext with
  | [], hnext => exact hnext
  | [_], hnext => exact hnext
  | [_, some block], hnext =>
      simp only [nextRequest, Option.ite_none_right_eq_some] at hnext
      exact hnext.2

theorem requests_in_range {request : ℕ × ℕ} (hmem : request ∈ requests) :
    (0 < request.2 ∧ request.2 ≤ 125) ∧
      request.1 + request.2 ≤ 0x10000 := by
  revert request
  decide

/-- A block that arrives is the one that the controller holds. -/
theorem Plant.Truthful.exchange (htruthful : plant.Truthful past)
    {rid : ℕ} {fault : Fault} {request : ℕ × ℕ}
    (hrid : rid < plant.world.begins.length)
    (hnext : nextRequest (plant.received rid) = some request)
    (htame : fault.Tame
      (plant.controller.dataReply request.1 request.2)) :
    (plant.exchange transport unitId rid fault request).Truthful
      (past ++ [(plant.world.now, plant.controller)]) := by
  have hlater := htruthful.append [(plant.world.now, plant.controller)]
  have hrequest := requests_of_nextRequest hnext
  obtain ⟨hcount, hlast⟩ :=
    requests_in_range (List.mem_of_getElem? hrequest)
  refine ⟨hlater.begun, ?_, ?_, hlater.vouched⟩
  · intro other hother
    have hne : other ≠ rid := (hrid.trans_le hother).ne'
    simp only [Plant.exchange, Plant.setReceived, Function.update_of_ne hne]
    exact htruthful.fresh other hother
  · intro other begun hbegun
    by_cases hsame : other = rid
    · subst hsame
      have hheld := hlater.received other begun hbegun
      simp only [Plant.exchange, Plant.setReceived, Function.update_self]
      apply hheld.concat hrequest
      intro values hvalues
      have hmoment := htruthful.begun begun (List.mem_of_getElem? hbegun)
      refine ⟨plant.controller, ⟨plant.world.now, hmoment, by simp⟩, ?_⟩
      have hread : transport.readBlock (plant.controller.exchange fault)
            unitId request.1 request.2 = none ∨
          transport.readBlock (plant.controller.exchange fault) unitId
            request.1 request.2 =
              some ((plant.controller.block request.1 request.2).map
                UInt16.toNat) :=
        Modbus.readBlock_faulty hcount hlast htame
      rcases hread with hnone | hsome
      · rw [hnone] at hvalues
        cases hvalues
      · have hround : UInt16.ofNat ∘ UInt16.toNat = id :=
          funext fun value => UInt16.ofNat_toNat
        rw [hsome, Option.map_some, List.map_map, hround, List.map_id]
          at hvalues
        exact (Option.some.inj hvalues).symm
    · simp only [Plant.exchange, Plant.setReceived, Function.update_of_ne hsame]
      exact hlater.received other begun hbegun

theorem Plant.Truthful.after_step (htruthful : plant.Truthful past)
    {event : PlantEvent}
    (hstep : plant.step transport unitId event = some after)
    (htame : plant.Tame event) :
    after.Truthful (plant.observe event past) := by
  cases event with
  | adapter event =>
      simp only [Plant.step] at hstep
      split at hstep
      · cases hstep
      next hother =>
        simp only [Option.bind_eq_bind, Option.bind_eq_some_iff] at hstep
        obtain ⟨world, hworld, hstep⟩ := hstep
        cases hstep
        apply (htruthful.world_step hworld _ _).append
        rintro rid reading snapshot rfl
        exact absurd rfl (hother rid (some snapshot))
  | drift holding =>
      cases hstep
      have hlater :=
        htruthful.append [(plant.world.now, plant.controller)]
      exact ⟨hlater.begun, hlater.fresh, hlater.received, hlater.vouched⟩
  | exchange rid fault =>
      simp only [Plant.step, Option.bind_eq_bind,
        Option.bind_eq_some_iff] at hstep
      obtain ⟨reading, hreading, hstep⟩ := hstep
      split_ifs at hstep
      simp only [Option.bind_eq_some_iff] at hstep
      obtain ⟨request, hnext, hstep⟩ := hstep
      cases hstep
      apply htruthful.exchange _ hnext (htame request hnext)
      simpa [World.begins] using (List.getElem?_eq_some_iff.mp hreading).1
  | finish rid =>
      simp only [Plant.step] at hstep
      split at hstep
      · cases hstep
      · simp only [Option.bind_eq_bind, Option.bind_eq_some_iff] at hstep
        obtain ⟨world, hworld, hstep⟩ := hstep
        cases hstep
        apply (htruthful.world_step hworld _ _).append
        intro other reading snapshot hevent hreading
        obtain ⟨rfl, hsnapshot⟩ : rid = other ∧
            readSmg2SnapshotVia (replay (plant.received rid)) =
              some snapshot := by
          simpa using hevent
        refine held_of_received (htruthful.received rid reading.begun ?_)
          hsnapshot
        simp [World.begins, hreading]

/-- Whatever the line does to the replies, however the calls overlap and the
registers change: the sensors, the configuration and the faults that a call
is answered with are each what the inverter held at one moment after the
reading began, or there are no faults. -/
theorem answers_held_of_run {uri : String} {controller : Controller}
    {events : List PlantEvent}
    (hrun : Run (guarded (tracked (graph (Plant.step transport unitId))
        Plant.observe) fun before event => before.1.Tame event)
      (Plant.initial uri controller, []) events (plant, past)) :
    ∀ answer ∈ plant.world.answers, ∀ snapshot,
      answer.snapshot = some snapshot → snapshot.Held past answer.begun := by
  have htruthful : plant.Truthful past := by
    apply hrun.invariant fun state => state.1.Truthful state.2
    · exact Plant.initial_truthful uri controller
    · rintro before event ⟨after, later⟩ hbefore ⟨⟨hstep, hlater⟩, htame⟩
      dsimp only at hlater ⊢
      rw [hlater]
      exact hbefore.after_step hstep htame
  exact htruthful.vouched.answered

/-! ## Readings that succeed -/

theorem readSensors_isSome {block : List UInt16} (hlength : 26 < block.length) :
    (readSensors block).isSome = true := by
  simp [readSensors, hlength]

theorem readConfig_isSome {block : List UInt16} (hlength : 37 < block.length) :
    (readConfig block).isSome = true := by
  simp [readConfig, hlength]

section SetReceived

variable {rid : ℕ} {blocks more : List (Option (List UInt16))}

@[simp] theorem Plant.setReceived_controller :
    (plant.setReceived rid blocks).controller = plant.controller := rfl

@[simp] theorem Plant.setReceived_received :
    (plant.setReceived rid blocks).received rid = blocks := by
  simp [Plant.setReceived]

@[simp] theorem Plant.setReceived_setReceived :
    (plant.setReceived rid blocks).setReceived rid more =
      plant.setReceived rid more := by
  simp [Plant.setReceived]

end SetReceived

section Intact

variable {rid : ℕ} {reading : Reading} {fault : Fault} {request : ℕ × ℕ}

theorem Plant.exchange_intact
    (hunit : (plant.controller.unit.toNat : ℤ) = unitId)
    (hmem : request ∈ requests) :
    plant.exchange transport unitId rid .intact request =
      plant.setReceived rid (plant.received rid ++
        [some (plant.controller.block request.1 request.2)]) := by
  obtain ⟨hcount, hlast⟩ := requests_in_range hmem
  have hround : UInt16.ofNat ∘ UInt16.toNat = id :=
    funext fun value => UInt16.ofNat_toNat
  simp [Plant.exchange, Modbus.readBlock_intact hcount hlast hunit, hround]

theorem Plant.step_exchange (plant : Plant)
    (hreading : plant.world.readings[rid]? = some reading)
    (hopen : reading.finished = false)
    (hnext : nextRequest (plant.received rid) = some request) :
    plant.step transport unitId (.exchange rid fault) =
      some (plant.exchange transport unitId rid fault request) := by
  simp [Plant.step, hreading, hopen, hnext]

theorem Plant.step_finish (plant : Plant)
    (hreading : plant.world.readings[rid]? = some reading)
    (hopen : reading.finished = false)
    (hnext : nextRequest (plant.received rid) = none) :
    plant.step transport unitId (.finish rid) =
      some { plant with world := (plant.world.finishReading rid reading
        (readSmg2SnapshotVia (replay (plant.received rid)))).tick } := by
  simp [Plant.step, World.step, hreading, hopen, hnext]

theorem Plant.step_intact (plant : Plant)
    (hunit : (plant.controller.unit.toNat : ℤ) = unitId)
    (hreading : plant.world.readings[rid]? = some reading)
    (hopen : reading.finished = false)
    (hnext : nextRequest (plant.received rid) = some request)
    (hmem : request ∈ requests) :
    plant.step transport unitId (.exchange rid .intact) =
      some (plant.setReceived rid (plant.received rid ++
        [some (plant.controller.block request.1 request.2)])) := by
  rw [plant.step_exchange hreading hopen hnext,
    Plant.exchange_intact hunit hmem]

/-- A reading whose last two replies arrive is answered with what the
inverter holds, whatever happened to the reply about the faults. -/
theorem reading_succeeds (fault : Fault)
    (hunit : (plant.controller.unit.toNat : ℤ) = unitId)
    (hreading : plant.world.readings[rid]? = some reading)
    (hopen : reading.finished = false) (hfresh : plant.received rid = []) :
    ∃ after snapshot,
      execute (Plant.step transport unitId) plant
          [.exchange rid fault, .exchange rid .intact, .exchange rid .intact,
            .finish rid] = some after ∧
        after.world.answers = plant.world.answers ++
          [⟨reading.command, reading.begun, reading.begun, some snapshot⟩] ∧
        readSensors (plant.controller.block 201 31) =
          some snapshot.sensors ∧
        readConfig (plant.controller.block 300 38) =
          some snapshot.config := by
  have hsensing : 26 < (plant.controller.block 201 31).length := by
    simp [Controller.block]
  have hconfiguring : 37 < (plant.controller.block 300 38).length := by
    simp [Controller.block]
  obtain ⟨sensors, hsensors⟩ :=
    Option.isSome_iff_exists.mp (readSensors_isSome hsensing)
  obtain ⟨config, hconfig⟩ :=
    Option.isSome_iff_exists.mp (readConfig_isSome hconfiguring)
  let faults := (transport.readBlock (plant.controller.exchange fault)
    unitId 100 16).map fun values => values.map UInt16.ofNat
  let received := [faults, some (plant.controller.block 201 31),
    some (plant.controller.block 300 38)]
  have hfirst : plant.step transport unitId (.exchange rid fault) =
      some (plant.setReceived rid [faults]) := by
    have hnext : nextRequest (plant.received rid) = some (100, 16) := by
      rw [hfresh, nextRequest]
    rw [plant.step_exchange hreading hopen hnext]
    simp [Plant.exchange, hfresh, faults]
  have hsecond : (plant.setReceived rid [faults]).step transport unitId
      (.exchange rid .intact) =
        some (plant.setReceived rid
          [faults, some (plant.controller.block 201 31)]) := by
    have hnext : nextRequest ((plant.setReceived rid [faults]).received rid) =
        some (201, 31) := by
      simp [nextRequest]
    rw [Plant.step_intact (plant.setReceived rid _) hunit hreading hopen hnext (by simp [requests])]
    simp
  have hthird : (plant.setReceived rid
      [faults, some (plant.controller.block 201 31)]).step transport unitId
        (.exchange rid .intact) = some (plant.setReceived rid received) := by
    have hnext : nextRequest ((plant.setReceived rid
        [faults, some (plant.controller.block 201 31)]).received rid) =
          some (300, 38) := by
      simp [nextRequest, hsensors]
    rw [Plant.step_intact (plant.setReceived rid _) hunit hreading hopen hnext (by simp [requests])]
    simp [received]
  have hsnapshot : readSmg2SnapshotVia (replay received) =
      some ⟨sensors, config, readFaults faults⟩ := by
    simp [readSmg2SnapshotVia, replay, received, hsensors, hconfig]
  have hfinish : (plant.setReceived rid received).step transport unitId
      (.finish rid) =
        some { plant.setReceived rid received with
          world := (plant.world.finishReading rid reading
            (some ⟨sensors, config, readFaults faults⟩)).tick } := by
    have hnext : nextRequest ((plant.setReceived rid received).received rid) =
        none := by
      simp [nextRequest, received]
    rw [Plant.step_finish (plant.setReceived rid received) hreading hopen hnext, Plant.setReceived_received,
      hsnapshot]
    rfl
  refine ⟨{ plant.setReceived rid received with
      world := (plant.world.finishReading rid reading
        (some ⟨sensors, config, readFaults faults⟩)).tick },
    ⟨sensors, config, readFaults faults⟩, ?_, ?_, hsensors, hconfig⟩
  · simp only [execute, hfirst, hsecond, hthird, hfinish, Option.bind_some]
  · simp [World.finishReading, World.answer, World.setReading, World.tick]

end Intact

/-- A poll whose reply about the faults is lost. -/
theorem answers_held_of_run_lost_reply :
    ∃ (plant : Plant) (past : List (ℕ × Controller)) (snapshot : Snapshot),
      plant.world.answers = [⟨"QPIGS", 0, 0, some snapshot⟩] ∧
        snapshot.Held past 0 := by
  let start := Plant.initial "modbus://10.0.0.9:502" ⟨1, UInt16.ofNat⟩
  let started : Plant :=
    { start with world := (start.world.getData "QPIGS" 0).tick }
  have hbegin : Run (graph (Plant.step .tcp 1)) start
      ([] ++ [.adapter (.getData "QPIGS" 0)]) started :=
    .extend .start rfl
  have hunit : (started.controller.unit.toNat : ℤ) = 1 := rfl
  have hreading : started.world.readings[0]? =
      some ⟨"QPIGS", 0, 0, false⟩ := rfl
  obtain ⟨plant, snapshot, hexecute, hanswers, -⟩ :=
    reading_succeeds .lost hunit hreading rfl rfl
  have hrun := hbegin.append (run_of_execute hexecute)
  obtain ⟨past, htracked⟩ := hrun.track Plant.observe []
  let events : List PlantEvent :=
    [.adapter (.getData "QPIGS" 0), .exchange 0 .lost, .exchange 0 .intact,
      .exchange 0 .intact, .finish 0]
  have htame : ∀ event ∈ events, ∀ plant : Plant, plant.Tame event := by
    simp [events, Plant.Tame, Fault.Tame]
  have hheld := answers_held_of_run ((htracked.guard htame).mono (by
    rintro before event after ⟨hstep, htame⟩
    exact ⟨hstep, htame before.1⟩))
  have hall : plant.world.answers = [⟨"QPIGS", 0, 0, some snapshot⟩] :=
    hanswers
  refine ⟨plant, past, snapshot, hall, ?_⟩
  exact hheld ⟨"QPIGS", 0, 0, some snapshot⟩ (by simp [hall]) snapshot rfl

end Runs

end Smg
end DessMonitor
