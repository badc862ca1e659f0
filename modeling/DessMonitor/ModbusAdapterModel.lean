import DessMonitor.Foundation.LabelledRun
import DessMonitor.SmgSnapshot

/-!
# The Modbus adapter in time

Every `get_data` call for one device goes through one cached snapshot.  A call
that finds a fresh entry is answered at once; any other call begins a reading
of the registers, waits for it, and stores it under the time at which it
began.  Setters write a register directly.  Tasks switch only where the source
awaits, so every event below is the code between two awaits.
-/

namespace DessMonitor
namespace Smg

open DecimalRounding

/-! ## Setters -/

inductive OutputSourcePrioritySetting where
  | utilityFirst
  | solarFirst
  | sbuPriority
  deriving DecidableEq

inductive ChargeSourcePrioritySetting where
  | utilityFirst
  | solarFirst
  | solarAndUtility
  deriving DecidableEq

/-- A number is the rational that it denotes as a `float`. -/
inductive Setter where
  | outputSourcePriority (mode : OutputSourcePrioritySetting)
  | chargeSourcePriority (mode : ChargeSourcePrioritySetting)
  | batteryBulkVoltage (voltage : ℚ)
  | batteryFloatVoltage (voltage : ℚ)
  | maxCombinedChargeCurrent (amps : ℚ)
  | batteryChargeCurrent (amps : ℚ)
  | maxUtilityChargeCurrent (amps : ℤ)
  deriving DecidableEq

/-- `max(0, min(0xFFFF, int(round(value * 10.0))))`; `none` is the error on an
infinity. -/
def tenthsRegister (value : ℚ) : Option ℤ :=
  match PyFloat.ofRat (value * 10) with
  | .finite product => some (max 0 (min 0xFFFF (roundHalfEven product)))
  | _ => none

/-- The address and the value that a setter writes. -/
def Setter.register : Setter → Option (ℕ × ℤ)
  | .outputSourcePriority .utilityFirst => some (301, 0)
  | .outputSourcePriority .solarFirst => some (301, 1)
  | .outputSourcePriority .sbuPriority => some (301, 2)
  | .chargeSourcePriority .utilityFirst => some (331, 0)
  | .chargeSourcePriority .solarFirst => some (331, 1)
  | .chargeSourcePriority .solarAndUtility => some (331, 2)
  | .batteryBulkVoltage voltage =>
      (tenthsRegister voltage).map fun value => (324, value)
  | .batteryFloatVoltage voltage =>
      (tenthsRegister voltage).map fun value => (325, value)
  | .maxCombinedChargeCurrent amps =>
      (tenthsRegister amps).map fun value => (332, value)
  | .batteryChargeCurrent amps =>
      (tenthsRegister amps).map fun value => (332, value)
  | .maxUtilityChargeCurrent amps => some (333, amps * 10)

/-! ## The system -/

/-- A `get_data` call that reads the registers. -/
structure Reading where
  command : String
  begun : ℕ
  time : ℚ
  finished : Bool

/-- A register write: when the inverter performed it, and when the setter
returned with which success. -/
structure Write where
  address : ℕ
  value : ℤ
  landed : Option ℕ
  returned : Option (ℕ × Bool)
  deriving DecidableEq

/-- What a `get_data` call was answered with: when it was called, and when the
reading of its snapshot had begun. -/
structure Answer where
  command : String
  asked : ℕ
  begun : ℕ
  snapshot : Option Snapshot

/-- `origin` is when the reading of the cached snapshot had begun.  Moments
are numbers of events, which only the history looks at. -/
structure World where
  uri : String
  cache : SnapshotCache
  origin : ℕ
  readings : List Reading
  writes : List Write
  answers : List Answer
  clock : ℚ
  now : ℕ

def World.initial (uri : String) : World :=
  ⟨uri, .empty, 0, [], [], [], 0, 0⟩

/-- A write may be performed more than once, since a setter whose first
request was not answered tries another function code. -/
inductive Event where
  | getData (command : String) (time : ℚ)
  | finishReading (rid : ℕ) (snapshot : Option Snapshot)
  | cancelReading (rid : ℕ)
  | set (setter : Setter)
  | land (wid : ℕ)
  | returned (wid : ℕ) (success : Bool)

namespace World

def tick (world : World) : World := { world with now := world.now + 1 }

def answer (world : World) (command : String) (asked begun : ℕ)
    (snapshot : Option Snapshot) : World :=
  { world with
    answers := world.answers ++ [⟨command, asked, begun, snapshot⟩] }

def setReading (world : World) (rid : ℕ) (reading : Reading) : World :=
  { world with readings := world.readings.set rid reading }

def setWrite (world : World) (wid : ℕ) (write : Write) : World :=
  { world with writes := world.writes.set wid write }

/-- `get_data` up to its await, or to its end. -/
def getData (world : World) (command : String) (time : ℚ) : World :=
  match world.cache.fresh? world.uri time with
  | some entry =>
      ({ world with clock := time }).answer command world.now world.origin
        entry.snapshot
  | none =>
      { world with
        clock := time
        readings := world.readings ++ [⟨command, world.now, time, false⟩] }

/-- The rest of `get_data`, after the registers were read. -/
def finishReading (world : World) (rid : ℕ) (reading : Reading)
    (snapshot : Option Snapshot) : World :=
  (({ world with
    cache := world.cache.set world.uri ⟨reading.time, snapshot⟩
    origin := reading.begun }).setReading rid
      { reading with finished := true }).answer reading.command reading.begun
        reading.begun snapshot

def step (world : World) : Event → Option World
  | .getData command time =>
      if world.clock ≤ time then some (world.getData command time).tick
      else none
  | .finishReading rid snapshot => do
      let reading ← world.readings[rid]?
      if reading.finished then none
      else some (world.finishReading rid reading snapshot).tick
  | .cancelReading rid => do
      let reading ← world.readings[rid]?
      if reading.finished then none
      else
        some (world.setReading rid { reading with finished := true }).tick
  | .set setter => do
      let (address, value) ← setter.register
      some (World.tick { world with
        writes := world.writes ++ [⟨address, value, none, none⟩] })
  | .land wid => do
      let write ← world.writes[wid]?
      if write.returned.isSome then none
      else some (world.setWrite wid { write with landed := world.now }).tick
  | .returned wid success => do
      let write ← world.writes[wid]?
      if write.returned.isSome || (success && write.landed.isNone) then none
      else
        some (world.setWrite wid
          { write with returned := (world.now, success) }).tick

end World

end Smg
end DessMonitor
