import DessMonitor.SmgSnapshot
import DessMonitor.WarningSensors

/-!
# What the alarms see of an SMG-II

The adapter answers QPIWS and QFWS with the three parts of the snapshot under
their names.  The codes are in there, one level below the keys that the
entities look up, so both entities are silent whatever the registers say.
-/

namespace DessMonitor
namespace Smg

open Direct (Section)
open Warnings

/-! ## Register blocks -/

/-- The three blocks, of the lengths that are asked for. -/
structure RegisterBlocks where
  block100 : List UInt16
  block201 : List UInt16
  block300 : List UInt16
  length_block100 : block100.length = 16
  length_block201 : block201.length = 31
  length_block300 : block300.length = 38

namespace RegisterBlocks

def read (blocks : RegisterBlocks) : ReadBlock := fun start count =>
  if start = 100 ∧ count = 16 then some blocks.block100
  else if start = 201 ∧ count = 31 then some blocks.block201
  else if start = 300 ∧ count = 38 then some blocks.block300
  else none

def faultCode (blocks : RegisterBlocks) : ℕ := dword blocks.block100 100 100
def warningCode (blocks : RegisterBlocks) : ℕ := dword blocks.block100 100 108

end RegisterBlocks

section Snapshot

variable {block : List UInt16}

theorem exists_readSensors (hlength : block.length = 31) :
    ∃ sensors, readSensors block = some sensors := by
  unfold readSensors
  rw [if_pos (by rw [hlength]; decide)]
  exact ⟨_, rfl⟩

theorem exists_readConfig (hlength : block.length = 38) :
    ∃ config, readConfig block = some config := by
  unfold readConfig
  rw [if_pos (by rw [hlength]; decide)]
  exact ⟨_, rfl⟩

theorem readFaults_codes (hlength : 10 ≤ block.length) :
    (readFaults (some block)).get? "fault_code" =
        some (.int (dword block 100 100)) ∧
      (readFaults (some block)).get? "warning_code" =
        some (.int (dword block 100 108)) := by
  unfold readFaults
  dsimp only
  rw [if_pos hlength]
  exact ⟨rfl, rfl⟩

/-- The snapshot of any registers has their codes in its faults. -/
theorem readSmg2SnapshotVia_read (blocks : RegisterBlocks) :
    ∃ snapshot, readSmg2SnapshotVia blocks.read = some snapshot ∧
      snapshot.faults.get? "fault_code" = some (.int blocks.faultCode) ∧
      snapshot.faults.get? "warning_code" =
        some (.int blocks.warningCode) := by
  obtain ⟨sensors, hsensors⟩ := exists_readSensors blocks.length_block201
  obtain ⟨config, hconfig⟩ := exists_readConfig blocks.length_block300
  have hread100 : blocks.read 100 16 = some blocks.block100 := rfl
  have hread201 : blocks.read 201 31 = some blocks.block201 := rfl
  have hread300 : blocks.read 300 38 = some blocks.block300 := rfl
  have hcodes : 10 ≤ blocks.block100.length := by
    rw [blocks.length_block100]
    decide
  refine ⟨⟨sensors, config, readFaults (some blocks.block100)⟩, ?_,
    readFaults_codes hcodes⟩
  unfold readSmg2SnapshotVia
  rw [hread100, hread201, hread300]
  simp [hsensors, hconfig]

end Snapshot

/-! ## The two sections -/

theorem sections_entries (snapshot : Snapshot) :
    snapshot.sections.entries =
      [("sensors", .dict snapshot.sensors.toDict.entries),
        ("config", .dict snapshot.config.toDict.entries),
        ("faults", .dict snapshot.faults.entries)] := rfl

/-- Nothing in the section of a snapshot is what an alarm looks up. -/
theorem sections_silent (snapshot : Snapshot) :
    Silent snapshot.sections := by
  have hkeys : snapshot.sections.keys = ["sensors", "config", "faults"] := by
    unfold Dict.keys
    rw [sections_entries]
    rfl
  constructor
  · rw [hkeys]
    decide
  · rw [hkeys]
    decide
  · rw [sections_entries]
    simp [isBool]

section Adapter

variable {cache : SnapshotCache} {uri : String} {now later : ℚ}
  {readBlock : ReadBlock} {snapshot : Snapshot}

/-- A stale cache is filled by one read. -/
theorem cachedSnapshot_of_stale (hstale : cache.fresh? uri now = none)
    (hread : readSmg2SnapshotVia readBlock = some snapshot) :
    cachedSnapshot cache uri now readBlock =
      (some snapshot, cache.set uri ⟨now, some snapshot⟩) := by
  unfold cachedSnapshot
  rw [hstale, hread]

/-- A later read of the same registers gives the same snapshot, cached or
not. -/
theorem cachedSnapshot_again
    (hread : readSmg2SnapshotVia readBlock = some snapshot) :
    (cachedSnapshot (cache.set uri ⟨now, some snapshot⟩) uri later
      readBlock).1 = some snapshot := by
  unfold cachedSnapshot
  cases hfresh : SnapshotCache.fresh?
      (cache.set uri ⟨now, some snapshot⟩) uri later with
  | none => exact hread
  | some entry =>
      unfold SnapshotCache.fresh? at hfresh
      rw [Dict.get?_set_self, Option.filter_some] at hfresh
      split at hfresh
      · obtain rfl := Option.some.inj hfresh
        rfl
      · cases hfresh

theorem getData_of_snapshot (command : String)
    (hqpigs : command ≠ "QPIGS") (hqpiri : command ≠ "QPIRI")
    (hcached : (cachedSnapshot cache uri now readBlock).1 = some snapshot) :
    getData cache uri now readBlock command =
      (some snapshot.sections,
        (cachedSnapshot cache uri now readBlock).2) := by
  unfold getData
  generalize cachedSnapshot cache uri now readBlock = found at hcached ⊢
  obtain ⟨read, after⟩ := found
  dsimp only at hcached ⊢
  rw [hcached]
  dsimp only
  rw [if_neg hqpigs, if_neg hqpiri]

/-- Both commands get the section of the snapshot. -/
theorem getData_alarms (later : ℚ) (hstale : cache.fresh? uri now = none)
    (hread : readSmg2SnapshotVia readBlock = some snapshot) :
    (getData cache uri now readBlock "QPIWS").1 = some snapshot.sections ∧
      (getData (getData cache uri now readBlock "QPIWS").2 uri later
        readBlock "QFWS").1 = some snapshot.sections := by
  have hcached := cachedSnapshot_of_stale hstale hread
  have hqpiws := getData_of_snapshot "QPIWS" (by decide) (by decide)
    (congrArg Prod.fst hcached)
  have hagain : (cachedSnapshot (getData cache uri now readBlock "QPIWS").2
      uri later readBlock).1 = some snapshot := by
    rw [hqpiws, hcached]
    exact cachedSnapshot_again hread
  have hqfws := getData_of_snapshot "QFWS" (by decide) (by decide) hagain
  exact ⟨congrArg Prod.fst hqpiws, congrArg Prod.fst hqfws⟩

end Adapter

/-! ## The alarms -/

/-- A code that is not zero raises both alarms, and only such a code does. -/
structure FaultsReported (str : PyValue → String) (qpiws qfws : Section)
    (faultCode warningCode : ℕ) : Prop where
  raised : faultCode ≠ 0 ∨ warningCode ≠ 0 →
    anyWarning qpiws qfws = true ∧ faultSummary str qpiws qfws ≠ some "OK"
  clear : faultCode = 0 ∧ warningCode = 0 →
    anyWarning qpiws qfws = false ∧ faultSummary str qpiws qfws = some "OK"

/-- Silent sections report exactly the absence of both codes. -/
theorem faultsReported_iff_of_silent {qpiws qfws : Section}
    (hqpiws : Silent qpiws) (hqfws : Silent qfws) (str : PyValue → String)
    (faultCode warningCode : ℕ) :
    FaultsReported str qpiws qfws faultCode warningCode ↔
      faultCode = 0 ∧ warningCode = 0 := by
  have hoff := anyWarning_of_silent hqpiws hqfws
  have hok : faultSummary str qpiws qfws = some "OK" := by
    unfold faultSummary
    rw [summarize_of_silent (hqpiws.merged hqfws)]
    rfl
  constructor
  · intro hreported
    by_contra hcode
    have hgiven : faultCode ≠ 0 ∨ warningCode ≠ 0 := by omega
    have hon := (hreported.raised hgiven).1
    rw [hoff] at hon
    cases hon
  · rintro ⟨hfault, hwarning⟩
    constructor
    · intro hgiven
      omega
    · intro _
      exact ⟨hoff, hok⟩

/-- Once the adapter reads the registers, the alarms are right about them
exactly when neither code is set. -/
theorem smg_alarms_iff (str : PyValue → String) (blocks : RegisterBlocks)
    (cache : SnapshotCache) (uri : String) (now later : ℚ)
    (hstale : cache.fresh? uri now = none) :
    ∃ qpiws qfws,
      (getData cache uri now blocks.read "QPIWS").1 = some qpiws ∧
      (getData (getData cache uri now blocks.read "QPIWS").2 uri later
        blocks.read "QFWS").1 = some qfws ∧
      (FaultsReported str qpiws qfws blocks.faultCode blocks.warningCode ↔
        blocks.faultCode = 0 ∧ blocks.warningCode = 0) := by
  obtain ⟨snapshot, hread, _⟩ := readSmg2SnapshotVia_read blocks
  obtain ⟨hqpiws, hqfws⟩ := getData_alarms later hstale hread
  refine ⟨snapshot.sections, snapshot.sections, hqpiws, hqfws, ?_⟩
  exact faultsReported_iff_of_silent (sections_silent snapshot)
    (sections_silent snapshot) str _ _

/-! ## A healthy inverter and a faulted one -/

/-- All registers are zero but 101, the low word of the fault code. -/
def blocksWithFault (low : UInt16) : RegisterBlocks where
  block100 := [0, low] ++ List.replicate 14 0
  block201 := List.replicate 31 0
  block300 := List.replicate 38 0
  length_block100 := rfl
  length_block201 := rfl
  length_block300 := rfl

theorem smg_alarms_healthy :
    ∃ qpiws qfws,
      (getData .empty "modbus://192.168.1.50:502" 0 (blocksWithFault 0).read
        "QPIWS").1 = some qpiws ∧
      (getData (getData .empty "modbus://192.168.1.50:502" 0
        (blocksWithFault 0).read "QPIWS").2 "modbus://192.168.1.50:502" 1
          (blocksWithFault 0).read "QFWS").1 = some qfws ∧
      anyWarning qpiws qfws = false ∧
      faultSummary (fun _ => "") qpiws qfws = some "OK" := by
  obtain ⟨qpiws, qfws, hqpiws, hqfws, hiff⟩ :=
    smg_alarms_iff (fun _ => "") (blocksWithFault 0) .empty
      "modbus://192.168.1.50:502" 0 1 rfl
  have hcodes : (blocksWithFault 0).faultCode = 0 ∧
      (blocksWithFault 0).warningCode = 0 := by
    decide
  exact ⟨qpiws, qfws, hqpiws, hqfws, (hiff.mpr hcodes).clear hcodes⟩

theorem not_smg_alarms_faulted :
    ¬∀ (str : PyValue → String) (blocks : RegisterBlocks)
      (cache : SnapshotCache) (uri : String) (now later : ℚ)
      (qpiws qfws : Section),
      cache.fresh? uri now = none →
      (getData cache uri now blocks.read "QPIWS").1 = some qpiws →
      (getData (getData cache uri now blocks.read "QPIWS").2 uri later
        blocks.read "QFWS").1 = some qfws →
        FaultsReported str qpiws qfws blocks.faultCode
          blocks.warningCode := by
  intro hreported
  obtain ⟨snapshot, hread, _⟩ := readSmg2SnapshotVia_read (blocksWithFault 1)
  have hstale : SnapshotCache.fresh? .empty "modbus://192.168.1.50:502" 0 =
      none := rfl
  obtain ⟨hqpiws, hqfws⟩ := getData_alarms 1 hstale hread
  have hboth := hreported (fun _ => "") (blocksWithFault 1) .empty
    "modbus://192.168.1.50:502" 0 1 _ _ hstale hqpiws hqfws
  have hcode : (blocksWithFault 1).faultCode = 1 := by
    decide
  have hon := (hboth.raised (.inl (by rw [hcode]; decide))).1
  rw [anyWarning_of_silent (sections_silent snapshot)
    (sections_silent snapshot)] at hon
  cases hon

end Smg
end DessMonitor
