import DessMonitor.AgentTelemetry
import DessMonitor.Enums
import DessMonitor.Foundation.FixedDecimals

/-!
# Battery currents of a device behind an agent

The live section has the battery current three times: signed, split into
charging and discharge, and as the charging bit of a status field.  The split
currents follow the signed one and so does the bit; a snapshot with split
currents alone gets a bit that says nothing about them.
-/

namespace DessMonitor
namespace Agent

open DecimalRounding
open Direct (Section)

/-! ## Readings -/

def signedKey : String := "battery_current"
def chargingKey : String := "battery_charging_current"
def dischargeKey : String := "battery_discharge_current"
def chargingBitsKey : String := "device_status_bits_b10_b8"

/-- A field is the text of a finite number. -/
def Reads (data : Section) (key : String) (number : ℚ) : Prop :=
  ∃ text, data.get? key = some (.str text) ∧
    PyFloat.ofText? text = some (.finite number)

/-- The charging bit as the parser gives it. -/
def chargingReported (qpigs : Section) : Option PyValue :=
  match qpigs.get? chargingBitsKey with
  | some (.str bits) =>
      (Enums.parseDeviceStatusBitsB10B8 bits).get? "charging_to_battery"
  | _ => none

/-- The battery current of a snapshot: signed, split, or both of these with
one difference.  A field whose text is no number gives no current. -/
inductive CurrentsGiven (raw : Section) : Prop where
  | signed (current : ℚ) (hsigned : Reads raw signedKey current)
      (hunsplit : ∀ key ∈ [chargingKey, dischargeKey], ∀ number,
        ¬Reads raw key number)
  | split (charging discharge : ℚ)
      (hunread : ∀ text, raw.get? signedKey = some (.str text) →
        PyFloat.ofText? text = none)
      (hcharging : Reads raw chargingKey charging)
      (hdischarge : Reads raw dischargeKey discharge)
  | both (current charging discharge : ℚ)
      (hsigned : Reads raw signedKey current)
      (hcharging : Reads raw chargingKey charging)
      (hdischarge : Reads raw dischargeKey discharge)
      (hsame : roundDecimals 2 (charging - discharge) =
        roundDecimals 2 current)

/-- The currents of a live section and its charging bit say the same. -/
structure CurrentsAgree (qpigs : Section) (charging discharge : ℚ) :
    Prop where
  readsCharging : Reads qpigs chargingKey charging
  readsDischarge : Reads qpigs dischargeKey discharge
  nonneg : 0 ≤ charging ∧ 0 ≤ discharge
  difference : ∀ current, Reads qpigs signedKey current →
    roundDecimals 2 (charging - discharge) = roundDecimals 2 current
  reported : 1 / 5 < charging - discharge →
    chargingReported qpigs = some (.bool true)
  unreported : charging ≤ discharge →
    chargingReported qpigs = some (.bool false)

/-- The live section of a snapshot has currents that agree. -/
def BitsAgree (snapshot : Snapshot) : Prop :=
  ∃ qpigs, splitRawByCommand snapshot.raw "QPIGS" = some qpigs ∧
    ∃ charging discharge, CurrentsAgree qpigs charging discharge

/-- The split currents that are there are numbers and not negative, and the
signed current is there unless the split ones charge by 0.2 A at most. -/
structure SignedOrIdle (raw : Section) : Prop where
  readable : ∀ key ∈ [chargingKey, dischargeKey], ∀ text,
    raw.get? key = some (.str text) → ∃ number, Reads raw key number
  nonneg : ∀ key ∈ [chargingKey, dischargeKey], ∀ number,
    Reads raw key number → 0 ≤ number
  idle : (∃ current, Reads raw signedKey current) ∨
    ∀ charging discharge, Reads raw chargingKey charging →
      Reads raw dischargeKey discharge → charging - discharge ≤ 1 / 5

/-! ## Sections of texts -/

/-- Every value is a text. -/
def Textual (data : Section) : Prop :=
  ∀ key value, data.get? key = some value → ∃ text, value = .str text

section Textual

variable {data : Section}

theorem floatOrZero_str (text : String) :
    floatOrZero (.str text) =
      some ((PyFloat.ofText? text).getD (.finite 0)) := by
  unfold floatOrZero
  cases htext : PyFloat.ofText? text <;> simp [PyValue.toFloat, htext]

theorem floatOrZero_zero : floatOrZero (.int 0) = some (.finite 0) := by
  simp [floatOrZero, PyValue.toFloat, PyFloat.ofRat]

/-- A field of texts as a float: zero where it is missing or no number. -/
theorem Textual.safeFloat (htextual : Textual data) (key : String) :
    safeFloat data key = some (match data.get? key with
      | some (.str text) => (PyFloat.ofText? text).getD (.finite 0)
      | _ => .finite 0) := by
  unfold Agent.safeFloat
  cases hget : data.get? key with
  | none => exact floatOrZero_zero
  | some value =>
      obtain ⟨text, rfl⟩ := htextual key value hget
      by_cases hempty : text = ""
      · subst hempty
        exact floatOrZero_zero
      · have htruthy : (PyValue.str text).truthy = true :=
          decide_eq_true hempty
        rw [Option.getD_some]
        dsimp only
        rw [if_pos htruthy, floatOrZero_str]

theorem Textual.safeFloat_of_reads (htextual : Textual data) {key : String}
    {number : ℚ} (hreads : Reads data key number) :
    Agent.safeFloat data key = some (.finite number) := by
  obtain ⟨text, hget, htext⟩ := hreads
  rw [htextual.safeFloat, hget]
  dsimp only
  rw [htext]
  rfl

end Textual

/-! ## The live section -/

theorem textual_raw (snapshot : Snapshot) : Textual snapshot.raw := by
  intro key value hget
  unfold Snapshot.raw at hget
  rw [Dict.get?_mapValues] at hget
  obtain ⟨text, -, rfl⟩ := Option.map_eq_some_iff.mp hget
  exact ⟨text, rfl⟩

theorem Textual.set {data : Section} (htextual : Textual data)
    (key text : String) : Textual (data.set key (.str text)) := by
  intro other value hget
  rw [Dict.get?_set] at hget
  split at hget
  next => exact ⟨text, (Option.some.inj hget).symm⟩
  next => exact htextual other value hget

theorem Textual.setDefault {data : Section} (htextual : Textual data)
    (key text : String) :
    Textual (Warnings.setDefault data key (.str text)) := by
  unfold Warnings.setDefault
  split
  · exact htextual
  · exact htextual.set key text

theorem Textual.live {raw : Section} (htextual : Textual raw) :
    Textual (raw.filterKeys isLiveKey) := by
  intro key value hget
  rw [Dict.get?_filterKeys] at hget
  split at hget
  next => exact htextual key value hget
  next => cases hget

/-! ## Split currents -/

theorem positivePart_finite (value : ℚ) :
    (PyFloat.finite value).positivePart = .finite (max 0 value) := by
  unfold PyFloat.positivePart PyFloat.exceeds
  by_cases hpos : 0 < value
  · rw [if_pos (decide_eq_true hpos), max_eq_right hpos.le]
  · rw [if_neg (by simpa using hpos), max_eq_left (not_lt.mp hpos)]

/-- A positive current, written with two decimals and read again. -/
theorem split_of_nonneg {current : ℚ} (hbinary : PyFloat.IsBinary64 current)
    (hnonneg : 0 ≤ current) :
    ∃ number, PyFloat.ofText? (PyFormat.fixed 2
        (PyFloat.finite current).positivePart) = some (.finite number) ∧
      0 ≤ number ∧ roundDecimals 2 number = roundDecimals 2 current := by
  obtain ⟨number, hnumber, hround⟩ :=
    hbinary.ofRat_roundDecimals (two_ne_zero : (2 : ℕ) ≠ 0)
  have hrounded : 0 ≤ roundDecimals 2 current := by
    have hmono := roundDecimals_mono 2 hnonneg
    rwa [roundDecimals_zero] at hmono
  refine ⟨number, ?_, PyFloat.nonneg_of_ofRat hrounded hnumber, hround⟩
  rw [positivePart_finite, max_eq_right hnonneg,
    PyFormat.ofText?_fixed hnonneg (by decide), hnumber]

theorem split_of_nonpos {current : ℚ} (hnonpos : current ≤ 0) :
    PyFloat.ofText? (PyFormat.fixed 2
      (PyFloat.finite current).positivePart) = some (.finite 0) := by
  have hzero : PyFloat.ofRat 0 = .finite 0 := by
    simp [PyFloat.ofRat]
  rw [positivePart_finite, max_eq_left hnonpos,
    PyFormat.ofText?_fixed le_rfl (by decide), roundDecimals_zero, hzero]

/-- The two currents derived from a signed one. -/
theorem split_currents {current : ℚ} (hbinary : PyFloat.IsBinary64 current) :
    ∃ charging discharge,
      PyFloat.ofText? (PyFormat.fixed 2
        (PyFloat.finite current).positivePart) = some (.finite charging) ∧
      PyFloat.ofText? (PyFormat.fixed 2
        (PyFloat.finite current).neg.positivePart) =
          some (.finite discharge) ∧
      (0 ≤ charging ∧ 0 ≤ discharge) ∧
      roundDecimals 2 (charging - discharge) = roundDecimals 2 current := by
  rcases le_total 0 current with hpos | hneg
  · obtain ⟨charging, htext, hnonneg, hround⟩ :=
      split_of_nonneg hbinary hpos
    refine ⟨charging, 0, htext, split_of_nonpos (by linarith),
      ⟨hnonneg, le_rfl⟩, ?_⟩
    rw [sub_zero, hround]
  · obtain ⟨discharge, htext, hnonneg, hround⟩ :=
      split_of_nonneg hbinary.neg (by linarith)
    refine ⟨0, discharge, split_of_nonpos hneg, htext, ⟨le_rfl, hnonneg⟩, ?_⟩
    rw [zero_sub, roundDecimals_neg, hround, roundDecimals_neg, neg_neg]

/-- What `addSplitCurrents` leaves of a section of texts. -/
structure SplitAdded (live split : Section) : Prop where
  textual : Textual split
  kept : ∀ key, key ≠ chargingKey → key ≠ dischargeKey →
    split.get? key = live.get? key

theorem addSplitCurrents_given {live : Section}
    (hcharging : live.contains chargingKey = true)
    (hdischarge : live.contains dischargeKey = true) :
    addSplitCurrents live = some live := by
  unfold addSplitCurrents
  split
  next => rfl
  next =>
    unfold chargingKey at hcharging
    unfold dischargeKey at hdischarge
    rw [hcharging, hdischarge]
    rfl

theorem addSplitCurrents_signed {live : Section} (htextual : Textual live)
    {text : String} {current : ℚ}
    (hsigned : live.get? signedKey = some (.str text))
    (htext : PyFloat.ofText? text = some (.finite current))
    (hcharging : live.get? chargingKey = none)
    (hdischarge : live.get? dischargeKey = none) :
    ∃ split, addSplitCurrents live = some split ∧ SplitAdded live split ∧
      split.get? chargingKey = some (.str (PyFormat.fixed 2
        (PyFloat.finite current).positivePart)) ∧
      split.get? dischargeKey = some (.str (PyFormat.fixed 2
        (PyFloat.finite current).neg.positivePart)) := by
  have hcontains : live.contains "battery_charging_current" = false := by
    unfold Dict.contains
    rw [show live.get? "battery_charging_current" = none from hcharging]
    rfl
  have hadd : addSplitCurrents live = some (Warnings.setDefault
      (Warnings.setDefault live chargingKey (.str (PyFormat.fixed 2
        (PyFloat.finite current).positivePart)))
      dischargeKey (.str (PyFormat.fixed 2
        (PyFloat.finite current).neg.positivePart))) := by
    unfold addSplitCurrents
    rw [show live.get? "battery_current" = some (.str text) from hsigned]
    dsimp only
    rw [hcontains, floatOrZero_str, htext]
    rfl
  have hne : dischargeKey ≠ chargingKey := by decide
  refine ⟨_, hadd, ⟨(htextual.setDefault _ _).setDefault _ _, ?_⟩, ?_, ?_⟩
  · intro key hnotCharging hnotDischarge
    rw [Warnings.get?_setDefault, Warnings.get?_setDefault,
      if_neg hnotCharging, if_neg hnotDischarge, Option.or_none,
      Option.or_none]
  · rw [Warnings.get?_setDefault, Warnings.get?_setDefault, hcharging,
      if_pos rfl]
    rfl
  · rw [Warnings.get?_setDefault, Warnings.get?_setDefault, hdischarge,
      if_neg hne, if_pos rfl]
    rfl

/-- A field that is there keeps its value. -/
theorem get?_setDefault_kept {data : Section} {key : String} {value : PyValue}
    (hget : data.get? key = some value) (other : String) (default : PyValue) :
    (Warnings.setDefault data other default).get? key = some value := by
  rw [Warnings.get?_setDefault, hget]
  rfl

theorem addSplitCurrents_kept {live split : Section}
    (hadd : addSplitCurrents live = some split) {key : String}
    {value : PyValue} (hget : live.get? key = some value) :
    split.get? key = some value := by
  unfold addSplitCurrents at hadd
  split at hadd
  next =>
    obtain rfl := Option.some.inj hadd
    exact hget
  next =>
    split at hadd
    next =>
      obtain rfl := Option.some.inj hadd
      exact hget
    next =>
      obtain ⟨signed, -, rfl⟩ := Option.map_eq_some_iff.mp hadd
      exact get?_setDefault_kept (get?_setDefault_kept hget _ _) _ _

/-! ## Status bits -/

section Bits

variable {raw qpigs : Section}

theorem addBits_kept {next : Section} {key bitsKey : String} {value : PyValue}
    {synthesised : Option String}
    (hadd : addBits bitsKey synthesised qpigs = some next)
    (hget : qpigs.get? key = some value) : next.get? key = some value := by
  unfold addBits at hadd
  split at hadd
  next =>
    obtain rfl := Option.some.inj hadd
    exact hget
  next habsent =>
    obtain ⟨bits, -, rfl⟩ := Option.map_eq_some_iff.mp hadd
    have hne : key ≠ bitsKey := by
      rintro rfl
      unfold Dict.contains at habsent
      rw [hget] at habsent
      exact habsent rfl
    rw [Dict.get?_set_of_ne qpigs hne, hget]

/-- What a snapshot has of the live readings is what the section has. -/
theorem splitRawQpigs_kept (hsplit : splitRawQpigs raw = some qpigs)
    {key : String} (hlive : isLiveKey key = true) {value : PyValue}
    (hget : raw.get? key = some value) : qpigs.get? key = some value := by
  have hkept : (raw.filterKeys isLiveKey).get? key = some value := by
    rw [Dict.get?_filterKeys, if_pos hlive, hget]
  unfold splitRawQpigs at hsplit
  simp only [Option.bind_eq_bind, Option.bind_eq_some_iff] at hsplit
  obtain ⟨split, hadd, first, hfirst, hlast⟩ := hsplit
  exact addBits_kept hlast
    (addBits_kept hfirst (addSplitCurrents_kept hadd hkept))

theorem parse_bitsText (charging ac scc : Bool) :
    (Enums.parseDeviceStatusBitsB10B8
      (bitsText [charging, ac, scc])).get? "charging_to_battery" =
        some (.bool charging) := by
  cases charging <;> cases ac <;> cases scc <;> rfl

theorem operatingMode_textual (htextual : Textual raw) :
    ∃ mode, operatingMode raw = some mode := by
  have hfield : ∀ key, (raw.get? key).getD .none = .none ∨
      ∃ text, (raw.get? key).getD .none = .str text := by
    intro key
    cases hget : raw.get? key with
    | none => exact .inl rfl
    | some value =>
        obtain ⟨text, rfl⟩ := htextual key value hget
        exact .inr ⟨text, rfl⟩
  unfold operatingMode
  dsimp only
  rcases hfield "operating_mode" with hplain | ⟨plain, hplain⟩ <;>
    rcases hfield "qmod.operating_mode" with hprefixed | ⟨prefixed, hprefixed⟩ <;>
      rw [hplain, hprefixed] <;> split_ifs <;> first
        | exact ⟨_, rfl⟩
        | contradiction

theorem synthB7B0_textual (htextual : Textual raw) :
    ∃ bits, synthB7B0 raw = some bits := by
  obtain ⟨mode, hmode⟩ := operatingMode_textual htextual
  unfold synthB7B0
  rw [hmode, htextual.safeFloat, htextual.safeFloat]
  exact ⟨_, rfl⟩

/-- The charging bit is that of the signed current. -/
theorem synthB10B8_textual (hraw : Textual raw) {signed : PyFloat}
    (hsigned : safeFloat qpigs signedKey = some signed) :
    ∃ ac scc, synthB10B8 qpigs raw =
      some (bitsText [signed.exceeds tenth, ac, scc]) := by
  unfold synthB10B8
  rw [show safeFloat qpigs "battery_current" = some signed from hsigned,
    hraw.safeFloat, hraw.safeFloat, hraw.safeFloat]
  simp only [Option.bind_eq_bind, Option.bind_some]
  split_ifs
  · exact ⟨_, _, rfl⟩
  · exact ⟨_, _, rfl⟩

/-- Bits are added where there are none, and nothing else changes. -/
theorem addBits_textual (htextual : Textual qpigs) (key bits : String) :
    ∃ next, addBits key (some bits) qpigs = some next ∧ Textual next ∧
      (∀ other, other ≠ key → next.get? other = qpigs.get? other) ∧
      (qpigs.get? key = none → next.get? key = some (.str bits)) := by
  unfold addBits Dict.contains
  cases hget : qpigs.get? key with
  | none =>
      refine ⟨qpigs.set key (.str bits), rfl, htextual.set key bits, ?_, ?_⟩
      · intro other hne
        exact Dict.get?_set_of_ne qpigs hne _
      · intro _
        exact Dict.get?_set_self qpigs key _
  | some value =>
      refine ⟨qpigs, rfl, htextual, fun other _ => rfl, ?_⟩
      intro hnone
      cases hnone

/-- The live section once the currents are split. -/
theorem splitRawQpigs_textual (hraw : Textual raw) {split : Section}
    (hadd : addSplitCurrents (raw.filterKeys isLiveKey) = some split)
    (htextual : Textual split) (hbits : split.get? chargingBitsKey = none)
    {signed : PyFloat} (hsigned : safeFloat split signedKey = some signed) :
    ∃ qpigs, splitRawQpigs raw = some qpigs ∧
      (∀ key ∈ [signedKey, chargingKey, dischargeKey],
        qpigs.get? key = split.get? key) ∧
      chargingReported qpigs = some (.bool (signed.exceeds tenth)) := by
  obtain ⟨b7b0, hb7b0⟩ := synthB7B0_textual hraw
  obtain ⟨first, hfirst, hfirstTextual, hfirstKept, -⟩ :=
    addBits_textual htextual "device_status_bits_b7_b0" b7b0
  have hfirstSigned : safeFloat first signedKey = some signed := by
    rw [hfirstTextual.safeFloat, hfirstKept _ (by decide),
      ← htextual.safeFloat, hsigned]
  obtain ⟨ac, scc, hb10b8⟩ := synthB10B8_textual hraw hfirstSigned
  obtain ⟨qpigs, hqpigs, -, hkept, hset⟩ := addBits_textual hfirstTextual
    chargingBitsKey (bitsText [signed.exceeds tenth, ac, scc])
  refine ⟨qpigs, ?_, ?_, ?_⟩
  · unfold splitRawQpigs
    simp only [Option.bind_eq_bind]
    rw [hadd, Option.bind_some, hb7b0, hfirst, Option.bind_some, hb10b8]
    exact hqpigs
  · have hnotBits : ∀ key ∈ [signedKey, chargingKey, dischargeKey],
        key ≠ chargingBitsKey ∧ key ≠ "device_status_bits_b7_b0" := by
      decide
    intro key hkey
    obtain ⟨hnot, hnotFirst⟩ := hnotBits key hkey
    rw [hkept key hnot, hfirstKept key hnotFirst]
  · have hnone : first.get? chargingBitsKey = none := by
      rw [hfirstKept _ (by decide), hbits]
    unfold chargingReported
    rw [hset hnone]
    exact parse_bitsText _ ac scc

end Bits

/-! ## Agreement -/

section Agreement

theorem Reads.congr {data other : Section} {key : String} {number : ℚ}
    (hreads : Reads data key number)
    (hsame : other.get? key = data.get? key) : Reads other key number := by
  obtain ⟨text, hget, htext⟩ := hreads
  exact ⟨text, hsame.trans hget, htext⟩

theorem Reads.unique {data : Section} {key : String} {number number' : ℚ}
    (hreads : Reads data key number) (hreads' : Reads data key number') :
    number = number' := by
  obtain ⟨text, hget, htext⟩ := hreads
  obtain ⟨text', hget', htext'⟩ := hreads'
  obtain rfl : text = text' := by
    simpa [hget] using hget'
  simpa [htext] using htext'

theorem isLiveKey_current :
    ∀ key ∈ [signedKey, chargingKey, dischargeKey], isLiveKey key = true := by
  decide

theorem live_get? (raw : Section) {key : String} (hlive : isLiveKey key = true) :
    (raw.filterKeys isLiveKey).get? key = raw.get? key := by
  rw [Dict.get?_filterKeys, if_pos hlive]

/-- Currents with the rounded difference of a signed one tell its sign. -/
theorem exceeds_tenth {charging discharge current : ℚ}
    (hround : roundDecimals 2 (charging - discharge) =
      roundDecimals 2 current) :
    (1 / 5 < charging - discharge → tenth < current) ∧
      (charging ≤ discharge → ¬tenth < current) := by
  have hdifference := abs_le.mp
    (abs_roundDecimals_sub_le 2 (charging - discharge))
  have hcurrent := abs_le.mp (abs_roundDecimals_sub_le 2 current)
  rw [hround] at hdifference
  norm_num at hdifference hcurrent
  unfold tenth
  constructor
  · intro hcharging
    linarith
  · intro hdischarge
    have hsmall : current ≤ 1 / 100 := by linarith
    intro hexceeds
    norm_num at hexceeds
    linarith

theorem Reads.contains {data : Section} {key : String} {number : ℚ}
    (hreads : Reads data key number) : data.contains key = true := by
  obtain ⟨text, hget, -⟩ := hreads
  unfold Dict.contains
  rw [hget]
  rfl

theorem currentsAgree_of_signed {qpigs : Section}
    {current charging discharge : ℚ}
    (hsigned : Reads qpigs signedKey current)
    (hcharging : Reads qpigs chargingKey charging)
    (hdischarge : Reads qpigs dischargeKey discharge)
    (hnonneg : 0 ≤ charging ∧ 0 ≤ discharge)
    (hround : roundDecimals 2 (charging - discharge) =
      roundDecimals 2 current)
    (hreported : chargingReported qpigs =
      some (.bool ((PyFloat.finite current).exceeds tenth))) :
    CurrentsAgree qpigs charging discharge := by
  obtain ⟨hexceeds, hnot⟩ := exceeds_tenth hround
  refine ⟨hcharging, hdischarge, hnonneg, ?_, ?_, ?_⟩
  · intro other hother
    rw [hround, hsigned.unique hother]
  · intro hpositive
    rw [hreported, PyFloat.exceeds, decide_eq_true (hexceeds hpositive)]
  · intro hle
    rw [hreported, PyFloat.exceeds, decide_eq_false (hnot hle)]

variable {snapshot : Snapshot}

/-- A signed current alone is split so that everything agrees. -/
theorem bitsAgree_of_signed
    (hbits : snapshot.raw.get? chargingBitsKey = none) {current : ℚ}
    (hcurrent : Reads snapshot.raw signedKey current)
    (hcharging : snapshot.raw.get? chargingKey = none)
    (hdischarge : snapshot.raw.get? dischargeKey = none) :
    BitsAgree snapshot := by
  have hraw := textual_raw snapshot
  have hlive : (snapshot.raw.filterKeys isLiveKey).get? signedKey =
      snapshot.raw.get? signedKey :=
    live_get? snapshot.raw (by decide)
  obtain ⟨text, hget, htext⟩ := hcurrent.congr hlive
  obtain ⟨split, hadd, hadded, hsplitCharging, hsplitDischarge⟩ :=
    addSplitCurrents_signed hraw.live hget htext
      ((live_get? snapshot.raw (by decide)).trans hcharging)
      ((live_get? snapshot.raw (by decide)).trans hdischarge)
  obtain ⟨charging, discharge, hchargingText, hdischargeText, hnonneg,
    hround⟩ := split_currents (PyFormat.isBinary64_of_ofText? htext)
  have hsigned : Reads split signedKey current :=
    ⟨text, (hadded.kept _ (by decide) (by decide)).trans hget, htext⟩
  have hsplitBits : split.get? chargingBitsKey = none := by
    rw [hadded.kept _ (by decide) (by decide), live_get? _ (by decide), hbits]
  obtain ⟨qpigs, hqpigs, hkept, hreported⟩ := splitRawQpigs_textual hraw hadd
    hadded.textual hsplitBits (hadded.textual.safeFloat_of_reads hsigned)
  have hreadsCharging : Reads split chargingKey charging :=
    ⟨_, hsplitCharging, hchargingText⟩
  have hreadsDischarge : Reads split dischargeKey discharge :=
    ⟨_, hsplitDischarge, hdischargeText⟩
  exact ⟨qpigs, hqpigs, charging, discharge, currentsAgree_of_signed
    (hsigned.congr (hkept _ (by decide)))
    (hreadsCharging.congr (hkept _ (by decide)))
    (hreadsDischarge.congr (hkept _ (by decide))) hnonneg hround hreported⟩

/-- Split currents that are given are kept; the bit follows the signed one. -/
theorem splitRawQpigs_of_given
    (hbits : snapshot.raw.get? chargingBitsKey = none)
    {charging discharge : ℚ}
    (hcharging : Reads snapshot.raw chargingKey charging)
    (hdischarge : Reads snapshot.raw dischargeKey discharge)
    {signed : PyFloat}
    (hsigned : safeFloat snapshot.raw signedKey = some signed) :
    ∃ qpigs, splitRawByCommand snapshot.raw "QPIGS" = some qpigs ∧
      (∀ key ∈ [signedKey, chargingKey, dischargeKey],
        qpigs.get? key = snapshot.raw.get? key) ∧
      chargingReported qpigs = some (.bool (signed.exceeds tenth)) := by
  have hraw := textual_raw snapshot
  have hlive : ∀ key ∈ [signedKey, chargingKey, dischargeKey],
      (snapshot.raw.filterKeys isLiveKey).get? key =
        snapshot.raw.get? key := by
    intro key hkey
    exact live_get? snapshot.raw (isLiveKey_current key hkey)
  have hliveSigned : safeFloat (snapshot.raw.filterKeys isLiveKey)
      signedKey = some signed := by
    rw [hraw.live.safeFloat, hlive _ (by decide), ← hraw.safeFloat, hsigned]
  obtain ⟨qpigs, hqpigs, hkept, hreported⟩ := splitRawQpigs_textual hraw
    (addSplitCurrents_given (hcharging.congr (hlive _ (by decide))).contains
      (hdischarge.congr (hlive _ (by decide))).contains)
    hraw.live ((live_get? snapshot.raw (by decide)).trans hbits) hliveSigned
  refine ⟨qpigs, hqpigs, ?_, hreported⟩
  intro key hkey
  rw [hkept key hkey, hlive key hkey]

theorem safeFloat_of_unread
    (hunread : ∀ text, snapshot.raw.get? signedKey = some (.str text) →
      PyFloat.ofText? text = none) :
    safeFloat snapshot.raw signedKey = some (.finite 0) := by
  have hraw := textual_raw snapshot
  rw [hraw.safeFloat]
  cases hget : snapshot.raw.get? signedKey with
  | none => rfl
  | some value =>
      obtain ⟨text, rfl⟩ := hraw _ _ hget
      dsimp only
      rw [hunread text hget]
      rfl

/-- A given split is what the section shows, so it has to be nonnegative. -/
theorem BitsAgree.nonneg_of_given (hagree : BitsAgree snapshot)
    (hbits : snapshot.raw.get? chargingBitsKey = none)
    {charging discharge : ℚ}
    (hcharging : Reads snapshot.raw chargingKey charging)
    (hdischarge : Reads snapshot.raw dischargeKey discharge)
    {signed : PyFloat}
    (hsigned : safeFloat snapshot.raw signedKey = some signed) :
    (0 ≤ charging ∧ 0 ≤ discharge) ∧
      (1 / 5 < charging - discharge → signed.exceeds tenth = true) := by
  obtain ⟨qpigs, hqpigs, shown, shown', hshown⟩ := hagree
  obtain ⟨qpigs', hqpigs', hkept, hreported⟩ :=
    splitRawQpigs_of_given hbits hcharging hdischarge hsigned
  obtain rfl := Option.some.inj (hqpigs.symm.trans hqpigs')
  obtain rfl := hshown.readsCharging.unique
    (hcharging.congr (hkept _ (by decide)))
  obtain rfl := hshown.readsDischarge.unique
    (hdischarge.congr (hkept _ (by decide)))
  refine ⟨hshown.nonneg, ?_⟩
  intro hlarge
  have htrue := hshown.reported hlarge
  rw [hreported] at htrue
  simpa using htrue

theorem BitsAgree.readable_of_kept (hagree : BitsAgree snapshot) :
    ∀ key ∈ [chargingKey, dischargeKey], ∀ text,
      snapshot.raw.get? key = some (.str text) →
        ∃ number, Reads snapshot.raw key number := by
  obtain ⟨qpigs, hqpigs, charging, discharge, hshown⟩ := hagree
  intro key hkey text hget
  have hkept := splitRawQpigs_kept hqpigs
    (isLiveKey_current key (List.mem_cons_of_mem _ hkey)) hget
  simp only [List.mem_cons, List.not_mem_nil, or_false] at hkey
  rcases hkey with rfl | rfl
  · exact ⟨charging, hshown.readsCharging.congr (hget.trans hkept.symm)⟩
  · exact ⟨discharge, hshown.readsDischarge.congr (hget.trans hkept.symm)⟩

theorem nonneg_of_reads {raw : Section} {charging discharge : ℚ}
    (hcharging : Reads raw chargingKey charging)
    (hdischarge : Reads raw dischargeKey discharge)
    (hnonneg : 0 ≤ charging ∧ 0 ≤ discharge) :
    ∀ key ∈ [chargingKey, dischargeKey], ∀ number,
      Reads raw key number → 0 ≤ number := by
  intro key hkey number hreads
  simp only [List.mem_cons, List.not_mem_nil, or_false] at hkey
  rcases hkey with rfl | rfl
  · rw [hreads.unique hcharging]
    exact hnonneg.1
  · rw [hreads.unique hdischarge]
    exact hnonneg.2

theorem tenth_not_exceeded : (PyFloat.finite 0).exceeds tenth = false := by
  unfold PyFloat.exceeds tenth
  rw [decide_eq_false_iff_not]
  norm_num

/-- Split currents alone agree with the unset bit when they are idle. -/
theorem bitsAgree_of_split
    (hbits : snapshot.raw.get? chargingBitsKey = none)
    (hunread : ∀ text, snapshot.raw.get? signedKey = some (.str text) →
      PyFloat.ofText? text = none)
    {charging discharge : ℚ}
    (hcharging : Reads snapshot.raw chargingKey charging)
    (hdischarge : Reads snapshot.raw dischargeKey discharge)
    (hnonneg : 0 ≤ charging ∧ 0 ≤ discharge)
    (hidle : charging - discharge ≤ 1 / 5) : BitsAgree snapshot := by
  obtain ⟨qpigs, hqpigs, hkept, hreported⟩ := splitRawQpigs_of_given hbits
    hcharging hdischarge (safeFloat_of_unread hunread)
  rw [tenth_not_exceeded] at hreported
  refine ⟨qpigs, hqpigs, charging, discharge,
    hcharging.congr (hkept _ (by decide)),
    hdischarge.congr (hkept _ (by decide)), hnonneg, ?_, ?_, ?_⟩
  · intro current hcurrent
    obtain ⟨text, hget, htext⟩ :=
      hcurrent.congr (hkept signedKey (by decide)).symm
    rw [hunread text hget] at htext
    cases htext
  · intro hlarge
    exact absurd hlarge (not_lt.mpr hidle)
  · intro _
    exact hreported

/-- A signed current is enough unless a split field is no number. -/
theorem bitsAgree_signed_iff
    (hbits : snapshot.raw.get? chargingBitsKey = none) {current : ℚ}
    (hsigned : Reads snapshot.raw signedKey current)
    (hunsplit : ∀ key ∈ [chargingKey, dischargeKey], ∀ number,
      ¬Reads snapshot.raw key number) :
    BitsAgree snapshot ↔ SignedOrIdle snapshot.raw := by
  constructor
  · intro hagree
    refine ⟨hagree.readable_of_kept, ?_, .inl ⟨current, hsigned⟩⟩
    intro key hkey number hreads
    exact absurd hreads (hunsplit key hkey number)
  · rintro ⟨hreadable, -, -⟩
    have habsent : ∀ key ∈ [chargingKey, dischargeKey],
        snapshot.raw.get? key = none := by
      intro key hkey
      cases hget : snapshot.raw.get? key with
      | none => rfl
      | some value =>
          obtain ⟨text, rfl⟩ := textual_raw snapshot key value hget
          obtain ⟨number, hreads⟩ := hreadable key hkey text hget
          exact absurd hreads (hunsplit key hkey number)
    exact bitsAgree_of_signed hbits hsigned (habsent _ (by simp))
      (habsent _ (by simp))

/-- Split currents alone agree with the bit only when they are idle. -/
theorem bitsAgree_split_iff
    (hbits : snapshot.raw.get? chargingBitsKey = none)
    {charging discharge : ℚ}
    (hunread : ∀ text, snapshot.raw.get? signedKey = some (.str text) →
      PyFloat.ofText? text = none)
    (hcharging : Reads snapshot.raw chargingKey charging)
    (hdischarge : Reads snapshot.raw dischargeKey discharge) :
    BitsAgree snapshot ↔ SignedOrIdle snapshot.raw := by
  constructor
  · intro hagree
    obtain ⟨hnonneg, hlarge⟩ := hagree.nonneg_of_given hbits hcharging
      hdischarge (safeFloat_of_unread hunread)
    refine ⟨hagree.readable_of_kept,
      nonneg_of_reads hcharging hdischarge hnonneg, .inr ?_⟩
    intro other other' hreads hreads'
    rw [hreads.unique hcharging, hreads'.unique hdischarge]
    by_contra hexceeds
    have htrue := hlarge (not_le.mp hexceeds)
    rw [tenth_not_exceeded] at htrue
    cases htrue
  · rintro ⟨-, hnonneg, ⟨_, text, hget, htext⟩ | hidle⟩
    · rw [hunread text hget] at htext
      cases htext
    · exact bitsAgree_of_split hbits hunread hcharging hdischarge
        ⟨hnonneg _ (by simp) _ hcharging, hnonneg _ (by simp) _ hdischarge⟩
        (hidle _ _ hcharging hdischarge)

/-- With both given, the bit follows the signed current and so the split. -/
theorem bitsAgree_both_iff
    (hbits : snapshot.raw.get? chargingBitsKey = none)
    {current charging discharge : ℚ}
    (hsigned : Reads snapshot.raw signedKey current)
    (hcharging : Reads snapshot.raw chargingKey charging)
    (hdischarge : Reads snapshot.raw dischargeKey discharge)
    (hsame : roundDecimals 2 (charging - discharge) =
      roundDecimals 2 current) :
    BitsAgree snapshot ↔ SignedOrIdle snapshot.raw := by
  have hfloat := (textual_raw snapshot).safeFloat_of_reads hsigned
  constructor
  · intro hagree
    have hnonneg :=
      (hagree.nonneg_of_given hbits hcharging hdischarge hfloat).1
    exact ⟨hagree.readable_of_kept,
      nonneg_of_reads hcharging hdischarge hnonneg, .inl ⟨current, hsigned⟩⟩
  · rintro ⟨-, hnonneg, -⟩
    obtain ⟨qpigs, hqpigs, hkept, hreported⟩ :=
      splitRawQpigs_of_given hbits hcharging hdischarge hfloat
    exact ⟨qpigs, hqpigs, charging, discharge, currentsAgree_of_signed
      (hsigned.congr (hkept _ (by decide)))
      (hcharging.congr (hkept _ (by decide)))
      (hdischarge.congr (hkept _ (by decide)))
      ⟨hnonneg _ (by simp) _ hcharging, hnonneg _ (by simp) _ hdischarge⟩
      hsame hreported⟩

/-- The charging bit agrees with the currents unless they are only given
split and the battery charges. -/
theorem bitsAgree_iff (snapshot : Snapshot)
    (hbits : snapshot.raw.get? chargingBitsKey = none)
    (hgiven : CurrentsGiven snapshot.raw) :
    BitsAgree snapshot ↔ SignedOrIdle snapshot.raw := by
  cases hgiven with
  | signed current hsigned hunsplit =>
      exact bitsAgree_signed_iff hbits hsigned hunsplit
  | split charging discharge hunread hcharging hdischarge =>
      exact bitsAgree_split_iff hbits hunread hcharging hdischarge
  | both current charging discharge hsigned hcharging hdischarge hsame =>
      exact bitsAgree_both_iff hbits hsigned hcharging hdischarge hsame

theorem bitsAgree_iff_signed :
    BitsAgree (.ofPairs [("battery_current", "6.5")]) ↔
      SignedOrIdle (Snapshot.raw (.ofPairs [("battery_current", "6.5")])) :=
  bitsAgree_iff _ rfl (.signed (13 / 2) ⟨"6.5", rfl, by decide +kernel⟩ (by
    rintro key hkey number ⟨text, hget, -⟩
    simp only [List.mem_cons, List.not_mem_nil, or_false] at hkey
    rcases hkey with rfl | rfl <;> cases hget))

/-- Ten amperes of charging without a signed current. -/
def splitOnly : Snapshot :=
  .ofPairs [("battery_charging_current", "10"),
    ("battery_discharge_current", "0")]

theorem splitOnly_not_agree :
    ¬∀ snapshot : Snapshot, snapshot.raw.get? chargingBitsKey = none →
      CurrentsGiven snapshot.raw → BitsAgree snapshot := by
  intro hall
  have hunread : ∀ text, splitOnly.raw.get? signedKey = some (.str text) →
      PyFloat.ofText? text = none := by
    intro text hget
    cases hget
  have hcharging : Reads splitOnly.raw chargingKey 10 :=
    ⟨"10", rfl, by decide +kernel⟩
  have hdischarge : Reads splitOnly.raw dischargeKey 0 :=
    ⟨"0", rfl, by decide +kernel⟩
  have hagree := hall splitOnly rfl (.split 10 0 hunread hcharging hdischarge)
  have hlarge := (hagree.nonneg_of_given rfl hcharging hdischarge
    (safeFloat_of_unread hunread)).2 (by norm_num)
  rw [tenth_not_exceeded] at hlarge
  cases hlarge

end Agreement

end Agent
end DessMonitor
