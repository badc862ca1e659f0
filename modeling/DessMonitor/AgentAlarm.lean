import DessMonitor.AgentTelemetry
import DessMonitor.WarningViews

/-!
# Alarms of a device behind an agent

The warnings of a snapshot reach the sensors as booleans, its fault code as
the text it is.  Both sensors take a code only when it is a number, so a fault
is seen when a warning comes with it and not otherwise.
-/

namespace DessMonitor
namespace Agent

open Direct (Section)
open Warnings PyString

/-! ## What is reported and what is shown -/

/-- The binary sensor of the device. -/
def alarm (snapshot : Snapshot) : Option Bool := do
  let qpiws ← splitRawByCommand snapshot.raw "QPIWS"
  let qfws ← splitRawByCommand snapshot.raw "QFWS"
  return anyWarning qpiws qfws

/-- The summary of the device; `str` is Python's conversion to text. -/
def summary (str : PyValue → String) (snapshot : Snapshot) :
    Option String := do
  let qpiws ← splitRawByCommand snapshot.raw "QPIWS"
  let qfws ← splitRawByCommand snapshot.raw "QFWS"
  faultSummary str qpiws qfws

/-- The text of an integer other than zero. -/
def IsNonzero (text : String) : Prop :=
  ∃ number, toInt? text.toList = some number ∧ number ≠ 0

def FaultReported (snapshot : Snapshot) : Prop :=
  ∃ text, snapshot.get? "fault_code" = some text ∧ IsNonzero text

def WarningReported (snapshot : Snapshot) : Prop :=
  ∃ entry ∈ snapshot.entries, startsWith entry.1 "warn_" = true ∧
    IsNonzero entry.2

structure NothingReported (snapshot : Snapshot) : Prop where
  fault : ∀ text, snapshot.get? "fault_code" = some text → text = "0"
  warnings : ∀ entry ∈ snapshot.entries,
    startsWith entry.1 "warn_" = true → entry.2 = "0"

/-- The alarm is lit by what is reported and by nothing else. -/
structure AlarmFollows (str : PyValue → String) (snapshot : Snapshot) :
    Prop where
  lit : FaultReported snapshot ∨ WarningReported snapshot →
    alarm snapshot = some true ∧
      ∃ state, summary str snapshot = some state ∧ state ≠ "OK"
  dark : NothingReported snapshot →
    alarm snapshot = some false ∧ summary str snapshot = some "OK"

/-- What a warning's text comes to: a number is set when it is not zero, any
other text when it is not empty. -/
def textFlag (text : String) : Bool :=
  match toInt? text.toList with
  | some number => decide (number ≠ 0)
  | none => decide (text ≠ "")

/-- A warning that the sensors see. -/
def WarningSet (snapshot : Snapshot) : Prop :=
  ∃ entry ∈ snapshot.entries, startsWith entry.1 "warn_" = true ∧
    textFlag entry.2 = true

/-! ## The QFWS section of a snapshot -/

theorem warningFlag_str (text : String) :
    warningFlag (.str text) = some (textFlag text) := by
  unfold warningFlag textFlag
  cases hnumber : toInt? text.toList with
  | none => simp [Agent.toInt, hnumber, PyValue.truthy]
  | some number => simp [Agent.toInt, hnumber]

/-- What the section has of a field. -/
def qfwsValue (key text : String) : Option PyValue :=
  if startsWith key "warn_" then some (.bool (textFlag text))
  else if key ∈ ["fault_code", "fault_description"] then some (.str text)
  else none

theorem addToQfws_str (result : Section) (entry : String × String) :
    ∃ next, addToQfws result (entry.1, .str entry.2) = some next ∧
      ∀ key, next.get? key =
        (if key = entry.1 then qfwsValue key entry.2 else none).or
          (result.get? key) := by
  obtain ⟨name, text⟩ := entry
  unfold addToQfws
  dsimp only
  rw [warningFlag_str, Option.map_some]
  by_cases hwarn : startsWith name "warn_" = true
  · rw [if_pos hwarn]
    refine ⟨_, rfl, ?_⟩
    intro key
    rw [Dict.get?_set]
    by_cases hkey : key = name
    · subst hkey
      simp [qfwsValue, hwarn]
    · simp [hkey]
  · rw [if_neg hwarn]
    by_cases hfault : name ∈ ["fault_code", "fault_description"]
    · rw [if_pos hfault]
      refine ⟨_, rfl, ?_⟩
      intro key
      rw [Dict.get?_set]
      by_cases hkey : key = name
      · subst hkey
        rw [if_pos rfl, if_pos rfl]
        unfold qfwsValue
        rw [if_neg hwarn, if_pos hfault]
        rfl
      · simp [hkey]
    · rw [if_neg hfault]
      refine ⟨_, rfl, ?_⟩
      intro key
      by_cases hkey : key = name
      · subst hkey
        unfold qfwsValue
        rw [if_pos rfl, if_neg hwarn, if_neg hfault, Option.none_or]
      · simp [hkey]

theorem foldlM_addToQfws_str (entries : List (String × String))
    (hnodup : (entries.map Prod.fst).Nodup) (result : Section) :
    ∃ final, (entries.map fun entry => (entry.1, PyValue.str entry.2)).foldlM
        addToQfws result = some final ∧
      ∀ key, final.get? key =
        ((Dict.lookup key entries).bind (qfwsValue key)).or
          (result.get? key) := by
  induction entries generalizing result with
  | nil =>
      exact ⟨result, rfl, fun key => by simp [Dict.lookup]⟩
  | cons entry entries ih =>
      rw [List.map_cons, List.nodup_cons] at hnodup
      obtain ⟨next, hadd, hnext⟩ := addToQfws_str result entry
      obtain ⟨final, hfold, hfinal⟩ := ih hnodup.2 next
      refine ⟨final, ?_, ?_⟩
      · rw [List.map_cons, List.foldlM_cons, hadd]
        exact hfold
      · intro key
        rw [hfinal, hnext]
        by_cases hkey : key = entry.1
        · subst hkey
          have hrest :
              Dict.get? ⟨entries, hnodup.2⟩ entry.1 = none :=
            Dict.get?_eq_none_of_notMem hnodup.1
          unfold Dict.get? at hrest
          rw [hrest]
          simp [Dict.lookup]
        · simp [Dict.lookup, hkey, Ne.symm hkey]

theorem splitRawQfws_snapshot (snapshot : Snapshot) :
    ∃ qfws, splitRawQfws snapshot.raw = some qfws ∧
      ∀ key, qfws.get? key = (snapshot.get? key).bind (qfwsValue key) := by
  obtain ⟨qfws, hsplit, hget⟩ :=
    foldlM_addToQfws_str snapshot.entries snapshot.nodup_keys .empty
  refine ⟨qfws, hsplit, ?_⟩
  intro key
  rw [hget, Dict.get?_empty, Option.or_none]
  rfl

/-- The section has a truthy warning where the snapshot has one that is
set; its fault code is no number. -/
theorem reported_iff_warningSet {snapshot : Snapshot} {qfws : Section}
    (hget : ∀ key,
      qfws.get? key = (snapshot.get? key).bind (qfwsValue key)) :
    Reported .empty qfws ↔ WarningSet snapshot := by
  have hcode : codeGiven qfws "fault_code" = false := by
    have hplain : ¬startsWith "fault_code" "warn_" = true := by decide
    unfold codeGiven
    rw [hget]
    cases snapshot.get? "fault_code" with
    | none => rfl
    | some text =>
        rw [Option.bind_some, qfwsValue, if_neg hplain, if_pos (by decide)]
        rfl
  unfold Reported WarningSet
  rw [hcode]
  constructor
  · rintro (hfalse | ⟨entry, hmem, -⟩ | ⟨entry, hmem, hwarn, htruthy⟩)
    · cases hfalse
    · cases hmem
    · have hsome := (Dict.get?_eq_some_iff qfws).mpr hmem
      rw [hget] at hsome
      obtain ⟨text, htext, hvalue⟩ := Option.bind_eq_some_iff.mp hsome
      rw [qfwsValue, if_pos hwarn] at hvalue
      rw [← Option.some.inj hvalue] at htruthy
      exact ⟨(entry.1, text), (Dict.get?_eq_some_iff snapshot).mp htext,
        hwarn, htruthy⟩
  · rintro ⟨⟨key, text⟩, hmem, hwarn, hset⟩
    right
    right
    refine ⟨(key, .bool (textFlag text)), ?_, hwarn, hset⟩
    rw [← Dict.get?_eq_some_iff, hget,
      (Dict.get?_eq_some_iff snapshot).mpr hmem, Option.bind_some, qfwsValue,
      if_pos hwarn]

/-! ## The two sensors -/

section Sensors

variable (str : PyValue → String) (snapshot : Snapshot)

theorem split_qpiws :
    splitRawByCommand snapshot.raw "QPIWS" = some .empty := rfl

theorem split_qfws :
    splitRawByCommand snapshot.raw "QFWS" = splitRawQfws snapshot.raw := rfl

/-- Both sensors see the warnings that are set, and nothing else. -/
theorem sensors_see_warnings :
    ∃ lit state, alarm snapshot = some lit ∧
      summary str snapshot = some state ∧
      (lit = true ↔ WarningSet snapshot) ∧
      (state ≠ "OK" ↔ WarningSet snapshot) := by
  obtain ⟨qfws, hsplit, hget⟩ := splitRawQfws_snapshot snapshot
  have hreported := reported_iff_warningSet hget
  have hflags := warningFlags_splitRawQfws hsplit
  have hany := anyWarning_iff_reported statusBits_empty hflags
  obtain ⟨state, hstate, hne⟩ :=
    faultSummary_reported statusBits_empty hflags str
  refine ⟨anyWarning .empty qfws, state, ?_, ?_, ?_, ?_⟩
  · unfold alarm
    rw [split_qpiws, split_qfws, hsplit]
    rfl
  · unfold summary
    rw [split_qpiws, split_qfws, hsplit]
    exact hstate
  · rw [hany, hreported]
  · rw [hne, hreported]

variable {snapshot}

theorem WarningReported.set (hreported : WarningReported snapshot) :
    WarningSet snapshot := by
  obtain ⟨entry, hmem, hwarn, number, hnumber, hne⟩ := hreported
  refine ⟨entry, hmem, hwarn, ?_⟩
  unfold textFlag
  rw [hnumber]
  exact decide_eq_true hne

theorem NothingReported.not_set (hnothing : NothingReported snapshot) :
    ¬WarningSet snapshot := by
  rintro ⟨entry, hmem, hwarn, hset⟩
  rw [hnothing.warnings entry hmem hwarn] at hset
  exact absurd hset (by decide)

variable (snapshot)

/-- The alarm follows what is reported unless a fault comes without a
warning. -/
theorem alarmFollows_iff :
    AlarmFollows str snapshot ↔
      (FaultReported snapshot → WarningSet snapshot) := by
  obtain ⟨lit, state, halarm, hsummary, hlit, hstate⟩ :=
    sensors_see_warnings str snapshot
  constructor
  · intro hfollows hfault
    have htrue := (hfollows.lit (.inl hfault)).1
    rw [halarm] at htrue
    exact hlit.mp (Option.some.inj htrue)
  · intro hfault
    constructor
    · intro hreported
      have hset : WarningSet snapshot := by
        rcases hreported with hcode | hwarning
        · exact hfault hcode
        · exact hwarning.set
      rw [halarm, hlit.mpr hset]
      exact ⟨rfl, state, hsummary, hstate.mpr hset⟩
    · intro hnothing
      have hnot := hnothing.not_set
      have hdark : lit = false := by
        rw [← Bool.not_eq_true, hlit]
        exact hnot
      have hok : state = "OK" := by
        by_contra hne
        exact hnot (hstate.mp hne)
      rw [halarm, hsummary, hdark, hok]
      exact ⟨rfl, rfl⟩

/-- A fault without a warning, which neither sensor shows. -/
def faultOnly : Snapshot := .ofPairs [("fault_code", "5")]

theorem faultOnly_not_follows :
    ¬∀ (str : PyValue → String) (snapshot : Snapshot),
      AlarmFollows str snapshot := by
  intro hall
  have hfault : FaultReported faultOnly :=
    ⟨"5", rfl, 5, by decide, by decide⟩
  have hlit := (hall (fun _ => "") faultOnly).lit (.inl hfault)
  have hdark : alarm faultOnly = some false := by decide
  rw [hdark] at hlit
  cases hlit.1

end Sensors

end Agent
end DessMonitor
