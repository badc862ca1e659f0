import DessMonitor.WarningSensors
import DessMonitor.VoltronicDecoder
import DessMonitor.Pi18Decoder
import DessMonitor.AgentSnapshot

/-!
# The two views of the warnings

The binary sensor and the summary look warnings up in different ways.  On
every section that the decoders produce they come to the same answer: a code
is given, or a warning that is not reserved is set.
-/

namespace DessMonitor
namespace Warnings

open Direct (Section)

/-! ## The merged sections -/

/-- The first section has priority in the merged one. -/
theorem get?_mergedWarnings (qpiws qfws : Section) (key : String) :
    (mergedWarnings qpiws qfws).get? key =
      (qpiws.get? key).or (qfws.get? key) := by
  have hfold : ∀ (entries : List (String × PyValue)) (merged : Section),
      (entries.foldl (fun merged entry =>
        setDefault merged entry.1 entry.2) merged).get? key =
        (merged.get? key).or (Dict.lookup key entries) := by
    intro entries
    induction entries with
    | nil =>
        intro merged
        simp [Dict.lookup]
    | cons entry entries ih =>
        intro merged
        rw [List.foldl_cons, ih, get?_setDefault, Option.or_assoc]
        by_cases hkey : key = entry.1
        · rw [if_pos hkey]
          simp [Dict.lookup, hkey]
        · rw [if_neg hkey]
          simp [Dict.lookup, Ne.symm hkey]
  exact hfold qfws.entries qpiws

section Merged

variable {qpiws qfws : Section} {key : String}

theorem codeGiven_merged_of_notMem (habsent : key ∉ qpiws.keys) :
    codeGiven (mergedWarnings qpiws qfws) key = codeGiven qfws key := by
  unfold codeGiven
  rw [get?_mergedWarnings, Dict.get?_eq_none_of_notMem habsent,
    Option.none_or]

theorem flagGiven_merged_left (habsent : key ∉ qfws.keys) :
    flagGiven (mergedWarnings qpiws qfws) key = flagGiven qpiws key := by
  unfold flagGiven
  rw [get?_mergedWarnings, Dict.get?_eq_none_of_notMem habsent,
    Option.or_none]

theorem flagGiven_merged_right (habsent : key ∉ qpiws.keys) :
    flagGiven (mergedWarnings qpiws qfws) key = flagGiven qfws key := by
  unfold flagGiven
  rw [get?_mergedWarnings, Dict.get?_eq_none_of_notMem habsent,
    Option.none_or]

theorem codeGiven_of_notMem {flags : Section} (habsent : key ∉ flags.keys) :
    codeGiven flags key = false := by
  unfold codeGiven
  rw [Dict.get?_eq_none_of_notMem habsent]
  rfl

theorem flagGiven_of_notMem {flags : Section} (habsent : key ∉ flags.keys) :
    flagGiven flags key = false := by
  unfold flagGiven
  rw [Dict.get?_eq_none_of_notMem habsent]
  rfl

theorem flagGiven_iff {flags : Section} :
    flagGiven flags key = true ↔
      ∃ entry ∈ flags.entries, entry.1 = key ∧ entry.2.truthy = true := by
  unfold flagGiven
  rw [Option.any_eq_true]
  constructor
  · rintro ⟨value, hget, htruthy⟩
    exact ⟨(key, value), (Dict.get?_eq_some_iff _).mp hget, rfl, htruthy⟩
  · rintro ⟨entry, hmem, rfl, htruthy⟩
    exact ⟨entry.2, (Dict.get?_eq_some_iff _).mpr hmem, htruthy⟩

end Merged

/-! ## What the decoders produce -/

/-- A section of the named status bits of a PI30 device. -/
structure StatusBits (flags : Section) : Prop where
  named : ∀ entry ∈ flags.entries, entry.1 ∈ Voltronic.qpiwsFields
  boolean : ∀ entry ∈ flags.entries, isBool entry.2 = true

/-- A section of `warn_` flags, with at most these other keys. -/
structure FlagsUnder (plain : List String) (flags : Section) : Prop where
  named : ∀ entry ∈ flags.entries,
    entry.1 ∈ plain ∨ PyString.startsWith entry.1 "warn_" = true
  boolean : ∀ entry ∈ flags.entries,
    PyString.startsWith entry.1 "warn_" = true → isBool entry.2 = true

/-- A section of `warn_` flags with a fault code; a fault is only said to be
there when the code says which. -/
structure WarningFlags (flags : Section) : Prop extends
    FlagsUnder ["fault_code", "fault_description", "has_fault"] flags where
  coded : flagGiven flags "has_fault" = true →
    codeGiven flags "fault_code" = true

theorem FlagsUnder.notMem_keys {plain : List String} {flags : Section}
    (hflags : FlagsUnder plain flags) {key : String}
    (hplain : key ∉ plain)
    (hwarn : PyString.startsWith key "warn_" = false) :
    key ∉ flags.keys := by
  intro hmem
  obtain ⟨entry, hentry, rfl⟩ := List.mem_map.mp hmem
  rcases hflags.named entry hentry with hkey | hkey
  · exact hplain hkey
  · rw [hwarn] at hkey
    cases hkey

theorem StatusBits.notMem_keys {flags : Section} (hbits : StatusBits flags)
    {key : String} (hkey : key ∉ Voltronic.qpiwsFields) :
    key ∉ flags.keys := by
  intro hmem
  obtain ⟨entry, hentry, rfl⟩ := List.mem_map.mp hmem
  exact hkey (hbits.named entry hentry)

theorem statusBits_empty : StatusBits .empty := by
  constructor <;> intro entry hmem <;> cases hmem

theorem statusBits_decodeQpiws (asciiStr : String) :
    StatusBits (Voltronic.decodeQpiws asciiStr) := by
  constructor
  · intro entry hmem
    exact (Voltronic.mem_decodeQpiws hmem).1
  · intro entry hmem
    obtain ⟨bit, hbit⟩ := (Voltronic.mem_decodeQpiws hmem).2
    rw [hbit]
    rfl

theorem warningFlags_empty : WarningFlags .empty := by
  constructor
  · constructor <;> intro entry hmem <;> cases hmem
  · intro hgiven
    cases hgiven

theorem warningFlags_decodeFws (tokens : List String) :
    WarningFlags (Pi18.decodeFws tokens) := by
  cases tokens with
  | nil =>
      exact warningFlags_empty
  | cons first rest =>
      constructor
      · constructor
        · intro entry hmem
          have hpair := Pi18.mem_decodeFws hmem
          simp only [List.mem_cons] at hpair
          rcases hpair with rfl | rfl | rfl | hpair
          · exact .inl (by simp)
          · exact .inl (by simp)
          · exact .inl (by simp)
          · exact .inr (Pi18.startsWith_fwsWarningFields _
              (Pi18.mem_warningPairs hpair).1)
        · intro entry hmem hwarn
          have hpair := Pi18.mem_decodeFws hmem
          simp only [List.mem_cons] at hpair
          rcases hpair with rfl | rfl | rfl | hpair
          · have hcode : PyString.startsWith "fault_code" "warn_" = false := by
              decide
            rw [hcode] at hwarn
            cases hwarn
          · have hdescription :
                PyString.startsWith "fault_description" "warn_" = false := by
              decide
            rw [hdescription] at hwarn
            cases hwarn
          · rfl
          · obtain ⟨flag, hflag⟩ := (Pi18.mem_warningPairs hpair).2
            rw [hflag]
            rfl
      · intro hfault
        obtain ⟨entry, hmem, hkey, htruthy⟩ := flagGiven_iff.mp hfault
        have hpair := Pi18.mem_decodeFws hmem
        simp only [List.mem_cons] at hpair
        unfold codeGiven
        rw [Pi18.get?_decodeFws_faultCode]
        rcases hpair with rfl | rfl | rfl | hpair
        · exact absurd hkey (by simp)
        · exact absurd hkey (by simp)
        · simpa [PyValue.truthy, isNumber] using htruthy
        · have hwarn := Pi18.startsWith_fwsWarningFields _
            (Pi18.mem_warningPairs hpair).1
          rw [hkey] at hwarn
          exact absurd hwarn (by decide)

theorem flagsUnder_addToQfws {result next : Section}
    {entry : String × PyValue}
    (hflags : FlagsUnder ["fault_code", "fault_description"] result)
    (hadd : Agent.addToQfws result entry = some next) :
    FlagsUnder ["fault_code", "fault_description"] next := by
  unfold Agent.addToQfws at hadd
  split at hadd
  next hwarn =>
    obtain ⟨flag, -, rfl⟩ := Option.map_eq_some_iff.mp hadd
    constructor
    · intro other hmem
      rcases Dict.mem_entries_set hmem with rfl | hold
      · exact .inr hwarn
      · exact hflags.named other hold
    · intro other hmem hother
      rcases Dict.mem_entries_set hmem with rfl | hold
      · rfl
      · exact hflags.boolean other hold hother
  next hwarn =>
    split at hadd
    next hplain =>
      obtain rfl := Option.some.inj hadd
      constructor
      · intro other hmem
        rcases Dict.mem_entries_set hmem with rfl | hold
        · exact .inl hplain
        · exact hflags.named other hold
      · intro other hmem hother
        rcases Dict.mem_entries_set hmem with rfl | hold
        · exact absurd hother hwarn
        · exact hflags.boolean other hold hother
    next =>
      obtain rfl := Option.some.inj hadd
      exact hflags

theorem flagsUnder_foldlM {entries : List (String × PyValue)}
    {result final : Section}
    (hflags : FlagsUnder ["fault_code", "fault_description"] result)
    (hfold : entries.foldlM Agent.addToQfws result = some final) :
    FlagsUnder ["fault_code", "fault_description"] final := by
  induction entries generalizing result with
  | nil =>
      rw [List.foldlM_nil] at hfold
      obtain rfl := Option.some.inj hfold
      exact hflags
  | cons entry entries ih =>
      rw [List.foldlM_cons] at hfold
      obtain ⟨next, hadd, hrest⟩ := Option.bind_eq_some_iff.mp hfold
      exact ih (flagsUnder_addToQfws hflags hadd) hrest

theorem warningFlags_splitRawQfws {raw qfws : Section}
    (hsplit : Agent.splitRawQfws raw = some qfws) : WarningFlags qfws := by
  have hstart : FlagsUnder ["fault_code", "fault_description"]
      (Dict.empty : Section) := by
    constructor <;> intro entry hmem <;> cases hmem
  have hflags := flagsUnder_foldlM hstart hsplit
  constructor
  · constructor
    · intro entry hmem
      rcases hflags.named entry hmem with hplain | hwarn
      · left
        simp only [List.mem_cons, List.not_mem_nil, or_false] at hplain ⊢
        tauto
      · exact .inr hwarn
    · exact hflags.boolean
  · intro hfault
    have habsent : "has_fault" ∉ qfws.keys :=
      hflags.notMem_keys (by decide) (by decide)
    rw [flagGiven_of_notMem habsent] at hfault
    cases hfault

/-! ## Reported warnings -/

/-- What both views are about. -/
def Reported (qpiws qfws : Section) : Prop :=
  codeGiven qfws "fault_code" = true ∨
    (∃ entry ∈ qpiws.entries,
      PyString.startsWith entry.1 "_reserved_" = false ∧
        entry.2.truthy = true) ∨
    ∃ entry ∈ qfws.entries, PyString.startsWith entry.1 "warn_" = true ∧
      entry.2.truthy = true

/-- Every status bit that is not reserved is in the catalogue. -/
theorem qpiwsFields_cataloged :
    ∀ key ∈ Voltronic.qpiwsFields,
      PyString.startsWith key "_reserved_" = false →
        key ∈ warningSeverityOrder.map Prod.fst := by
  decide +kernel

theorem cataloged_plain :
    ∀ key ∈ warningSeverityOrder.map Prod.fst,
      PyString.startsWith key "_reserved_" = false ∧
        PyString.startsWith key "warn_" = false ∧
        key ∉ ["fault_code", "fault_description", "has_fault"] := by
  decide +kernel

theorem qpiwsFields_plain :
    ∀ key ∈ Voltronic.qpiwsFields,
      PyString.startsWith key "warn_" = false := by
  decide +kernel

theorem startsWith_append (start text : String) :
    PyString.startsWith (start ++ text) start = true := by
  unfold PyString.startsWith
  rw [String.toList_append, List.isPrefixOf_iff_prefix]
  exact List.prefix_append _ _

section Views

variable {qpiws qfws : Section}

theorem StatusBits.notMem_warn (hbits : StatusBits qpiws) {key : String}
    (hwarn : PyString.startsWith key "warn_" = true) :
    key ∉ qpiws.keys := by
  apply hbits.notMem_keys
  intro hfield
  rw [qpiwsFields_plain key hfield] at hwarn
  cases hwarn

theorem anyWarning_iff_reported (hqpiws : StatusBits qpiws)
    (hqfws : WarningFlags qfws) :
    anyWarning qpiws qfws = true ↔ Reported qpiws qfws := by
  have hwarningCode : codeGiven qfws "warning_code" = false :=
    codeGiven_of_notMem (hqfws.notMem_keys (by decide) (by decide))
  have hhasWarning : flagGiven qfws "has_warning" = false :=
    flagGiven_of_notMem (hqfws.notMem_keys (by decide) (by decide))
  unfold anyWarning Reported
  rw [hwarningCode, hhasWarning]
  cases hcode : codeGiven qfws "fault_code" with
  | true =>
      simp
  | false =>
      have hfault : flagGiven qfws "has_fault" = false := by
        cases hgiven : flagGiven qfws "has_fault" with
        | false => rfl
        | true =>
            have hcoded := hqfws.coded hgiven
            rw [hcode] at hcoded
            cases hcoded
      rw [hfault]
      simp only [Bool.or_self, Bool.false_eq_true, if_false, false_or,
        Bool.or_eq_true, List.any_eq_true, Bool.and_eq_true,
        Bool.not_eq_true']
      constructor
      · rintro (⟨entry, hmem, ⟨-, hplain⟩, htruthy⟩ |
          ⟨entry, hmem, ⟨-, hwarn⟩, htruthy⟩)
        · exact .inl ⟨entry, hmem, hplain, htruthy⟩
        · exact .inr ⟨entry, hmem, hwarn, htruthy⟩
      · rintro (⟨entry, hmem, hplain, htruthy⟩ |
          ⟨entry, hmem, hwarn, htruthy⟩)
        · exact .inl ⟨entry, hmem, ⟨hqpiws.boolean entry hmem, hplain⟩,
            htruthy⟩
        · exact .inr ⟨entry, hmem, ⟨hqfws.boolean entry hmem hwarn, hwarn⟩,
            htruthy⟩

/-- A catalogued flag is looked up in the section it belongs to. -/
theorem flagSet_merged (hqpiws : StatusBits qpiws)
    (hqfws : WarningFlags qfws) {baseName : String}
    (hcataloged : baseName ∈ warningSeverityOrder.map Prod.fst) :
    flagSet (mergedWarnings qpiws qfws) baseName =
      (flagGiven qpiws baseName || flagGiven qfws ("warn_" ++ baseName)) := by
  obtain ⟨-, hwarn, hplain⟩ := cataloged_plain baseName hcataloged
  have hprefixed := startsWith_append "warn_" baseName
  unfold flagSet
  rw [flagGiven_merged_left (hqfws.notMem_keys hplain hwarn),
    flagGiven_merged_right (hqpiws.notMem_warn hprefixed)]

theorem mem_merged_warn_iff (hqpiws : StatusBits qpiws)
    {entry : String × PyValue}
    (hwarn : PyString.startsWith entry.1 "warn_" = true) :
    entry ∈ (mergedWarnings qpiws qfws).entries ↔ entry ∈ qfws.entries := by
  obtain ⟨key, value⟩ := entry
  have habsent := hqpiws.notMem_warn hwarn
  rw [← Dict.get?_eq_some_iff, ← Dict.get?_eq_some_iff,
    get?_mergedWarnings, Dict.get?_eq_none_of_notMem habsent,
    Option.none_or]

theorem mem_activeKeys_iff (flags : Section) (key : String) :
    key ∈ activeKeys flags ↔
      (key ∈ warningSeverityOrder.map Prod.fst ∧ flagSet flags key = true) ∨
        ∃ entry ∈ flags.entries, entry.1 = key ∧
          PyString.startsWith key "warn_" = true ∧
          entry.2.truthy = true ∧
          key ∉ warningSeverityOrder.map fun entry => "warn_" ++ entry.1 := by
  unfold activeKeys
  dsimp only
  rw [List.mem_dedup, List.mem_append]
  constructor
  · rintro (hcataloged | hother)
    · obtain ⟨entry, hentry, rfl⟩ := List.mem_map.mp hcataloged
      obtain ⟨hmem, hset⟩ := List.mem_filter.mp hentry
      exact .inl ⟨List.mem_map_of_mem hmem, hset⟩
    · obtain ⟨entry, hentry, rfl⟩ := List.mem_map.mp hother
      obtain ⟨hmem, hset⟩ := List.mem_filter.mp hentry
      simp only [Bool.and_eq_true, decide_eq_true_eq] at hset
      exact .inr ⟨entry, hmem, rfl, hset.1.1, hset.1.2, hset.2⟩
  · rintro (⟨hcataloged, hset⟩ | ⟨entry, hmem, rfl, hwarn, htruthy, hother⟩)
    · left
      obtain ⟨entry, hentry, rfl⟩ := List.mem_map.mp hcataloged
      exact List.mem_map_of_mem (List.mem_filter.mpr ⟨hentry, hset⟩)
    · right
      apply List.mem_map_of_mem
      rw [List.mem_filter]
      refine ⟨hmem, ?_⟩
      rw [hwarn, htruthy, decide_eq_true hother]
      rfl

/-- Something is counted as active exactly when a flag is set. -/
theorem activeKeys_merged_ne_nil_iff (hqpiws : StatusBits qpiws)
    (hqfws : WarningFlags qfws) :
    activeKeys (mergedWarnings qpiws qfws) ≠ [] ↔
      (∃ entry ∈ qpiws.entries,
        PyString.startsWith entry.1 "_reserved_" = false ∧
          entry.2.truthy = true) ∨
      ∃ entry ∈ qfws.entries, PyString.startsWith entry.1 "warn_" = true ∧
        entry.2.truthy = true := by
  constructor
  · intro hne
    obtain ⟨key, hkey⟩ := List.exists_mem_of_ne_nil _ hne
    rcases (mem_activeKeys_iff _ key).mp hkey with
      ⟨hcataloged, hset⟩ | ⟨entry, hmem, rfl, hwarn, htruthy, -⟩
    · rw [flagSet_merged hqpiws hqfws hcataloged, Bool.or_eq_true,
        flagGiven_iff, flagGiven_iff] at hset
      rcases hset with ⟨entry, hmem, rfl, htruthy⟩ |
        ⟨entry, hmem, heq, htruthy⟩
      · exact .inl ⟨entry, hmem, (cataloged_plain _ hcataloged).1, htruthy⟩
      · right
        refine ⟨entry, hmem, ?_, htruthy⟩
        rw [heq]
        exact startsWith_append "warn_" key
    · exact .inr ⟨entry, (mem_merged_warn_iff hqpiws hwarn).mp hmem, hwarn,
        htruthy⟩
  · rintro (⟨entry, hmem, hplain, htruthy⟩ | ⟨entry, hmem, hwarn, htruthy⟩)
    · have hcataloged := qpiwsFields_cataloged entry.1
        (hqpiws.named entry hmem) hplain
      have hgiven : flagGiven qpiws entry.1 = true :=
        flagGiven_iff.mpr ⟨entry, hmem, rfl, htruthy⟩
      apply List.ne_nil_of_mem (a := entry.1)
      rw [mem_activeKeys_iff, flagSet_merged hqpiws hqfws hcataloged, hgiven]
      exact .inl ⟨hcataloged, rfl⟩
    · by_cases hknown : entry.1 ∈
          warningSeverityOrder.map fun entry => "warn_" ++ entry.1
      · obtain ⟨known, hcatalog, heq⟩ := List.mem_map.mp hknown
        have hcataloged : known.1 ∈ warningSeverityOrder.map Prod.fst :=
          List.mem_map_of_mem hcatalog
        have hgiven : flagGiven qfws ("warn_" ++ known.1) = true :=
          flagGiven_iff.mpr ⟨entry, hmem, heq.symm, htruthy⟩
        apply List.ne_nil_of_mem (a := known.1)
        rw [mem_activeKeys_iff, flagSet_merged hqpiws hqfws hcataloged,
          hgiven, Bool.or_true]
        exact .inl ⟨hcataloged, rfl⟩
      · apply List.ne_nil_of_mem (a := entry.1)
        rw [mem_activeKeys_iff]
        exact .inr ⟨entry, (mem_merged_warn_iff hqpiws hwarn).mpr hmem, rfl,
          hwarn, htruthy, hknown⟩

theorem append_ne_ok {start : String} {first : Char} (rest : String)
    (hfirst : start.toList.head? = some first) (hne : first ≠ 'O') :
    start ++ rest ≠ "OK" := by
  intro htext
  have hchars := congrArg (fun text : String => text.toList.head?) htext
  rw [String.toList_append, List.head?_append, hfirst,
    Option.some_or] at hchars
  exact hne (Option.some.inj hchars)

/-- The text of a summary is `OK` only when there is nothing to report. -/
theorem text_eq_ok_iff (str : PyValue → String) (summary : Summary) :
    summary.text str = "OK" ↔ summary = .ok := by
  have hfault : "Fault: ".toList.head? = some 'F' := rfl
  have hwarning : "Warning: ".toList.head? = some 'W' := rfl
  have hcode : "Warning: SMG-II code 0x".toList.head? = some 'W' := rfl
  constructor
  · intro htext
    unfold Summary.text at htext
    split at htext
    · rfl
    · exact absurd htext (append_ne_ok _ hfault (by decide))
    · exact absurd htext (append_ne_ok _ hcode (by decide))
    · rw [String.append_assoc] at htext
      exact absurd htext (append_ne_ok _ hwarning (by decide))
    · split at htext
      · simp only [String.append_assoc] at htext
        exact absurd htext (append_ne_ok _ hwarning (by decide))
      · exact absurd htext (append_ne_ok _ hwarning (by decide))
  · rintro rfl
    rfl

theorem faultSummary_reported (hqpiws : StatusBits qpiws)
    (hqfws : WarningFlags qfws) (str : PyValue → String) :
    ∃ state, faultSummary str qpiws qfws = some state ∧
      (state ≠ "OK" ↔ Reported qpiws qfws) := by
  have hfaultCode : codeGiven (mergedWarnings qpiws qfws) "fault_code" =
      codeGiven qfws "fault_code" :=
    codeGiven_merged_of_notMem (hqpiws.notMem_keys (by decide))
  have hwarningCode :
      codeGiven (mergedWarnings qpiws qfws) "warning_code" = false := by
    rw [codeGiven_merged_of_notMem (hqpiws.notMem_keys (by decide))]
    exact codeGiven_of_notMem (hqfws.notMem_keys (by decide) (by decide))
  have hactive := activeKeys_merged_ne_nil_iff hqpiws hqfws
  have hsummary : ∃ summary,
      summarize (mergedWarnings qpiws qfws) = some summary ∧
        (summary ≠ .ok ↔ Reported qpiws qfws) := by
    unfold summarize Reported
    rw [hfaultCode, hwarningCode, ← hactive]
    cases codeGiven qfws "fault_code" with
    | true =>
        exact ⟨_, rfl, by simp⟩
    | false =>
        simp only [Bool.false_eq_true, if_false, false_or]
        by_cases hnil : activeKeys (mergedWarnings qpiws qfws) = []
        · exact ⟨.ok, by simp [hnil], by simp [hnil]⟩
        · exact ⟨_, if_neg (by simpa using hnil), by simp [hnil]⟩
  obtain ⟨summary, hsome, hiff⟩ := hsummary
  refine ⟨summary.text str, ?_, ?_⟩
  · unfold faultSummary
    rw [hsome]
    rfl
  · rw [← hiff, not_iff_not]
    exact text_eq_ok_iff str summary

end Views

/-! ## Agreement -/

/-- The QPIWS sections that can be stored. -/
inductive QpiwsSection : Section → Prop where
  | empty : QpiwsSection .empty
  | decoded (asciiStr : String) :
      QpiwsSection (Voltronic.decodeQpiws asciiStr)

/-- The QFWS sections that can be stored. -/
inductive QfwsSection : Section → Prop where
  | empty : QfwsSection .empty
  | decoded (tokens : List String) : QfwsSection (Pi18.decodeFws tokens)
  | split (raw qfws : Section)
      (hsplit : Agent.splitRawQfws raw = some qfws) : QfwsSection qfws

theorem QpiwsSection.statusBits {flags : Section}
    (hsection : QpiwsSection flags) : StatusBits flags := by
  cases hsection with
  | empty => exact statusBits_empty
  | decoded asciiStr => exact statusBits_decodeQpiws asciiStr

theorem QfwsSection.warningFlags {flags : Section}
    (hsection : QfwsSection flags) : WarningFlags flags := by
  cases hsection with
  | empty => exact warningFlags_empty
  | decoded tokens => exact warningFlags_decodeFws tokens
  | split raw _ hsplit => exact warningFlags_splitRawQfws hsplit

/-- The binary sensor is on exactly when the summary is not `OK`. -/
theorem alarm_views_agree (str : PyValue → String) (qpiws qfws : Section)
    (hqpiws : QpiwsSection qpiws) (hqfws : QfwsSection qfws) :
    ∃ state, faultSummary str qpiws qfws = some state ∧
      (anyWarning qpiws qfws = true ↔ state ≠ "OK") := by
  have hbits := hqpiws.statusBits
  have hflags := hqfws.warningFlags
  obtain ⟨state, hstate, hiff⟩ := faultSummary_reported hbits hflags str
  refine ⟨state, hstate, ?_⟩
  rw [anyWarning_iff_reported hbits hflags, hiff]

theorem alarm_views_agree_overload :
    ∃ state, faultSummary (fun _ => "") (Voltronic.decodeQpiws "0000")
        (Pi18.decodeFws ["00", "0", "0", "0", "0", "0", "0", "0", "1"]) =
          some state ∧
      (anyWarning (Voltronic.decodeQpiws "0000")
        (Pi18.decodeFws ["00", "0", "0", "0", "0", "0", "0", "0", "1"]) =
          true ↔ state ≠ "OK") :=
  alarm_views_agree _ _ _ (.decoded "0000") (.decoded _)

end Warnings
end DessMonitor
