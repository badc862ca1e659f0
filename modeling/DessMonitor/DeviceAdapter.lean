import DessMonitor.DeviceUri

/-!
# The adapter of a text

Every scheme has one adapter, which finds its address behind the scheme.
-/

namespace DessMonitor
namespace Device

open PyString Url

/-! ## Characters of a host -/

theorem toNat_of_isHostChar {c : Char} (hchar : isHostChar c = true) :
    (c.toNat = 45 ∨ c.toNat = 46 ∨ c.toNat = 95) ∨
      (48 ≤ c.toNat ∧ c.toNat ≤ 57) ∨ (65 ≤ c.toNat ∧ c.toNat ≤ 90) ∨
        (97 ≤ c.toNat ∧ c.toNat ≤ 122) := by
  simp only [isHostChar, Bool.or_eq_true, decide_eq_true_eq] at hchar
  rcases hchar with (((hletter | hdigit) | rfl) | rfl) | rfl
  · have hrange := range_of_isAsciiLetter hletter
    omega
  · have hrange := (isDigit_iff c).mp hdigit
    omega
  · decide
  · decide
  · decide

theorem isPlain_of_toNat {c : Char} (hlow : 0x21 ≤ c.toNat)
    (hhigh : c.toNat ≤ 0x7e) (hslash : c.toNat ≠ 47) (hquestion : c.toNat ≠ 63)
    (hhash : c.toNat ≠ 35) (hopen : c.toNat ≠ 91) (hclose : c.toNat ≠ 93) :
    isPlain c = true := by
  simp only [isPlain, isDelimiter, Bool.and_eq_true, Bool.not_eq_true',
    decide_eq_true_eq, decide_eq_false_iff_not, not_or]
  refine ⟨⟨⟨hlow, hhigh⟩, ?_, ?_, ?_⟩, ?_, ?_⟩ <;> rintro rfl
  · exact hslash rfl
  · exact hquestion rfl
  · exact hhash rfl
  · exact hopen rfl
  · exact hclose rfl

theorem isPlain_of_isHostChar {c : Char} (hchar : isHostChar c = true) :
    isPlain c = true := by
  have hrange := toNat_of_isHostChar hchar
  apply isPlain_of_toNat <;> omega

theorem isPlain_of_isDigit {c : Char} (hdigit : c.isDigit = true) :
    isPlain c = true := by
  have hrange := (isDigit_iff c).mp hdigit
  apply isPlain_of_toNat <;> omega

theorem notMem_of_isHostChar {text : List Char}
    (hchars : ∀ c ∈ text, isHostChar c = true) {c : Char}
    (hother : isHostChar c = false) : c ∉ text := by
  intro hmem
  rw [hchars c hmem] at hother
  cases hother

theorem notMem_of_isDigit {text : List Char}
    (hchars : ∀ c ∈ text, c.isDigit = true) {c : Char}
    (hother : c.isDigit = false) : c ∉ text := by
  intro hmem
  rw [hchars c hmem] at hother
  cases hother

/-! ## The start of a text -/

theorem contains_append (before part after : List Char) :
    contains (before ++ (part ++ after)) part = true := by
  unfold contains
  rw [List.any_eq_true]
  refine ⟨part ++ after, ?_, ?_⟩
  · rw [List.mem_tails]
    exact List.suffix_append before (part ++ after)
  · rw [List.isPrefixOf_iff_prefix]
    exact List.prefix_append part after

theorem startsWith_ofList (text : List Char) (start : String) :
    startsWith (.ofList text) start = start.toList.isPrefixOf text := by
  unfold startsWith
  rw [String.toList_ofList]

/-! Every scheme has one adapter, whatever follows it. -/

section Adapters

variable (body : List Char)

theorem getAdapter_agent :
    getAdapter (.ofList ("agent".toList ++ ':' :: '/' :: '/' :: body)) =
      .agent := by
  unfold getAdapter
  simp only [startsWith_ofList]
  rfl

theorem getAdapter_modbus :
    getAdapter (.ofList ("modbus".toList ++ ':' :: '/' :: '/' :: body)) =
      .modbus := by
  unfold getAdapter
  simp only [startsWith_ofList]
  rfl

theorem getAdapter_pi18 :
    getAdapter (.ofList ("pi18".toList ++ ':' :: '/' :: '/' :: body)) =
      .pi18 := by
  unfold getAdapter
  simp only [startsWith_ofList]
  rfl

theorem getAdapter_pi18Serial :
    getAdapter (.ofList ("pi18-serial".toList ++ ':' :: '/' :: '/' :: body)) =
      .pi18 := by
  unfold getAdapter
  simp only [startsWith_ofList]
  rfl

theorem getAdapter_tcp :
    getAdapter (.ofList ("tcp".toList ++ ':' :: '/' :: '/' :: body)) =
      .voltronic := by
  unfold getAdapter
  simp only [startsWith_ofList]
  rfl

theorem getAdapter_eybond :
    getAdapter (.ofList ("eybond".toList ++ ':' :: '/' :: '/' :: body)) =
      .eybond := by
  unfold getAdapter
  simp only [startsWith_ofList]
  rfl

theorem getAdapter_eybondPi18 :
    getAdapter (.ofList ("eybond-pi18".toList ++ ':' :: '/' :: '/' :: body)) =
      .eybond := by
  unfold getAdapter
  simp only [startsWith_ofList]
  rfl

/-- The starts that the factory, or an adapter after it, asks for. -/
def knownStarts : List String :=
  ["agent://", "modbus://", "eybond-modbus://", "pi18://", "pi18-serial://",
    "tcp://", "eybond://", "eybond-pi18://"]

def Schemeless (uri : String) : Prop :=
  ∀ start ∈ knownStarts, startsWith uri start = false

theorem startsWith_of_notMem {uri : String} {c : Char} {start : String}
    (hstart : c ∈ start.toList) (huri : c ∉ uri.toList) :
    startsWith uri start = false := by
  cases hstarts : startsWith uri start with
  | false => rfl
  | true =>
      unfold startsWith at hstarts
      rw [List.isPrefixOf_iff_prefix] at hstarts
      exact absurd (hstarts.subset hstart) huri

theorem schemeless_of_notMem {uri : String} {c : Char}
    (hstarts : ∀ start ∈ knownStarts, c ∈ start.toList)
    (huri : c ∉ uri.toList) : Schemeless uri := by
  intro start hmem
  exact startsWith_of_notMem (hstarts start hmem) huri

theorem Schemeless.getAdapter {uri : String} (hschemeless : Schemeless uri) :
    getAdapter uri = .voltronic := by
  unfold Device.getAdapter
  rw [hschemeless "agent://" (by decide),
    hschemeless "modbus://" (by decide),
    hschemeless "eybond-modbus://" (by decide),
    hschemeless "pi18://" (by decide),
    hschemeless "pi18-serial://" (by decide),
    hschemeless "eybond://" (by decide),
    hschemeless "eybond-pi18://" (by decide)]
  rfl

end Adapters

/-- Host and port are read around the only colon. -/
theorem parseHostPort_append (marker : String) {host digits : List Char}
    {number : ℤ} (hhost : ':' ∉ host) (hdigits : ':' ∉ digits)
    (hnumber : toInt? digits = some number) :
    parseHostPort marker
        (.ofList (marker.toList ++ (host ++ ':' :: digits))) =
      some (host, number) := by
  unfold parseHostPort
  rw [String.toList_ofList, splitOnce_append]
  dsimp only [Option.bind_eq_bind, Option.bind_some]
  rw [split_append hhost hdigits]
  dsimp only
  rw [hnumber]
  rfl

theorem parsePi18SerialUri_append (path : List Char) :
    parsePi18SerialUri (.ofList
      ("pi18-serial".toList ++ ':' :: '/' :: '/' :: path)) = some path := by
  have htext : (String.ofList
      ("pi18-serial".toList ++ ':' :: '/' :: '/' :: path)).toList =
        "pi18-serial://".toList ++ path := String.toList_ofList
  unfold parsePi18SerialUri
  rw [htext, splitOnce_append]
  rfl

theorem ofList_ne_empty {text : List Char} (hne : text ≠ []) :
    String.ofList text ≠ "" := by
  intro hempty
  have hchars := congrArg String.toList hempty
  rw [String.toList_ofList] at hchars
  exact hne hchars

end Device
end DessMonitor
