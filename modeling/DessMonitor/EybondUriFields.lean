import DessMonitor.EybondUri
import DessMonitor.Foundation.UrlQuery

/-!
# Fields of an EyBond URI

Both the child of a hub and a device of its own write the address to announce
on and the address to announce as query fields, and leave out what is the
default.
-/

namespace DessMonitor
namespace Eybond

open PyString

/-- Digits and dots, as in a dotted quad. -/
structure DottedText (text : List Char) : Prop where
  nonempty : text ≠ []
  chars : ∀ c ∈ text, c.isDigit = true ∨ c = '.'

section Fields

variable {text : List Char}

theorem DottedText.toNat (htext : DottedText text) {c : Char}
    (hmem : c ∈ text) : 46 ≤ c.toNat ∧ c.toNat ≤ 57 := by
  rcases htext.chars c hmem with hdigit | rfl
  · have hrange := (isDigit_iff c).mp hdigit
    omega
  · decide

theorem DottedText.notMem (htext : DottedText text) {c : Char}
    (hc : c.toNat < 46 ∨ 57 < c.toNat) : c ∉ text := by
  intro hmem
  have hrange := htext.toNat hmem
  omega

theorem DottedText.plainField (htext : DottedText text) {name : List Char}
    (hname : Url.PlainName name) : Url.PlainField (name, text) where
  name := hname
  nonempty := htext.nonempty
  ampersand := htext.notMem (by decide)
  read := Url.unquotePlus_of_plain
    (Url.hasEscape_of_notMem (htext.notMem (by decide)))
    (htext.notMem (by decide))

theorem DottedText.stripped (htext : DottedText text) :
    stripChars isSpace text = text := by
  apply stripChars_of_forall
  intro c hmem
  rcases htext.chars c hmem with hdigit | rfl
  · exact not_isSpace_of_isDigit hdigit
  · decide

theorem plainName_of_clean {name : List Char} (hequals : '=' ∉ name)
    (hampersand : '&' ∉ name) (hpercent : '%' ∉ name) (hplus : '+' ∉ name) :
    Url.PlainName name :=
  ⟨hequals, hampersand,
    Url.unquotePlus_of_plain (Url.hasEscape_of_notMem hpercent) hplus⟩

theorem plainName_pn : Url.PlainName "pn".toList :=
  plainName_of_clean (by decide) (by decide) (by decide) (by decide)

theorem plainName_broadcast : Url.PlainName "broadcast".toList :=
  plainName_of_clean (by decide) (by decide) (by decide) (by decide)

theorem plainName_announce : Url.PlainName "announce".toList :=
  plainName_of_clean (by decide) (by decide) (by decide) (by decide)

end Fields

/-! ## Addresses -/

def optionalField (name value : String) : List (List Char × List Char) :=
  if value = "" then [] else [(name.toList, value.toList)]

def addressFields (broadcast announce : String) :
    List (List Char × List Char) :=
  optionalField "broadcast"
      (if broadcast = defaultBroadcast then "" else broadcast) ++
    optionalField "announce" announce

theorem name_of_mem_optionalField {name value : String}
    {field : List Char × List Char}
    (hmem : field ∈ optionalField name value) :
    field.1 = name.toList ∧ field.2 = value.toList ∧ value ≠ "" := by
  unfold optionalField at hmem
  split at hmem
  · cases hmem
  next hne =>
    obtain rfl := List.mem_singleton.mp hmem
    exact ⟨rfl, rfl, hne⟩

theorem fieldValue_optionalField (name value : String) :
    Url.fieldValue (optionalField name value) name =
      if value = "" then none else some value.toList := by
  unfold optionalField
  split_ifs
  · rfl
  · exact Url.fieldValue_cons_same value.toList

section Addresses

variable {broadcast announce : String}

theorem mem_addressFields {field : List Char × List Char}
    (hbroadcast : DottedText broadcast.toList)
    (hannounce : announce ≠ "" → DottedText announce.toList)
    (hmem : field ∈ addressFields broadcast announce) :
    (field.1 = "broadcast".toList ∨ field.1 = "announce".toList) ∧
      DottedText field.2 := by
  rcases List.mem_append.mp hmem with hmem | hmem
  · obtain ⟨hname, hvalue, hne⟩ := name_of_mem_optionalField hmem
    split at hvalue
    next hdefault =>
      rw [if_pos hdefault] at hne
      exact absurd rfl hne
    · rw [hvalue]
      exact ⟨.inl hname, hbroadcast⟩
  · obtain ⟨hname, hvalue, hne⟩ := name_of_mem_optionalField hmem
    rw [hvalue]
    exact ⟨.inr hname, hannounce hne⟩

theorem plain_addressFields (hbroadcast : DottedText broadcast.toList)
    (hannounce : announce ≠ "" → DottedText announce.toList) :
    ∀ field ∈ addressFields broadcast announce, Url.PlainField field := by
  rintro ⟨name, text⟩ hmem
  obtain ⟨hname, hdotted⟩ := mem_addressFields hbroadcast hannounce hmem
  dsimp only at hname hdotted
  rcases hname with rfl | rfl
  · exact hdotted.plainField plainName_broadcast
  · exact hdotted.plainField plainName_announce

theorem fieldValue_broadcast (hbroadcast : broadcast ≠ "") :
    Url.fieldValue (addressFields broadcast announce) "broadcast" =
      if broadcast = defaultBroadcast then none
      else some broadcast.toList := by
  have hother : ∀ field ∈ optionalField "announce" announce,
      field.1 ≠ "broadcast".toList := by
    intro field hmem
    rw [(name_of_mem_optionalField hmem).1]
    decide
  unfold addressFields
  by_cases hdefault : broadcast = defaultBroadcast
  · rw [if_pos hdefault, if_pos hdefault]
    exact Url.fieldValue_of_other hother
  · rw [if_neg hdefault, if_neg hdefault, optionalField, if_neg hbroadcast]
    exact Url.fieldValue_cons_same broadcast.toList

theorem fieldValue_announce :
    Url.fieldValue (addressFields broadcast announce) "announce" =
      if announce = "" then none else some announce.toList := by
  have hother : ∀ field ∈ optionalField "broadcast"
      (if broadcast = defaultBroadcast then "" else broadcast),
      field.1 ≠ "announce".toList := by
    intro field hmem
    rw [(name_of_mem_optionalField hmem).1]
    decide
  unfold addressFields
  rw [Url.fieldValue_append_other hother, fieldValue_optionalField]

/-- A default that is left out is read as the default. -/
theorem broadcast_read (hbroadcast : broadcast ≠ "") :
    ((Url.fieldValue (addressFields broadcast announce) "broadcast").map
      String.ofList).getD defaultBroadcast = broadcast := by
  rw [fieldValue_broadcast hbroadcast]
  by_cases hdefault : broadcast = defaultBroadcast
  · rw [if_pos hdefault, hdefault]
    rfl
  · rw [if_neg hdefault, Option.map_some, String.ofList_toList]
    rfl

theorem announce_read :
    ((Url.fieldValue (addressFields broadcast announce) "announce").map
      String.ofList).getD "" = announce := by
  rw [fieldValue_announce]
  by_cases hempty : announce = ""
  · rw [if_pos hempty, hempty]
    rfl
  · rw [if_neg hempty, Option.map_some, String.ofList_toList]
    rfl

/-- The characters of the fields survive `urlparse`. -/
theorem addressFields_kept (hbroadcast : DottedText broadcast.toList)
    (hannounce : announce ≠ "" → DottedText announce.toList) :
    ∀ c ∈ Url.renderTail (addressFields broadcast announce),
      Url.isKept c = true ∧ c ≠ '#' := by
  refine Url.forall_mem_renderTail
    (P := fun c => Url.isKept c = true ∧ c ≠ '#') (by decide) (by decide) ?_
  intro field hmem
  obtain ⟨hname, hdotted⟩ := mem_addressFields hbroadcast hannounce hmem
  constructor
  · rcases hname with hname | hname
    · rw [hname]
      exact forall_mem_of_all (by decide)
    · rw [hname]
      exact forall_mem_of_all (by decide)
  · intro c hc
    have hrange := hdotted.toNat hc
    refine ⟨Url.isKept_of_toNat (by omega), ?_⟩
    rintro rfl
    exact absurd hrange (by decide)

end Addresses

end Eybond
end DessMonitor
