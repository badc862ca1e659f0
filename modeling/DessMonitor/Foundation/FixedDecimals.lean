import DessMonitor.Foundation.NearestBinary
import DessMonitor.Foundation.PyFormat
import DessMonitor.Foundation.PyString

/-!
# Reading fixed decimals back

The text that a format specification with a fixed number of decimals makes of
a number, read by `float` again, is the binary number nearest to the rounded
one.
-/

namespace DessMonitor
namespace PyFormat

open DecimalRounding PyFloat

/-! ## Plain texts -/

theorem underscoresBetweenDigits_of_notMem {text : List Char}
    (hclean : '_' ∉ text) (afterDigit : Bool) :
    underscoresBetweenDigits afterDigit text = true := by
  induction text generalizing afterDigit with
  | nil => rfl
  | cons c text ih =>
      rw [List.mem_cons, not_or] at hclean
      unfold underscoresBetweenDigits
      rw [if_neg (Ne.symm hclean.1)]
      exact ih hclean.2 c.isDigit

/-- A text of digits and points. -/
def IsPlain (text : List Char) : Prop :=
  ∀ c ∈ text, 46 ≤ c.toNat ∧ c.toNat ≤ 57

namespace IsPlain

variable {text : List Char}

theorem notMem (hplain : IsPlain text) {c : Char}
    (hrange : c.toNat < 46 ∨ 57 < c.toNat) : c ∉ text := by
  intro hmem
  have hbounds := hplain c hmem
  omega

theorem map_toAscii (hplain : IsPlain text) : text.map toAscii = text := by
  have hsame : ∀ c ∈ text, toAscii c = id c := by
    intro c hmem
    have hrange := hplain c hmem
    unfold toAscii
    rw [if_pos (by omega)]
    rfl
  rw [List.map_congr_left hsame, List.map_id]

theorem map_toLower (hplain : IsPlain text) :
    text.map Char.toLower = text := by
  have hsame : ∀ c ∈ text, Char.toLower c = id c := by
    intro c hmem
    have hrange := hplain c hmem
    have hupper : ¬(c.val ≥ 'A'.val ∧ c.val ≤ 'Z'.val) := by
      rintro ⟨hlow, -⟩
      have hlow' : 65 ≤ c.toNat := hlow
      omega
    unfold Char.toLower
    rw [dif_neg hupper]
    rfl
  rw [List.map_congr_left hsame, List.map_id]

theorem strip_eq (hplain : IsPlain text) : strip text = text := by
  apply PyString.stripChars_of_forall
  intro c hmem
  have hrange := hplain c hmem
  have hne : c ≠ ' ' := by
    rintro rfl
    exact absurd hrange.1 (by decide)
  simp only [PyFloat.isSpace, Bool.or_eq_false_iff, Bool.and_eq_false_iff,
    decide_eq_false_iff_not, beq_eq_false_iff_ne]
  exact ⟨.inr (by omega), hne⟩

theorem splitSign_eq (hplain : IsPlain text) :
    splitSign text = (false, text) := by
  unfold splitSign
  split
  next rest =>
    exact absurd List.mem_cons_self (hplain.notMem (.inl (by decide)))
  next rest =>
    exact absurd List.mem_cons_self (hplain.notMem (.inl (by decide)))
  next => rfl

/-- A plain text is read as a decimal number. -/
theorem ofText?_eq (hplain : IsPlain text) :
    ofText? (.ofList text) = (decimalPart text).map ofRat := by
  have hword : ∀ word : List Char, 'n' ∈ word → text ≠ word := by
    rintro word hmem rfl
    exact hplain.notMem (.inr (by decide)) hmem
  have hunderscore : '_' ∉ text := hplain.notMem (.inr (by decide))
  have hfilter : text.filter (· ≠ '_') = text := by
    rw [List.filter_eq_self]
    intro c hmem
    have hne : c ≠ '_' := by
      rintro rfl
      exact hunderscore hmem
    simpa using hne
  have hinf : ¬(text = "inf".toList ∨ text = "infinity".toList) := by
    rintro (htext | htext)
    · exact hword _ (by decide) htext
    · exact hword _ (by decide) htext
  have hnan : ¬text = "nan".toList := hword _ (by decide)
  unfold ofText?
  rw [String.toList_ofList, hplain.map_toAscii, hplain.strip_eq]
  dsimp only
  rw [hplain.splitSign_eq]
  dsimp only
  rw [hplain.map_toLower, if_neg hinf, if_neg hnan,
    if_pos (underscoresBetweenDigits_of_notMem hunderscore false), hfilter]
  rfl

end IsPlain

/-! ## Digits -/

theorem digitsValue_eq (digits : List Char) :
    digitsValue digits = Nat.ofDigitChars 10 digits 0 := by
  rw [Nat.ofDigitChars_eq_foldl]
  simp only [Nat.mul_comm 10]
  rfl

/-- The digits behind the point. -/
def fractionDigits (places scaled : ℕ) : List Char :=
  let digits := Nat.toDigits 10 (scaled % 10 ^ places)
  List.replicate (places - digits.length) '0' ++ digits

theorem length_fractionDigits {places : ℕ} (hplaces : places ≠ 0)
    (scaled : ℕ) : (fractionDigits places scaled).length = places := by
  have hshort : (Nat.toDigits 10 (scaled % 10 ^ places)).length ≤ places := by
    rw [Nat.length_toDigits_le_iff (by decide) (Nat.pos_of_ne_zero hplaces)]
    exact Nat.mod_lt _ (by positivity)
  unfold fractionDigits
  dsimp only
  rw [List.length_append, List.length_replicate]
  omega

theorem isDigit_of_mem_fractionDigits {places scaled : ℕ} {c : Char}
    (hmem : c ∈ fractionDigits places scaled) : c.isDigit = true := by
  rcases List.mem_append.mp hmem with hzero | hdigit
  · rw [List.eq_of_mem_replicate hzero]
    rfl
  · exact Nat.isDigit_of_mem_toDigits (by decide) (by decide) hdigit

theorem digitsValue_fixed {places : ℕ} (hplaces : places ≠ 0) (scaled : ℕ) :
    digitsValue (Nat.toDigits 10 (scaled / 10 ^ places) ++
      fractionDigits places scaled) = scaled := by
  have hlength := length_fractionDigits hplaces scaled
  have hfraction : Nat.ofDigitChars 10 (fractionDigits places scaled) 0 =
      scaled % 10 ^ places := by
    unfold fractionDigits
    dsimp only
    rw [Nat.ofDigitChars_append, Nat.ofDigitChars_replicate_zero,
      Nat.mul_zero, Nat.ofDigitChars_ten_toDigits]
  rw [digitsValue_eq, Nat.ofDigitChars_append,
    Nat.ofDigitChars_ten_toDigits, Nat.ofDigitChars_eq_ofDigitChars_zero,
    hlength, hfraction]
  exact Nat.div_add_mod scaled (10 ^ places)

/-! ## The text -/

/-- The digits of a fixed text that has no sign. -/
def fixedChars (places scaled : ℕ) : List Char :=
  Nat.toDigits 10 (scaled / 10 ^ places) ++
    '.' :: fractionDigits places scaled

theorem fixed_of_nonneg {value : ℚ} (hvalue : 0 ≤ value) (places : ℕ) :
    (fixed places (.finite value)).toList =
      fixedChars places (roundHalfEven (value * 10 ^ places)).toNat := by
  unfold fixed
  dsimp only
  rw [if_neg (not_lt.mpr hvalue), abs_of_nonneg hvalue]
  simp [fixedChars, fractionDigits, padZeros]

theorem mem_fixedChars {places scaled : ℕ} {c : Char}
    (hmem : c ∈ fixedChars places scaled) : c.isDigit = true ∨ c = '.' := by
  rcases List.mem_append.mp hmem with hwhole | htail
  · exact .inl (Nat.isDigit_of_mem_toDigits (by decide) (by decide) hwhole)
  · rcases List.mem_cons.mp htail with rfl | hfraction
    · exact .inr rfl
    · exact .inl (isDigit_of_mem_fractionDigits hfraction)

theorem isPlain_fixedChars (places scaled : ℕ) :
    IsPlain (fixedChars places scaled) := by
  intro c hmem
  rcases mem_fixedChars hmem with hdigit | rfl
  · have hrange := (PyString.isDigit_iff c).mp hdigit
    omega
  · decide

theorem decimalPart_fixedChars {places : ℕ} (hplaces : places ≠ 0)
    (scaled : ℕ) :
    decimalPart (fixedChars places scaled) =
      some ((scaled : ℚ) / 10 ^ places) := by
  have hwhole : ∀ c ∈ Nat.toDigits 10 (scaled / 10 ^ places),
      c.isDigit = true := by
    intro c hmem
    exact Nat.isDigit_of_mem_toDigits (by decide) (by decide) hmem
  have hfraction : ∀ c ∈ fractionDigits places scaled, c.isDigit = true := by
    intro c hmem
    exact isDigit_of_mem_fractionDigits hmem
  have hpoint : ('.' : Char).isDigit = false := rfl
  have htake : (fixedChars places scaled).takeWhile Char.isDigit =
      Nat.toDigits 10 (scaled / 10 ^ places) := by
    unfold fixedChars
    rw [List.takeWhile_append_of_pos hwhole,
      List.takeWhile_cons_of_neg (by simp [hpoint]), List.append_nil]
  have hdrop : (fixedChars places scaled).dropWhile Char.isDigit =
      '.' :: fractionDigits places scaled := by
    unfold fixedChars
    rw [List.dropWhile_append_of_pos hwhole,
      List.dropWhile_cons_of_neg (by simp [hpoint])]
  have htakeFraction :
      (fractionDigits places scaled).takeWhile Char.isDigit =
        fractionDigits places scaled :=
    List.takeWhile_eq_self_iff.mpr hfraction
  have hdropFraction :
      (fractionDigits places scaled).dropWhile Char.isDigit = [] :=
    List.dropWhile_eq_nil_iff.mpr hfraction
  have hne : ¬(Nat.toDigits 10 (scaled / 10 ^ places) = [] ∧
      fractionDigits places scaled = []) := by
    rintro ⟨hnil, -⟩
    exact Nat.toDigits_ne_nil hnil
  simp only [decimalPart, htake, hdrop, htakeFraction, hdropFraction]
  rw [if_neg hne, digitsValue_fixed hplaces, length_fractionDigits hplaces]
  simp [exponentPart, zpow_neg, div_eq_mul_inv]

/-- A text made with a fixed number of decimals is read as the nearest binary
number. -/
theorem ofText?_fixed {value : ℚ} (hvalue : 0 ≤ value) {places : ℕ}
    (hplaces : places ≠ 0) :
    ofText? (fixed places (.finite value)) =
      some (ofRat (roundDecimals places value)) := by
  have hscaled : 0 ≤ roundHalfEven (value * 10 ^ places) := by
    have hmono := roundHalfEven_mono
      (show (0 : ℚ) ≤ value * 10 ^ places by positivity)
    rwa [roundHalfEven_zero] at hmono
  obtain ⟨scaled, hcount⟩ := Int.eq_ofNat_of_zero_le hscaled
  have htext : fixed places (.finite value) =
      .ofList (fixedChars places scaled) := by
    rw [← String.toList_inj, fixed_of_nonneg hvalue, hcount,
      String.toList_ofList, Int.toNat_natCast]
  have hround : (scaled : ℚ) / 10 ^ places = roundDecimals places value := by
    unfold roundDecimals
    rw [hcount]
    rfl
  rw [htext, (isPlain_fixedChars places scaled).ofText?_eq,
    decimalPart_fixedChars hplaces, Option.map_some, hround]

/-! ## Characters of formatted numbers -/

theorem mem_signed {width : ℕ} {negative : Bool} {digits : List Char}
    {c : Char} (hmem : c ∈ (signed width negative digits).toList) :
    c = '-' ∨ c = '0' ∨ c ∈ digits := by
  have hpadded : ∀ places : ℕ, c ∈ (padZeros places digits).toList →
      c = '0' ∨ c ∈ digits := by
    intro places hpad
    unfold padZeros at hpad
    rw [String.toList_ofList, List.mem_append] at hpad
    exact hpad.imp_left List.eq_of_mem_replicate
  unfold signed at hmem
  split at hmem
  · rw [String.toList_append, List.mem_append] at hmem
    rcases hmem with hsign | hpad
    · exact .inl (List.mem_singleton.mp hsign)
    · exact .inr (hpadded _ hpad)
  · exact .inr (hpadded _ hmem)

theorem mem_decimal {width : ℕ} {value : ℤ} {c : Char}
    (hmem : c ∈ (decimal width value).toList) :
    c = '-' ∨ c.isDigit = true := by
  rcases mem_signed hmem with hsign | rfl | hdigit
  · exact .inl hsign
  · exact .inr rfl
  · exact .inr (Nat.isDigit_of_mem_toDigits (by decide) (by decide) hdigit)

theorem mem_fixed {places : ℕ} {value : ℚ} {c : Char}
    (hmem : c ∈ (fixed places (.finite value)).toList) :
    c = '-' ∨ c = '.' ∨ c.isDigit = true := by
  have hchars : (fixed places (.finite value)).toList =
      (if value < 0 then "-" else "").toList ++
        fixedChars places (roundHalfEven (|value| * 10 ^ places)).toNat := by
    unfold fixed
    simp [fixedChars, fractionDigits, padZeros]
  rw [hchars, List.mem_append] at hmem
  rcases hmem with hsign | hdigits
  · split at hsign
    · exact .inl (List.mem_singleton.mp hsign)
    · cases hsign
  · rcases mem_fixedChars hdigits with hdigit | hpoint
    · exact .inr (.inr hdigit)
    · exact .inr (.inl hpoint)

theorem mem_fixedPadded {width places : ℕ} {value : ℚ} {c : Char}
    (hmem : c ∈ (fixedPadded width places (.finite value)).toList) :
    c = '-' ∨ c = '.' ∨ c.isDigit = true := by
  unfold fixedPadded at hmem
  split at hmem
  next digits htext =>
    rcases mem_signed hmem with hsign | rfl | hdigit
    · exact .inl hsign
    · exact .inr (.inr rfl)
    · have htextMem : c ∈ (fixed places (.finite value)).toList := by
        rw [htext]
        exact List.mem_cons_of_mem _ hdigit
      exact mem_fixed htextMem
  next =>
    rcases mem_signed hmem with hsign | rfl | hdigit
    · exact .inl hsign
    · exact .inr (.inr rfl)
    · exact mem_fixed hdigit

/-! ## Binary numbers from text -/

/-- A text that is read as a finite number is read as a binary one. -/
theorem isBinary64_of_ofText? {text : String} {number : ℚ}
    (htext : ofText? text = some (.finite number)) : IsBinary64 number := by
  unfold ofText? at htext
  dsimp only at htext
  split at htext
  · cases htext
  · split at htext
    · cases htext
    · split at htext
      · obtain ⟨magnitude, -, hround⟩ := Option.map_eq_some_iff.mp htext
        exact isBinary64_of_ofRat hround
      · cases htext

end PyFormat
end DessMonitor
