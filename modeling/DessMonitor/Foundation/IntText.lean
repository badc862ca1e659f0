import DessMonitor.Foundation.Url

/-!
# Text that is read as an integer

`int` passes over spaces on both sides of a number.  What is left consists of
digits, a sign and underscores, so that a text of this form is not changed by
a reader that drops spaces, lowers letters or cuts at a delimiter.
-/

namespace DessMonitor
namespace PyString

/-! ## Stripping -/

section Strip

variable {drop : Char → Bool} {before core behind : List Char}

theorem dropWhile_append_of_forall
    (hbefore : ∀ c ∈ before, drop c = true) (text : List Char) :
    (before ++ text).dropWhile drop = text.dropWhile drop := by
  induction before with
  | nil => rfl
  | cons c before ih =>
      rw [List.cons_append,
        List.dropWhile_cons_of_pos (hbefore c List.mem_cons_self)]
      exact ih fun other hmem => hbefore other (List.mem_cons_of_mem c hmem)

theorem dropWhile_append_of_forall_not (hcore : ∀ c ∈ core, drop c = false)
    (hnonempty : core ≠ []) (text : List Char) :
    (core ++ text).dropWhile drop = core ++ text := by
  cases core with
  | nil => exact absurd rfl hnonempty
  | cons c core =>
      rw [List.cons_append, List.dropWhile_cons_of_neg]
      simp [hcore c List.mem_cons_self]

/-- Stripping gives what stands between the dropped characters. -/
theorem stripChars_append (hbefore : ∀ c ∈ before, drop c = true)
    (hcore : ∀ c ∈ core, drop c = false) (hnonempty : core ≠ [])
    (hbehind : ∀ c ∈ behind, drop c = true) :
    stripChars drop (before ++ (core ++ behind)) = core := by
  have hback : ∀ c ∈ behind.reverse, drop c = true := by
    simpa using hbehind
  have hreversed : ∀ c ∈ core.reverse, drop c = false := by
    simpa using hcore
  have hself := dropWhile_append_of_forall_not hreversed
    (by simpa using hnonempty) []
  rw [List.append_nil] at hself
  unfold stripChars
  rw [dropWhile_append_of_forall hbefore,
    dropWhile_append_of_forall_not hcore hnonempty, List.reverse_append,
    dropWhile_append_of_forall hback, hself, List.reverse_reverse]

end Strip

/-! ## Characters -/

/-- A space to `int`, whatever alphabet it is from. -/
def isIntSpace (c : Char) : Bool := PyFloat.isSpace (PyFloat.toAscii c)

/-- A digit of any alphabet, a sign or an underscore. -/
def isNumeral (c : Char) : Bool :=
  (PyFloat.toAscii c).isDigit || PyFloat.toAscii c = '_' ||
    PyFloat.toAscii c = '+' || PyFloat.toAscii c = '-'

theorem not_isIntSpace_of_isNumeral {c : Char} (hnumeral : isNumeral c = true) :
    isIntSpace c = false := by
  have hspace : ∀ other : Char, other.isDigit = true →
      PyFloat.isSpace other = false := by
    intro other hdigit
    have hrange := (isDigit_iff other).mp hdigit
    have hne : other ≠ ' ' := by
      rintro rfl
      exact absurd hrange.1 (by decide)
    simp only [PyFloat.isSpace, Bool.or_eq_false_iff, Bool.and_eq_false_iff,
      decide_eq_false_iff_not, beq_eq_false_iff_ne]
    exact ⟨.inr (by omega), hne⟩
  unfold isIntSpace
  simp only [isNumeral, Bool.or_eq_true, decide_eq_true_eq] at hnumeral
  rcases hnumeral with ((hdigit | heq) | heq) | heq
  · exact hspace _ hdigit
  · rw [heq]; decide
  · rw [heq]; decide
  · rw [heq]; decide

/-- Only signs precede the digits and underscores of a number. -/
theorem mem_splitSign {text : List Char} {c : Char} (hmem : c ∈ text) :
    c ∈ (PyFloat.splitSign text).2 ∨ c = '+' ∨ c = '-' := by
  unfold PyFloat.splitSign
  split
  next rest =>
    rcases List.mem_cons.mp hmem with rfl | hrest
    · exact .inr (.inr rfl)
    · exact .inl hrest
  next rest =>
    rcases List.mem_cons.mp hmem with rfl | hrest
    · exact .inr (.inl rfl)
    · exact .inl hrest
  next => exact .inl hmem

section Reading

variable {text : List Char} {number : ℤ}

/-- A text that is read as an integer is a number between spaces. -/
theorem toInt?_parts (hread : toInt? text = some number) :
    ∃ before core behind, text = before ++ (core ++ behind) ∧ core ≠ [] ∧
      (∀ c ∈ before, isIntSpace c = true) ∧ (∀ c ∈ core, isNumeral c = true) ∧
        ∀ c ∈ behind, isIntSpace c = true := by
  obtain ⟨before, behind, hbefore, hbehind, hsplit⟩ :=
    exists_stripChars PyFloat.isSpace (text.map PyFloat.toAscii)
  rw [List.append_assoc] at hsplit
  unfold toInt? at hread
  dsimp only at hread
  split at hread
  case isFalse => cases hread
  case isTrue hdigits =>
  have hnumeral : ∀ a ∈ PyFloat.strip (text.map PyFloat.toAscii),
      a.isDigit = true ∨ a = '_' ∨ a = '+' ∨ a = '-' := by
    intro a hmem
    rcases mem_splitSign hmem with hbody | hsign
    · by_cases hunderscore : a = '_'
      · exact .inr (.inl hunderscore)
      · have hfiltered : a ∈ (PyFloat.splitSign
            (PyFloat.strip (text.map PyFloat.toAscii))).2.filter (· ≠ '_') :=
          List.mem_filter.mpr ⟨hbody, by simpa using hunderscore⟩
        exact .inl (List.all_eq_true.mp hdigits.2.1 a hfiltered)
    · exact .inr (.inr hsign)
  have hcore : PyFloat.strip (text.map PyFloat.toAscii) ≠ [] := by
    intro hnil
    rw [hnil] at hdigits
    exact hdigits.1 rfl
  -- The parts of the mapped text are the images of parts of the text.
  obtain ⟨textBefore, rest, rfl, hmapBefore, hrest⟩ :=
    List.map_eq_append_iff.mp hsplit
  obtain ⟨textCore, textBehind, rfl, hmapCore, hmapBehind⟩ :=
    List.map_eq_append_iff.mp hrest
  have hstrip : textCore.map PyFloat.toAscii = PyFloat.strip
      ((textBefore ++ (textCore ++ textBehind)).map PyFloat.toAscii) :=
    hmapCore
  refine ⟨textBefore, textCore, textBehind, rfl, ?_, ?_, ?_, ?_⟩
  · rintro rfl
    exact hcore hstrip.symm
  · intro c hmem
    exact hbefore _ (hmapBefore ▸ List.mem_map_of_mem hmem)
  · intro c hmem
    have himage := hnumeral _ (hstrip ▸ List.mem_map_of_mem hmem)
    simpa [isNumeral, or_assoc] using himage
  · intro c hmem
    exact hbehind _ (hmapBehind ▸ List.mem_map_of_mem hmem)

/-- The spaces around a number do not count. -/
theorem toInt?_append {before core behind : List Char} (hcore : core ≠ [])
    (hbefore : ∀ c ∈ before, isIntSpace c = true)
    (hnumeral : ∀ c ∈ core, isNumeral c = true)
    (hbehind : ∀ c ∈ behind, isIntSpace c = true) :
    toInt? (before ++ (core ++ behind)) = toInt? core := by
  have hmapped : ∀ {part : List Char}, (∀ c ∈ part, isIntSpace c = true) →
      ∀ c ∈ part.map PyFloat.toAscii, PyFloat.isSpace c = true := by
    intro part hpart c hmem
    obtain ⟨original, horiginal, rfl⟩ := List.mem_map.mp hmem
    exact hpart original horiginal
  have hkept : ∀ c ∈ core.map PyFloat.toAscii, PyFloat.isSpace c = false := by
    intro c hmem
    obtain ⟨original, horiginal, rfl⟩ := List.mem_map.mp hmem
    exact not_isIntSpace_of_isNumeral (hnumeral original horiginal)
  have hnonempty : core.map PyFloat.toAscii ≠ [] := by
    simpa using hcore
  have hwhole : PyFloat.strip
      ((before ++ (core ++ behind)).map PyFloat.toAscii) =
        core.map PyFloat.toAscii := by
    rw [List.map_append, List.map_append]
    exact stripChars_append (hmapped hbefore) hkept hnonempty (hmapped hbehind)
  have hself : PyFloat.strip (core.map PyFloat.toAscii) =
      core.map PyFloat.toAscii := stripChars_of_forall hkept
  unfold toInt?
  rw [hwhole, hself]

/-- A reader that drops some of the spaces finds the same number. -/
theorem toInt?_filter {keep : Char → Bool}
    (hkeep : ∀ c, isIntSpace c = false → keep c = true)
    (hread : toInt? text = some number) :
    toInt? (text.filter keep) = some number := by
  obtain ⟨before, core, behind, rfl, hcore, hbefore, hnumeral, hbehind⟩ :=
    toInt?_parts hread
  have hself : core.filter keep = core := by
    rw [List.filter_eq_self]
    intro c hmem
    exact hkeep c (not_isIntSpace_of_isNumeral (hnumeral c hmem))
  rw [toInt?_append hcore hbefore hnumeral hbehind] at hread
  rw [List.filter_append, List.filter_append, hself,
    toInt?_append hcore (fun c hmem => hbefore c (List.mem_of_mem_filter hmem))
      hnumeral (fun c hmem => hbehind c (List.mem_of_mem_filter hmem)), hread]

/-! ## As part of an authority -/

/-- What is neither of another alphabet nor a letter nor a mark of a URL. -/
theorem isNumeral_or_isIntSpace (hread : toInt? text = some number) {c : Char}
    (hmem : c ∈ text) : isNumeral c = true ∨ isIntSpace c = true := by
  obtain ⟨before, core, behind, rfl, -, hbefore, hnumeral, hbehind⟩ :=
    toInt?_parts hread
  rcases List.mem_append.mp hmem with hmem | hmem
  · exact .inr (hbefore c hmem)
  · rcases List.mem_append.mp hmem with hmem | hmem
    · exact .inl (hnumeral c hmem)
    · exact .inr (hbehind c hmem)

/-- ASCII text is read as it is. -/
theorem toAscii_of_toNat {c : Char} (hascii : c.toNat < 127) :
    PyFloat.toAscii c = c := by
  unfold PyFloat.toAscii
  rw [if_pos hascii]

/-- A character that is none of `int`'s is not in a text that it reads. -/
theorem notMem_of_toInt? (hread : toInt? text = some number) {c : Char}
    (hnumeral : isNumeral c = false) (hspace : isIntSpace c = false) :
    c ∉ text := by
  intro hmem
  rcases isNumeral_or_isIntSpace hread hmem with hyes | hyes
  · rw [hnumeral] at hyes
    cases hyes
  · rw [hspace] at hyes
    cases hyes

theorem toLower_of_toInt? (hread : toInt? text = some number) :
    text.map Char.toLower = text := by
  have hsame : ∀ c ∈ text, Char.toLower c = id c := by
    intro c hmem
    unfold Char.toLower
    split
    next hupper =>
      have hlow : 65 ≤ c.toNat := hupper.1
      have hhigh : c.toNat ≤ 90 := hupper.2
      have hself := toAscii_of_toNat (c := c) (by omega)
      rcases isNumeral_or_isIntSpace hread hmem with hyes | hyes
      · simp only [isNumeral, hself, Bool.or_eq_true, decide_eq_true_eq,
          isDigit_iff] at hyes
        rcases hyes with ((hdigit | rfl) | rfl) | rfl
        · omega
        · exact absurd hhigh (by decide)
        · exact absurd hlow (by decide)
        · exact absurd hlow (by decide)
      · simp only [isIntSpace, hself, PyFloat.isSpace, Bool.or_eq_true,
          Bool.and_eq_true, decide_eq_true_eq, beq_iff_eq] at hyes
        rcases hyes with hcontrol | rfl
        · omega
        · exact absurd hlow (by decide)
    next => rfl
  rw [List.map_congr_left hsame, List.map_id]

theorem not_hidesDelimiter_of_toInt? (hread : toInt? text = some number) :
    text.any Url.hidesDelimiter = false := by
  rw [List.any_eq_false]
  intro c hmem hhides
  -- Each of these characters is a question mark to `int`.
  have hmark : ∀ code ∈ [0x2047, 0x2048, 0x2049, 0x2100, 0x2101, 0x2105,
      0x2106, 0x2a74, 0xfe13, 0xfe16, 0xfe55, 0xfe56, 0xfe5f, 0xfe6b, 0xff03,
      0xff0f, 0xff1a, 0xff1f, 0xff20],
      isNumeral (Char.ofNat code) = false ∧
        isIntSpace (Char.ofNat code) = false := by
    decide
  unfold Url.hidesDelimiter at hhides
  rw [List.contains_eq_mem, decide_eq_true_eq] at hhides
  have hother := hmark c.toNat hhides
  rw [Char.ofNat_toNat] at hother
  exact notMem_of_toInt? hread hother.1 hother.2 hmem

end Reading

end PyString
end DessMonitor
