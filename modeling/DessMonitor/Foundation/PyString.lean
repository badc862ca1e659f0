import DessMonitor.Foundation.Delimited
import DessMonitor.Foundation.PythonValue

/-!
# Text operations

The string methods of Python that the sources use, on lists of characters.
-/

namespace DessMonitor
namespace PyString

/-- `str.isspace` on one character. -/
def isSpace (c : Char) : Bool :=
  (9 ≤ c.toNat && c.toNat ≤ 13) || (0x1c ≤ c.toNat && c.toNat ≤ 0x20) ||
    PyFloat.isWideSpace c

def stripChars (drop : Char → Bool) (text : List Char) : List Char :=
  ((text.dropWhile drop).reverse.dropWhile drop).reverse

/-- `text.strip()`. -/
def strip (text : String) : String :=
  .ofList (stripChars isSpace text.toList)

/-- Python's `left or right` on texts. -/
def orElse (left right : String) : String :=
  if left = "" then right else left

/-- `text.startswith(start)`. -/
def startsWith (text start : String) : Bool :=
  start.toList.isPrefixOf text.toList

/-- `text.partition(separator)`, with whether the separator was found. -/
def partition (separator : Char) (text : List Char) :
    List Char × Bool × List Char :=
  let head := text.takeWhile (· ≠ separator)
  match text.dropWhile (· ≠ separator) with
  | [] => (head, false, [])
  | _ :: tail => (head, true, tail)

/-- The part of `text` after the last separator, or all of it. -/
def afterLast (separator : Char) (text : List Char) : List Char :=
  (text.reverse.takeWhile (· ≠ separator)).reverse

/-- `text.split(separator)`. -/
def split (separator : Char) : List Char → List (List Char)
  | [] => [[]]
  | c :: rest =>
      if c = separator then [] :: split separator rest
      else
        match split separator rest with
        | [] => [[c]]
        | first :: more => (c :: first) :: more

/-- `int(text)`; `none` is `ValueError`.  Unlike `str.strip`, it does not pass
over the separators U+001C to U+001F. -/
def toInt? (text : List Char) : Option ℤ :=
  let stripped := PyFloat.strip (text.map PyFloat.toAscii)
  let (negative, body) := PyFloat.splitSign stripped
  let digits := body.filter (· ≠ '_')
  if digits ≠ [] ∧ digits.all Char.isDigit ∧ digits.length ≤ 4300 ∧
      PyFloat.underscoresBetweenDigits false body then
    let value : ℤ := PyFloat.digitsValue digits
    some (if negative then -value else value)
  else none

/-- `part in text`. -/
def contains (text part : List Char) : Bool :=
  text.tails.any part.isPrefixOf

/-- `text.split(marker, 1)` into the two parts of its first marker. -/
def splitOnce (marker : List Char) : List Char → Option (List Char × List Char)
  | [] => if marker = [] then some ([], []) else none
  | c :: rest =>
      if marker.isPrefixOf (c :: rest) then
        some ([], (c :: rest).drop marker.length)
      else (splitOnce marker rest).map fun parts => (c :: parts.1, parts.2)

/-! ## Rules -/

/-- A property of the characters of a fixed text is decided along the text. -/
theorem forall_mem_of_all {P : Char → Prop} [DecidablePred P]
    {text : List Char} (hall : text.all (fun c => decide (P c)) = true) :
    ∀ c ∈ text, P c := by
  intro c hmem
  exact of_decide_eq_true (List.all_eq_true.mp hall c hmem)

section Rules

variable {separator : Char} {head tail text : List Char}

theorem dropWhile_ne_append (hclean : separator ∉ head) :
    (head ++ separator :: tail).dropWhile (· ≠ separator) =
      separator :: tail := by
  induction head with
  | nil => simp
  | cons c head ih =>
      rw [List.mem_cons, not_or] at hclean
      have hne : c ≠ separator := Ne.symm hclean.1
      simpa [hne] using ih hclean.2

theorem dropWhile_eq_cons (hclean : separator ∉ text) :
    (separator :: text).dropWhile (· = separator) = text := by
  rw [List.dropWhile_cons_of_pos (by simp)]
  cases text with
  | nil => rfl
  | cons c text =>
      rw [List.mem_cons, not_or] at hclean
      have hne : c ≠ separator := Ne.symm hclean.1
      rw [List.dropWhile_cons_of_neg (by simpa using hne)]

theorem dropWhile_ne_of_notMem (hclean : separator ∉ text) :
    text.dropWhile (· ≠ separator) = [] := by
  rw [List.dropWhile_eq_nil_iff]
  intro c hmem
  have hne : c ≠ separator := by
    rintro rfl
    exact hclean hmem
  simpa using hne

theorem partition_fst (separator : Char) (text : List Char) :
    (partition separator text).1 = text.takeWhile (· ≠ separator) := by
  unfold partition
  dsimp only
  split <;> rfl

theorem partition_append (hclean : separator ∉ head) :
    partition separator (head ++ separator :: tail) = (head, true, tail) := by
  have hbody : (head ++ separator :: tail).takeWhile (· ≠ separator) = head :=
    Delimited.body_append_cons hclean
  unfold partition
  rw [hbody, dropWhile_ne_append hclean]

theorem partition_of_notMem (hclean : separator ∉ text) :
    partition separator text = (text, false, []) := by
  have hbody : text.takeWhile (· ≠ separator) = text :=
    Delimited.body_of_notMem hclean
  unfold partition
  rw [hbody, dropWhile_ne_of_notMem hclean]

/-- The first part goes on as long as there is no separator. -/
theorem partition_fst_append (hclean : separator ∉ head) (text : List Char) :
    (partition separator (head ++ text)).1 =
      head ++ (partition separator text).1 := by
  have hself := Delimited.body_of_notMem hclean
  unfold Delimited.body at hself
  rw [partition_fst, partition_fst, List.takeWhile_append, hself]
  simp

theorem partition_fst_append_of_mem (hmem : separator ∈ head)
    (text : List Char) :
    (partition separator (head ++ text)).1 =
      (partition separator head).1 := by
  rw [partition_fst, partition_fst]
  exact Delimited.body_append_of_mem hmem

theorem partition_append_self (separator : Char) (text : List Char) :
    (partition separator text).1 ++
      (if (partition separator text).2.1 then
        separator :: (partition separator text).2.2 else []) = text := by
  by_cases hmem : separator ∈ text
  · obtain ⟨head, tail, rfl, hhead⟩ := List.eq_append_cons_of_mem hmem
    rw [partition_append hhead]
    rfl
  · rw [partition_of_notMem hmem]
    simp

theorem notMem_partition_fst (separator : Char) (text : List Char) :
    separator ∉ (partition separator text).1 := by
  rw [partition_fst]
  exact Delimited.delimiter_notMem_body separator text

theorem mem_of_mem_partition {separator c : Char} {text : List Char}
    (hmem : c ∈ (partition separator text).1 ∨
      c ∈ (partition separator text).2.2) : c ∈ text := by
  have hwhole := partition_append_self separator text
  rw [← hwhole]
  rcases hmem with hhead | htail
  · exact List.mem_append_left _ hhead
  · apply List.mem_append_right
    by_cases hfound : separator ∈ text
    · obtain ⟨head, tail, rfl, hclean⟩ := List.eq_append_cons_of_mem hfound
      rw [partition_append hclean] at htail ⊢
      exact List.mem_cons_of_mem _ htail
    · rw [partition_of_notMem hfound] at htail
      cases htail

theorem mem_of_mem_afterLast {separator c : Char} {text : List Char}
    (hmem : c ∈ afterLast separator text) : c ∈ text ∧ c ≠ separator := by
  unfold afterLast at hmem
  rw [List.mem_reverse] at hmem
  refine ⟨List.mem_reverse.mp ((List.takeWhile_sublist _).subset hmem), ?_⟩
  simpa using List.mem_takeWhile_imp hmem

theorem afterLast_of_notMem (hclean : separator ∉ text) :
    afterLast separator text = text := by
  have hreverse : separator ∉ text.reverse := by
    simpa using hclean
  have hbody : text.reverse.takeWhile (· ≠ separator) = text.reverse :=
    Delimited.body_of_notMem hreverse
  unfold afterLast
  rw [hbody, List.reverse_reverse]

theorem split_of_notMem (hclean : separator ∉ text) :
    split separator text = [text] := by
  induction text with
  | nil => rfl
  | cons c text ih =>
      rw [List.mem_cons, not_or] at hclean
      unfold split
      rw [if_neg (Ne.symm hclean.1), ih hclean.2]

theorem split_append (hhead : separator ∉ head) (htail : separator ∉ tail) :
    split separator (head ++ separator :: tail) = [head, tail] := by
  induction head with
  | nil =>
      rw [List.nil_append, split, if_pos rfl, split_of_notMem htail]
  | cons c head ih =>
      rw [List.mem_cons, not_or] at hhead
      rw [List.cons_append, split, if_neg (Ne.symm hhead.1), ih hhead.2]

theorem split_ne_nil (separator : Char) (text : List Char) :
    split separator text ≠ [] := by
  cases text with
  | nil => simp [split]
  | cons c text =>
      unfold split
      split
      · simp
      · split <;> simp

theorem split_cons_of_ne {c : Char} {first : List Char}
    {more : List (List Char)} (hne : c ≠ separator)
    (hparts : split separator text = first :: more) :
    split separator (c :: text) = (c :: first) :: more := by
  rw [split, if_neg hne, hparts]

/-- The parts of both sides of a separator. -/
theorem split_append_cons (separator : Char) (head tail : List Char) :
    split separator (head ++ separator :: tail) =
      split separator head ++ split separator tail := by
  induction head with
  | nil =>
      have hempty : split separator [] = [[]] := rfl
      rw [List.nil_append, hempty, split, if_pos rfl, List.singleton_append]
  | cons c head ih =>
      cases hparts : split separator head with
      | nil => exact absurd hparts (split_ne_nil separator head)
      | cons first more =>
          rw [hparts] at ih
          by_cases hc : c = separator
          · subst hc
            rw [List.cons_append, split, if_pos rfl, ih]
            rw [split, if_pos rfl, hparts]
            rfl
          · rw [List.cons_append, split_cons_of_ne hc ih,
              split_cons_of_ne hc hparts]
            rfl

theorem sublist_of_mem_split {part : List Char}
    (hpart : part ∈ split separator text) : part.Sublist text := by
  induction text generalizing part with
  | nil =>
      obtain rfl := List.mem_singleton.mp hpart
      exact .slnil
  | cons c text ih =>
      unfold split at hpart
      split at hpart
      · rcases List.mem_cons.mp hpart with rfl | hpart
        · exact List.nil_sublist _
        · exact (ih hpart).cons c
      · cases hparts : split separator text with
        | nil => exact absurd hparts (split_ne_nil separator text)
        | cons first more =>
            rw [hparts] at hpart ih
            rcases List.mem_cons.mp hpart with rfl | hmore
            · exact (ih List.mem_cons_self).cons_cons c
            · exact (ih (List.mem_cons_of_mem _ hmore)).cons c

theorem splitOnce_append (marker text : List Char) :
    splitOnce marker (marker ++ text) = some ([], text) := by
  cases hall : marker ++ text with
  | nil =>
      obtain ⟨rfl, rfl⟩ := List.append_eq_nil_iff.mp hall
      rfl
  | cons c rest =>
      have hstart : marker.isPrefixOf (c :: rest) = true := by
        rw [List.isPrefixOf_iff_prefix, ← hall]
        exact List.prefix_append marker text
      unfold splitOnce
      rw [if_pos hstart, ← hall, List.drop_left]

/-- A map that neither makes nor loses a separator keeps the parts. -/
theorem partition_map {f : Char → Char}
    (hfixed : ∀ c, f c = separator ↔ c = separator) (text : List Char) :
    partition separator (text.map f) =
      ((partition separator text).1.map f, (partition separator text).2.1,
        (partition separator text).2.2.map f) := by
  have hself : f separator = separator := (hfixed separator).mpr rfl
  have hclean : ∀ {part : List Char}, separator ∉ part →
      separator ∉ part.map f := by
    intro part hpart hmem
    obtain ⟨c, hc, himage⟩ := List.mem_map.mp hmem
    rw [(hfixed c).mp himage] at hc
    exact hpart hc
  by_cases hmem : separator ∈ text
  · obtain ⟨head, tail, rfl, hhead⟩ := List.eq_append_cons_of_mem hmem
    rw [List.map_append, List.map_cons, hself,
      partition_append (hclean hhead), partition_append hhead]
  · rw [partition_of_notMem (hclean hmem), partition_of_notMem hmem]
    rfl

theorem afterLast_map {f : Char → Char}
    (hfixed : ∀ c, f c = separator ↔ c = separator) (text : List Char) :
    afterLast separator (text.map f) = (afterLast separator text).map f := by
  have hparts := congrArg Prod.fst (partition_map hfixed text.reverse)
  rw [partition_fst, partition_fst] at hparts
  unfold afterLast
  rw [← List.map_reverse, hparts, List.map_reverse]

theorem split_eq_singleton {part : List Char}
    (hparts : split separator text = [part]) :
    text = part ∧ separator ∉ text := by
  by_cases hmem : separator ∈ text
  · obtain ⟨head, tail, rfl, hhead⟩ := List.eq_append_cons_of_mem hmem
    rw [split_append_cons, split_of_notMem hhead] at hparts
    exact absurd (List.cons.inj hparts).2 (split_ne_nil separator tail)
  · rw [split_of_notMem hmem] at hparts
    exact ⟨(List.cons.inj hparts).1, hmem⟩

theorem split_eq_pair {left right : List Char}
    (hparts : split separator text = [left, right]) :
    text = left ++ separator :: right ∧ separator ∉ left ∧
      separator ∉ right := by
  by_cases hmem : separator ∈ text
  · obtain ⟨head, tail, rfl, hhead⟩ := List.eq_append_cons_of_mem hmem
    rw [split_append_cons, split_of_notMem hhead] at hparts
    obtain ⟨rfl, hrest⟩ := List.cons.inj hparts
    obtain ⟨rfl, htail⟩ := split_eq_singleton hrest
    exact ⟨rfl, hhead, htail⟩
  · rw [split_of_notMem hmem] at hparts
    cases (List.cons.inj hparts).2

/-- The text before a separator and the text after it are determined. -/
theorem append_separator_inj {head' tail' : List Char}
    (hhead : separator ∉ head) (hhead' : separator ∉ head') :
    head ++ separator :: tail = head' ++ separator :: tail' ↔
      head = head' ∧ tail = tail' := by
  constructor
  · intro heq
    have hparts := congrArg (partition separator) heq
    rw [partition_append hhead, partition_append hhead'] at hparts
    simpa using hparts
  · rintro ⟨rfl, rfl⟩
    rfl

end Rules

/-! ## Numbers -/

theorem isDigit_iff (c : Char) :
    c.isDigit = true ↔ 48 ≤ c.toNat ∧ c.toNat ≤ 57 := by
  simp only [Char.isDigit, Bool.and_eq_true, decide_eq_true_eq]
  exact Iff.rfl

theorem not_isSpace_of_isDigit {c : Char} (hdigit : c.isDigit = true) :
    isSpace c = false := by
  rw [isDigit_iff] at hdigit
  simp only [isSpace, PyFloat.isWideSpace, Bool.or_eq_false_iff,
    Bool.and_eq_false_iff, decide_eq_false_iff_not, beq_eq_false_iff_ne]
  omega

theorem stripChars_sublist (drop : Char → Bool) (text : List Char) :
    (stripChars drop text).Sublist text := by
  have hfront := List.dropWhile_sublist drop (l := text)
  have hback := List.dropWhile_sublist drop
    (l := (text.dropWhile drop).reverse)
  unfold stripChars
  rw [← List.reverse_sublist, List.reverse_reverse]
  exact hback.trans hfront.reverse

theorem stripChars_of_forall {drop : Char → Bool} {text : List Char}
    (hkeep : ∀ c ∈ text, drop c = false) : stripChars drop text = text := by
  have hself : ∀ other : List Char, (∀ c ∈ other, drop c = false) →
      other.dropWhile drop = other := by
    intro other hother
    cases other with
    | nil => rfl
    | cons c rest =>
        rw [List.dropWhile_cons_of_neg]
        rw [hother c List.mem_cons_self]
        decide
  unfold stripChars
  rw [hself text hkeep, hself text.reverse (by simpa using hkeep),
    List.reverse_reverse]

/-- What is stripped off stands around the rest. -/
theorem exists_stripChars (drop : Char → Bool) (text : List Char) :
    ∃ before after, (∀ c ∈ before, drop c = true) ∧
      (∀ c ∈ after, drop c = true) ∧
      text = before ++ stripChars drop text ++ after := by
  have hdropped : ∀ list : List Char, ∀ c ∈ list.takeWhile drop,
      drop c = true := fun _ _ => List.mem_takeWhile_imp
  refine ⟨text.takeWhile drop,
    ((text.dropWhile drop).reverse.takeWhile drop).reverse, hdropped text,
    ?_, ?_⟩
  · intro c hmem
    exact hdropped _ c (List.mem_reverse.1 hmem)
  · unfold stripChars
    rw [List.append_assoc, ← List.reverse_append,
      List.takeWhile_append_dropWhile, List.reverse_reverse,
      List.takeWhile_append_dropWhile]

theorem underscoresBetweenDigits_of_digits {digits : List Char}
    (hdigits : ∀ c ∈ digits, c.isDigit = true) (afterDigit : Bool) :
    PyFloat.underscoresBetweenDigits afterDigit digits = true := by
  induction digits generalizing afterDigit with
  | nil => rfl
  | cons c digits ih =>
      have hc := hdigits c List.mem_cons_self
      have hne : c ≠ '_' := by
        rintro rfl
        exact absurd hc (by decide)
      unfold PyFloat.underscoresBetweenDigits
      rw [if_neg hne, hc]
      exact ih (fun other hmem => hdigits other (List.mem_cons_of_mem c hmem))
        true

/-- A text of digits is the number it denotes. -/
theorem toInt?_of_digits {digits : List Char} (hne : digits ≠ [])
    (hlength : digits.length ≤ 4300)
    (hdigits : ∀ c ∈ digits, c.isDigit = true) :
    toInt? digits = some (PyFloat.digitsValue digits : ℤ) := by
  have hstrip : PyFloat.strip digits = digits := by
    change stripChars PyFloat.isSpace digits = digits
    apply stripChars_of_forall
    intro c hmem
    have hrange := (isDigit_iff c).mp (hdigits c hmem)
    have hspace : c ≠ ' ' := by
      rintro rfl
      exact absurd hrange.1 (by decide)
    simp only [PyFloat.isSpace, Bool.or_eq_false_iff, Bool.and_eq_false_iff,
      decide_eq_false_iff_not, beq_eq_false_iff_ne]
    exact ⟨.inr (by omega), hspace⟩
  have hascii : digits.map PyFloat.toAscii = digits := by
    have hsame : ∀ c ∈ digits, PyFloat.toAscii c = id c := by
      intro c hmem
      have hrange := (isDigit_iff c).mp (hdigits c hmem)
      unfold PyFloat.toAscii
      rw [if_pos (by omega)]
      rfl
    rw [List.map_congr_left hsame, List.map_id]
  have hsign : PyFloat.splitSign digits = (false, digits) := by
    unfold PyFloat.splitSign
    split
    next rest =>
      exact absurd (hdigits '-' List.mem_cons_self) (by decide)
    next rest =>
      exact absurd (hdigits '+' List.mem_cons_self) (by decide)
    next => rfl
  have hfilter : digits.filter (· ≠ '_') = digits := by
    rw [List.filter_eq_self]
    intro c hmem
    have hc := hdigits c hmem
    have hnot : c ≠ '_' := by
      rintro rfl
      exact absurd hc (by decide)
    simpa using hnot
  have hall : digits.all Char.isDigit = true := by
    rw [List.all_eq_true]
    exact hdigits
  unfold toInt?
  dsimp only
  rw [hascii, hstrip, hsign]
  dsimp only
  rw [hfilter, if_pos ⟨hne, hall, hlength,
    underscoresBetweenDigits_of_digits hdigits false⟩]
  rfl

end PyString
end DessMonitor
