import DessMonitor.Foundation.Url

/-!
# Reading a query back

`unquote` never lengthens a text, and it keeps a text exactly if there is no
escape in it.  A query of plain fields is therefore read back as it was
written, and a value that comes back unchanged was plain.
-/

namespace DessMonitor
namespace Url

open PyString

/-! ## Escapes -/

def startsEscape : List Char → Bool
  | '%' :: high :: low :: _ => isHexDigit high && isHexDigit low
  | _ => false

/-- There is a percent sign with two hexadecimal digits. -/
def hasEscape : List Char → Bool
  | [] => false
  | c :: rest => startsEscape (c :: rest) || hasEscape rest

theorem hasEscape_cons (c : Char) (rest : List Char) :
    hasEscape (c :: rest) = (startsEscape (c :: rest) || hasEscape rest) := rfl

theorem isHexDigit_ascii {c : Char} (hhex : isHexDigit c = true) :
    c.toNat < 128 := by
  simp only [isHexDigit, Bool.or_eq_true, Bool.and_eq_true,
    decide_eq_true_eq] at hhex
  rcases hhex with (hdigit | ⟨-, hhigh⟩) | ⟨-, hhigh⟩
  · have hrange := (isDigit_iff c).mp hdigit
    omega
  · have hle : c.toNat ≤ 102 := hhigh
    omega
  · have hle : c.toNat ≤ 70 := hhigh
    omega

theorem hasEscape_of_notMem {text : List Char} (hpercent : '%' ∉ text) :
    hasEscape text = false := by
  induction text with
  | nil => rfl
  | cons c rest ih =>
      rw [List.mem_cons, not_or] at hpercent
      have hstart : startsEscape (c :: rest) = false := by
        unfold startsEscape
        split
        next heq => exact absurd (List.cons.inj heq).1.symm hpercent.1
        next => rfl
      rw [hasEscape_cons, hstart, ih hpercent.2]
      rfl

/-- No escape stretches over a character outside ASCII. -/
theorem hasEscape_append_wide {c : Char} (hwide : 128 ≤ c.toNat)
    (head tail : List Char) :
    hasEscape (head ++ c :: tail) = (hasEscape head || hasEscape tail) := by
  have hhex : isHexDigit c = false := by
    cases hexact : isHexDigit c with
    | false => rfl
    | true => exact absurd (isHexDigit_ascii hexact) (by omega)
  have hpercent : c ≠ '%' := by
    rintro rfl
    exact absurd hwide (by decide)
  induction head with
  | nil =>
      have hstart : startsEscape (c :: tail) = false := by
        unfold startsEscape
        split
        next heq => exact absurd (List.cons.inj heq).1 hpercent
        next => rfl
      rw [List.nil_append, hasEscape_cons, hstart]
      rfl
  | cons first head ih =>
      have hstart : startsEscape (first :: (head ++ c :: tail)) =
          startsEscape (first :: head) := by
        match head with
        | [] =>
            cases tail with
            | nil => simp [startsEscape]
            | cons next tail =>
                by_cases hfirst : first = '%'
                · subst hfirst
                  simp [startsEscape, hhex]
                · simp [startsEscape, hfirst]
        | [second] =>
            by_cases hfirst : first = '%'
            · subst hfirst
              simp [startsEscape, hhex]
            · simp [startsEscape, hfirst]
        | second :: third :: head =>
            by_cases hfirst : first = '%'
            · subst hfirst
              rfl
            · simp [startsEscape, hfirst]
      rw [List.cons_append, hasEscape_cons, hasEscape_cons, hstart, ih,
        Bool.or_assoc]

/-! ## Bytes -/

theorem unquoteToBytes_cons {c : Char} {rest : List Char}
    (hplain : startsEscape (c :: rest) = false) :
    unquoteToBytes (c :: rest) = c.toNat :: unquoteToBytes rest := by
  match rest with
  | [] => simp [unquoteToBytes]
  | [second] => simp [unquoteToBytes]
  | high :: low :: rest =>
      by_cases hpercent : c = '%'
      · subst hpercent
        have hnot : ¬ (isHexDigit high = true ∧ isHexDigit low = true) := by
          simpa [startsEscape] using hplain
        rw [unquoteToBytes, if_neg hnot]
      · simp [unquoteToBytes, hpercent]

theorem unquoteToBytes_escape {text : List Char}
    (hescape : startsEscape text = true) :
    ∃ byte high low rest, text = '%' :: high :: low :: rest ∧
      unquoteToBytes text = byte :: unquoteToBytes rest := by
  unfold startsEscape at hescape
  split at hescape
  next high low rest =>
    have hhex : isHexDigit high = true ∧ isHexDigit low = true := by
      simpa using hescape
    exact ⟨_, high, low, rest, rfl, by rw [unquoteToBytes, if_pos hhex]⟩
  next => cases hescape

theorem unquoteToBytes_length_le (text : List Char) :
    (unquoteToBytes text).length ≤ text.length := by
  induction hlength : text.length using Nat.strong_induction_on
    generalizing text with
  | _ length ih =>
      subst hlength
      cases text with
      | nil => simp [unquoteToBytes]
      | cons c rest =>
          cases hescape : startsEscape (c :: rest) with
          | true =>
              obtain ⟨byte, high, low, more, htext, hbytes⟩ :=
                unquoteToBytes_escape hescape
              have hlength : (c :: rest).length = more.length + 3 := by
                rw [htext]
                rfl
              have hmore := ih more.length (by omega) more rfl
              rw [hbytes, hlength, List.length_cons]
              omega
          | false =>
              have hrest := ih rest.length (by simp) rest rfl
              rw [unquoteToBytes_cons hescape]
              simpa using hrest

theorem unquoteToBytes_length_lt {text : List Char}
    (hescape : hasEscape text = true) :
    (unquoteToBytes text).length < text.length := by
  induction text with
  | nil => cases hescape
  | cons c rest ih =>
      cases hstart : startsEscape (c :: rest) with
      | true =>
          obtain ⟨byte, high, low, more, htext, hbytes⟩ :=
            unquoteToBytes_escape hstart
          have hmore := unquoteToBytes_length_le more
          rw [hbytes, htext]
          simp only [List.length_cons]
          omega
      | false =>
          rw [hasEscape_cons, hstart, Bool.false_or] at hescape
          have hrest := ih hescape
          rw [unquoteToBytes_cons hstart]
          simpa using hrest

theorem unquoteToBytes_of_plain {text : List Char}
    (hplain : hasEscape text = false) :
    unquoteToBytes text = text.map Char.toNat := by
  induction text with
  | nil => rfl
  | cons c rest ih =>
      rw [hasEscape_cons, Bool.or_eq_false_iff] at hplain
      rw [unquoteToBytes_cons hplain.1, ih hplain.2, List.map_cons]

/-! ## Text -/

/-- A first byte is a character, or it opens a sequence. -/
theorem openSequence_cases (byte : ℕ) :
    (∃ c, openSequence byte = ([c], none)) ∨
      ∃ sequence, openSequence byte = ([], some sequence) := by
  unfold openSequence
  split
  · exact .inl ⟨_, rfl⟩
  split
  · exact .inr ⟨_, rfl⟩
  split
  · exact .inr ⟨_, rfl⟩
  split
  · exact .inr ⟨_, rfl⟩
  · exact .inl ⟨_, rfl⟩

theorem openSequence_length (byte : ℕ) :
    (openSequence byte).1.length + (openSequence byte).2.toList.length =
      1 := by
  rcases openSequence_cases byte with ⟨c, hopened⟩ | ⟨sequence, hopened⟩
  · rw [hopened]
    rfl
  · rw [hopened]
    rfl

/-- A sequence of bytes is at most as many characters. -/
theorem decodeFrom_length_le (unfinished : Option Partial)
    (bytes : List ℕ) :
    (decodeFrom unfinished bytes).length ≤
      bytes.length + unfinished.toList.length := by
  induction bytes generalizing unfinished with
  | nil => cases unfinished <;> simp [decodeFrom]
  | cons byte rest ih =>
      have hopened := openSequence_length byte
      have hrest := ih (openSequence byte).2
      cases unfinished with
      | none =>
          simp only [decodeFrom, List.length_append, List.length_cons,
            Option.toList_none, List.length_nil]
          omega
      | some sequence =>
          simp only [decodeFrom, Option.toList_some, List.length_cons,
            List.length_nil]
          split
          · split
            · have hdone := ih none
              simp only [Option.toList_none, List.length_nil] at hdone
              simp only [List.length_cons]
              omega
            · have hmore := ih (some ⟨sequence.missing - 1,
                sequence.value * 64 + (byte - 0x80), 0x80, 0xbf⟩)
              simp only [Option.toList_some, List.length_singleton] at hmore
              omega
          · simp only [List.length_append, List.length_cons]
            omega

theorem decodeUtf8_length_le (bytes : List ℕ) :
    (decodeUtf8 bytes).length ≤ bytes.length :=
  decodeFrom_length_le none bytes

theorem decodeUtf8_ascii {text : List Char}
    (hascii : ∀ c ∈ text, c.toNat < 128) :
    decodeUtf8 (text.map Char.toNat) = text := by
  induction text with
  | nil => rfl
  | cons c text ih =>
      obtain ⟨hc, htext⟩ := List.forall_mem_cons.mp hascii
      have hopened : openSequence c.toNat = ([c], none) := by
        rw [openSequence, if_pos (by omega), Char.ofNat_toNat]
      have hrest : decodeFrom none (text.map Char.toNat) = text := ih htext
      rw [decodeUtf8, List.map_cons, decodeFrom, hopened, hrest]
      rfl

section Runs

variable {run : List Char}

theorem unquoteFrom_length_le (run text : List Char) :
    (unquoteFrom run text).length ≤ run.length + text.length := by
  have hflush : ∀ run : List Char,
      (decodeUtf8 (unquoteToBytes run.reverse)).length ≤ run.length := by
    intro run
    have hbytes := unquoteToBytes_length_le run.reverse
    rw [List.length_reverse] at hbytes
    exact (decodeUtf8_length_le _).trans hbytes
  induction text generalizing run with
  | nil => exact hflush run
  | cons c rest ih =>
      unfold unquoteFrom
      split
      · have hrest := ih (c :: run)
        simp only [List.length_cons] at hrest ⊢
        omega
      · have hrest := ih []
        have hrun := hflush run
        simp only [List.length_append, List.length_cons,
          List.length_nil] at hrest ⊢
        omega

/-- An escape makes the text shorter. -/
theorem unquoteFrom_length_lt (run : List Char) {text : List Char}
    (hescape : hasEscape (run.reverse ++ text) = true) :
    (unquoteFrom run text).length < run.length + text.length := by
  induction text generalizing run with
  | nil =>
      rw [List.append_nil] at hescape
      have hbytes := unquoteToBytes_length_lt hescape
      rw [List.length_reverse] at hbytes
      exact (decodeUtf8_length_le _).trans_lt hbytes
  | cons c rest ih =>
      unfold unquoteFrom
      split
      · have hmoved : hasEscape ((c :: run).reverse ++ rest) = true := by
          simpa using hescape
        have hrest := ih (c :: run) hmoved
        simp only [List.length_cons] at hrest ⊢
        omega
      next hwide =>
        rw [hasEscape_append_wide (not_lt.mp hwide), Bool.or_eq_true] at hescape
        have hrun := decodeUtf8_length_le (unquoteToBytes run.reverse)
        have hbytes := unquoteToBytes_length_le run.reverse
        have hrest := unquoteFrom_length_le [] rest
        simp only [List.length_reverse, List.length_append, List.length_cons,
          List.length_nil] at hbytes hrest ⊢
        rcases hescape with hbefore | hafter
        · have hshorter := unquoteToBytes_length_lt hbefore
          rw [List.length_reverse] at hshorter
          omega
        · have hshorter := ih [] hafter
          simp only [List.length_nil] at hshorter
          omega

theorem unquoteFrom_of_plain (run : List Char) {text : List Char}
    (hascii : ∀ c ∈ run, c.toNat < 128)
    (hplain : hasEscape (run.reverse ++ text) = false) :
    unquoteFrom run text = run.reverse ++ text := by
  have hflush : ∀ run : List Char, (∀ c ∈ run, c.toNat < 128) →
      hasEscape run.reverse = false →
        decodeUtf8 (unquoteToBytes run.reverse) = run.reverse := by
    intro run hrun hnone
    rw [unquoteToBytes_of_plain hnone, decodeUtf8_ascii]
    intro c hmem
    exact hrun c (List.mem_reverse.mp hmem)
  induction text generalizing run with
  | nil =>
      rw [List.append_nil] at hplain ⊢
      exact hflush run hascii hplain
  | cons c rest ih =>
      unfold unquoteFrom
      split
      next hc =>
        have hmoved : hasEscape ((c :: run).reverse ++ rest) = false := by
          simpa using hplain
        rw [ih (c :: run) (List.forall_mem_cons.mpr ⟨hc, hascii⟩) hmoved]
        simp
      next hwide =>
        rw [hasEscape_append_wide (not_lt.mp hwide),
          Bool.or_eq_false_iff] at hplain
        have hnone : ∀ c ∈ ([] : List Char), c.toNat < 128 := by
          simp
        rw [hflush run hascii hplain.1, ih [] hnone hplain.2]
        rfl

end Runs

def plusToSpace (c : Char) : Char := if c = '+' then ' ' else c

theorem hasEscape_map_plusToSpace (text : List Char) :
    hasEscape (text.map plusToSpace) = hasEscape text := by
  have hhex : ∀ c, isHexDigit (plusToSpace c) = isHexDigit c := by
    intro c
    unfold plusToSpace
    split
    next hplus =>
      subst hplus
      decide
    next => rfl
  have hpercent : ∀ c, plusToSpace c = '%' ↔ c = '%' := by
    intro c
    unfold plusToSpace
    split
    next hplus =>
      subst hplus
      decide
    next => exact Iff.rfl
  have hstart : ∀ text : List Char,
      startsEscape (text.map plusToSpace) = startsEscape text := by
    intro text
    match text with
    | [] => rfl
    | [first] => simp [startsEscape]
    | [first, second] => simp [startsEscape]
    | first :: high :: low :: rest =>
        by_cases hfirst : first = '%'
        · have hmapped := (hpercent first).mpr hfirst
          simp only [List.map_cons, hmapped]
          subst hfirst
          simp only [startsEscape, hhex]
        · have hmapped := (hpercent first).not.mpr hfirst
          simp [startsEscape, hfirst, hmapped]
  induction text with
  | nil => rfl
  | cons c rest ih =>
      have hfirst := hstart (c :: rest)
      rw [List.map_cons] at hfirst ⊢
      rw [hasEscape_cons, hasEscape_cons, hfirst, ih]

theorem unquotePlus_length_le (text : List Char) :
    (unquotePlus text).length ≤ text.length := by
  have hlength := unquoteFrom_length_le [] (text.map plusToSpace)
  rwa [List.length_nil, Nat.zero_add, List.length_map] at hlength

/-- A text that keeps its length was read character by character. -/
theorem unquotePlus_of_length {text : List Char}
    (hlength : text.length ≤ (unquotePlus text).length) :
    hasEscape text = false ∧ unquotePlus text = text.map plusToSpace := by
  have hplain : hasEscape text = false := by
    cases hescape : hasEscape text with
    | false => rfl
    | true =>
        rw [← hasEscape_map_plusToSpace] at hescape
        have hshorter := unquoteFrom_length_lt [] hescape
        rw [List.length_nil, Nat.zero_add, List.length_map] at hshorter
        exact absurd hshorter (not_lt.mpr hlength)
  refine ⟨hplain, ?_⟩
  rw [← hasEscape_map_plusToSpace] at hplain
  exact unquoteFrom_of_plain [] (by simp) hplain

theorem map_plusToSpace_eq_self_iff (text : List Char) :
    text.map plusToSpace = text ↔ '+' ∉ text := by
  constructor
  · intro hsame hmem
    rw [← hsame] at hmem
    obtain ⟨c, -, hc⟩ := List.mem_map.mp hmem
    unfold plusToSpace at hc
    split at hc
    · exact absurd hc (by decide)
    next hne => exact hne hc
  · intro hplus
    have hkeep : ∀ c ∈ text, plusToSpace c = id c := by
      intro c hmem
      have hne : c ≠ '+' := by
        rintro rfl
        exact hplus hmem
      exact if_neg hne
    rw [List.map_congr_left hkeep, List.map_id]

theorem unquotePlus_of_plain {text : List Char}
    (hescape : hasEscape text = false) (hplus : '+' ∉ text) :
    unquotePlus text = text := by
  have hplain : hasEscape (text.map plusToSpace) = false :=
    (hasEscape_map_plusToSpace text).trans hescape
  have hread : unquotePlus text = text.map plusToSpace :=
    unquoteFrom_of_plain [] (by simp) hplain
  rw [hread, (map_plusToSpace_eq_self_iff text).mpr hplus]

/-! ## Fields -/

/-- One field of `parse_qs`; none where it has no value. -/
def readField (field : List Char) : Option (List Char × List Char) :=
  let (name, _, value) := partition '=' field
  if value = [] then none else some (unquotePlus name, unquotePlus value)

theorem parseQsl_eq (query : List Char) :
    parseQsl query = (split '&' query).filterMap readField := rfl

/-- A name that is read as it is written. -/
structure PlainName (name : List Char) : Prop where
  equals : '=' ∉ name
  ampersand : '&' ∉ name
  read : unquotePlus name = name

/-- A field that is read as it is written. -/
structure PlainField (field : List Char × List Char) : Prop where
  name : PlainName field.1
  nonempty : field.2 ≠ []
  ampersand : '&' ∉ field.2
  read : unquotePlus field.2 = field.2

def renderField (field : List Char × List Char) : List Char :=
  field.1 ++ '=' :: field.2

def renderQuery : List (List Char × List Char) → List Char
  | [] => []
  | [field] => renderField field
  | field :: next :: more => renderField field ++ '&' :: renderQuery (next :: more)

/-- What follows the first field. -/
def renderTail (fields : List (List Char × List Char)) : List Char :=
  if fields = [] then [] else '&' :: renderQuery fields

theorem renderQuery_cons (field : List Char × List Char)
    (more : List (List Char × List Char)) :
    renderQuery (field :: more) = renderField field ++ renderTail more := by
  cases more with
  | nil => simp [renderQuery, renderTail]
  | cons next more => simp [renderQuery, renderTail]

theorem forall_mem_renderTail {P : Char → Prop}
    {fields : List (List Char × List Char)} (hequals : P '=')
    (hampersand : P '&')
    (hfields : ∀ field ∈ fields,
      (∀ c ∈ field.1, P c) ∧ ∀ c ∈ field.2, P c) :
    ∀ c ∈ renderTail fields, P c := by
  induction fields with
  | nil => simp [renderTail]
  | cons field more ih =>
      obtain ⟨⟨hname, hvalue⟩, hmore⟩ := List.forall_mem_cons.mp hfields
      intro c hmem
      rw [renderTail, if_neg (List.cons_ne_nil field more), renderQuery_cons,
        renderField] at hmem
      rcases List.mem_cons.mp hmem with rfl | hmem
      · exact hampersand
      rcases List.mem_append.mp hmem with hfield | htail
      · rcases List.mem_append.mp hfield with hmem | hmem
        · exact hname c hmem
        · rcases List.mem_cons.mp hmem with rfl | hmem
          · exact hequals
          · exact hvalue c hmem
      · exact ih hmore c htail

theorem PlainName.readField {name : List Char} (hname : PlainName name)
    (value : List Char) :
    readField (name ++ '=' :: value) =
      if value = [] then none else some (name, unquotePlus value) := by
  unfold Url.readField
  rw [partition_append hname.equals]
  dsimp only
  rw [hname.read]

theorem PlainName.ampersand_notMem {name value : List Char}
    (hname : PlainName name) (hvalue : '&' ∉ value) :
    '&' ∉ name ++ '=' :: value := by
  simp [hname.ampersand, hvalue]

theorem parseQsl_append (query more : List Char) :
    parseQsl (query ++ '&' :: more) = parseQsl query ++ parseQsl more := by
  rw [parseQsl_eq, split_append_cons, List.filterMap_append]
  rfl

theorem PlainName.parseQsl {name value : List Char} (hname : PlainName name)
    (hvalue : '&' ∉ value) :
    parseQsl (name ++ '=' :: value) =
      if value = [] then [] else [(name, unquotePlus value)] := by
  rw [parseQsl_eq, split_of_notMem (hname.ampersand_notMem hvalue),
    List.filterMap_cons, hname.readField]
  split_ifs <;> rfl

theorem PlainField.parseQsl {field : List Char × List Char}
    (hfield : PlainField field) : parseQsl (renderField field) = [field] := by
  rw [renderField, hfield.name.parseQsl hfield.ampersand,
    if_neg hfield.nonempty, hfield.read]

/-- Plain fields are read back as they were written. -/
theorem parseQsl_renderQuery {fields : List (List Char × List Char)}
    (hfields : ∀ field ∈ fields, PlainField field) :
    parseQsl (renderQuery fields) = fields := by
  induction fields with
  | nil => rfl
  | cons field more ih =>
      obtain ⟨hfield, hmore⟩ := List.forall_mem_cons.mp hfields
      cases more with
      | nil => exact hfield.parseQsl
      | cons next more =>
          rw [renderQuery, parseQsl_append, hfield.parseQsl, ih hmore]
          rfl

/-! ## Values -/

def fieldValue (fields : List (List Char × List Char)) (name : String) :
    Option (List Char) :=
  fields.findSome? fun field =>
    if field.1 = name.toList then some field.2 else none

section FieldValue

variable {name : String} {fields : List (List Char × List Char)}

theorem fieldValue_cons_same (value : List Char) :
    fieldValue ((name.toList, value) :: fields) name = some value := by
  unfold fieldValue
  rw [List.findSome?_cons, if_pos rfl]

theorem fieldValue_cons_other {other : List Char} (value : List Char)
    (hother : other ≠ name.toList) :
    fieldValue ((other, value) :: fields) name = fieldValue fields name := by
  unfold fieldValue
  rw [List.findSome?_cons, if_neg hother]

theorem fieldValue_append_other {others : List (List Char × List Char)}
    (hothers : ∀ field ∈ others, field.1 ≠ name.toList) :
    fieldValue (others ++ fields) name = fieldValue fields name := by
  induction others with
  | nil => rfl
  | cons other others ih =>
      obtain ⟨hother, hmore⟩ := List.forall_mem_cons.mp hothers
      rw [List.cons_append, fieldValue_cons_other other.2 hother, ih hmore]

theorem fieldValue_of_other
    (hothers : ∀ field ∈ fields, field.1 ≠ name.toList) :
    fieldValue fields name = none := by
  have hnone : fieldValue (fields ++ []) name = fieldValue [] name :=
    fieldValue_append_other hothers
  rw [List.append_nil] at hnone
  exact hnone

theorem queryValue_renderQuery (hfields : ∀ field ∈ fields, PlainField field)
    (name : String) :
    queryValue (renderQuery fields) name = fieldValue fields name := by
  unfold queryValue
  rw [parseQsl_renderQuery hfields]
  rfl

end FieldValue

theorem queryValue_append (query more : List Char) (name : String) :
    queryValue (query ++ '&' :: more) name =
      (queryValue query name).or (queryValue more name) := by
  unfold queryValue
  rw [parseQsl_append, List.findSome?_append]

/-- Fields of other names after the query do not count. -/
theorem queryValue_append_tail {query tail : List Char} {name : String}
    (htail : tail = [] ∨
      ∃ more, tail = '&' :: more ∧ queryValue more name = none) :
    queryValue (query ++ tail) name = queryValue query name := by
  rcases htail with rfl | ⟨more, rfl, hnone⟩
  · rw [List.append_nil]
  · rw [queryValue_append, hnone, Option.or_none]

theorem queryValue_length_le {query value : List Char} {name : String}
    (hvalue : queryValue query name = some value) :
    value.length ≤ query.length := by
  obtain ⟨field, hmem, hfound⟩ := List.exists_of_findSome?_eq_some hvalue
  obtain ⟨part, hpart, hread⟩ := List.mem_filterMap.mp hmem
  have hsublist := sublist_of_mem_split hpart
  dsimp only at hfound hread
  split at hfound
  next =>
    split at hread
    · cases hread
    next =>
      obtain rfl := Option.some.inj hfound
      rw [← Option.some.inj hread]
      have htail : (partition '=' part).2.2.length ≤ part.length := by
        have hdropped := (List.dropWhile_sublist (l := part)
          fun c => decide (c ≠ '=')).length_le
        unfold partition
        dsimp only
        split
        · exact Nat.zero_le _
        next heq =>
          rw [heq, List.length_cons] at hdropped
          exact Nat.le_of_succ_le hdropped
      exact (unquotePlus_length_le _).trans
        (htail.trans hsublist.length_le)
  next => cases hfound

theorem PlainName.queryValue {name : String} {value : List Char}
    (hname : PlainName name.toList) (hvalue : '&' ∉ value) :
    queryValue (name.toList ++ '=' :: value) name =
      if value = [] then none else some (unquotePlus value) := by
  unfold Url.queryValue
  rw [hname.parseQsl hvalue]
  split_ifs with hempty
  · rfl
  · simp

/-- A value that is no shorter than its text was read from all of it. -/
theorem PlainName.text_of_length {name : String} {text value : List Char}
    (hname : PlainName name.toList)
    (hvalue : Url.queryValue (name.toList ++ '=' :: text) name = some value)
    (hlength : text.length ≤ value.length) :
    '&' ∉ text ∧ value = unquotePlus text := by
  by_cases hmem : '&' ∈ text
  · exfalso
    obtain ⟨head, tail, rfl, hhead⟩ := List.eq_append_cons_of_mem hmem
    have hsplit : name.toList ++ '=' :: (head ++ '&' :: tail) =
        (name.toList ++ '=' :: head) ++ '&' :: tail := by
      simp
    rw [hsplit, queryValue_append, hname.queryValue hhead] at hvalue
    rw [List.length_append, List.length_cons] at hlength
    split_ifs at hvalue with hempty
    · rw [Option.none_or] at hvalue
      have hshorter := queryValue_length_le hvalue
      omega
    · obtain rfl := Option.some.inj hvalue
      have hshorter := unquotePlus_length_le head
      omega
  · rw [hname.queryValue hmem] at hvalue
    split_ifs at hvalue
    exact ⟨hmem, (Option.some.inj hvalue).symm⟩

end Url
end DessMonitor
