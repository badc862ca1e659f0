import DessMonitor.VoltronicReply
import Mathlib.Tactic

/-!
# The checksum behind a PI30 reply

The collectors leave up to two characters of the checksum at the end of a reply.
The fields of a general status reply do not depend on them.  The warning bits
do, as a binary digit of the checksum is taken for the bit behind the last one.
-/

namespace DessMonitor
namespace Voltronic

open Direct (Section)
open Enums PyString

/-! ## A reply with its checksum -/

/-- A reply as the collectors deliver it. -/
def framed (payload suffix : List Char) : List Char :=
  '(' :: (payload ++ suffix)

/-- No character of a refusal. -/
def isNakLetter (c : Char) : Bool := c == 'N' || c == 'A' || c == 'K'

/-- The payload has neither parentheses, line ends nor letters of a refusal. -/
structure PlainPayload (payload : List Char) : Prop where
  framing : ∀ c ∈ payload, isFraming c = false
  letters : ∀ c ∈ payload, isNakLetter c = false

section Framed

variable {payload suffix : List Char}

theorem mem_stripChars_of_not_drop {drop : Char → Bool} {text : List Char}
    {c : Char} (hmem : c ∈ text) (hkeep : drop c = false) :
    c ∈ stripChars drop text := by
  have hapart : ∀ c, (!drop c) = true → drop c = false := by
    intro c hkept
    simpa using hkept
  have hfilter := filter_stripChars hapart text
  have hkept : c ∈ text.filter fun c => !drop c :=
    List.mem_filter.2 ⟨hmem, by rw [hkeep]; rfl⟩
  rw [← hfilter] at hkept
  exact List.mem_of_mem_filter hkept

/-- A parenthesis is not part of a hexadecimal dump. -/
theorem isHexString_framed (payload suffix : List Char) :
    isHexString (framed payload suffix) = false := by
  have hstripped : '(' ∈ stripChars isSpace (framed payload suffix) :=
    mem_stripChars_of_not_drop List.mem_cons_self (by decide)
  have hdigits : '(' ∈ (stripChars isSpace (framed payload suffix)).filter
      (· ≠ ' ') :=
    List.mem_filter.2 ⟨hstripped, by decide⟩
  unfold isHexString
  dsimp only
  have hall : ((stripChars isSpace (framed payload suffix)).filter
      (· ≠ ' ')).all Url.isHexDigit = false := by
    rw [List.all_eq_false]
    exact ⟨'(', hdigits, by decide⟩
  rw [hall, Bool.and_false, Bool.false_and]

theorem infix_of_contains {text part : List Char}
    (hcontains : contains text part = true) : part <:+: text := by
  unfold contains at hcontains
  obtain ⟨tail, htail, hhead⟩ := List.any_eq_true.1 hcontains
  exact (List.isPrefixOf_iff_prefix.1 hhead).isInfix.trans
    ((List.mem_tails _ _).1 htail).isInfix

theorem unframed_sublist (text : List Char) :
    (unframed text).Sublist text :=
  List.filter_sublist.trans (stripChars_sublist _ _)

/-- Two characters are not enough for a refusal. -/
theorem not_infix_of_framed (hplain : PlainPayload payload)
    (hsuffix : suffix.length ≤ 2) {text : List Char}
    (hsublist : text.Sublist (framed payload suffix)) :
    ¬ "NAK".toList <:+: text := by
  intro hnak
  have hletters : ("NAK".toList.filter isNakLetter).Sublist
      ((framed payload suffix).filter isNakLetter) :=
    (hnak.sublist.trans hsublist).filter _
  have hpayload : payload.filter isNakLetter = [] := by
    apply List.filter_eq_nil_iff.2
    intro c hmem
    rw [hplain.letters c hmem]
    exact Bool.false_ne_true
  have hfilter : (framed payload suffix).filter isNakLetter =
      suffix.filter isNakLetter := by
    unfold framed
    rw [List.filter_cons_of_neg (by decide), List.filter_append, hpayload,
      List.nil_append]
  rw [hfilter] at hletters
  have hthree := hletters.length_le
  have hle := List.length_filter_le isNakLetter suffix
  have hlength : ("NAK".toList.filter isNakLetter).length = 3 := by
    decide
  omega

/-- The decoder of the command gets the reply. -/
theorem decodeDirectResponse_framed (hplain : PlainPayload payload)
    (hsuffix : suffix.length ≤ 2) (command : String) :
    decodeDirectResponse command (.ofList (framed payload suffix)) =
      some (decodeCommand (.ofList (command.toList.map Char.toUpper))
        (.ofList (unframed
          (stripChars isSpace (framed payload suffix))))) := by
  have hsublist : (unframed (stripChars isSpace
      (framed payload suffix))).Sublist (framed payload suffix) :=
    (unframed_sublist _).trans (stripChars_sublist _ _)
  have hinfix := not_infix_of_framed hplain hsuffix hsublist
  have hhead : "NAK".toList.isPrefixOf (unframed (stripChars isSpace
      (framed payload suffix))) = false := by
    rw [← Bool.not_eq_true]
    intro hstart
    exact hinfix (List.isPrefixOf_iff_prefix.1 hstart).isInfix
  have hcontains : contains (unframed (stripChars isSpace
      (framed payload suffix))) "NAK".toList = false := by
    rw [← Bool.not_eq_true]
    intro hmiddle
    exact hinfix (infix_of_contains hmiddle)
  have hne : ∀ text : String, text.toList.head? ≠ some '(' →
      String.ofList (framed payload suffix) ≠ text := by
    intro text hhead heq
    rw [← heq, String.toList_ofList] at hhead
    exact hhead rfl
  unfold decodeDirectResponse
  rw [if_neg (hne "" (by decide)), if_neg (hne "null" (by decide))]
  dsimp only
  rw [String.toList_ofList, isHexString_framed, if_neg Bool.false_ne_true]
  dsimp only [Option.bind_eq_bind, Option.bind_some]
  rw [hhead, hcontains, if_neg (by decide)]

end Framed

/-! ## Warning bits -/

section WarningBits

variable {bits suffix : List Char}

theorem plainPayload_of_bits (hbits : ∀ c ∈ bits, isBit c = true) :
    PlainPayload bits := by
  have hdigits : ∀ c ∈ bits, c = '0' ∨ c = '1' := by
    intro c hmem
    have hbit := hbits c hmem
    unfold isBit at hbit
    simpa using hbit
  constructor
  · intro c hmem
    rcases hdigits c hmem with rfl | rfl <;> rfl
  · intro c hmem
    rcases hdigits c hmem with rfl | rfl <;> rfl

theorem isSpace_of_isBit (c : Char) (hbit : isBit c = true) :
    isSpace c = false := by
  have hdigit : c = '0' ∨ c = '1' := by
    unfold isBit at hbit
    simpa using hbit
  rcases hdigit with rfl | rfl <;> decide

/-- Neither stripping nor unframing takes binary digits out. -/
theorem filter_isBit_unframed (text : List Char) :
    (unframed (stripChars isSpace text)).filter isBit = text.filter isBit := by
  have hkept : ∀ c, (isBit c && !isFraming c) = isBit c := by
    intro c
    cases hbit : isBit c with
    | false => rfl
    | true =>
        have hbits : ∀ other ∈ [c], isBit other = true := by
          intro other hmem
          rw [List.mem_singleton.1 hmem]
          exact hbit
        have hplain := plainPayload_of_bits hbits
        rw [hplain.framing c List.mem_cons_self]
        rfl
  unfold unframed
  rw [List.filter_filter]
  simp only [hkept]
  rw [filter_stripChars isSpace_of_isBit, filter_stripChars isSpace_of_isBit]

theorem get?_decodeQpiws (asciiStr : String) (index : ℕ)
    (hindex : index < qpiwsFields.length) :
    (decodeQpiws asciiStr).get? qpiwsFields[index] =
      some (.bool ((asciiStr.toList.filter isBit)[index]? == some '1')) := by
  have hnodup : qpiwsFields.Nodup := by
    decide +kernel
  unfold decodeQpiws
  dsimp only
  apply Dict.get?_ofPairs_of_mem
  · exact List.mem_map.2 ⟨(qpiwsFields[index], index),
      List.mk_mem_zipIdx_iff_getElem?.2 (List.getElem?_eq_getElem hindex),
      rfl⟩
  · have hkeys : (qpiwsFields.zipIdx.map fun field =>
        (field.1, PyValue.bool ((asciiStr.toList.filter isBit)[field.2]? ==
          some '1'))).map Prod.fst = qpiwsFields := by
      rw [List.map_map]
      exact List.zipIdx_map_fst _ _
    rw [hkeys]
    exact hnodup

/-- Each warning of the reply is on exactly when its bit is set. -/
def WarningsOfBits (bits suffix : List Char) : Prop :=
  ∃ result,
    decodeDirectResponse "QPIWS" (.ofList (framed bits suffix)) =
      some (.fields result) ∧
    ∀ index (hindex : index < qpiwsFields.length),
      result.get? qpiwsFields[index] = some (.bool true) ↔
        bits[index]? = some '1'

/-- What the decoder makes of a reply. -/
def framedWarnings (bits suffix : List Char) : Section :=
  decodeQpiws (.ofList (unframed (stripChars isSpace (framed bits suffix))))

theorem decodeDirectResponse_qpiws (hbits : ∀ c ∈ bits, isBit c = true)
    (hsuffix : suffix.length ≤ 2) :
    decodeDirectResponse "QPIWS" (.ofList (framed bits suffix)) =
      some (.fields (framedWarnings bits suffix)) := by
  have hcommand : String.ofList ("QPIWS".toList.map Char.toUpper) =
      "QPIWS" := by
    decide
  rw [decodeDirectResponse_framed (plainPayload_of_bits hbits) hsuffix,
    hcommand, decodeCommand_qpiws]
  rfl

/-- The warnings are the binary digits of the payload and of the checksum. -/
theorem get?_framedWarnings (hbits : ∀ c ∈ bits, isBit c = true)
    (suffix : List Char) (index : ℕ) (hindex : index < qpiwsFields.length) :
    (framedWarnings bits suffix).get? qpiwsFields[index] =
        some (.bool true) ↔
      (bits ++ suffix.filter isBit)[index]? = some '1' := by
  have hself : bits.filter isBit = bits := List.filter_eq_self.2 hbits
  have hdigits : (framed bits suffix).filter isBit =
      bits ++ suffix.filter isBit := by
    unfold framed
    rw [List.filter_cons_of_neg (by decide), List.filter_append, hself]
  unfold framedWarnings
  rw [get?_decodeQpiws, String.toList_ofList, filter_isBit_unframed,
    hdigits, Option.some_inj, PyValue.bool.injEq, beq_iff_eq]

/-- The warnings are those of the bits exactly when no set digit of the checksum
comes to stand at the place of a warning. -/
theorem warningsOfBits_iff (hbits : ∀ c ∈ bits, isBit c = true)
    (hsuffix : suffix.length ≤ 2) :
    WarningsOfBits bits suffix ↔
      ∀ index, (suffix.filter isBit)[index]? = some '1' →
        qpiwsFields.length ≤ bits.length + index := by
  have hdecoded := decodeDirectResponse_qpiws hbits hsuffix
  have hfield := get?_framedWarnings hbits suffix
  constructor
  · rintro ⟨result, hresult, hwarnings⟩ index hset
    rw [hdecoded, Option.some_inj, Decoded.fields.injEq] at hresult
    subst hresult
    by_contra hinside
    have hindex : bits.length + index < qpiwsFields.length := by omega
    have hwhole : (bits ++ suffix.filter isBit)[bits.length + index]? =
        some '1' := by
      rw [List.getElem?_append_right (by omega), Nat.add_sub_cancel_left]
      exact hset
    have hbit := (hwarnings _ hindex).1 ((hfield _ hindex).2 hwhole)
    rw [List.getElem?_eq_none (by omega)] at hbit
    cases hbit
  · intro houtside
    refine ⟨_, hdecoded, ?_⟩
    intro index hindex
    rw [hfield index hindex]
    by_cases hinside : index < bits.length
    · rw [List.getElem?_append_left hinside]
    · rw [List.getElem?_append_right (by omega),
        List.getElem?_eq_none (l := bits) (by omega)]
      constructor
      · intro hset
        have hbehind := houtside _ hset
        omega
      · intro hset
        cases hset

end WarningBits

/-- Thirty-two bits leave no place for the checksum. -/
theorem warningsOfBits_full :
    WarningsOfBits (List.replicate 32 '0') ['1', '1'] := by
  have hbits : ∀ c ∈ List.replicate 32 '0', isBit c = true :=
    PyString.forall_mem_of_all (by decide)
  apply (warningsOfBits_iff hbits (by decide)).2
  intro index _
  exact Nat.le_add_right _ _

/-- With 28 bits a digit of the checksum is the overload warning of MPPT. -/
theorem warningsOfBits_short :
    ¬ ∀ bits suffix : List Char, (∀ c ∈ bits, isBit c = true) →
      suffix.length ≤ 2 → WarningsOfBits bits suffix := by
  intro hall
  have hbits : ∀ c ∈ List.replicate 28 '0', isBit c = true := by
    intro c hmem
    rw [List.eq_of_mem_replicate hmem]
    rfl
  have hsuffix : ['1', 's'].length ≤ 2 := by
    decide
  obtain ⟨result, hresult, hwarnings⟩ :=
    hall (List.replicate 28 '0') ['1', 's'] hbits hsuffix
  rw [decodeDirectResponse_qpiws hbits hsuffix, Option.some_inj,
    Decoded.fields.injEq] at hresult
  subst hresult
  have hindex : 28 < qpiwsFields.length := by
    decide
  have hset := (get?_framedWarnings hbits ['1', 's'] 28 hindex).2 (by decide)
  have hbit := (hwarnings 28 hindex).1 hset
  revert hbit
  decide

/-! ## Telemetry -/

/-- A general status reply of digits, dots and spaces whose 21st word is three
binary digits. -/
structure QpigsPayload (payload : List Char) : Prop where
  chars : ∀ c ∈ payload, c.isDigit = true ∨ c = '.' ∨ c = ' '
  chargingBits : ∃ word, (words payload)[20]? = some word ∧
    word.length = 3 ∧ ∀ c ∈ word, isBit c = true

section Telemetry

variable {payload suffix : List Char}

theorem isNakLetter_of_isDigit {c : Char} (hdigit : c.isDigit = true) :
    isNakLetter c = false ∧ isFraming c = false := by
  have hrange := (isDigit_iff c).1 hdigit
  have hapart : ∀ other : Char, ¬ (48 ≤ other.toNat ∧ other.toNat ≤ 57) →
      (c == other) = false := by
    intro other hother
    rw [beq_eq_false_iff_ne]
    rintro rfl
    exact hother hrange
  constructor
  · unfold isNakLetter
    rw [hapart 'N' (by decide), hapart 'A' (by decide),
      hapart 'K' (by decide)]
    rfl
  · unfold isFraming
    rw [hapart '(' (by decide), hapart ')' (by decide),
      hapart '\r' (by decide), hapart '\n' (by decide)]
    rfl

theorem QpigsPayload.plain (hpayload : QpigsPayload payload) :
    PlainPayload payload := by
  constructor
  · intro c hmem
    rcases hpayload.chars c hmem with hdigit | rfl | rfl
    · exact (isNakLetter_of_isDigit hdigit).2
    · rfl
    · rfl
  · intro c hmem
    rcases hpayload.chars c hmem with hdigit | rfl | rfl
    · exact (isNakLetter_of_isDigit hdigit).1
    · rfl
    · rfl

/-- The decoder splits the payload with what is left of the checksum. -/
theorem words_unframed (hplain : PlainPayload payload)
    (suffix : List Char) :
    words (unframed (stripChars isSpace (framed payload suffix))) =
      words (payload ++ suffix.filter fun c => !isFraming c) := by
  have hpayload : payload.filter (fun c => !isFraming c) = payload := by
    apply List.filter_eq_self.2
    intro c hmem
    rw [hplain.framing c hmem]
    rfl
  unfold unframed
  rw [words_filter_stripChars, words_filter_stripChars]
  unfold framed
  rw [List.filter_cons_of_neg (by decide), List.filter_append, hpayload]

/-- A field that is cleaned to three binary digits has them already. -/
theorem cleanBits_append {word : List Char} (hlength : word.length = 3)
    (hbits : ∀ c ∈ word, isBit c = true) (more : List Char) :
    cleanBits (.ofList (word ++ more)) 3 = cleanBits (.ofList word) 3 := by
  have hself : word.filter isBit = word := List.filter_eq_self.2 hbits
  unfold cleanBits
  rw [String.toList_ofList, String.toList_ofList, List.filter_append, hself,
    ← hlength, List.take_left, List.take_length]

/-- The named fields do not depend on what is left of the checksum. -/
theorem decodeDirectResponse_qpigs (hpayload : QpigsPayload payload)
    (hsuffix : suffix.length ≤ 2) :
    ∃ result,
      decodeDirectResponse "QPIGS" (.ofList (framed payload suffix)) =
        some (.fields result) ∧
      ∀ field ∈ qpigsFields.take 21,
        result.get? field = (decodeQpigs (.ofList payload)).get? field := by
  have hcommand : String.ofList ("QPIGS".toList.map Char.toUpper) =
      "QPIGS" := by
    decide
  have hdecoded := decodeDirectResponse_framed hpayload.plain hsuffix "QPIGS"
  rw [hcommand, decodeCommand_qpigs] at hdecoded
  refine ⟨_, hdecoded, ?_⟩
  intro field hfield
  obtain ⟨index, hindex, rfl⟩ := List.getElem_of_mem hfield
  rw [List.length_take] at hindex
  have hbound : index < qpigsFields.length := by omega
  have hposition : index ≤ 20 := by omega
  rw [List.getElem_take, get?_decodeQpigs _ _ hbound,
    get?_decodeQpigs _ _ hbound, String.toList_ofList, String.toList_ofList,
    words_unframed hpayload.plain]
  obtain ⟨last, hlast, hlength, hbits⟩ := hpayload.chargingBits
  have hmany : 20 < (words payload).length :=
    (List.getElem?_eq_some_iff.1 hlast).1
  obtain ⟨more, hlonger, hwhole⟩ := getElem?_words_append
    (List.getElem?_eq_getElem (by omega : index < (words payload).length))
    (suffix.filter fun c => !isFraming c)
  rw [hlonger, List.getElem?_eq_getElem (by omega), Option.map_some,
    Option.map_some]
  by_cases hcharging : index = 20
  · subst hcharging
    rw [List.getElem?_eq_getElem hmany, Option.some_inj] at hlast
    rw [hlast]
    unfold statusField
    rw [if_neg (by decide), if_pos rfl, if_neg (by decide), if_pos rfl,
      cleanBits_append hlength hbits]
  · rw [hwhole (by omega), List.append_nil]

end Telemetry

/-- A reply with every word that is needed. -/
def shortQpigs : List Char :=
  "0 0 0 0 0 0 0 0 0 0 0 0 0 0 0 0 00010110 0 0 0 110".toList

theorem decodeDirectResponse_shortQpigs :
    ∃ result,
      decodeDirectResponse "QPIGS" (.ofList (framed shortQpigs ['1', 's'])) =
        some (.fields result) ∧
      ∀ field ∈ qpigsFields.take 21,
        result.get? field = (decodeQpigs (.ofList shortQpigs)).get? field := by
  have hpayload : QpigsPayload shortQpigs := by
    constructor
    · exact PyString.forall_mem_of_all (by decide +kernel)
    · exact ⟨['1', '1', '0'], by decide +kernel, rfl,
        PyString.forall_mem_of_all (by decide)⟩
  exact decodeDirectResponse_qpigs hpayload (by decide)

end Voltronic
end DessMonitor
