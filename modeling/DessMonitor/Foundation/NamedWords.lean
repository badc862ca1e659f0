import DessMonitor.Foundation.InsertionDict
import DessMonitor.Foundation.PyString

/-!
# Words of a text and their names

A text is split at its white space, and the words get the names of a table in
its order.  Text that is appended makes the last word longer or adds further
words; the words before stay as they are.
-/

namespace DessMonitor

namespace PyString

/-! ## Words -/

/-- A word that ends; an empty one is none. -/
def endWord (word : List Char) : List (List Char) :=
  if word = [] then [] else [word]

/-- The words of a text behind the begun one. -/
def wordsFrom (word : List Char) : List Char → List (List Char)
  | [] => endWord word
  | c :: rest =>
      if isSpace c then endWord word ++ wordsFrom [] rest
      else wordsFrom (word ++ [c]) rest

/-- `text.split()`. -/
def words (text : List Char) : List (List Char) := wordsFrom [] text

/-- A text leaves finished words and a begun one, whatever follows. -/
theorem exists_wordsFrom_append (word head : List Char) :
    ∃ finished begun, ∀ tail,
      wordsFrom word (head ++ tail) = finished ++ wordsFrom begun tail := by
  induction head generalizing word with
  | nil => exact ⟨[], word, fun tail => rfl⟩
  | cons c head ih =>
      by_cases hspace : isSpace c = true
      · obtain ⟨finished, begun, hrest⟩ := ih []
        refine ⟨endWord word ++ finished, begun, ?_⟩
        intro tail
        rw [List.cons_append, wordsFrom, if_pos hspace, hrest,
          List.append_assoc]
      · obtain ⟨finished, begun, hrest⟩ := ih (word ++ [c])
        refine ⟨finished, begun, ?_⟩
        intro tail
        rw [List.cons_append, wordsFrom, if_neg hspace, hrest]

/-- A begun word is the beginning of the first word. -/
theorem exists_wordsFrom_of_ne_nil {word : List Char} (hne : word ≠ [])
    (text : List Char) :
    ∃ more rest, wordsFrom word text = (word ++ more) :: rest := by
  induction text generalizing word with
  | nil =>
      refine ⟨[], [], ?_⟩
      rw [wordsFrom, endWord, if_neg hne, List.append_nil]
  | cons c text ih =>
      by_cases hspace : isSpace c = true
      · refine ⟨[], wordsFrom [] text, ?_⟩
        rw [wordsFrom, if_pos hspace, endWord, if_neg hne, List.append_nil]
        rfl
      · have hlonger : word ++ [c] ≠ [] := by
          simp
        obtain ⟨more, rest, hwords⟩ := ih hlonger
        refine ⟨c :: more, rest, ?_⟩
        rw [wordsFrom, if_neg hspace, hwords, List.append_assoc]
        rfl

/-- A word of the text is the beginning of the same word of the longer text,
and all of it unless it is the last one. -/
theorem getElem?_words_append {head : List Char} {index : ℕ}
    {word : List Char} (hword : (words head)[index]? = some word)
    (tail : List Char) :
    ∃ more, (words (head ++ tail))[index]? = some (word ++ more) ∧
      (index + 1 < (words head).length → more = []) := by
  obtain ⟨finished, begun, hfinished⟩ := exists_wordsFrom_append [] head
  have hhead : words head = finished ++ endWord begun := by
    have hnil := hfinished []
    rw [List.append_nil] at hnil
    exact hnil
  have hwhole : words (head ++ tail) = finished ++ wordsFrom begun tail :=
    hfinished tail
  rw [hhead] at hword ⊢
  rw [hwhole]
  by_cases hindex : index < finished.length
  · refine ⟨[], ?_, fun _ => rfl⟩
    rw [List.getElem?_append_left hindex] at hword ⊢
    rw [hword, List.append_nil]
  · rw [List.getElem?_append_right (by omega)] at hword ⊢
    by_cases hbegun : begun = []
    · rw [endWord, if_pos hbegun, List.getElem?_nil] at hword
      cases hword
    · obtain ⟨more, rest, hgrown⟩ := exists_wordsFrom_of_ne_nil hbegun tail
      rw [endWord, if_neg hbegun] at hword ⊢
      have hlast : index - finished.length = 0 := by
        by_contra hne
        rw [List.getElem?_eq_none (by simp; omega)] at hword
        cases hword
      rw [hlast, List.getElem?_cons_zero, Option.some_inj] at hword
      subst hword
      refine ⟨more, ?_, ?_⟩
      · rw [hlast, hgrown, List.getElem?_cons_zero]
      · intro hbefore
        rw [List.length_append, List.length_singleton] at hbefore
        omega

/-! ## Surrounding white space -/

theorem words_append_of_spaces (text : List Char) {spaces : List Char}
    (hspaces : ∀ c ∈ spaces, isSpace c = true) :
    words (text ++ spaces) = words text := by
  have hended : ∀ word, wordsFrom word spaces = endWord word := by
    intro word
    induction spaces generalizing word with
    | nil => rfl
    | cons c spaces ih =>
        have hrest := ih fun c hmem => hspaces c (List.mem_cons_of_mem _ hmem)
        rw [wordsFrom, if_pos (hspaces c List.mem_cons_self), hrest]
        exact List.append_nil _
  obtain ⟨finished, begun, hfinished⟩ := exists_wordsFrom_append [] text
  have htext := hfinished []
  rw [List.append_nil] at htext
  unfold words
  rw [hfinished, hended, htext]
  rfl

theorem words_of_spaces_append {spaces : List Char}
    (hspaces : ∀ c ∈ spaces, isSpace c = true) (text : List Char) :
    words (spaces ++ text) = words text := by
  induction spaces with
  | nil => rfl
  | cons c spaces ih =>
      have hrest := ih fun c hmem => hspaces c (List.mem_cons_of_mem _ hmem)
      unfold words at hrest ⊢
      rw [List.cons_append, wordsFrom, if_pos (hspaces c List.mem_cons_self),
        hrest]
      rfl

/-- Characters that are not stripped off are all kept. -/
theorem filter_stripChars {drop keep : Char → Bool}
    (hapart : ∀ c, keep c = true → drop c = false) (text : List Char) :
    (stripChars drop text).filter keep = text.filter keep := by
  obtain ⟨before, after, hbefore, hafter, htext⟩ :=
    exists_stripChars drop text
  have hnone : ∀ list : List Char, (∀ c ∈ list, drop c = true) →
      list.filter keep = [] := by
    intro list hall
    apply List.filter_eq_nil_iff.2
    intro c hmem hkeep
    have hdrop := hall c hmem
    rw [hapart c hkeep] at hdrop
    cases hdrop
  conv_rhs => rw [htext]
  rw [List.filter_append, List.filter_append, hnone before hbefore,
    hnone after hafter, List.append_nil, List.nil_append]

/-- Words are found in a stripped text, whichever characters are taken out. -/
theorem words_filter_stripChars (keep : Char → Bool) (text : List Char) :
    words ((stripChars isSpace text).filter keep) =
      words (text.filter keep) := by
  obtain ⟨before, after, hbefore, hafter, htext⟩ :=
    exists_stripChars isSpace text
  have hspaces : ∀ list : List Char, (∀ c ∈ list, isSpace c = true) →
      ∀ c ∈ list.filter keep, isSpace c = true :=
    fun list hall c hmem => hall c (List.mem_of_mem_filter hmem)
  conv_rhs => rw [htext]
  rw [List.filter_append, List.filter_append,
    words_append_of_spaces _ (hspaces after hafter),
    words_of_spaces_append (hspaces before hbefore)]

end PyString

/-! ## Names -/

namespace Dict

variable {Key Value : Type*} [DecidableEq Key]

theorem get?_ofPairs_of_mem {pairs : List (Key × Value)} {key : Key}
    {value : Value} (hmem : (key, value) ∈ pairs)
    (hnodup : (pairs.map Prod.fst).Nodup) :
    (ofPairs pairs).get? key = some value := by
  obtain ⟨before, after, rfl⟩ := List.append_of_mem hmem
  rw [List.map_append, List.map_cons] at hnodup
  have hafter : key ∉ after.map Prod.fst :=
    (List.nodup_cons.1 (List.Nodup.of_append_right hnodup)).1
  rw [ofPairs, List.foldl_append, List.foldl_cons,
    get?_foldl_set_of_notMem _ _ hafter, get?_set_self]

theorem get?_ofPairs_of_notMem {pairs : List (Key × Value)} {key : Key}
    (hnotMem : key ∉ pairs.map Prod.fst) :
    (ofPairs pairs).get? key = none :=
  get?_foldl_set_of_notMem pairs empty hnotMem

/-- `dict(zip(names, values))`. -/
def zipped (names : List Key) (values : List Value) : Dict Key Value :=
  ofPairs (names.zip values)

omit [DecidableEq Key] in
theorem map_fst_zip_eq_take (names : List Key) (values : List Value) :
    (names.zip values).map Prod.fst = names.take values.length := by
  induction names generalizing values with
  | nil => rw [List.zip_nil_left, List.take_nil, List.map_nil]
  | cons name names ih =>
      cases values with
      | nil => rfl
      | cons value values =>
          rw [List.zip_cons_cons, List.map_cons, ih, List.length_cons,
            List.take_succ_cons]

/-- Under its name a value is found where it stands. -/
theorem get?_zipped {names : List Key} (hnodup : names.Nodup)
    (values : List Value) (index : ℕ) (hindex : index < names.length) :
    (zipped names values).get? names[index] = values[index]? := by
  have hkeys := map_fst_zip_eq_take names values
  by_cases hvalue : index < values.length
  · rw [List.getElem?_eq_getElem hvalue]
    apply get?_ofPairs_of_mem
    · have hzip : index < (names.zip values).length := by
        rw [List.length_zip]
        omega
      have hpair : (names.zip values)[index] =
          (names[index], values[index]) := List.getElem_zip
      rw [← hpair]
      exact List.getElem_mem hzip
    · rw [hkeys]
      exact hnodup.sublist (List.take_sublist _ _)
  · rw [List.getElem?_eq_none (by omega)]
    apply get?_ofPairs_of_notMem
    rw [hkeys]
    intro hmem
    obtain ⟨earlier, hearlier, heq⟩ := List.mem_take_iff_getElem.1 hmem
    have hsame := (List.Nodup.getElem_inj_iff hnodup).1 heq
    omega

theorem get?_zipped_of_notMem {names : List Key} {name : Key}
    (hname : name ∉ names) (values : List Value) :
    (zipped names values).get? name = none := by
  apply get?_ofPairs_of_notMem
  intro hmem
  obtain ⟨pair, hpair, rfl⟩ := List.mem_map.mp hmem
  exact hname (List.of_mem_zip hpair).1

end Dict
end DessMonitor
