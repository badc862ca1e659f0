import Mathlib.Data.List.Nodup
import Mathlib.Tactic

/-!
# Insertion-ordered dictionaries

A dictionary is a list of key/value pairs with distinct keys.  Assigning to a
present key keeps its position, a new key goes to the end, and building a
dictionary from pairs keeps the last value of a repeated key.
-/

namespace DessMonitor

variable {Key Value : Type*}

structure Dict (Key Value : Type*) where
  entries : List (Key × Value)
  nodup_keys : (entries.map Prod.fst).Nodup

namespace Dict

variable [DecidableEq Key]

/-! ## Association lists -/

def lookup (key : Key) : List (Key × Value) → Option Value
  | [] => none
  | (other, value) :: rest => if other = key then some value else lookup key rest

def assign (key : Key) (value : Value) : List (Key × Value) → List (Key × Value)
  | [] => [(key, value)]
  | (other, old) :: rest =>
      if other = key then (other, value) :: rest
      else (other, old) :: assign key value rest

theorem lookup_assign_self (key : Key) (value : Value)
    (entries : List (Key × Value)) :
    lookup key (assign key value entries) = some value := by
  induction entries with
  | nil => simp [assign, lookup]
  | cons entry rest ih =>
      by_cases heq : entry.1 = key <;> simp [assign, lookup, heq, ih]

theorem lookup_assign_of_ne {key other : Key} (hne : other ≠ key)
    (value : Value) (entries : List (Key × Value)) :
    lookup other (assign key value entries) = lookup other entries := by
  induction entries with
  | nil => simp [assign, lookup, hne.symm]
  | cons entry rest ih =>
      by_cases heq : entry.1 = key
      · have hentry : entry.1 ≠ other := heq ▸ hne.symm
        simp [assign, lookup, heq, hne.symm]
      · simp [assign, lookup, heq, ih]

theorem mem_keys_assign {key other : Key} {value : Value}
    {entries : List (Key × Value)} :
    other ∈ (assign key value entries).map Prod.fst ↔
      other = key ∨ other ∈ entries.map Prod.fst := by
  induction entries with
  | nil => simp [assign]
  | cons entry rest ih =>
      by_cases heq : entry.1 = key
      · simp only [assign, heq, if_true, List.map_cons, List.mem_cons]
        tauto
      · simp only [assign, heq, if_false, List.map_cons, List.mem_cons, ih]
        tauto

theorem nodup_keys_assign (key : Key) (value : Value)
    {entries : List (Key × Value)} (hnodup : (entries.map Prod.fst).Nodup) :
    ((assign key value entries).map Prod.fst).Nodup := by
  induction entries with
  | nil => simp [assign]
  | cons entry rest ih =>
      rw [List.map_cons, List.nodup_cons] at hnodup
      by_cases heq : entry.1 = key
      · rw [assign, if_pos heq, List.map_cons, List.nodup_cons]
        exact hnodup
      · rw [assign, if_neg heq, List.map_cons, List.nodup_cons,
          mem_keys_assign, not_or]
        exact ⟨⟨heq, hnodup.1⟩, ih hnodup.2⟩

theorem lookup_eq_some_iff {key : Key} {value : Value}
    {entries : List (Key × Value)} (hnodup : (entries.map Prod.fst).Nodup) :
    lookup key entries = some value ↔ (key, value) ∈ entries := by
  induction entries with
  | nil => simp [lookup]
  | cons entry rest ih =>
      rcases entry with ⟨other, old⟩
      rw [List.map_cons, List.nodup_cons] at hnodup
      by_cases heq : other = key
      · subst other
        have habsent : (key, value) ∉ rest := by
          intro hmem
          exact hnodup.1 (List.mem_map.mpr ⟨(key, value), hmem, rfl⟩)
        simp [lookup, habsent, eq_comm]
      · simp [lookup, heq, ih hnodup.2, Ne.symm heq]

/-! ## Dictionaries -/

def empty : Dict Key Value := ⟨[], by simp⟩

def get? (dict : Dict Key Value) (key : Key) : Option Value :=
  lookup key dict.entries

def set (dict : Dict Key Value) (key : Key) (value : Value) : Dict Key Value :=
  ⟨assign key value dict.entries, nodup_keys_assign key value dict.nodup_keys⟩

def erase (dict : Dict Key Value) (key : Key) : Dict Key Value :=
  ⟨dict.entries.filter fun entry => decide (entry.1 ≠ key),
    (dict.nodup_keys.sublist (List.filter_sublist.map Prod.fst))⟩

def contains (dict : Dict Key Value) (key : Key) : Bool :=
  (dict.get? key).isSome

def isEmpty (dict : Dict Key Value) : Bool :=
  dict.entries.isEmpty

def keys (dict : Dict Key Value) : List Key :=
  dict.entries.map Prod.fst

def values (dict : Dict Key Value) : List Value :=
  dict.entries.map Prod.snd

omit [DecidableEq Key] in
def mapValues {Value' : Type*} (transform : Value → Value')
    (dict : Dict Key Value) : Dict Key Value' :=
  ⟨dict.entries.map fun entry => (entry.1, transform entry.2), by
    rw [List.map_map]
    exact dict.nodup_keys⟩

omit [DecidableEq Key] in
/-- The entries whose keys are kept, in their order. -/
def filterKeys (keep : Key → Bool) (dict : Dict Key Value) : Dict Key Value :=
  ⟨dict.entries.filter fun entry => keep entry.1,
    dict.nodup_keys.sublist (List.filter_sublist.map Prod.fst)⟩

/-- `dict(pairs)`: later pairs overwrite earlier ones. -/
def ofPairs (pairs : List (Key × Value)) : Dict Key Value :=
  pairs.foldl (fun dict pair => dict.set pair.1 pair.2) empty

/-- Equality of dictionaries, which ignores the order of insertion. -/
def sameItems [DecidableEq Value] (left right : Dict Key Value) : Bool :=
  left.keys.length = right.keys.length &&
    left.keys.all fun key => left.get? key = right.get? key

omit [DecidableEq Key] in
theorem eq_empty_of_isEmpty {dict : Dict Key Value}
    (hempty : dict.isEmpty = true) : dict = empty := by
  rcases dict with ⟨entries, hnodup⟩
  have hnil : entries = [] := List.isEmpty_iff.mp hempty
  subst hnil
  rfl

@[simp] theorem get?_empty (key : Key) :
    (empty : Dict Key Value).get? key = none := rfl

@[simp] theorem get?_set_self (dict : Dict Key Value) (key : Key)
    (value : Value) : (dict.set key value).get? key = some value :=
  lookup_assign_self key value dict.entries

theorem get?_set_of_ne (dict : Dict Key Value) {key other : Key}
    (hne : other ≠ key) (value : Value) :
    (dict.set key value).get? other = dict.get? other :=
  lookup_assign_of_ne hne value dict.entries

theorem get?_set (dict : Dict Key Value) (key other : Key) (value : Value) :
    (dict.set key value).get? other =
      if other = key then some value else dict.get? other := by
  by_cases heq : other = key
  · rw [if_pos heq, heq, get?_set_self]
  · rw [if_neg heq, get?_set_of_ne dict heq]

theorem assign_assign (key : Key) (first second : Value)
    (entries : List (Key × Value)) :
    assign key second (assign key first entries) =
      assign key second entries := by
  induction entries with
  | nil => simp [assign]
  | cons entry rest ih =>
      by_cases heq : entry.1 = key
      · simp [assign, heq]
      · simp [assign, heq, ih]

/-- The last value written under a key is the one that counts. -/
@[simp] theorem set_set (dict : Dict Key Value) (key : Key)
    (first second : Value) :
    (dict.set key first).set key second = dict.set key second := by
  simp only [set, assign_assign]

theorem get?_eq_some_iff (dict : Dict Key Value) {key : Key} {value : Value} :
    dict.get? key = some value ↔ (key, value) ∈ dict.entries :=
  lookup_eq_some_iff dict.nodup_keys

theorem get?_eq_none_of_notMem {dict : Dict Key Value} {key : Key}
    (habsent : key ∉ dict.keys) : dict.get? key = none := by
  cases hget : dict.get? key with
  | none => rfl
  | some value =>
      rw [get?_eq_some_iff] at hget
      exact absurd (List.mem_map_of_mem hget) habsent

theorem mem_keys_iff {dict : Dict Key Value} {key : Key} :
    key ∈ dict.keys ↔ ∃ value, dict.get? key = some value := by
  simp [keys, get?_eq_some_iff]

theorem mem_keys_set {dict : Dict Key Value} {key other : Key}
    {value : Value} :
    other ∈ (dict.set key value).keys ↔ other = key ∨ other ∈ dict.keys :=
  mem_keys_assign

theorem mem_entries_set {dict : Dict Key Value} {key : Key} {value : Value}
    {entry : Key × Value} (hmem : entry ∈ (dict.set key value).entries) :
    entry = (key, value) ∨ entry ∈ dict.entries := by
  have hget : (dict.set key value).get? entry.1 = some entry.2 :=
    (get?_eq_some_iff _).mpr hmem
  rw [get?_set] at hget
  split at hget
  next heq =>
    left
    rw [Option.some.inj hget, ← heq]
  next => exact .inr ((get?_eq_some_iff _).mp hget)

theorem get?_erase (dict : Dict Key Value) (key other : Key) :
    (dict.erase key).get? other =
      if other = key then none else dict.get? other := by
  apply Option.ext
  intro value
  rw [get?_eq_some_iff]
  by_cases heq : other = key
  · simp [erase, heq]
  · rw [if_neg heq, get?_eq_some_iff]
    simp [erase, heq]

theorem get?_filterKeys (keep : Key → Bool) (dict : Dict Key Value)
    (key : Key) :
    (dict.filterKeys keep).get? key =
      if keep key then dict.get? key else none := by
  apply Option.ext
  intro value
  rw [get?_eq_some_iff]
  by_cases hkeep : keep key = true
  · rw [if_pos hkeep, get?_eq_some_iff]
    simp [filterKeys, hkeep]
  · rw [if_neg hkeep]
    simp [filterKeys, hkeep]

theorem lookup_map {Value' : Type*} (transform : Value → Value') (key : Key)
    (entries : List (Key × Value)) :
    lookup key (entries.map fun entry => (entry.1, transform entry.2)) =
      (lookup key entries).map transform := by
  induction entries with
  | nil => rfl
  | cons entry rest ih =>
      by_cases heq : entry.1 = key
      · simp [lookup, heq]
      · simp [lookup, heq, ih]

@[simp] theorem get?_mapValues {Value' : Type*}
    (transform : Value → Value') (dict : Dict Key Value) (key : Key) :
    (dict.mapValues transform).get? key = (dict.get? key).map transform :=
  lookup_map transform key dict.entries

theorem get?_foldl_set (pairs : List (Key × Value)) (dict : Dict Key Value)
    {key : Key} {value : Value}
    (hget : (pairs.foldl (fun dict pair => dict.set pair.1 pair.2)
      dict).get? key = some value) :
    (key, value) ∈ pairs ∨ dict.get? key = some value := by
  induction pairs generalizing dict with
  | nil => exact .inr hget
  | cons pair pairs ih =>
      rw [List.foldl_cons] at hget
      rcases ih _ hget with hmem | hrest
      · exact .inl (List.mem_cons_of_mem pair hmem)
      · rw [get?_set] at hrest
        split at hrest
        next heq =>
          left
          obtain rfl := Option.some.inj hrest
          rw [heq]
          exact List.mem_cons_self
        next => exact .inr hrest

/-- Every value of `ofPairs` comes from one of the pairs. -/
theorem mem_of_get?_ofPairs {pairs : List (Key × Value)} {key : Key}
    {value : Value} (hget : (ofPairs pairs).get? key = some value) :
    (key, value) ∈ pairs := by
  rcases get?_foldl_set pairs empty hget with hmem | hnone
  · exact hmem
  · simp at hnone

theorem get?_foldl_set_of_notMem (pairs : List (Key × Value))
    (dict : Dict Key Value) {key : Key}
    (habsent : key ∉ pairs.map Prod.fst) :
    (pairs.foldl (fun dict pair => dict.set pair.1 pair.2) dict).get? key =
      dict.get? key := by
  induction pairs generalizing dict with
  | nil => rfl
  | cons pair pairs ih =>
      rw [List.map_cons, List.mem_cons, not_or] at habsent
      rw [List.foldl_cons, ih _ habsent.2, get?_set_of_ne _ habsent.1]

theorem get?_foldl_set_ne_none (pairs : List (Key × Value))
    (dict : Dict Key Value) {key : Key}
    (hget : dict.get? key ≠ none) :
    (pairs.foldl (fun dict pair => dict.set pair.1 pair.2) dict).get? key ≠
      none := by
  induction pairs generalizing dict with
  | nil => exact hget
  | cons pair pairs ih =>
      rw [List.foldl_cons]
      apply ih
      rw [get?_set]
      split
      · simp
      · exact hget

/-- Every key of the pairs is a key of `ofPairs`. -/
theorem get?_ofPairs_ne_none {pairs : List (Key × Value)} {key : Key}
    (hmem : key ∈ pairs.map Prod.fst) :
    (ofPairs pairs).get? key ≠ none := by
  obtain ⟨⟨_, value⟩, hpair, rfl⟩ := List.mem_map.mp hmem
  obtain ⟨before, after, rfl⟩ := List.append_of_mem hpair
  rw [ofPairs, List.foldl_append, List.foldl_cons]
  apply get?_foldl_set_ne_none
  rw [get?_set_self]
  simp

theorem mem_keys_ofPairs {pairs : List (Key × Value)} {key : Key} :
    key ∈ (ofPairs pairs).keys ↔ key ∈ pairs.map Prod.fst := by
  constructor
  · intro hmem
    obtain ⟨value, hget⟩ := mem_keys_iff.mp hmem
    exact List.mem_map_of_mem (mem_of_get?_ofPairs hget)
  · intro hmem
    exact mem_keys_iff.mpr
      (Option.ne_none_iff_exists'.mp (get?_ofPairs_ne_none hmem))

/-! ## Selections of the values -/

/-- The entries that `select` keeps, with what it makes of their values. -/
def selected {Result : Type*} (select : Value → Option Result)
    (dict : Dict Key Value) : List (Key × Result) :=
  dict.entries.filterMap fun entry =>
    (select entry.2).map fun result => (entry.1, result)

theorem mem_selected {Result : Type*} {select : Value → Option Result}
    {dict : Dict Key Value} {key : Key} {result : Result} :
    (key, result) ∈ dict.selected select ↔
      (dict.get? key).bind select = some result := by
  rw [Option.bind_eq_some_iff]
  simp only [selected, List.mem_filterMap, Option.map_eq_some_iff,
    Prod.mk.injEq]
  constructor
  · rintro ⟨⟨other, value⟩, hmem, found, hselect, rfl, rfl⟩
    exact ⟨value, (get?_eq_some_iff dict).mpr hmem, hselect⟩
  · rintro ⟨value, hget, hselect⟩
    exact ⟨(key, value), (get?_eq_some_iff dict).mp hget, result, hselect,
      rfl, rfl⟩

omit [DecidableEq Key] in
theorem keys_selected_sublist {Result : Type*}
    (select : Value → Option Result) (entries : List (Key × Value)) :
    ((entries.filterMap fun entry =>
      (select entry.2).map fun result => (entry.1, result)).map
        Prod.fst).Sublist (entries.map Prod.fst) := by
  induction entries with
  | nil => exact .slnil
  | cons entry entries ih =>
      cases hselect : select entry.2 with
      | none =>
          rw [List.filterMap_cons_none (by rw [hselect]; rfl)]
          exact ih.cons entry.1
      | some result =>
          rw [List.filterMap_cons_some (b := (entry.1, result))
            (by rw [hselect]; rfl)]
          exact ih.cons_cons entry.1

omit [DecidableEq Key] in
theorem nodup_selected {Result : Type*} (select : Value → Option Result)
    (dict : Dict Key Value) : (dict.selected select).Nodup :=
  (dict.nodup_keys.sublist
    (keys_selected_sublist select dict.entries)).of_map

omit [DecidableEq Key] in
theorem filterMap_values {Result : Type*} (select : Value → Option Result)
    (dict : Dict Key Value) :
    dict.values.filterMap select = (dict.selected select).map Prod.snd := by
  unfold values selected
  rw [List.filterMap_map, List.map_filterMap]
  congr 1
  funext entry
  rw [Function.comp_apply]
  cases select entry.2 <;> rfl

/-- Dictionaries that agree on the selected value of every key have the same
selected values, up to the order of insertion. -/
theorem filterMap_values_perm {Result : Type*}
    {select : Value → Option Result} {left right : Dict Key Value}
    (hsame : ∀ key,
      (left.get? key).bind select = (right.get? key).bind select) :
    (left.values.filterMap select).Perm (right.values.filterMap select) := by
  have hselected : (left.selected select).Perm (right.selected select) := by
    rw [List.perm_ext_iff_of_nodup (nodup_selected select left)
      (nodup_selected select right)]
    rintro ⟨key, result⟩
    rw [mem_selected, mem_selected, hsame]
  rw [filterMap_values, filterMap_values]
  exact hselected.map Prod.snd

/-! ## Counting values -/

omit [DecidableEq Key] in
def count (test : Value → Bool) (dict : Dict Key Value) : ℕ :=
  dict.values.countP test

theorem countP_assign (test : Value → Bool) (key : Key) (value : Value)
    (entries : List (Key × Value)) :
    ((assign key value entries).map Prod.snd).countP test +
        ((lookup key entries).any test).toNat =
      (entries.map Prod.snd).countP test + (test value).toNat := by
  induction entries with
  | nil => cases hvalue : test value <;> simp [assign, lookup, hvalue]
  | cons entry rest ih =>
      rcases entry with ⟨other, old⟩
      by_cases heq : other = key
      · cases hold : test old <;> cases hvalue : test value <;>
          simp [assign, lookup, heq, hold, hvalue]
      · simp only [assign, lookup, heq, if_false, List.map_cons,
          List.countP_cons]
        omega

theorem countP_filter_ne (test : Value → Bool) (key : Key)
    {entries : List (Key × Value)} (hnodup : (entries.map Prod.fst).Nodup) :
    ((entries.filter fun entry => decide (entry.1 ≠ key)).map
          Prod.snd).countP test +
        ((lookup key entries).any test).toNat =
      (entries.map Prod.snd).countP test := by
  induction entries with
  | nil => rfl
  | cons entry rest ih =>
      rcases entry with ⟨other, old⟩
      rw [List.map_cons, List.nodup_cons] at hnodup
      by_cases heq : other = key
      · subst heq
        have hrest : ((other, old) :: rest).filter
            (fun entry => decide (entry.1 ≠ other)) = rest := by
          rw [List.filter_cons_of_neg (by simp), List.filter_eq_self]
          intro entry hmem
          rw [decide_eq_true_iff]
          intro hsame
          have hkey : entry.1 ∈ rest.map Prod.fst :=
            List.mem_map_of_mem hmem
          rw [hsame] at hkey
          exact hnodup.1 hkey
        rw [hrest]
        cases hold : test old <;> simp [lookup, hold]
      · have hrest := ih hnodup.2
        simp only [lookup, heq, ne_eq, not_false_eq_true, decide_true,
          List.filter_cons_of_pos, if_false, List.map_cons,
          List.countP_cons] at hrest ⊢
        omega

theorem count_set (test : Value → Bool) (dict : Dict Key Value) (key : Key)
    (value : Value) :
    (dict.set key value).count test + ((dict.get? key).any test).toNat =
      dict.count test + (test value).toNat :=
  countP_assign test key value dict.entries

theorem count_erase (test : Value → Bool) (dict : Dict Key Value)
    (key : Key) :
    (dict.erase key).count test + ((dict.get? key).any test).toNat =
      dict.count test :=
  countP_filter_ne test key dict.nodup_keys

end Dict
end DessMonitor
