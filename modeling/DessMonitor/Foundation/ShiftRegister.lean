import Mathlib.Data.BitVec
import Mathlib.Data.Nat.Bits
import Mathlib.Tactic

/-!
# Shift registers that a stream of bits is fed into

A linear register puts each incoming bit at one position and advances.  Up to
its own width, bits that are fed one after the other have the same effect as
the bits put at their own positions beforehand.  A register that forgets
nothing hence tells a stream from every other that differs from it in a burst
not longer than the register.
-/

namespace DessMonitor

/-! ## Bursts -/

/-- The set bits of a pattern lie within `width` consecutive positions. -/
def Burst (width : ℕ) (pattern : List Bool) : Prop :=
  ∃ start, ∀ index (hindex : index < pattern.length),
    pattern[index] = true → start ≤ index ∧ index < start + width

theorem eq_replicate_false {bits : List Bool}
    (hclear : ∀ index (hindex : index < bits.length), bits[index] = false) :
    bits = List.replicate bits.length false := by
  apply List.ext_getElem
  · rw [List.length_replicate]
  · intro index hindex _
    rw [hclear index hindex, List.getElem_replicate]

/-- A burst is a short window between clear bits. -/
theorem Burst.exists_window {width : ℕ} {pattern : List Bool}
    (hburst : Burst width pattern) :
    ∃ before window after, window.length ≤ width ∧
      pattern = List.replicate before false ++ window ++
        List.replicate after false := by
  obtain ⟨start, hstart⟩ := hburst
  have hbefore : pattern.take start =
      List.replicate (pattern.take start).length false := by
    apply eq_replicate_false
    intro index hindex
    rw [List.length_take] at hindex
    rw [List.getElem_take]
    by_contra hset
    have hrange := hstart index (by omega) (by simpa using hset)
    omega
  have hafter : (pattern.drop start).drop width =
      List.replicate ((pattern.drop start).drop width).length false := by
    apply eq_replicate_false
    intro index hindex
    rw [List.length_drop, List.length_drop] at hindex
    rw [List.getElem_drop, List.getElem_drop]
    by_contra hset
    have hrange := hstart (start + (width + index)) (by omega)
      (by simpa using hset)
    omega
  refine ⟨(pattern.take start).length, (pattern.drop start).take width,
    ((pattern.drop start).drop width).length,
    List.length_take_le _ _, ?_⟩
  rw [← hbefore, ← hafter, List.append_assoc, List.take_append_drop,
    List.take_append_drop]

theorem Burst.of_append {width : ℕ} {left right : List Bool}
    (hburst : Burst width (left ++ right)) : Burst width left := by
  obtain ⟨start, hstart⟩ := hburst
  refine ⟨start, ?_⟩
  intro index hindex hset
  have hwhole : index < (left ++ right).length := by
    rw [List.length_append]
    omega
  apply hstart index hwhole
  rw [List.getElem_append_left hindex]
  exact hset

/-! ## Registers -/

/-- How a register of `width` bits takes in a bit: the bit goes to the first of
the positions, and each step moves the bit at the next position there. -/
structure ShiftRegister (width : ℕ) where
  advance : BitVec width → BitVec width
  position : ℕ → ℕ
  advance_xor : ∀ left right,
    advance (left ^^^ right) = advance left ^^^ advance right
  eq_zero_of_advance : ∀ state, advance state = BitVec.ofNat width 0 →
    state = BitVec.ofNat width 0
  position_lt : ∀ index, index < width → position index < width
  position_injective : ∀ left right, left < width → right < width →
    position left = position right → left = right
  advance_position : ∀ index, index + 1 < width →
    advance (BitVec.twoPow width (position (index + 1))) =
      BitVec.twoPow width (position index)

namespace ShiftRegister

variable {width : ℕ} (register : ShiftRegister width)

/-- A bit at one of the positions. -/
def place (index : ℕ) (bit : Bool) : BitVec width :=
  if bit then BitVec.twoPow width (register.position index)
  else BitVec.ofNat width 0

/-- One bit is taken in. -/
def enter (state : BitVec width) (bit : Bool) : BitVec width :=
  register.advance (state ^^^ register.place 0 bit)

/-- The bits of a stream are taken in one after the other. -/
def feed (state : BitVec width) (bits : List Bool) : BitVec width :=
  bits.foldl register.enter state

/-- The bits of a stream at their positions, from the given one on. -/
def load (index : ℕ) : List Bool → BitVec width
  | [] => BitVec.ofNat width 0
  | bit :: bits => register.place index bit ^^^ load (index + 1) bits

@[simp] theorem feed_nil (state : BitVec width) :
    register.feed state [] = state := rfl

@[simp] theorem feed_cons (state : BitVec width) (bit : Bool)
    (bits : List Bool) :
    register.feed state (bit :: bits) =
      register.feed (register.enter state bit) bits := rfl

theorem feed_append (state : BitVec width) (left right : List Bool) :
    register.feed state (left ++ right) =
      register.feed (register.feed state left) right :=
  List.foldl_append

/-! ## Linearity -/

theorem advance_zero :
    register.advance (BitVec.ofNat width 0) = BitVec.ofNat width 0 := by
  have hxor := register.advance_xor (BitVec.ofNat width 0)
    (BitVec.ofNat width 0)
  rw [BitVec.xor_self, BitVec.xor_self] at hxor
  exact hxor

theorem place_xor (index : ℕ) (left right : Bool) :
    register.place index (left ^^ right) =
      register.place index left ^^^ register.place index right := by
  cases left <;> cases right <;> simp [place]

theorem enter_xor (leftState rightState : BitVec width) (left right : Bool) :
    register.enter (leftState ^^^ rightState) (left ^^ right) =
      register.enter leftState left ^^^ register.enter rightState right := by
  unfold enter
  rw [← register.advance_xor, place_xor]
  congr 1
  ac_rfl

/-- Two streams of one length are fed in at once. -/
theorem feed_xor (leftState rightState : BitVec width)
    (left right : List Bool) (hlength : left.length = right.length) :
    register.feed (leftState ^^^ rightState)
        (List.zipWith Bool.xor left right) =
      register.feed leftState left ^^^ register.feed rightState right := by
  induction left generalizing leftState rightState right with
  | nil =>
      rw [List.length_nil] at hlength
      rw [List.length_eq_zero_iff.1 hlength.symm]
      rfl
  | cons bit left ih =>
      cases right with
      | nil => cases hlength
      | cons other right =>
          have htail : left.length = right.length :=
            Nat.succ.inj hlength
          rw [List.zipWith_cons_cons, feed_cons, feed_cons, feed_cons,
            register.enter_xor]
          exact ih _ _ right htail

/-! ## Clear bits -/

theorem enter_false (state : BitVec width) :
    register.enter state false = register.advance state := by
  unfold enter place
  rw [if_neg Bool.false_ne_true, BitVec.xor_zero]

theorem feed_zero_replicate (count : ℕ) :
    register.feed (BitVec.ofNat width 0) (List.replicate count false) =
      BitVec.ofNat width 0 := by
  induction count with
  | zero => rfl
  | succ count ih =>
      rw [List.replicate_succ, feed_cons, enter_false, advance_zero]
      exact ih

/-- What is in the register is not lost by advancing. -/
theorem eq_zero_of_feed_replicate {state : BitVec width} {count : ℕ}
    (hfeed : register.feed state (List.replicate count false) =
      BitVec.ofNat width 0) :
    state = BitVec.ofNat width 0 := by
  induction count generalizing state with
  | zero => exact hfeed
  | succ count ih =>
      rw [List.replicate_succ, feed_cons, enter_false] at hfeed
      exact register.eq_zero_of_advance state (ih hfeed)

/-! ## Loaded bits -/

theorem advance_place (index : ℕ) (hindex : index + 1 < width) (bit : Bool) :
    register.advance (register.place (index + 1) bit) =
      register.place index bit := by
  cases bit with
  | false => exact register.advance_zero
  | true => exact register.advance_position index hindex

theorem advance_load (index : ℕ) (bits : List Bool)
    (hfits : index + 1 + bits.length ≤ width) :
    register.advance (register.load (index + 1) bits) =
      register.load index bits := by
  induction bits generalizing index with
  | nil => exact register.advance_zero
  | cons bit bits ih =>
      rw [List.length_cons] at hfits
      unfold load
      rw [register.advance_xor, advance_place register index (by omega),
        ih (index + 1) (by omega)]

/-- Bits that fit into the register may be put there before it advances. -/
theorem feed_eq_load (state : BitVec width) (bits : List Bool)
    (hfits : bits.length ≤ width) :
    register.feed state bits =
      register.advance^[bits.length] (state ^^^ register.load 0 bits) := by
  induction bits generalizing state with
  | nil =>
      unfold load
      rw [BitVec.xor_zero]
      rfl
  | cons bit bits ih =>
      rw [List.length_cons] at hfits
      have hload : register.load 0 bits =
          register.advance (register.load 1 bits) :=
        (register.advance_load 0 bits (by omega)).symm
      rw [feed_cons, ih _ (by omega), hload, enter, ← register.advance_xor,
        List.length_cons, Function.iterate_succ_apply, load,
        BitVec.xor_assoc]

theorem load_append (index : ℕ) (left right : List Bool) :
    register.load index (left ++ right) =
      register.load index left ^^^
        register.load (index + left.length) right := by
  induction left generalizing index with
  | nil =>
      exact (BitVec.zero_xor).symm
  | cons bit left ih =>
      rw [List.cons_append, load, load, ih, BitVec.xor_assoc,
        List.length_cons]
      congr 3
      omega

theorem getLsbD_place (index other : ℕ) (hindex : index < width)
    (hother : other < width) (bit : Bool) :
    (register.place index bit).getLsbD (register.position other) =
      (decide (index = other) && bit) := by
  unfold place
  cases bit with
  | false =>
      rw [if_neg Bool.false_ne_true, BitVec.getLsbD_zero, Bool.and_false]
  | true =>
      rw [if_pos rfl, BitVec.getLsbD_twoPow, Bool.and_true]
      have hinside := register.position_lt other hother
      by_cases hsame : index = other
      · subst hsame
        simpa using register.position_lt index hindex
      · have hapart : register.position index ≠ register.position other :=
          fun hposition =>
            hsame (register.position_injective _ _ hindex hother hposition)
        simp [hsame, hapart]

theorem getLsbD_load_before (index other : ℕ) (bits : List Bool)
    (hbefore : other < index) (hfits : index + bits.length ≤ width) :
    (register.load index bits).getLsbD (register.position other) = false := by
  induction bits generalizing index with
  | nil => exact BitVec.getLsbD_zero
  | cons bit bits ih =>
      rw [List.length_cons] at hfits
      rw [load, BitVec.getLsbD_xor,
        register.getLsbD_place _ _ (by omega) (by omega),
        ih (index + 1) (by omega) (by omega)]
      have hapart : index ≠ other := by omega
      simp [hapart]

/-- A loaded bit is found at its position. -/
theorem getLsbD_load (start : ℕ) (bits : List Bool) (index : ℕ)
    (hindex : index < bits.length) (hfits : start + bits.length ≤ width) :
    (register.load start bits).getLsbD (register.position (start + index)) =
      bits[index] := by
  induction bits generalizing start index with
  | nil => cases hindex
  | cons bit bits ih =>
      rw [List.length_cons] at hfits hindex
      rw [load, BitVec.getLsbD_xor,
        register.getLsbD_place _ _ (by omega) (by omega)]
      cases index with
      | zero =>
          rw [register.getLsbD_load_before _ _ bits (by omega) (by omega)]
          simp
      | succ index =>
          have hnext : start + (index + 1) = start + 1 + index := by omega
          have hapart : start ≠ start + 1 + index := by omega
          rw [hnext, ih (start + 1) index (by omega) (by omega)]
          simp [hapart]

theorem iterate_advance_xor (count : ℕ) (left right : BitVec width) :
    register.advance^[count] (left ^^^ right) =
      register.advance^[count] left ^^^ register.advance^[count] right := by
  induction count generalizing left right with
  | zero => rfl
  | succ count ih =>
      rw [Function.iterate_succ_apply, Function.iterate_succ_apply,
        Function.iterate_succ_apply, register.advance_xor]
      exact ih _ _

theorem eq_zero_of_iterate_advance {state : BitVec width} {count : ℕ}
    (hzero : register.advance^[count] state = BitVec.ofNat width 0) :
    state = BitVec.ofNat width 0 := by
  induction count generalizing state with
  | zero => exact hzero
  | succ count ih =>
      rw [Function.iterate_succ_apply] at hzero
      exact register.eq_zero_of_advance state (ih hzero)

theorem iterate_advance_zero (count : ℕ) :
    register.advance^[count] (BitVec.ofNat width 0) =
      BitVec.ofNat width 0 :=
  Function.iterate_fixed register.advance_zero count

/-- Bits that fit into the register clear it exactly when they are what is in
it. -/
theorem feed_eq_zero_iff (state : BitVec width) (bits : List Bool)
    (hfits : bits.length ≤ width) :
    register.feed state bits = BitVec.ofNat width 0 ↔
      state = register.load 0 bits := by
  rw [register.feed_eq_load state bits hfits]
  constructor
  · intro hzero
    exact BitVec.xor_eq_zero_iff.1 (register.eq_zero_of_iterate_advance hzero)
  · intro hstate
    rw [hstate, BitVec.xor_self, iterate_advance_zero]

/-! ## Detection -/

/-- A window not longer than the register leaves it clear only if it is clear
itself. -/
theorem clear_of_feed_window {window : List Bool}
    (hfits : window.length ≤ width)
    (hfeed : register.feed (BitVec.ofNat width 0) window =
      BitVec.ofNat width 0) :
    ∀ index (hindex : index < window.length), window[index] = false := by
  intro index hindex
  have hload := (register.feed_eq_zero_iff _ _ hfits).1 hfeed
  have hbit := register.getLsbD_load 0 window index hindex (by omega)
  rw [← hload, BitVec.getLsbD_zero] at hbit
  exact hbit.symm

/-- A burst not longer than the register does not leave it clear. -/
theorem feed_ne_zero_of_burst {pattern : List Bool}
    (hburst : Burst width pattern) (hset : true ∈ pattern) :
    register.feed (BitVec.ofNat width 0) pattern ≠
      BitVec.ofNat width 0 := by
  intro hfeed
  obtain ⟨before, window, after, hlength, rfl⟩ := hburst.exists_window
  rw [feed_append, feed_append, feed_zero_replicate] at hfeed
  have hclear := register.clear_of_feed_window hlength
    (register.eq_zero_of_feed_replicate hfeed)
  have hwindow : true ∈ window := by
    simpa [List.mem_append, List.mem_replicate] using hset
  obtain ⟨index, hindex, hbit⟩ := List.getElem_of_mem hwindow
  rw [hclear index hindex] at hbit
  cases hbit

/-- Bits that leave the register clear do not when a burst has changed them. -/
theorem feed_zipWith_ne_zero_of_burst {state : BitVec width}
    {bits pattern : List Bool}
    (hzero : register.feed state bits = BitVec.ofNat width 0)
    (hlength : bits.length = pattern.length) (hburst : Burst width pattern)
    (hset : true ∈ pattern) :
    register.feed state (List.zipWith Bool.xor bits pattern) ≠
      BitVec.ofNat width 0 := by
  have hxor := register.feed_xor state (BitVec.ofNat width 0) bits pattern
    hlength
  rw [BitVec.xor_zero, hzero, BitVec.zero_xor] at hxor
  rw [hxor]
  exact register.feed_ne_zero_of_burst hburst hset

end ShiftRegister
end DessMonitor
