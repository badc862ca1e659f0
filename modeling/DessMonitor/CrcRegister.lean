import DessMonitor.Crc
import DessMonitor.Foundation.ShiftRegister

/-!
# The checksums as shift registers

Both inner loops are linear and lose nothing, and both checksums take a byte in
as if its eight bits came one after the other: XMODEM the most significant one
first, Modbus the least significant one.
-/

namespace DessMonitor
namespace Crc

open ShiftRegister

/-! ## Bits of bytes -/

/-- The bits of a byte, the most significant one first. -/
def msbFirst (byte : UInt8) : List Bool :=
  (List.range 8).map fun index => byte.toBitVec.getLsbD (7 - index)

/-- The bits of a byte, the least significant one first. -/
def lsbFirst (byte : UInt8) : List Bool :=
  (List.range 8).map fun index => byte.toBitVec.getLsbD index

/-- A frame with the bits of a pattern inverted. -/
def xorBytes (raw pattern : List UInt8) : List UInt8 :=
  List.zipWith (fun byte error => byte ^^^ error) raw pattern

theorem length_xorBytes {raw pattern : List UInt8}
    (hlength : pattern.length = raw.length) :
    (xorBytes raw pattern).length = raw.length := by
  unfold xorBytes
  rw [List.length_zipWith, hlength, Nat.min_self]

/-- An order in which the eight bits of a byte come. -/
structure BitOrder where
  bits : UInt8 → List Bool
  length_bits : ∀ byte, (bits byte).length = 8
  bits_xor : ∀ left right,
    bits (left ^^^ right) = List.zipWith Bool.xor (bits left) (bits right)
  true_mem_bits : ∀ byte, byte ≠ 0 → true ∈ bits byte

namespace BitOrder

variable (order : BitOrder)

/-- The bits of a frame in the order in which they come. -/
def stream (data : List UInt8) : List Bool := data.flatMap order.bits

theorem stream_append (left right : List UInt8) :
    order.stream (left ++ right) = order.stream left ++ order.stream right :=
  List.flatMap_append

theorem length_stream (data : List UInt8) :
    (order.stream data).length = 8 * data.length := by
  induction data with
  | nil => rfl
  | cons byte data ih =>
      have hhead := order.length_bits byte
      unfold stream at ih ⊢
      rw [List.flatMap_cons, List.length_append, ih, hhead, List.length_cons]
      omega

theorem stream_xorBytes {raw pattern : List UInt8}
    (hlength : pattern.length = raw.length) :
    order.stream (xorBytes raw pattern) =
      List.zipWith Bool.xor (order.stream raw) (order.stream pattern) := by
  induction raw generalizing pattern with
  | nil => rfl
  | cons byte raw ih =>
      cases pattern with
      | nil => cases hlength
      | cons error pattern =>
          have htail : pattern.length = raw.length := Nat.succ.inj hlength
          have hbits : (order.bits byte).length =
              (order.bits error).length := by
            rw [order.length_bits, order.length_bits]
          have hrest := ih htail
          unfold stream xorBytes at hrest ⊢
          rw [List.zipWith_cons_cons, List.flatMap_cons, List.flatMap_cons,
            List.flatMap_cons, hrest, order.bits_xor,
            List.zipWith_append hbits]

theorem true_mem_stream {pattern : List UInt8}
    (hpattern : ∃ error ∈ pattern, error ≠ 0) :
    true ∈ order.stream pattern := by
  obtain ⟨error, hmem, hne⟩ := hpattern
  exact List.mem_flatMap.2 ⟨error, hmem, order.true_mem_bits error hne⟩

end BitOrder

theorem exists_bit_of_ne_zero {byte : UInt8} (hne : byte ≠ 0) :
    ∃ index < 8, byte.toBitVec.getLsbD index = true := by
  by_contra hclear
  apply hne
  apply UInt8.toBitVec_inj.1
  apply BitVec.eq_of_getLsbD_eq
  intro index hindex
  by_contra hbit
  apply hclear
  refine ⟨index, hindex, ?_⟩
  simpa using hbit

/-- The most significant bit of each byte first. -/
def msbOrder : BitOrder where
  bits := msbFirst
  length_bits _ := rfl
  bits_xor left right := by
    simp [msbFirst, List.range_succ]
  true_mem_bits byte hne := by
    obtain ⟨index, hindex, hbit⟩ := exists_bit_of_ne_zero hne
    refine List.mem_map.2 ⟨7 - index, List.mem_range.2 (by omega), ?_⟩
    rw [show 7 - (7 - index) = index by omega]
    exact hbit

/-- The least significant bit of each byte first, as a UART sends it. -/
def lsbOrder : BitOrder where
  bits := lsbFirst
  length_bits _ := rfl
  bits_xor left right := by
    simp [lsbFirst, List.range_succ]
  true_mem_bits byte hne := by
    obtain ⟨index, hindex, hbit⟩ := exists_bit_of_ne_zero hne
    exact List.mem_map.2 ⟨index, List.mem_range.2 hindex, hbit⟩

/-! ## Checksums as bytes -/

/-- The register that two bytes of a checksum stand for. -/
def checkValue (high low : UInt8) : BitVec 16 :=
  (high.toBitVec.setWidth 16 <<< 8) ^^^ low.toBitVec.setWidth 16

theorem bigEndian_checkValue (high low : UInt8) :
    bigEndian (checkValue high low) = [high, low] := by
  have hhigh : ((checkValue high low) >>> 8).setWidth 8 = high.toBitVec := by
    apply BitVec.eq_of_getLsbD_eq
    intro index hindex
    have hbound : 8 + index < 16 := by omega
    simp [checkValue, hindex, hbound]
  have hlow : (checkValue high low).setWidth 8 = low.toBitVec := by
    apply BitVec.eq_of_getLsbD_eq
    intro index hindex
    simp [checkValue, hindex]
  unfold bigEndian
  rw [hhigh, hlow]

theorem eq_bigEndian_iff (high low : UInt8) (crc : BitVec 16) :
    [high, low] = bigEndian crc ↔ crc = checkValue high low := by
  constructor
  · intro hbytes
    injection hbytes with hhigh hrest
    injection hrest with hlow _
    subst hhigh
    subst hlow
    apply BitVec.eq_of_getLsbD_eq
    intro index hindex
    by_cases hhalf : index < 8
    · simp [checkValue, hhalf, hindex]
    · have hback : 8 + (index - 8) = index := by omega
      have hbound : index - 8 < 8 := by omega
      simp [checkValue, hhalf, hindex, hback, hbound]
  · intro hcrc
    rw [hcrc, bigEndian_checkValue]

/-! ## The register of XMODEM -/

theorem xmodemBit_eq (crc : BitVec 16) :
    xmodemBit crc =
      (crc <<< 1) ^^^ (if crc.getLsbD 15 then 0x1021#16 else 0#16) := by
  have hmask : crc &&& 0x8000#16 =
      if crc.getLsbD 15 then BitVec.twoPow 16 15 else 0#16 :=
    BitVec.and_twoPow crc 15
  unfold xmodemBit
  rw [hmask]
  cases crc.getLsbD 15 <;> simp [BitVec.twoPow]

theorem xmodemBit_xor (left right : BitVec 16) :
    xmodemBit (left ^^^ right) = xmodemBit left ^^^ xmodemBit right := by
  rw [xmodemBit_eq, xmodemBit_eq, xmodemBit_eq, BitVec.shiftLeft_xor_distrib,
    BitVec.getLsbD_xor, BitVec.xor_assoc, BitVec.xor_assoc,
    BitVec.xor_right_inj, ← BitVec.xor_assoc, BitVec.xor_comm _ (right <<< 1),
    BitVec.xor_assoc, BitVec.xor_right_inj]
  cases left.getLsbD 15 <;> cases right.getLsbD 15 <;> rfl

theorem eq_zero_of_xmodemBit (crc : BitVec 16)
    (hzero : xmodemBit crc = 0#16) : crc = 0#16 := by
  rw [xmodemBit_eq] at hzero
  -- The shift leaves the lowest bit clear and the polynomial sets it.
  have hlow := congrArg (fun state : BitVec 16 => state.getLsbD 0) hzero
  cases hhigh : crc.getLsbD 15 with
  | true =>
      rw [hhigh] at hlow
      simp at hlow
  | false =>
      rw [hhigh] at hzero
      apply BitVec.eq_of_getLsbD_eq
      intro index hindex
      by_cases hlast : index = 15
      · rw [hlast, hhigh, BitVec.getLsbD_zero]
      · have hshifted := congrArg
          (fun state : BitVec 16 => state.getLsbD (index + 1)) hzero
        have hbound : index + 1 < 16 := by omega
        simpa [hbound, BitVec.getLsbD_eq_getElem hindex] using hshifted

def xmodemRegister : ShiftRegister 16 where
  advance := xmodemBit
  position index := 15 - index
  advance_xor := xmodemBit_xor
  eq_zero_of_advance := eq_zero_of_xmodemBit
  position_lt := by omega
  position_injective := by omega
  advance_position index hindex := by
    have hall : ∀ index < 15,
        xmodemBit (BitVec.twoPow 16 (15 - (index + 1))) =
          BitVec.twoPow 16 (15 - index) := by
      decide
    exact hall index (by omega)

theorem xmodemRegister_load (byte : UInt8) :
    xmodemRegister.load 0 (msbFirst byte) =
      byte.toBitVec.setWidth 16 <<< 8 := by
  have hall : ∀ bits : BitVec 8,
      xmodemRegister.load 0 (msbFirst ⟨bits⟩) = bits.setWidth 16 <<< 8 := by
    decide +kernel
  exact hall byte.toBitVec

/-- A byte goes in as its bits do. -/
theorem xmodemByte_eq_feed (crc : BitVec 16) (byte : UInt8) :
    xmodemByte crc byte = xmodemRegister.feed crc (msbFirst byte) := by
  have hfeed := xmodemRegister.feed_eq_load crc (msbFirst byte)
    (by decide : 8 ≤ 16)
  rw [hfeed, xmodemRegister_load]
  rfl

theorem foldl_xmodemByte (crc : BitVec 16) (data : List UInt8) :
    data.foldl xmodemByte crc =
      xmodemRegister.feed crc (msbOrder.stream data) := by
  induction data generalizing crc with
  | nil => rfl
  | cons byte data ih =>
      have hstream : msbOrder.stream (byte :: data) =
          msbFirst byte ++ msbOrder.stream data := rfl
      rw [List.foldl_cons, ih, hstream, ShiftRegister.feed_append,
        xmodemByte_eq_feed]

theorem crc16Xmodem_eq_feed (data : List UInt8) :
    crc16Xmodem data = xmodemRegister.feed 0#16 (msbOrder.stream data) :=
  foldl_xmodemByte 0#16 data

/-! ## The register of Modbus -/

theorem modbusBit_eq (crc : BitVec 16) :
    modbusBit crc =
      (crc >>> 1) ^^^ (if crc.getLsbD 0 then 0xA001#16 else 0#16) := by
  have hmask : crc &&& 1#16 =
      if crc.getLsbD 0 then BitVec.twoPow 16 0 else 0#16 :=
    BitVec.and_twoPow crc 0
  unfold modbusBit
  rw [hmask]
  cases crc.getLsbD 0 <;> simp [BitVec.twoPow]

theorem modbusBit_xor (left right : BitVec 16) :
    modbusBit (left ^^^ right) = modbusBit left ^^^ modbusBit right := by
  rw [modbusBit_eq, modbusBit_eq, modbusBit_eq,
    BitVec.ushiftRight_xor_distrib, BitVec.getLsbD_xor, BitVec.xor_assoc,
    BitVec.xor_assoc, BitVec.xor_right_inj, ← BitVec.xor_assoc,
    BitVec.xor_comm _ (right >>> 1), BitVec.xor_assoc, BitVec.xor_right_inj]
  cases left.getLsbD 0 <;> cases right.getLsbD 0 <;> rfl

theorem eq_zero_of_modbusBit (crc : BitVec 16)
    (hzero : modbusBit crc = 0#16) : crc = 0#16 := by
  rw [modbusBit_eq] at hzero
  -- The shift leaves the highest bit clear and the polynomial sets it.
  have hhigh := congrArg (fun state : BitVec 16 => state.getLsbD 15) hzero
  cases hlow : crc.getLsbD 0 with
  | true =>
      rw [hlow] at hhigh
      simp at hhigh
  | false =>
      rw [hlow] at hzero
      apply BitVec.eq_of_getLsbD_eq
      intro index hindex
      cases index with
      | zero => rw [hlow, BitVec.getLsbD_zero]
      | succ index =>
          have hshifted := congrArg
            (fun state : BitVec 16 => state.getLsbD index) hzero
          simpa [Nat.add_comm] using hshifted

def modbusRegister : ShiftRegister 16 where
  advance := modbusBit
  position index := index
  advance_xor := modbusBit_xor
  eq_zero_of_advance := eq_zero_of_modbusBit
  position_lt := by omega
  position_injective := by omega
  advance_position index hindex := by
    have hall : ∀ index < 15,
        modbusBit (BitVec.twoPow 16 (index + 1)) =
          BitVec.twoPow 16 index := by
      decide
    exact hall index (by omega)

theorem modbusRegister_load (byte : UInt8) :
    modbusRegister.load 0 (lsbFirst byte) = byte.toBitVec.setWidth 16 := by
  have hall : ∀ bits : BitVec 8,
      modbusRegister.load 0 (lsbFirst ⟨bits⟩) = bits.setWidth 16 := by
    decide +kernel
  exact hall byte.toBitVec

/-- A byte goes in as its bits do. -/
theorem modbusByte_eq_feed (crc : BitVec 16) (byte : UInt8) :
    modbusByte crc byte = modbusRegister.feed crc (lsbFirst byte) := by
  have hfeed := modbusRegister.feed_eq_load crc (lsbFirst byte)
    (by decide : 8 ≤ 16)
  rw [hfeed, modbusRegister_load]
  rfl

theorem foldl_modbusByte (crc : BitVec 16) (data : List UInt8) :
    data.foldl modbusByte crc =
      modbusRegister.feed crc (lsbOrder.stream data) := by
  induction data generalizing crc with
  | nil => rfl
  | cons byte data ih =>
      have hstream : lsbOrder.stream (byte :: data) =
          lsbFirst byte ++ lsbOrder.stream data := rfl
      rw [List.foldl_cons, ih, hstream, ShiftRegister.feed_append,
        modbusByte_eq_feed]

end Crc
end DessMonitor
