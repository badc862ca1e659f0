import DessMonitor.CrcRegister
import DessMonitor.ModbusRtu

/-!
# Bursts are detected

A frame and its checksum leave the register clear, whatever it starts with, and
a burst of up to 16 bits, wherever it lies, does not.  This makes the PI18
check and the Modbus decoder refuse every frame that a burst has changed.
-/

namespace DessMonitor

open Crc ShiftRegister

/-! ## The checksum of a frame -/

namespace Crc

theorem toNat_checkValue (high low : UInt8) :
    (checkValue high low).toNat =
      Modbus.littleEndian low.toNat high.toNat := by
  have hor : checkValue high low =
      low.toBitVec.setWidth 16 ||| (high.toBitVec.setWidth 16 <<< 8) := by
    apply BitVec.eq_of_getLsbD_eq
    intro index hindex
    by_cases hhalf : index < 8
    · simp [checkValue, hhalf, hindex]
    · have hclear : low.toBitVec.getLsbD index = false :=
        BitVec.getLsbD_of_ge _ _ (by omega)
      simp [checkValue, hhalf, hindex, hclear]
  have hlow := low.toNat_lt
  have hhigh := high.toNat_lt
  rw [hor, BitVec.toNat_or, BitVec.toNat_shiftLeft, BitVec.toNat_setWidth,
    BitVec.toNat_setWidth]
  unfold Modbus.littleEndian
  have hshift : high.toNat <<< 8 = high.toNat * 256 := by
    rw [Nat.shiftLeft_eq]
  have hlowValue : low.toBitVec.toNat % 2 ^ 16 = low.toNat :=
    Nat.mod_eq_of_lt (by change low.toNat < _; omega)
  have hhighValue : high.toBitVec.toNat % 2 ^ 16 = high.toNat :=
    Nat.mod_eq_of_lt (by change high.toNat < _; omega)
  rw [hlowValue, hhighValue, hshift, Nat.mod_eq_of_lt (by omega)]

theorem xmodemRegister_load_pair (high low : UInt8) :
    xmodemRegister.load 0 (msbOrder.stream [high, low]) =
      checkValue high low := by
  have hsecond : ∀ bits : BitVec 8,
      xmodemRegister.load 8 (msbFirst ⟨bits⟩) = bits.setWidth 16 := by
    decide +kernel
  have hstream : msbOrder.stream [high, low] =
      msbFirst high ++ msbFirst low := rfl
  rw [hstream, ShiftRegister.load_append, xmodemRegister_load]
  exact congrArg _ (hsecond low.toBitVec)

theorem modbusRegister_load_pair (low high : UInt8) :
    modbusRegister.load 0 (lsbOrder.stream [low, high]) =
      checkValue high low := by
  have hsecond : ∀ bits : BitVec 8,
      modbusRegister.load 8 (lsbFirst ⟨bits⟩) =
        bits.setWidth 16 <<< 8 := by
    decide +kernel
  have hstream : lsbOrder.stream [low, high] =
      lsbFirst low ++ lsbFirst high := rfl
  rw [hstream, ShiftRegister.load_append, modbusRegister_load,
    checkValue, BitVec.xor_comm]
  exact congrArg (fun state => state ^^^ low.toBitVec.setWidth 16)
    (hsecond high.toBitVec)

/-- A payload and its checksum leave the register of XMODEM clear. -/
theorem crc16Xmodem_append_eq_zero_iff (payload : List UInt8)
    (high low : UInt8) :
    crc16Xmodem (payload ++ [high, low]) = 0#16 ↔
      [high, low] = crc16XmodemBytes payload := by
  have hlength : (msbOrder.stream [high, low]).length ≤ 16 := by
    rw [msbOrder.length_stream]
    rfl
  unfold crc16XmodemBytes
  rw [crc16Xmodem_eq_feed, msbOrder.stream_append,
    ShiftRegister.feed_append, xmodemRegister.feed_eq_zero_iff _ _ hlength,
    xmodemRegister_load_pair, ← crc16Xmodem_eq_feed, eq_bigEndian_iff]

/-- A body and its checksum, low byte first, leave the register of Modbus
clear. -/
theorem littleEndian_eq_crc16Modbus_iff (body : List UInt8)
    (low high : UInt8) :
    Modbus.littleEndian low.toNat high.toNat = crc16Modbus body ↔
      modbusRegister.feed 0xFFFF#16 (lsbOrder.stream (body ++ [low, high])) =
        0#16 := by
  have hlength : (lsbOrder.stream [low, high]).length ≤ 16 := by
    rw [lsbOrder.length_stream]
    rfl
  rw [lsbOrder.stream_append, ShiftRegister.feed_append,
    modbusRegister.feed_eq_zero_iff _ _ hlength, modbusRegister_load_pair,
    ← foldl_modbusByte, ← toNat_checkValue, crc16Modbus, BitVec.toNat_inj]
  exact eq_comm

/-- A frame that leaves the register clear does not when a burst has changed
it. -/
theorem feed_xorBytes_ne_zero (register : ShiftRegister 16)
    (order : BitOrder) {state : BitVec 16} {raw pattern : List UInt8}
    (hzero : register.feed state (order.stream raw) = 0#16)
    (hlength : pattern.length = raw.length)
    (hnonzero : ∃ error ∈ pattern, error ≠ 0)
    (hburst : Burst 16 (order.stream pattern)) :
    register.feed state (order.stream (xorBytes raw pattern)) ≠ 0#16 := by
  have hstreams : (order.stream raw).length =
      (order.stream pattern).length := by
    rw [order.length_stream, order.length_stream, hlength]
  rw [order.stream_xorBytes hlength]
  exact register.feed_zipWith_ne_zero_of_burst hzero hstreams hburst
    (order.true_mem_stream hnonzero)

end Crc

/-! ## PI18 -/

namespace Crc

theorem exists_pair {crc : List UInt8} (hlength : crc.length = 2) :
    ∃ first second, crc = [first, second] := by
  match crc, hlength with
  | [first, second], _ => exact ⟨first, second, rfl⟩

/-- A frame is accepted exactly when it leaves the register clear. -/
theorem validatePi18Response_iff (raw : List UInt8) :
    (validatePi18Response raw).1 = true ↔
      3 ≤ raw.length ∧ crc16Xmodem raw = 0#16 := by
  unfold validatePi18Response
  by_cases hshort : raw.length < 3
  · rw [if_pos hshort]
    constructor
    · intro haccepted
      cases haccepted
    · intro hframe
      omega
  · have hlength : (trailingCrc raw).length = 2 := by
      unfold trailingCrc
      rw [List.length_drop]
      omega
    obtain ⟨high, low, hcrc⟩ := exists_pair hlength
    have hraw : withoutCrc raw ++ [high, low] = raw := by
      rw [← hcrc]
      exact List.take_append_drop _ raw
    have hresidue := crc16Xmodem_append_eq_zero_iff (withoutCrc raw) high low
    rw [hraw] at hresidue
    rw [if_neg hshort]
    dsimp only
    rw [hcrc, beq_iff_eq, ← hresidue]
    constructor
    · intro hzero
      exact ⟨by omega, hzero⟩
    · intro hframe
      exact hframe.2

/-- A frame that a burst of up to 16 bits has changed is rejected. -/
theorem validatePi18Response_burst {raw pattern : List UInt8}
    (haccepted : (validatePi18Response raw).1 = true)
    (hlength : pattern.length = raw.length)
    (hnonzero : ∃ error ∈ pattern, error ≠ 0)
    (hburst : Burst 16 (msbOrder.stream pattern)) :
    (validatePi18Response (xorBytes raw pattern)).1 = false := by
  have hzero := ((validatePi18Response_iff raw).1 haccepted).2
  rw [crc16Xmodem_eq_feed] at hzero
  have hchanged := feed_xorBytes_ne_zero xmodemRegister msbOrder hzero hlength
    hnonzero hburst
  rw [← crc16Xmodem_eq_feed] at hchanged
  rw [← Bool.not_eq_true, validatePi18Response_iff]
  intro hframe
  exact hchanged hframe.2

/-- A burst over the boundary of the payload and the checksum. -/
theorem validatePi18Response_burst_three :
    (validatePi18Response [0x31, 0x26, 0x72]).1 = true ∧
      (validatePi18Response
        (xorBytes [0x31, 0x26, 0x72] [0x01, 0x80, 0x00])).1 = false := by
  have haccepted : (validatePi18Response [0x31, 0x26, 0x72]).1 = true := by
    decide +kernel
  refine ⟨haccepted, validatePi18Response_burst haccepted rfl ?_ ?_⟩
  · decide
  · exact ⟨7, by decide⟩

end Crc

/-! ## Modbus -/

namespace Modbus

/-- What a reply passed that is decoded. -/
structure Accepted (resp : List UInt8) (unitId : ℤ) : Prop where
  long : 5 ≤ resp.length
  sameUnit : (byteAt resp 0 : ℤ) = unitId
  noException : byteAt resp 1 &&& 0x80 = 0
  complete : 3 + byteAt resp 2 + 2 ≤ resp.length
  crc : littleEndian (byteAt resp (3 + byteAt resp 2))
    (byteAt resp (3 + byteAt resp 2 + 1)) =
      crc16Modbus (resp.take (3 + byteAt resp 2))

theorem accepted_of_parseReadHoldingResponse {resp : List UInt8}
    {count unitId : ℤ} {registers : Registers}
    (hparsed : parseReadHoldingResponse resp count unitId = .ok registers) :
    Accepted resp unitId := by
  unfold parseReadHoldingResponse at hparsed
  split at hparsed
  · cases hparsed
  · next hlong =>
    dsimp only at hparsed
    split at hparsed
    · cases hparsed
    · next hunit =>
      split at hparsed
      · cases hparsed
      · next hplain =>
        split at hparsed
        · cases hparsed
        · next hcomplete =>
          split at hparsed
          · cases hparsed
          · next hcrc =>
            exact ⟨by omega, not_not.1 hunit, not_not.1 hplain, by omega,
              not_not.1 hcrc⟩

/-- A complete reply of the unit is refused if its checksum is not that of its
bytes. -/
theorem parseReadHoldingResponse_of_crc {resp : List UInt8}
    (count : ℤ) {unitId : ℤ} (hlong : 5 ≤ resp.length)
    (hunit : (byteAt resp 0 : ℤ) = unitId)
    (hplain : byteAt resp 1 &&& 0x80 = 0)
    (hcomplete : 3 + byteAt resp 2 + 2 ≤ resp.length)
    (hcrc : littleEndian (byteAt resp (3 + byteAt resp 2))
      (byteAt resp (3 + byteAt resp 2 + 1)) ≠
        crc16Modbus (resp.take (3 + byteAt resp 2))) :
    parseReadHoldingResponse resp count unitId =
      .error (.valueError "modbus CRC mismatch") := by
  unfold parseReadHoldingResponse
  rw [if_neg (by omega)]
  dsimp only
  rw [if_neg (not_not.2 hunit), if_neg (not_not.2 hplain),
    if_neg (by omega), if_pos hcrc]

theorem take_add_two {resp : List UInt8} {stop : ℕ}
    (hcomplete : stop + 2 ≤ resp.length) :
    resp.take (stop + 2) =
      resp.take stop ++ [resp[stop], resp[stop + 1]] := by
  rw [List.take_add_one, List.take_add_one]
  have hfirst : resp[stop]? = some resp[stop] :=
    List.getElem?_eq_getElem (by omega)
  have hsecond : resp[stop + 1]? = some resp[stop + 1] :=
    List.getElem?_eq_getElem (by omega)
  rw [hfirst, hsecond, Option.toList_some, Option.toList_some,
    List.append_assoc, List.singleton_append]

/-- The checksum of a complete reply is right exactly when the reply leaves the
register clear. -/
theorem crc_eq_iff {resp : List UInt8} {stop : ℕ}
    (hcomplete : stop + 2 ≤ resp.length) :
    littleEndian (byteAt resp stop) (byteAt resp (stop + 1)) =
        crc16Modbus (resp.take stop) ↔
      modbusRegister.feed 0xFFFF#16
        (lsbOrder.stream (resp.take (stop + 2))) = 0#16 := by
  rw [take_add_two hcomplete, byteAt_eq_getElem (by omega),
    byteAt_eq_getElem (by omega)]
  exact littleEndian_eq_crc16Modbus_iff _ _ _

theorem byteAt_xorBytes {resp pattern : List UInt8} {index : ℕ}
    (hindex : index < resp.length)
    (hlength : pattern.length = resp.length)
    (hclear : pattern[index] = 0) :
    byteAt (xorBytes resp pattern) index = byteAt resp index := by
  have hbound : index < (xorBytes resp pattern).length := by
    rw [length_xorBytes hlength]
    exact hindex
  have hbyte : (xorBytes resp pattern)[index] =
      resp[index] ^^^ pattern[index] :=
    List.getElem_zipWith
  rw [byteAt_eq_getElem hbound, byteAt_eq_getElem hindex, hbyte, hclear,
    UInt8.xor_zero]

theorem take_xorBytes (resp pattern : List UInt8) (stop : ℕ) :
    (xorBytes resp pattern).take stop =
      xorBytes (resp.take stop) (pattern.take stop) :=
  List.take_zipWith

/-- A checksum that is right is wrong when a burst up to its end has changed the
reply. -/
theorem crc_ne_of_burst {resp pattern : List UInt8} {stop : ℕ}
    (hcomplete : stop + 2 ≤ resp.length)
    (hcrc : littleEndian (byteAt resp stop) (byteAt resp (stop + 1)) =
      crc16Modbus (resp.take stop))
    (hlength : pattern.length = resp.length)
    (hnonzero : ∃ error ∈ pattern.take (stop + 2), error ≠ 0)
    (hburst : Burst 16 (lsbOrder.stream pattern)) :
    littleEndian (byteAt (xorBytes resp pattern) stop)
        (byteAt (xorBytes resp pattern) (stop + 1)) ≠
      crc16Modbus ((xorBytes resp pattern).take stop) := by
  have hchanged : stop + 2 ≤ (xorBytes resp pattern).length := by
    rw [length_xorBytes hlength]
    exact hcomplete
  have htakes : (pattern.take (stop + 2)).length =
      (resp.take (stop + 2)).length := by
    rw [List.length_take, List.length_take, hlength]
  have hwhole : lsbOrder.stream pattern =
      lsbOrder.stream (pattern.take (stop + 2)) ++
        lsbOrder.stream (pattern.drop (stop + 2)) := by
    rw [← lsbOrder.stream_append, List.take_append_drop]
  rw [hwhole] at hburst
  rw [Ne, crc_eq_iff hchanged, take_xorBytes]
  exact feed_xorBytes_ne_zero modbusRegister lsbOrder
    ((crc_eq_iff hcomplete).1 hcrc) htakes hnonzero hburst.of_append

/-- A pattern that is confined to the bytes before `stop` is set before
it. -/
theorem exists_ne_zero_take {pattern : List UInt8} {stop : ℕ}
    (hnonzero : ∃ error ∈ pattern, error ≠ 0)
    (hconfined : ∀ index (hindex : index < pattern.length),
      pattern[index] ≠ 0 → index < stop) :
    ∃ error ∈ pattern.take stop, error ≠ 0 := by
  obtain ⟨error, hmem, hne⟩ := hnonzero
  obtain ⟨index, hindex, rfl⟩ := List.getElem_of_mem hmem
  have hstop := hconfined index hindex hne
  refine ⟨pattern[index], ?_, hne⟩
  exact List.mem_take_iff_getElem.2 ⟨index, lt_min hstop hindex, rfl⟩

/-- A decoded reply whose data and checksum bytes a burst of up to 16 bits has
changed is refused. -/
theorem parseReadHoldingResponse_burst {resp pattern : List UInt8}
    {count unitId : ℤ} {registers : Registers}
    (hparsed : parseReadHoldingResponse resp count unitId = .ok registers)
    (hlength : pattern.length = resp.length)
    (hconfined : ∀ index (hindex : index < pattern.length),
      pattern[index] ≠ 0 →
        3 ≤ index ∧ index < 3 + byteAt resp 2 + 2)
    (hnonzero : ∃ error ∈ pattern, error ≠ 0)
    (hburst : Burst 16 (lsbOrder.stream pattern)) :
    parseReadHoldingResponse (xorBytes resp pattern) count unitId =
      .error (.valueError "modbus CRC mismatch") := by
  have haccepted := accepted_of_parseReadHoldingResponse hparsed
  have hlong := haccepted.long
  have hcomplete := haccepted.complete
  have hhead : ∀ index < 3,
      byteAt (xorBytes resp pattern) index = byteAt resp index := by
    intro index hindex
    apply byteAt_xorBytes (by omega) hlength
    by_contra hset
    have hrange := hconfined index (by omega) hset
    omega
  have hcount := hhead 2 (by omega)
  have hbound := length_xorBytes hlength
  apply parseReadHoldingResponse_of_crc
  · rw [hbound]
    exact hlong
  · rw [hhead 0 (by omega)]
    exact haccepted.sameUnit
  · rw [hhead 1 (by omega)]
    exact haccepted.noException
  · rw [hcount, hbound]
    exact hcomplete
  · rw [hcount]
    have hset := exists_ne_zero_take hnonzero fun index hindex hne =>
      (hconfined index hindex hne).2
    exact crc_ne_of_burst hcomplete haccepted.crc hlength hset hburst

/-- A burst over the boundary of the register and the checksum. -/
theorem parseReadHoldingResponse_burst_one :
    parseReadHoldingResponse
        (xorBytes [1, 3, 2, 0, 5, 0x78, 0x47] [0, 0, 0, 0, 0x80, 1, 0])
        1 1 =
      .error (.valueError "modbus CRC mismatch") := by
  have hparsed : parseReadHoldingResponse [1, 3, 2, 0, 5, 0x78, 0x47] 1 1 =
      .ok [5] := by
    decide +kernel
  refine parseReadHoldingResponse_burst hparsed rfl ?_ ?_ ?_
  · decide
  · decide
  · exact ⟨39, by decide⟩

end Modbus
end DessMonitor
