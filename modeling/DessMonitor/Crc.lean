import Mathlib.Logic.Function.Iterate

/-!
# Checksums of the inverter protocols

CRC-16/XMODEM one bit at a time with the check that PI18 makes with it, and
the reflected CRC-16 of Modbus.  The registers never have more than 16 bits in
the source and have this width here.
-/

namespace DessMonitor
namespace Crc

/-! ## CRC-16/XMODEM -/

/-- One round of the inner loop, of polynomial 0x1021. -/
def xmodemBit (crc : BitVec 16) : BitVec 16 :=
  if crc &&& 0x8000#16 ≠ 0#16 then (crc <<< 1) ^^^ 0x1021#16
  else crc <<< 1

/-- One round of the outer loop. -/
def xmodemByte (crc : BitVec 16) (byte : UInt8) : BitVec 16 :=
  xmodemBit^[8] (crc ^^^ (byte.toBitVec.setWidth 16 <<< 8))

/-- `crc16_xmodem`. -/
def crc16Xmodem (data : List UInt8) : BitVec 16 :=
  data.foldl xmodemByte 0#16

/-- The two bytes of a checksum, the high one first. -/
def bigEndian (crc : BitVec 16) : List UInt8 :=
  [⟨(crc >>> 8).setWidth 8⟩, ⟨crc.setWidth 8⟩]

/-- `crc16_xmodem_bytes`. -/
def crc16XmodemBytes (data : List UInt8) : List UInt8 :=
  bigEndian (crc16Xmodem data)

@[simp] theorem length_crc16XmodemBytes (data : List UInt8) :
    (crc16XmodemBytes data).length = 2 := rfl

/-! ## CRC-16 of Modbus -/

/-- One round of the inner loop, of polynomial 0xA001. -/
def modbusBit (crc : BitVec 16) : BitVec 16 :=
  if crc &&& 1#16 ≠ 0#16 then (crc >>> 1) ^^^ 0xA001#16 else crc >>> 1

/-- One round of the outer loop. -/
def modbusByte (crc : BitVec 16) (byte : UInt8) : BitVec 16 :=
  modbusBit^[8] (crc ^^^ byte.toBitVec.setWidth 16)

/-- `crc16_modbus`. -/
def crc16Modbus (data : List UInt8) : ℕ :=
  (data.foldl modbusByte 0xFFFF#16).toNat

/-! ## Checked frames -/

/-- `raw[:-2]` of two bytes or more. -/
def withoutCrc (raw : List UInt8) : List UInt8 :=
  raw.take (raw.length - 2)

/-- `raw[-2:]` of two bytes or more. -/
def trailingCrc (raw : List UInt8) : List UInt8 :=
  raw.drop (raw.length - 2)

section Appended

variable {payload crc : List UInt8}

theorem withoutCrc_append (hlength : crc.length = 2) :
    withoutCrc (payload ++ crc) = payload := by
  unfold withoutCrc
  rw [List.length_append, hlength, Nat.add_sub_cancel, List.take_left]

theorem trailingCrc_append (hlength : crc.length = 2) :
    trailingCrc (payload ++ crc) = crc := by
  unfold trailingCrc
  rw [List.length_append, hlength, Nat.add_sub_cancel, List.drop_left]

end Appended

/-- `validate_pi18_response`. -/
def validatePi18Response (raw : List UInt8) : Bool × List UInt8 :=
  if raw.length < 3 then
    (false, raw)
  else
    let payload := withoutCrc raw
    (trailingCrc raw == crc16XmodemBytes payload, payload)

/-- A payload with its own checksum is accepted. -/
theorem validatePi18Response_append {payload : List UInt8}
    (hpayload : payload ≠ []) :
    validatePi18Response (payload ++ crc16XmodemBytes payload) =
      (true, payload) := by
  have hlength := length_crc16XmodemBytes payload
  have hpositive := List.length_pos_iff.2 hpayload
  unfold validatePi18Response
  rw [if_neg (by rw [List.length_append, hlength]; omega)]
  dsimp only
  rw [withoutCrc_append hlength, trailingCrc_append hlength]
  simp

end Crc
end DessMonitor
