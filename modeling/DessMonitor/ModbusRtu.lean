import DessMonitor.Crc
import DessMonitor.Foundation.MessageStream
import Mathlib.Data.Int.Basic

/-!
# Modbus RTU replies

A reply to a read of holding registers is a unit id, a function code, a byte
count, the registers and a checksum.  It is decoded in two places: from the
socket of a TCP bridge, read piece by piece, and from one buffer, as a dongle
forwards it.
-/

namespace DessMonitor
namespace Modbus

open Crc MessageStream

/-! ## Decoding -/

/-- What the two functions raise. -/
inductive ReadError where
  | valueError (message : String)
  | exception (message : String)
  | indexError
  | incompleteRead (received : List UInt8) (expected : ℕ)
  deriving DecidableEq

abbrev Registers := List ℕ

def byteAt (data : List UInt8) (index : ℕ) : ℕ := (data.getD index 0).toNat

section ByteAt

variable {data : List UInt8} {index : ℕ}

theorem byteAt_eq_getElem (hindex : index < data.length) :
    byteAt data index = data[index].toNat := by
  unfold byteAt
  rw [List.getD_eq_getElem?_getD, List.getElem?_eq_getElem hindex]
  rfl

theorem byteAt_take {count : ℕ} (hindex : index < count) :
    byteAt (data.take count) index = byteAt data index := by
  unfold byteAt
  rw [List.getD_eq_getElem?_getD, List.getD_eq_getElem?_getD,
    List.getElem?_take_of_lt hindex]

theorem byteAt_drop (count : ℕ) :
    byteAt (data.drop count) index = byteAt data (count + index) := by
  unfold byteAt
  rw [List.getD_eq_getElem?_getD, List.getD_eq_getElem?_getD,
    List.getElem?_drop]

end ByteAt

def littleEndian (low high : ℕ) : ℕ := low ||| (high <<< 8)

/-- The loop over `range(0, limit, 2)`. -/
def registersUpTo (limit : ℤ) (data : List UInt8) :
    Except ReadError Registers :=
  if limit ≤ 0 then .ok []
  else
    match data with
    | high :: low :: rest => do
        let registers ← registersUpTo (limit - 2) rest
        return ((high.toNat <<< 8) ||| low.toNat) :: registers
    | _ => .error .indexError

/-- `parse_read_holding_response`. -/
def parseReadHoldingResponse (resp : List UInt8) (count unitId : ℤ) :
    Except ReadError Registers :=
  if resp.length < 5 then .error (.valueError "short modbus read response")
  else
    let uid := byteAt resp 0
    let func := byteAt resp 1
    if (uid : ℤ) ≠ unitId then
      .error (.valueError ("unexpected unit id " ++ toString uid))
    else if func &&& 0x80 ≠ 0 then
      .error (.valueError ("modbus exception " ++ toString (byteAt resp 2)))
    else
      let byteCount := byteAt resp 2
      let stop := 3 + byteCount
      if resp.length < stop + 2 then
        .error (.valueError "short modbus data")
      else
        let data := (resp.take stop).drop 3
        let recvCrc := littleEndian (byteAt resp stop) (byteAt resp (stop + 1))
        if recvCrc ≠ crc16Modbus (resp.take stop) then
          .error (.valueError "modbus CRC mismatch")
        else registersUpTo (min byteCount (count * 2)) data

/-- `reader.readexactly`; a stream that stays open makes it time out where one
that ends makes it raise. -/
def readBytes (count : ℕ) (stream : List UInt8) :
    Except ReadError (List UInt8 × List UInt8) :=
  readexactly .incompleteRead count stream

/-- `read_modbus_block` from where it knows the byte count. -/
def readModbusData (head stream : List UInt8) (byteCount : ℕ) (count : ℤ) :
    Except ReadError Registers := do
  let (dataPlusCrc, _) ← readBytes (byteCount + 2) stream
  let data := withoutCrc dataPlusCrc
  let crcLo := byteAt dataPlusCrc byteCount
  let crcHi := byteAt dataPlusCrc (byteCount + 1)
  if littleEndian crcLo crcHi ≠ crc16Modbus (head ++ data) then
    .error (.exception "Modbus CRC mismatch")
  else if byteCount % 2 ≠ 0 then
    .error (.exception "Modbus byte_count not even")
  else registersUpTo (min byteCount (count * 2)) data

/-- What `read_modbus_block` makes of the reply. -/
def readModbusBlock (stream : List UInt8) (count unitId : ℤ) :
    Except ReadError Registers := do
  let (header2, stream) ← readBytes 2 stream
  let uid := byteAt header2 0
  let func := byteAt header2 1
  if (uid : ℤ) ≠ unitId then
    .error (.exception ("Unexpected unit id: " ++ toString uid))
  else if func &&& 0x80 ≠ 0 then do
    let (excAndCrc, _) ← readBytes 3 stream
    .error (.exception ("Modbus exception " ++ toString (byteAt excAndCrc 0)))
  else do
    let (bcBytes, stream) ← readBytes 1 stream
    readModbusData (header2 ++ bcBytes) stream (byteAt bcBytes 0) count

example : parseReadHoldingResponse
    [1, 3, 4, 0x12, 0x34, 0x56, 0x78, 0x81, 0x07] 2 1 =
      .ok [0x1234, 0x5678] := by decide +kernel

end Modbus
end DessMonitor
