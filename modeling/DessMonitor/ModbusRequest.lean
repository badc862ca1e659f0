import DessMonitor.BurstDetection
import DessMonitor.ModbusRtuAgreement
import DessMonitor.ModbusWrite

/-!
# Reads of holding registers over a line

A read is a request to the controller and its reply.  Either transport makes
of the reply what its own decoder does.  The line may lose the reply, cut it
short or invert a burst of its bits, and the controller may answer with an
exception.  A read then fails, or it is as good as one without a fault.
-/

namespace DessMonitor
namespace Modbus

open Crc MessageStream

/-! ## Requests -/

/-- `build_read_holding_frame`; `read_modbus_block` builds the same bytes. -/
def buildReadHoldingFrame (start count unitId : ℤ) : List UInt8 :=
  withModbusCrc
    [lowByte unitId, 3, highByte start, lowByte start,
      highByte count, lowByte count]

/-- The two ways to the controller, a socket of a TCP bridge and a dongle. -/
inductive Transport where
  | tcp
  | dongle
  deriving DecidableEq

/-- What a transport's `read_block` makes of a reply; `none` is any
exception, and no reply is one. -/
def Transport.decode (transport : Transport) (count unitId : ℤ) :
    Option (List UInt8) → Option Registers
  | none => none
  | some resp =>
      match transport with
      | .tcp => (readModbusBlock resp count unitId).toOption
      | .dongle =>
          if resp = [] then none
          else (parseReadHoldingResponse resp count unitId).toOption

/-- `read_block` of a transport; `exchange` is what a request is answered
with. -/
def Transport.readBlock (transport : Transport)
    (exchange : List UInt8 → Option (List UInt8))
    (unitId start count : ℤ) : Option Registers :=
  transport.decode count unitId
    (exchange (buildReadHoldingFrame start count unitId))

/-! ## The controller -/

def registerBytes (value : UInt16) : List UInt8 :=
  [UInt8.ofNat (value.toNat / 256), UInt8.ofNat (value.toNat % 256)]

/-- A unit of the bus with its holding registers, as the protocol has it. -/
structure Controller where
  unit : UInt8
  holding : ℕ → UInt16

namespace Controller

variable (controller : Controller)

def block (start count : ℕ) : List UInt16 :=
  (List.range' start count).map controller.holding

def dataReply (start count : ℕ) : List UInt8 :=
  withModbusCrc (controller.unit :: 3 :: UInt8.ofNat (2 * count) ::
    (controller.block start count).flatMap registerBytes)

def exceptionReply (code : UInt8) : List UInt8 :=
  withModbusCrc [controller.unit, 0x83, code]

/-- The answer to a frame; there is none to a frame that is for another unit
or whose checksum is wrong. -/
def reply (frame : List UInt8) : Option (List UInt8) :=
  match frame with
  | [unit, func, startHigh, startLow, countHigh, countLow, crcLow, crcHigh] =>
      let start := startHigh.toNat * 256 + startLow.toNat
      let count := countHigh.toNat * 256 + countLow.toNat
      if littleEndian crcLow.toNat crcHigh.toNat ≠
          crc16Modbus
            [unit, func, startHigh, startLow, countHigh, countLow] then none
      else if unit ≠ controller.unit ∨ func ≠ 3 then none
      else if count = 0 ∨ 125 < count then some (controller.exceptionReply 3)
      else if 0x10000 < start + count then some (controller.exceptionReply 2)
      else some (controller.dataReply start count)
  | _ => none

end Controller

/-! ## The line -/

/-- What happens to a reply. -/
inductive Fault where
  | intact
  | lost
  | cut (kept : ℕ)
  | burst (pattern : List UInt8)
  | refused (code : UInt8)

/-- A burst of up to 16 bits that leaves the byte count alone, which says
where the checksum is. -/
def Fault.Tame (reply : List UInt8) : Fault → Prop
  | .burst pattern =>
      pattern.length = reply.length ∧ pattern[2]? = some 0 ∧
        Burst 16 (lsbOrder.stream pattern)
  | _ => True

def Fault.deliver (controller : Controller) (reply : List UInt8) :
    Fault → Option (List UInt8)
  | .intact => some reply
  | .lost => none
  | .cut kept => some (reply.take kept)
  | .burst pattern => some (xorBytes reply pattern)
  | .refused code => some (controller.exceptionReply code)

/-- A request answered by the controller over the line. -/
def Controller.exchange (controller : Controller) (fault : Fault)
    (frame : List UInt8) : Option (List UInt8) :=
  (controller.reply frame).bind (fault.deliver controller)

/-! ## Bytes of numbers -/

theorem toNat_lowByte (value : ℕ) : (lowByte value).toNat = value % 256 := by
  have hmod : ((value : ℤ) % 256).toNat = value % 256 := by
    omega
  simp [lowByte, hmod]

theorem toNat_highByte (value : ℕ) :
    (highByte value).toNat = value / 256 % 256 := by
  have hshift : (value : ℤ) >>> (8 : ℕ) = ((value / 256 : ℕ) : ℤ) := by
    rw [Int.shiftRight_eq_div_pow]
    norm_cast
  rw [highByte, hshift, toNat_lowByte]

theorem littleEndian_eq (low high : UInt8) :
    littleEndian low.toNat high.toNat = high.toNat * 256 + low.toNat := by
  have hlow : low.toNat < 2 ^ 8 := low.toNat_lt
  rw [littleEndian, Nat.or_comm, ← Nat.shiftLeft_add_eq_or_of_lt hlow,
    Nat.shiftLeft_eq]

theorem highByte_add_lowByte {value : ℕ} (hvalue : value < 0x10000) :
    (highByte value).toNat * 256 + (lowByte value).toNat = value := by
  rw [toNat_lowByte, toNat_highByte]
  omega

theorem littleEndian_lowByte {value : ℕ} (hvalue : value < 0x10000) :
    littleEndian (lowByte value).toNat (highByte value).toNat = value := by
  rw [littleEndian_eq, highByte_add_lowByte hvalue]

theorem crc16Modbus_lt (data : List UInt8) : crc16Modbus data < 0x10000 :=
  BitVec.isLt _

theorem littleEndian_crc (body : List UInt8) :
    littleEndian (lowByte (crc16Modbus body)).toNat
      (highByte (crc16Modbus body)).toNat = crc16Modbus body :=
  littleEndian_lowByte (crc16Modbus_lt body)

theorem length_flatMap_registerBytes (values : List UInt16) :
    (values.flatMap registerBytes).length = 2 * values.length := by
  induction values with
  | nil => rfl
  | cons value values ih =>
      simp [registerBytes, ih]
      omega

theorem registersUpTo_registerBytes (values : List UInt16) :
    registersUpTo (2 * values.length) (values.flatMap registerBytes) =
      .ok (values.map UInt16.toNat) := by
  induction values with
  | nil => simp [registersUpTo]
  | cons value values ih =>
      have hvalue : value.toNat < 0x10000 := value.toNat_lt
      have hhigh : (UInt8.ofNat (value.toNat / 256)).toNat =
          value.toNat / 256 := by
        simp
        omega
      have hlow : (UInt8.ofNat (value.toNat % 256)).toNat =
          value.toNat % 256 := by
        simp
      have hregister : (value.toNat / 256) <<< 8 ||| value.toNat % 256 =
          value.toNat := by
        rw [← Nat.shiftLeft_add_eq_or_of_lt (by omega), Nat.shiftLeft_eq]
        omega
      have hlimit : ¬ (2 * ((value :: values).length : ℤ)) ≤ 0 := by
        simp
      have hrest : 2 * ((value :: values).length : ℤ) - 2 =
          2 * (values.length : ℤ) := by
        rw [List.length_cons]
        omega
      rw [List.flatMap_cons, registerBytes, List.cons_append,
        List.cons_append, List.nil_append, registersUpTo, if_neg hlimit,
        hrest, ih, hhigh, hlow, hregister]
      rfl

/-! ## Decoding -/

section Decoding

variable {transport : Transport} {resp : List UInt8} {unitId : ℤ}
  {unit func byteCount : UInt8} {data : List UInt8}

theorem decode_of_none (count : ℤ) (hnone : checkedData resp unitId = none) :
    transport.decode count unitId (some resp) = none := by
  cases transport with
  | tcp => simp [Transport.decode, readModbusBlock_toOption, hnone]
  | dongle =>
      simp [Transport.decode, parseReadHoldingResponse_toOption, hnone]

theorem decode_of_registers {values : List UInt16}
    (hdata : checkedData resp unitId =
      some (values.flatMap registerBytes)) :
    transport.decode values.length unitId (some resp) =
      some (values.map UInt16.toNat) := by
  have hlength := length_flatMap_registerBytes values
  have hlimit : min ((values.flatMap registerBytes).length : ℤ)
      (values.length * 2) = 2 * values.length := by
    rw [hlength]
    omega
  have hregisters : (registersUpTo
      (min ((values.flatMap registerBytes).length : ℤ) (values.length * 2))
      (values.flatMap registerBytes)).toOption =
        some (values.map UInt16.toNat) := by
    rw [hlimit, registersUpTo_registerBytes]
    rfl
  cases transport with
  | tcp =>
      simp only [Transport.decode, readModbusBlock_toOption, hdata,
        Option.bind_some, hregisters]
      rw [if_pos (by omega)]
  | dongle =>
      have hne : resp ≠ [] := by
        rintro rfl
        cases hdata
      simp only [Transport.decode, parseReadHoldingResponse_toOption, hdata,
        Option.bind_some, hregisters, if_neg hne]

/-- The bytes of a reply behind its byte count. -/
def replyBody (unit func byteCount : UInt8) (data : List UInt8) :
    List UInt8 :=
  let crc := crc16Modbus (unit :: func :: byteCount :: data)
  data ++ [lowByte crc, highByte crc]

theorem withModbusCrc_eq :
    withModbusCrc (unit :: func :: byteCount :: data) =
      unit :: func :: byteCount :: replyBody unit func byteCount data := rfl

theorem length_replyBody :
    (replyBody unit func byteCount data).length = data.length + 2 := by
  simp [replyBody]

/-- A reply with its own checksum passes the checks of its unit. -/
theorem checked_replyBody (hunit : (unit.toNat : ℤ) = unitId)
    (hplain : func.toNat &&& 0x80 = 0)
    (hlength : data.length = byteCount.toNat) :
    Checked unitId unit func byteCount
      (replyBody unit func byteCount data) := by
  refine ⟨hunit, hplain, ?_, ?_⟩
  · simp [length_replyBody, hlength]
  · have htake : (replyBody unit func byteCount data).take byteCount.toNat =
        data := by
      rw [replyBody, ← hlength, List.take_left]
    rw [htake]
    simpa [byteAt, replyBody, ← hlength] using littleEndian_crc _

theorem checkedData_withModbusCrc (hunit : (unit.toNat : ℤ) = unitId)
    (hplain : func.toNat &&& 0x80 = 0)
    (hlength : data.length = byteCount.toNat) :
    checkedData (withModbusCrc (unit :: func :: byteCount :: data)) unitId =
      some data := by
  rw [withModbusCrc_eq,
    checkedData_of_checked (checked_replyBody hunit hplain hlength),
    replyBody, ← hlength, List.take_left]

/-- Whatever is decoded is a reply of the unit that is asked. -/
theorem checkedData_of_other (hunit : (unit.toNat : ℤ) ≠ unitId)
    (body : List UInt8) : checkedData (unit :: body) unitId = none := by
  match body with
  | [] => rfl
  | [_] => rfl
  | func :: byteCount :: body =>
      exact checkedData_of_not fun hchecked => hunit hchecked.sameUnit

theorem checkedData_of_exception (hexception : func.toNat &&& 0x80 ≠ 0)
    (body : List UInt8) :
    checkedData (unit :: func :: body) unitId = none :=
  checkedData_of_forall_not fun _ _ hchecked =>
    hexception hchecked.noException

/-- A reply that ends early is not decoded. -/
theorem checkedData_take {kept : ℕ}
    (hlength : data.length = byteCount.toNat + 2)
    (hkept : kept < data.length + 3) :
    checkedData ((unit :: func :: byteCount :: data).take kept) unitId =
      none := by
  match kept with
  | 0 => rfl
  | 1 => rfl
  | 2 => rfl
  | kept + 3 =>
      apply checkedData_of_not
      intro hchecked
      have hcomplete := hchecked.complete
      rw [List.length_take] at hcomplete
      omega

/-- A burst that leaves the byte count alone makes the reply fail. -/
theorem checkedData_burst {pattern : List UInt8}
    (hchecked : Checked unitId unit func byteCount data)
    (hexact : data.length = byteCount.toNat + 2)
    (htame : Fault.Tame (unit :: func :: byteCount :: data)
      (.burst pattern))
    (hset : ∃ error ∈ pattern, error ≠ 0) (asked : ℤ) :
    checkedData (xorBytes (unit :: func :: byteCount :: data) pattern)
      asked = none := by
  obtain ⟨hlength, hcount, hburst⟩ := htame
  have hstop : byteCount.toNat + 3 + 2 = pattern.length := by
    rw [hlength]
    simp [hexact]
  have hbefore : ∃ error ∈ pattern.take (byteCount.toNat + 3 + 2),
      error ≠ 0 := by
    rw [hstop, List.take_length]
    exact hset
  have hcrc := crc_ne_of_burst (by omega) hchecked.crc hlength hbefore hburst
  match pattern, hcount with
  | first :: second :: third :: pattern, hcount =>
      obtain rfl : third = 0 := by
        simpa using hcount
      have hxor : xorBytes (unit :: func :: byteCount :: data)
          (first :: second :: 0 :: pattern) =
            (unit ^^^ first) :: (func ^^^ second) :: byteCount ::
              xorBytes data pattern := by
        simp [xorBytes]
      rw [hxor] at hcrc ⊢
      exact checkedData_of_not fun hall => hcrc hall.crc

theorem xorBytes_of_clear {raw pattern : List UInt8}
    (hlength : pattern.length = raw.length)
    (hclear : ∀ error ∈ pattern, error = 0) :
    xorBytes raw pattern = raw := by
  apply List.ext_getElem
  · exact length_xorBytes hlength
  · intro index hindex hraw
    have herror : pattern[index] = 0 :=
      hclear _ (List.getElem_mem _)
    simp [xorBytes, herror]

end Decoding

/-! ## Reads over a line -/

section Reads

variable (controller : Controller)

/-- The controller answers a request with just the registers meant. -/
theorem reply_buildReadHoldingFrame {start count : ℕ} {unitId : ℤ}
    (hcount : 0 < count ∧ count ≤ 125) (hlast : start + count ≤ 0x10000) :
    controller.reply (buildReadHoldingFrame start count unitId) =
      if lowByte unitId = controller.unit then
        some (controller.dataReply start count)
      else none := by
  have hstart := highByte_add_lowByte (show start < 0x10000 by omega)
  have hcountBytes := highByte_add_lowByte (show count < 0x10000 by omega)
  have hframe : buildReadHoldingFrame start count unitId =
      [lowByte unitId, 3, highByte start, lowByte start, highByte count,
        lowByte count,
        lowByte (crc16Modbus [lowByte unitId, 3, highByte start,
          lowByte start, highByte count, lowByte count]),
        highByte (crc16Modbus [lowByte unitId, 3, highByte start,
          lowByte start, highByte count, lowByte count])] := rfl
  have hsize : ¬ (count = 0 ∨ 125 < count) := by
    rintro (hnone | hmany)
    · exact hcount.1.ne' hnone
    · exact hcount.2.not_gt hmany
  have hrange : ¬ 0x10000 < start + count := not_lt.mpr hlast
  rw [hframe, Controller.reply]
  simp only [littleEndian_crc, hstart, hcountBytes, ne_eq, not_true_eq_false,
    or_false, if_false, hsize, hrange]
  by_cases hunit : lowByte unitId = controller.unit
  · simp only [hunit, not_true_eq_false, if_false, if_true]
  · simp only [hunit, not_false_eq_true, if_false, if_true]

variable {controller} {transport : Transport} {fault : Fault}
  {start count : ℕ} {unitId : ℤ}

theorem length_block_bytes (hcount : count ≤ 125) :
    ((controller.block start count).flatMap registerBytes).length =
      (UInt8.ofNat (2 * count)).toNat := by
  have hlength : (controller.block start count).length = count := by
    simp [Controller.block]
  rw [length_flatMap_registerBytes, hlength, UInt8.toNat_ofNat']
  omega

theorem checkedData_dataReply (hcount : count ≤ 125)
    (hunit : (controller.unit.toNat : ℤ) = unitId) :
    checkedData (controller.dataReply start count) unitId =
      some ((controller.block start count).flatMap registerBytes) :=
  checkedData_withModbusCrc hunit (by decide) (length_block_bytes hcount)

theorem decode_dataReply (hcount : count ≤ 125)
    (hunit : (controller.unit.toNat : ℤ) = unitId) :
    transport.decode count unitId
        (some (controller.dataReply start count)) =
      some ((controller.block start count).map UInt16.toNat) := by
  have hlength : (controller.block start count).length = count := by
    simp [Controller.block]
  have hdecode : transport.decode (controller.block start count).length
      unitId (some (controller.dataReply start count)) =
        some ((controller.block start count).map UInt16.toNat) :=
    decode_of_registers (checkedData_dataReply hcount hunit)
  rwa [hlength] at hdecode

/-- Whatever the line makes of the reply, it is refused or the one that was
sent. -/
theorem decode_deliver (hcount : count ≤ 125)
    (htame : fault.Tame (controller.dataReply start count)) :
    transport.decode count unitId
        (fault.deliver controller (controller.dataReply start count)) =
          none ∨
      transport.decode count unitId
        (fault.deliver controller (controller.dataReply start count)) =
          some ((controller.block start count).map UInt16.toNat) := by
  have hreply : controller.dataReply start count =
      controller.unit :: 3 :: UInt8.ofNat (2 * count) ::
        replyBody controller.unit 3 (UInt8.ofNat (2 * count))
          ((controller.block start count).flatMap registerBytes) := rfl
  have hexact : (replyBody controller.unit 3 (UInt8.ofNat (2 * count))
      ((controller.block start count).flatMap registerBytes)).length =
        (UInt8.ofNat (2 * count)).toNat + 2 := by
    rw [length_replyBody, length_block_bytes hcount]
  have hintact : transport.decode count unitId
        (some (controller.dataReply start count)) = none ∨
      transport.decode count unitId
        (some (controller.dataReply start count)) =
          some ((controller.block start count).map UInt16.toNat) := by
    by_cases hunit : (controller.unit.toNat : ℤ) = unitId
    · exact .inr (decode_dataReply hcount hunit)
    · left
      rw [hreply]
      exact decode_of_none _ (checkedData_of_other hunit _)
  cases fault with
  | intact => exact hintact
  | lost => exact .inl rfl
  | cut kept =>
      by_cases hkept : kept < (controller.dataReply start count).length
      · left
        rw [hreply] at hkept
        rw [Fault.deliver, hreply]
        apply decode_of_none
        exact checkedData_take hexact hkept
      · rw [Fault.deliver, List.take_of_length_le (not_lt.mp hkept)]
        exact hintact
  | burst pattern =>
      by_cases hset : ∃ error ∈ pattern, error ≠ 0
      · left
        rw [hreply] at htame
        rw [Fault.deliver, hreply]
        apply decode_of_none
        exact checkedData_burst
          (checked_replyBody rfl (by decide) (length_block_bytes hcount))
          hexact htame hset _
      · have hclear : ∀ error ∈ pattern, error = 0 := by
          intro error hmem
          by_contra hne
          exact hset ⟨error, hmem, hne⟩
        rw [Fault.deliver, xorBytes_of_clear htame.1 hclear]
        exact hintact
  | refused code =>
      left
      apply decode_of_none
      exact checkedData_of_exception (by decide) _

/-- Without a fault, either transport reads the registers of the unit that
it asks. -/
theorem readBlock_intact (hcount : 0 < count ∧ count ≤ 125)
    (hlast : start + count ≤ 0x10000)
    (hunit : (controller.unit.toNat : ℤ) = unitId) :
    transport.readBlock (controller.exchange .intact) unitId start count =
      some ((controller.block start count).map UInt16.toNat) := by
  have hlow : lowByte unitId = controller.unit := by
    apply UInt8.toNat_inj.mp
    rw [← hunit, toNat_lowByte]
    exact Nat.mod_eq_of_lt controller.unit.toNat_lt
  rw [Transport.readBlock, Controller.exchange,
    reply_buildReadHoldingFrame controller hcount hlast, if_pos hlow]
  exact decode_dataReply hcount.2 hunit

/-- With a fault, the read fails or it is as good as one without. -/
theorem readBlock_faulty (hcount : 0 < count ∧ count ≤ 125)
    (hlast : start + count ≤ 0x10000)
    (htame : fault.Tame (controller.dataReply start count)) :
    transport.readBlock (controller.exchange fault) unitId start count =
        none ∨
      transport.readBlock (controller.exchange fault) unitId start count =
        some ((controller.block start count).map UInt16.toNat) := by
  rw [Transport.readBlock, Controller.exchange,
    reply_buildReadHoldingFrame controller hcount hlast]
  by_cases hlow : lowByte unitId = controller.unit
  · rw [if_pos hlow]
    exact decode_deliver hcount.2 htame
  · rw [if_neg hlow]
    exact .inl rfl

/-- Both transports ask for the registers meant and decode the reply to just
their values; a reply with a fault is decoded to these or refused. -/
theorem read_over_line (hcount : 0 < count ∧ count ≤ 125)
    (hlast : start + count ≤ 0x10000)
    (hunit : (controller.unit.toNat : ℤ) = unitId) :
    ∃ registers : Registers, registers.length = count ∧
      (∀ index < count, registers[index]? =
        some (controller.holding (start + index)).toNat) ∧
      ∀ transport : Transport,
        transport.readBlock (controller.exchange .intact) unitId start
            count = some registers ∧
          ∀ fault, fault.Tame (controller.dataReply start count) →
            transport.readBlock (controller.exchange fault) unitId start
                count = none ∨
              transport.readBlock (controller.exchange fault) unitId start
                count = some registers := by
  refine ⟨(controller.block start count).map UInt16.toNat, ?_, ?_, ?_⟩
  · simp [Controller.block]
  · intro index hindex
    simp [Controller.block, hindex]
  · intro transport
    refine ⟨readBlock_intact hcount hlast hunit, ?_⟩
    intro fault htame
    exact readBlock_faulty hcount hlast htame

theorem read_over_line_grid_voltage :
    ∃ registers : Registers, registers.length = 31 ∧
      registers[1]? = some 2301 ∧
      Transport.dongle.readBlock
        (Controller.exchange ⟨4, fun address =>
          if address = 202 then 2301 else 0⟩ .intact) 4 201 31 =
            some registers := by
  let controller : Controller :=
    ⟨4, fun address => if address = 202 then 2301 else 0⟩
  have hunit : (controller.unit.toNat : ℤ) = 4 := rfl
  have hcount : 0 < 31 ∧ 31 ≤ 125 := by decide
  have hlast : 201 + 31 ≤ 0x10000 := by decide
  obtain ⟨registers, hlength, hvalues, hread⟩ :=
    read_over_line hcount hlast hunit
  exact ⟨registers, hlength, hvalues 1 (by decide), (hread .dongle).1⟩

end Reads

end Modbus
end DessMonitor
