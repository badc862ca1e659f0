import DessMonitor.ModbusRtu
import DessMonitor.ReadingPolicies
import Mathlib.Tactic

/-!
# Writes of one Modbus register

A register is written with function code 0x06, and with 0x10 if that fails.
The reply is an echo of eight bytes.  The path over TCP reads exactly these and
checks them; the path through a dongle has the reply in one buffer, however
long, and checks it in another function.
-/

namespace DessMonitor
namespace Modbus

open Crc MessageStream
open Direct (Section)

/-! ## Requests -/

/-- `value & 0xFF`. -/
def lowByte (value : ℤ) : UInt8 := UInt8.ofNat (value % 256).toNat

/-- `(value >> 8) & 0xFF`. -/
def highByte (value : ℤ) : UInt8 := lowByte (value >>> (8 : ℕ))

/-- A request with its checksum, the low byte first. -/
def withModbusCrc (body : List UInt8) : List UInt8 :=
  body ++ [lowByte (crc16Modbus body), highByte (crc16Modbus body)]

/-- The frame that both paths build; `none` is another function code. -/
def writeRequest (address value unitId funcCode : ℤ) :
    Option (List UInt8) :=
  let head :=
    [lowByte unitId, lowByte funcCode, highByte address, lowByte address]
  if funcCode = 0x06 then
    some (withModbusCrc (head ++ [highByte value, lowByte value]))
  else if funcCode = 0x10 then
    some (withModbusCrc
      (head ++ [0x00, 0x01, 0x02, highByte value, lowByte value]))
  else none

/-- `build_write_single_frame`; the error is a `ValueError` of this text. -/
def buildWriteSingleFrame (address value unitId funcCode : ℤ) :
    Except String (List UInt8) :=
  match writeRequest address value unitId funcCode with
  | some frame => .ok frame
  | none => .error ("unsupported func_code " ++ toString funcCode)

/-! ## Results -/

def errorResult (message : String) : Section :=
  .ofPairs [("error", .str message)]

def okResult (func : ℤ) : Section :=
  .ofPairs [("status", .str "OK"), ("func", .int func)]

/-- The result says that the register was written. -/
def ReportsOk (result : Section) : Prop :=
  (result.get? "status").any (PyValue.eqText "OK") = true

theorem reportsOk_okResult (func : ℤ) : ReportsOk (okResult func) := rfl

theorem not_reportsOk_errorResult (message : String) :
    ¬ ReportsOk (errorResult message) := by
  intro hok
  cases hok

/-! ## Over TCP -/

/-- What a connection comes to: an exception with its text, or a stream that
ends behind these bytes. -/
inductive Connection where
  | failed (text : String)
  | stream (bytes : List UInt8)

/-- The text of an `IncompleteReadError`. -/
def incompleteText (received : List UInt8) (expected : ℕ) : String :=
  toString received.length ++ " bytes read on a total of " ++
    toString expected ++ " expected bytes"

/-- `_send` from where it reads the reply; an error is the text of what it
raises. -/
def readWriteReply (funcCode unitId : ℤ) (stream : List UInt8) :
    Except String Section := do
  let (resp, _) ← readexactly incompleteText 8 stream
  if resp.length ≠ 8 then
    .error ("Short Modbus write response: " ++ toString resp.length ++
      " bytes")
  else
    let body := withoutCrc resp
    let crcLo := byteAt (trailingCrc resp) 0
    let crcHi := byteAt (trailingCrc resp) 1
    let uid := byteAt body 0
    let fback := byteAt body 1
    if littleEndian crcLo crcHi ≠ crc16Modbus body then
      .error "Modbus write CRC mismatch"
    else if (uid : ℤ) ≠ unitId then
      .error ("Unexpected unit id in write response: " ++ toString uid)
    else if fback &&& 0x80 ≠ 0 then
      .error ("Modbus exception in write: " ++ toString (byteAt body 2))
    else .ok (okResult funcCode)

/-- `_send`; `exchange` is what a connection with this request comes to. -/
def send (exchange : List UInt8 → Connection)
    (address value unitId funcCode : ℤ) : Except String Section :=
  match writeRequest address value unitId funcCode with
  | none => .error ("Unsupported func_code " ++ toString funcCode)
  | some request =>
      match exchange request with
      | .failed text => .error text
      | .stream bytes => readWriteReply funcCode unitId bytes

/-- `write_modbus_single_register`. -/
def writeModbusSingleRegister (exchange : List UInt8 → Connection)
    (address value unitId : ℤ) : Section :=
  match send exchange address value unitId 0x06 with
  | .ok result => result
  | .error e1 =>
      match send exchange address value unitId 0x10 with
      | .ok result => result
      | .error e2 =>
          errorResult ("modbus write failed (0x06: " ++ e1 ++ ", 0x10: " ++
            e2 ++ ")")

/-! ## Through a dongle -/

/-- `parse_write_response`. -/
def parseWriteResponse (resp : List UInt8) (unitId : ℤ) : Section :=
  if resp.length < 4 then errorResult "short modbus write response"
  else
    let uid := byteAt resp 0
    let func := byteAt resp 1
    if func &&& 0x80 ≠ 0 then
      errorResult ("modbus exception " ++
        (if 2 < resp.length then toString (byteAt resp 2) else "?"))
    else if (uid : ℤ) ≠ unitId then
      errorResult ("unexpected unit id " ++ toString uid)
    else if 8 ≤ resp.length ∧
        littleEndian (byteAt resp 6) (byteAt resp 7) ≠
          crc16Modbus (resp.take 6) then
      errorResult "modbus write CRC mismatch"
    else okResult func

/-- The loop of `write_register` over these function codes; `sendBytes` is what
the dongle answers. -/
def writeRegisterWith (sendBytes : List UInt8 → Option (List UInt8))
    (address value unitId : ℤ) :
    List ℤ → Section → Except String Section
  | [], last => .ok last
  | funcCode :: codes, _ => do
      let frame ← buildWriteSingleFrame address value unitId funcCode
      match sendBytes frame with
      | none | some [] =>
          writeRegisterWith sendBytes address value unitId codes
            (errorResult "no eybond-modbus write response")
      | some resp =>
          let result := parseWriteResponse resp unitId
          if result.contains "error" then
            writeRegisterWith sendBytes address value unitId codes result
          else .ok result

/-- `_EybondModbusTransport.write_register`. -/
def eybondWriteRegister (sendBytes : List UInt8 → Option (List UInt8))
    (address value unitId : ℤ) : Except String Section :=
  writeRegisterWith sendBytes address value unitId [0x06, 0x10]
    (errorResult "eybond-modbus write failed")

/-! ## What each path accepts -/

/-- Eight bytes of the unit with a checksum and without an exception. -/
structure IntactAck (resp : List UInt8) (unitId : ℤ) : Prop where
  long : 8 ≤ resp.length
  crc : littleEndian (byteAt resp 6) (byteAt resp 7) =
    crc16Modbus (resp.take 6)
  sameUnit : (byteAt resp 0 : ℤ) = unitId
  noException : byteAt resp 1 &&& 0x80 = 0

/-- The unit and the function code of an acknowledgement that ends before its
checksum. -/
structure CutAck (resp : List UInt8) (unitId : ℤ) : Prop where
  long : 4 ≤ resp.length
  short : resp.length < 8
  sameUnit : (byteAt resp 0 : ℤ) = unitId
  noException : byteAt resp 1 &&& 0x80 = 0

/-- The path over TCP would report this reply as success. -/
def SendAccepts (resp : List UInt8) (unitId : ℤ) : Prop :=
  ∀ funcCode, readWriteReply funcCode unitId resp = .ok (okResult funcCode)

section Accepted

variable {resp : List UInt8} {unitId : ℤ}

/-- The first eight bytes decide. -/
theorem readWriteReply_of_long (funcCode : ℤ) (hlong : 8 ≤ resp.length) :
    readWriteReply funcCode unitId resp =
      if littleEndian (byteAt resp 6) (byteAt resp 7) ≠
          crc16Modbus (resp.take 6) then
        .error "Modbus write CRC mismatch"
      else if (byteAt resp 0 : ℤ) ≠ unitId then
        .error ("Unexpected unit id in write response: " ++
          toString (byteAt resp 0))
      else if byteAt resp 1 &&& 0x80 ≠ 0 then
        .error ("Modbus exception in write: " ++ toString (byteAt resp 2))
      else .ok (okResult funcCode) := by
  have hlength : (resp.take 8).length = 8 := by
    rw [List.length_take]
    omega
  have hbody : withoutCrc (resp.take 8) = resp.take 6 := by
    unfold withoutCrc
    rw [hlength, List.take_take]
    rfl
  have htrailing : trailingCrc (resp.take 8) = (resp.take 8).drop 6 := by
    unfold trailingCrc
    rw [hlength]
  unfold readWriteReply
  rw [readexactly_of_le _ hlong]
  dsimp only [Bind.bind, Except.bind]
  rw [if_neg (not_not.2 hlength), hbody, htrailing, byteAt_drop, byteAt_drop,
    byteAt_take (by decide), byteAt_take (by decide),
    byteAt_take (by decide), byteAt_take (by decide),
    byteAt_take (by decide)]

theorem readWriteReply_eq_ok_iff {funcCode : ℤ} {result : Section} :
    readWriteReply funcCode unitId resp = .ok result ↔
      result = okResult funcCode ∧ IntactAck resp unitId := by
  constructor
  · intro hread
    by_cases hlong : 8 ≤ resp.length
    · rw [readWriteReply_of_long _ hlong] at hread
      split at hread
      · cases hread
      · next hcrc =>
        split at hread
        · cases hread
        · next hunit =>
          split at hread
          · cases hread
          · next hplain =>
            obtain rfl := Except.ok.inj hread
            exact ⟨rfl, hlong, not_not.1 hcrc, not_not.1 hunit,
              not_not.1 hplain⟩
    · unfold readWriteReply at hread
      rw [readexactly_of_lt _ (by omega)] at hread
      cases hread
  · rintro ⟨rfl, hintact⟩
    rw [readWriteReply_of_long _ hintact.long,
      if_neg (not_not.2 hintact.crc), if_neg (not_not.2 hintact.sameUnit),
      if_neg (not_not.2 hintact.noException)]

theorem sendAccepts_iff : SendAccepts resp unitId ↔ IntactAck resp unitId := by
  constructor
  · intro haccepts
    exact (readWriteReply_eq_ok_iff.1 (haccepts 0x06)).2
  · intro hintact funcCode
    exact readWriteReply_eq_ok_iff.2 ⟨rfl, hintact⟩

/-- The four checks of a reply that came through a dongle. -/
theorem reportsOk_parseWriteResponse :
    ReportsOk (parseWriteResponse resp unitId) ↔
      4 ≤ resp.length ∧ byteAt resp 1 &&& 0x80 = 0 ∧
        (byteAt resp 0 : ℤ) = unitId ∧
        (8 ≤ resp.length →
          littleEndian (byteAt resp 6) (byteAt resp 7) =
            crc16Modbus (resp.take 6)) := by
  unfold parseWriteResponse
  split
  next hshort =>
    apply iff_of_false (not_reportsOk_errorResult _)
    intro hchecks
    omega
  next hlong =>
    dsimp only
    split
    next hexception =>
      apply iff_of_false (not_reportsOk_errorResult _)
      intro hchecks
      exact hexception hchecks.2.1
    next hplain =>
      split
      next hother =>
        apply iff_of_false (not_reportsOk_errorResult _)
        intro hchecks
        exact hother hchecks.2.2.1
      next hunit =>
        split
        next hbad =>
          apply iff_of_false (not_reportsOk_errorResult _)
          intro hchecks
          exact hbad.2 (hchecks.2.2.2 hbad.1)
        next hgood =>
          apply iff_of_true (reportsOk_okResult _)
          refine ⟨by omega, not_not.1 hplain, not_not.1 hunit, ?_⟩
          intro hlength
          exact not_not.1 fun hne => hgood ⟨hlength, hne⟩

theorem reportsOk_parseWriteResponse_iff :
    ReportsOk (parseWriteResponse resp unitId) ↔
      IntactAck resp unitId ∨ CutAck resp unitId := by
  rw [reportsOk_parseWriteResponse]
  constructor
  · rintro ⟨hlong, hplain, hunit, hcrc⟩
    by_cases hwhole : 8 ≤ resp.length
    · exact .inl ⟨hwhole, hcrc hwhole, hunit, hplain⟩
    · exact .inr ⟨hlong, by omega, hunit, hplain⟩
  · rintro (hintact | hcut)
    · have hlong := hintact.long
      exact ⟨by omega, hintact.noException, hintact.sameUnit,
        fun _ => hintact.crc⟩
    · have hshort := hcut.short
      exact ⟨hcut.long, hcut.noException, hcut.sameUnit,
        fun hwhole => absurd hwhole (by omega)⟩

/-- The two paths accept the same replies but for those that end before their
checksum. -/
theorem reportsOk_iff_sendAccepts_iff :
    (ReportsOk (parseWriteResponse resp unitId) ↔
        SendAccepts resp unitId) ↔ ¬ CutAck resp unitId := by
  rw [sendAccepts_iff, reportsOk_parseWriteResponse_iff]
  constructor
  · intro hsame hcut
    have hintact := hsame.1 (Or.inr hcut)
    exact absurd hintact.long (by have hshort := hcut.short; omega)
  · intro hwhole
    constructor
    · rintro (hintact | hcut)
      · exact hintact
      · exact absurd hcut hwhole
    · exact Or.inl

end Accepted

/-- Four bytes of an acknowledgement. -/
theorem cutAck_reported_ok :
    ¬ ∀ (resp : List UInt8) (unitId : ℤ),
      (ReportsOk (parseWriteResponse resp unitId) ↔
        SendAccepts resp unitId) := by
  intro hall
  have hok : ReportsOk (parseWriteResponse [1, 6, 1, 45] 1) :=
    reportsOk_okResult 6
  have hintact := sendAccepts_iff.1 ((hall [1, 6, 1, 45] 1).1 hok)
  exact absurd hintact.long (by decide)

/-! ## Whole writes -/

/-- A success or an error. -/
def IsReport (result : Section) : Prop :=
  (∃ func, result = okResult func) ∨ ∃ message, result = errorResult message

/-- The request with this function code gets a reply that the path over TCP
takes for success. -/
def StreamAccepts (exchange : List UInt8 → Connection)
    (address value unitId funcCode : ℤ) : Prop :=
  ∃ request resp, writeRequest address value unitId funcCode = some request ∧
    exchange request = .stream resp ∧ IntactAck resp unitId

/-- The same of the path through a dongle. -/
def DongleAccepts (sendBytes : List UInt8 → Option (List UInt8))
    (address value unitId funcCode : ℤ) : Prop :=
  ∃ request resp, writeRequest address value unitId funcCode = some request ∧
    sendBytes request = some resp ∧
      (IntactAck resp unitId ∨ CutAck resp unitId)

section Writes

variable {exchange : List UInt8 → Connection}
  {sendBytes : List UInt8 → Option (List UInt8)}
  {address value unitId funcCode : ℤ} {result : Section}

theorem isReport_parseWriteResponse (resp : List UInt8) (unitId : ℤ) :
    IsReport (parseWriteResponse resp unitId) := by
  unfold parseWriteResponse
  split
  · exact .inr ⟨_, rfl⟩
  · dsimp only
    split
    · exact .inr ⟨_, rfl⟩
    · split
      · exact .inr ⟨_, rfl⟩
      · split
        · exact .inr ⟨_, rfl⟩
        · exact .inl ⟨_, rfl⟩

theorem send_eq_ok_iff :
    send exchange address value unitId funcCode = .ok result ↔
      result = okResult funcCode ∧
        StreamAccepts exchange address value unitId funcCode := by
  unfold send StreamAccepts
  cases hrequest : writeRequest address value unitId funcCode with
  | none =>
      constructor
      · intro hsend
        cases hsend
      · rintro ⟨-, request, resp, hsome, -⟩
        cases hsome
  | some request =>
      dsimp only
      cases hexchange : exchange request with
      | failed text =>
          constructor
          · intro hsend
            cases hsend
          · rintro ⟨-, other, resp, hother, hstream, -⟩
            obtain rfl := Option.some.inj hother
            rw [hexchange] at hstream
            cases hstream
      | stream bytes =>
          dsimp only
          rw [readWriteReply_eq_ok_iff]
          constructor
          · rintro ⟨hresult, hintact⟩
            exact ⟨hresult, request, bytes, rfl, hexchange, hintact⟩
          · rintro ⟨hresult, other, resp, hother, hstream, hintact⟩
            obtain rfl := Option.some.inj hother
            rw [hexchange] at hstream
            obtain rfl := Connection.stream.inj hstream
            exact ⟨hresult, hintact⟩

theorem not_streamAccepts_of_error {text : String}
    (hsend : send exchange address value unitId funcCode = .error text) :
    ¬ StreamAccepts exchange address value unitId funcCode := by
  intro haccepts
  rw [send_eq_ok_iff.2 ⟨rfl, haccepts⟩] at hsend
  cases hsend

variable (exchange address value unitId) in
/-- The write over TCP succeeds with the first function code that is
accepted. -/
theorem writeModbusSingleRegister_spec :
    IsReport (writeModbusSingleRegister exchange address value unitId) ∧
      (ReportsOk (writeModbusSingleRegister exchange address value unitId) ↔
        ∃ funcCode ∈ [(0x06 : ℤ), 0x10],
          StreamAccepts exchange address value unitId funcCode) := by
  unfold writeModbusSingleRegister
  cases hfirst : send exchange address value unitId 0x06 with
  | ok result =>
      obtain ⟨rfl, haccepts⟩ := send_eq_ok_iff.1 hfirst
      refine ⟨.inl ⟨0x06, rfl⟩, ?_⟩
      constructor
      · intro _
        exact ⟨0x06, List.mem_cons_self, haccepts⟩
      · intro _
        exact reportsOk_okResult 0x06
  | error e1 =>
      dsimp only
      cases hsecond : send exchange address value unitId 0x10 with
      | ok result =>
          obtain ⟨rfl, haccepts⟩ := send_eq_ok_iff.1 hsecond
          refine ⟨.inl ⟨0x10, rfl⟩, ?_⟩
          constructor
          · intro _
            exact ⟨0x10, by simp, haccepts⟩
          · intro _
            exact reportsOk_okResult 0x10
      | error e2 =>
          refine ⟨.inr ⟨_, rfl⟩, ?_⟩
          constructor
          · intro hok
            exact absurd hok (not_reportsOk_errorResult _)
          · rintro ⟨funcCode, hcode, haccepts⟩
            rcases List.mem_pair.1 hcode with rfl | rfl
            · exact absurd haccepts (not_streamAccepts_of_error hfirst)
            · exact absurd haccepts (not_streamAccepts_of_error hsecond)

theorem dongleAccepts_iff {frame : List UInt8}
    (hframe : writeRequest address value unitId funcCode = some frame) :
    DongleAccepts sendBytes address value unitId funcCode ↔
      ∃ resp, sendBytes frame = some resp ∧
        ReportsOk (parseWriteResponse resp unitId) := by
  constructor
  · rintro ⟨request, resp, hrequest, hresp, haccepts⟩
    rw [hframe] at hrequest
    obtain rfl := Option.some.inj hrequest
    exact ⟨resp, hresp, reportsOk_parseWriteResponse_iff.2 haccepts⟩
  · rintro ⟨resp, hresp, hok⟩
    exact ⟨frame, resp, hframe, hresp,
      reportsOk_parseWriteResponse_iff.1 hok⟩

/-- One round of the loop: it returns the success, or goes on with an error. -/
theorem writeRegisterWith_cons {frame : List UInt8} (codes : List ℤ)
    (last : Section)
    (hframe : writeRequest address value unitId funcCode = some frame) :
    (DongleAccepts sendBytes address value unitId funcCode ∧
      ∃ func, writeRegisterWith sendBytes address value unitId
        (funcCode :: codes) last = .ok (okResult func)) ∨
    (¬ DongleAccepts sendBytes address value unitId funcCode ∧
      ∃ message, writeRegisterWith sendBytes address value unitId
          (funcCode :: codes) last =
        writeRegisterWith sendBytes address value unitId codes
          (errorResult message)) := by
  rw [dongleAccepts_iff hframe, writeRegisterWith, buildWriteSingleFrame,
    hframe]
  dsimp only [Bind.bind, Except.bind]
  split
  next hnone =>
    refine .inr ⟨?_, _, rfl⟩
    rintro ⟨resp, hresp, -⟩
    rw [hnone] at hresp
    cases hresp
  next hempty =>
    refine .inr ⟨?_, _, rfl⟩
    rintro ⟨resp, hresp, hok⟩
    rw [hempty] at hresp
    obtain rfl := Option.some.inj hresp
    exact not_reportsOk_errorResult _ hok
  next resp _ hresp =>
    rcases isReport_parseWriteResponse resp unitId with
      ⟨func, hreport⟩ | ⟨message, hreport⟩
    · left
      rw [hreport]
      refine ⟨⟨resp, hresp, ?_⟩, func, rfl⟩
      rw [hreport]
      exact reportsOk_okResult func
    · right
      rw [hreport]
      refine ⟨?_, message, rfl⟩
      rintro ⟨other, hother, hok⟩
      rw [hresp] at hother
      obtain rfl := Option.some.inj hother
      rw [hreport] at hok
      exact not_reportsOk_errorResult message hok

/-- The loop of the write through a dongle ends with the first function code
that is accepted, or with the last error. -/
theorem writeRegisterWith_spec {codes : List ℤ} (message : String)
    (hcodes : ∀ funcCode ∈ codes,
      (writeRequest address value unitId funcCode).isSome = true) :
    ∃ result, writeRegisterWith sendBytes address value unitId codes
        (errorResult message) = .ok result ∧ IsReport result ∧
      (ReportsOk result ↔ ∃ funcCode ∈ codes,
        DongleAccepts sendBytes address value unitId funcCode) := by
  induction codes generalizing message with
  | nil =>
      refine ⟨errorResult message, rfl, .inr ⟨message, rfl⟩, ?_⟩
      constructor
      · intro hok
        exact absurd hok (not_reportsOk_errorResult message)
      · rintro ⟨funcCode, hmem, -⟩
        cases hmem
  | cons code codes ih =>
      obtain ⟨frame, hframe⟩ := Option.isSome_iff_exists.1
        (hcodes code List.mem_cons_self)
      rw [List.exists_mem_cons_iff]
      rcases writeRegisterWith_cons codes (errorResult message) hframe with
        ⟨haccepts, func, hround⟩ | ⟨hnot, next, hround⟩
      · rw [hround]
        refine ⟨okResult func, rfl, .inl ⟨func, rfl⟩, ?_⟩
        constructor
        · intro _
          exact .inl haccepts
        · intro _
          exact reportsOk_okResult func
      · rw [hround, or_iff_right hnot]
        apply ih
        intro funcCode hmem
        exact hcodes funcCode (List.mem_cons_of_mem code hmem)

variable (sendBytes address value unitId) in
theorem eybondWriteRegister_spec :
    ∃ result, eybondWriteRegister sendBytes address value unitId =
        .ok result ∧ IsReport result ∧
      (ReportsOk result ↔ ∃ funcCode ∈ [(0x06 : ℤ), 0x10],
        DongleAccepts sendBytes address value unitId funcCode) := by
  apply writeRegisterWith_spec
  intro funcCode hmem
  rcases List.mem_pair.1 hmem with rfl | rfl
  · rfl
  · rfl

end Writes

end Modbus
end DessMonitor
