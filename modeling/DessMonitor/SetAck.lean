import DessMonitor.ModbusWrite
import DessMonitor.Pi18Response
import DessMonitor.SelectWrites

/-!
# Accepted settings

A setting reaches an inverter on one of several paths, and each path puts the
answer into a dict of its own form.  The select entities read from this dict
alone whether the inverter accepted the setting.
-/

namespace DessMonitor
namespace SetAck

open Direct (Section hasNakStatus)
open Enums Modbus Pi18 Select

/-! ## Set commands -/

/-- What a connection for a set command comes to: an exception with its text,
no reply in time, or the bytes that were read. -/
inductive SocketReply where
  | failed (text : String)
  | timedOut
  | data (bytes : List UInt8)

/-- `send_voltronic_set_command`. -/
def sendVoltronicSetCommand : SocketReply → Section
  | .failed text => errorFields text
  | .timedOut => errorFields "timeout waiting for ACK/NAK"
  | .data bytes =>
      let resp := PyString.stripChars PyString.isSpace
        (PyBytes.decodeUtf8 bytes)
      if PyString.contains resp "ACK".toList then statusFields "ACK"
      else if PyString.contains resp "NAK".toList then statusFields "NAK"
      else if resp = [] then errorFields "empty response"
      else .ofPairs [("raw", .str (.ofList resp))]

/-- `send_eybond_set_command`, with the response of the dongle. -/
def sendEybondSetCommand : Option (List UInt8) → Section
  | none => errorFields "no response"
  | some response =>
      if PyBytes.contains response (PyBytes.ascii "ACK") ∨
          response.take 2 = PyBytes.ascii "^1" then
        statusFields "ACK"
      else if PyBytes.contains response (PyBytes.ascii "NAK") ∨
          response.take 2 = PyBytes.ascii "^0" then
        statusFields "NAK"
      else if response = [] then errorFields "empty response"
      else .ofPairs [("raw", .str (.ofList (PyBytes.decodeAscii response)))]

/-! ## Paths -/

/-- A path of a setting, with what the device does on it. -/
inductive SetPath where
  | modbusTcp (exchange : List UInt8 → Connection)
      (address value unitId : ℤ)
  | modbusEybond (sendBytes : List UInt8 → Option (List UInt8))
      (address value unitId : ℤ)
  | voltronicTcp (reply : SocketReply)
  | eybond (response : Option (List UInt8))
  | pi18 (command : String) (raw : List UInt8)

/-- A decoded response as a dict.  Nothing is read from an operating mode but
that it is no text. -/
def decodedDict : Decoded → Section
  | .fields result => result
  | .operatingMode _ => .ofPairs [("operating_mode", .none)]

/-- What the path returns; `none` is an exception. -/
def SetPath.result : SetPath → Option Section
  | .modbusTcp exchange address value unitId =>
      some (writeModbusSingleRegister exchange address value unitId)
  | .modbusEybond sendBytes address value unitId =>
      (eybondWriteRegister sendBytes address value unitId).toOption
  | .voltronicTcp reply => some (sendVoltronicSetCommand reply)
  | .eybond response => some (sendEybondSetCommand response)
  | .pi18 command raw => (decodePi18Response command raw).map decodedDict

def hasAckStatus (result : Section) : Bool :=
  (result.get? "status").any (PyValue.eqText "ACK")

/-- The path reports success with this result. -/
def SetPath.Reports (result : Section) : SetPath → Prop
  | .modbusTcp _ _ _ _ => ReportsOk result
  | .modbusEybond _ _ _ _ => ReportsOk result
  | .voltronicTcp _ => hasAckStatus result = true
  | .eybond _ => hasAckStatus result = true
  | .pi18 _ _ => hasAckStatus result = true

def Refuses (result : Section) : Prop :=
  hasNakStatus result = true ∨ result.contains "error" = true

/-- A setting that was accepted is written once, and no refusal is taken for an
acknowledgement. -/
structure SetPath.Classified (path : SetPath) : Prop where
  accepted : ∀ result, path.result = some result → path.Reports result →
    isAck (some result) = true ∧ WrittenOnce (some result)
  refused : ∀ result, path.result = some result → Refuses result →
    isAck (some result) = false

/-- The path is Modbus, and one of its two requests gets a reply that it takes
for success. -/
def SetPath.RegisterWritten : SetPath → Prop
  | .modbusTcp exchange address value unitId =>
      ∃ funcCode ∈ [(0x06 : ℤ), 0x10],
        StreamAccepts exchange address value unitId funcCode
  | .modbusEybond sendBytes address value unitId =>
      ∃ funcCode ∈ [(0x06 : ℤ), 0x10],
        DongleAccepts sendBytes address value unitId funcCode
  | .voltronicTcp _ => False
  | .eybond _ => False
  | .pi18 _ _ => False

/-! ## Reading a dict -/

/-- No status stands beside an error. -/
def ErrorAlone (result : Section) : Prop :=
  result.contains "error" = false ∨ result.get? "status" = none

section Dicts

variable {result : Section}

theorem isAck_of_hasAckStatus (hack : hasAckStatus result = true) :
    isAck (some result) = true := by
  unfold isAck
  exact if_pos hack

theorem isAck_of_refuses (hrefuses : Refuses result)
    (halone : ErrorAlone result) : isAck (some result) = false := by
  have hnot : ¬ (result.get? "status").any (PyValue.eqText "ACK") = true := by
    intro hack
    obtain ⟨status, hstatus, hvalue⟩ :=
      (Option.any_eq_true _ _).1 hack
    rcases hrefuses with hnak | herror
    · unfold hasNakStatus at hnak
      rw [hstatus] at hnak
      cases status with
      | str text =>
          have hack' := of_decide_eq_true hvalue
          have hnak' := of_decide_eq_true hnak
          rw [hack'] at hnak'
          exact absurd hnak' (by decide)
      | _ => cases hvalue
    · rcases halone with hfree | hnone
      · rw [hfree] at herror
        cases herror
      · rw [hnone] at hstatus
        cases hstatus
  have hrefused : (hasNakStatus result || result.contains "error") = true := by
    rw [Bool.or_eq_true]
    exact hrefuses
  unfold isAck
  dsimp only
  rw [if_neg hnot, if_pos hrefused]

theorem isAck_of_isReport (hreport : IsReport result) :
    isAck (some result) = false := by
  rcases hreport with ⟨func, rfl⟩ | ⟨message, rfl⟩
  · rfl
  · rfl

theorem errorAlone_of_isReport (hreport : IsReport result) :
    ErrorAlone result := by
  rcases hreport with ⟨func, rfl⟩ | ⟨message, rfl⟩
  · exact .inl rfl
  · exact .inr rfl

theorem errorAlone_errorFields (message : String) :
    ErrorAlone (errorFields message) := .inr rfl

theorem errorAlone_statusFields (status : String) :
    ErrorAlone (statusFields status) := .inl rfl

end Dicts

/-! ## What the paths return -/

theorem errorAlone_sendVoltronicSetCommand (reply : SocketReply) :
    ErrorAlone (sendVoltronicSetCommand reply) := by
  unfold sendVoltronicSetCommand
  split
  · exact errorAlone_errorFields _
  · exact errorAlone_errorFields _
  · dsimp only
    split
    · exact errorAlone_statusFields _
    · split
      · exact errorAlone_statusFields _
      · split
        · exact errorAlone_errorFields _
        · exact .inr rfl

theorem errorAlone_sendEybondSetCommand (response : Option (List UInt8)) :
    ErrorAlone (sendEybondSetCommand response) := by
  unfold sendEybondSetCommand
  split
  · exact errorAlone_errorFields _
  · split
    · exact errorAlone_statusFields _
    · split
      · exact errorAlone_statusFields _
      · split
        · exact errorAlone_errorFields _
        · exact .inr rfl

theorem errorAlone_decodePi18Response {command : String} {raw : List UInt8}
    {decoded : Decoded}
    (hdecoded : decodePi18Response command raw = some decoded) :
    ErrorAlone (decodedDict decoded) := by
  cases decoded with
  | operatingMode mode => exact .inr rfl
  | fields result =>
      unfold decodePi18Response at hdecoded
      split at hdecoded
      · obtain rfl := Decoded.fields.inj (Option.some.inj hdecoded)
        exact errorAlone_errorFields _
      · split at hdecoded
        · obtain rfl := Decoded.fields.inj (Option.some.inj hdecoded)
          exact errorAlone_statusFields _
        · split at hdecoded
          · obtain rfl := Decoded.fields.inj (Option.some.inj hdecoded)
            exact errorAlone_statusFields _
          · dsimp only at hdecoded
            split at hdecoded
            · obtain rfl := Decoded.fields.inj (Option.some.inj hdecoded)
              exact errorAlone_errorFields _
            · exact .inr (get?_status_decodePayload hdecoded)

section Paths

variable {path : SetPath} {result : Section}

theorem result_modbusEybond
    (sendBytes : List UInt8 → Option (List UInt8))
    (address value unitId : ℤ) :
    ∃ report,
      (SetPath.modbusEybond sendBytes address value unitId).result =
        some report ∧ IsReport report ∧
      (ReportsOk report ↔ ∃ funcCode ∈ [(0x06 : ℤ), 0x10],
        DongleAccepts sendBytes address value unitId funcCode) := by
  obtain ⟨report, hwrite, hreport, hok⟩ :=
    eybondWriteRegister_spec sendBytes address value unitId
  exact ⟨report, congrArg Except.toOption hwrite, hreport, hok⟩

/-- On no path does a status stand beside an error. -/
theorem errorAlone_of_result (hresult : path.result = some result) :
    ErrorAlone result := by
  cases path with
  | modbusTcp exchange address value unitId =>
      obtain rfl := Option.some.inj hresult
      exact errorAlone_of_isReport
        (writeModbusSingleRegister_spec exchange address value unitId).1
  | modbusEybond sendBytes address value unitId =>
      obtain ⟨report, hsome, hreport, -⟩ :=
        result_modbusEybond sendBytes address value unitId
      rw [hsome] at hresult
      obtain rfl := Option.some.inj hresult
      exact errorAlone_of_isReport hreport
  | voltronicTcp reply =>
      obtain rfl := Option.some.inj hresult
      exact errorAlone_sendVoltronicSetCommand reply
  | eybond response =>
      obtain rfl := Option.some.inj hresult
      exact errorAlone_sendEybondSetCommand response
  | pi18 command raw =>
      obtain ⟨decoded, hdecoded, rfl⟩ := Option.map_eq_some_iff.mp hresult
      exact errorAlone_decodePi18Response hdecoded

theorem isAck_of_refused (hresult : path.result = some result)
    (hrefuses : Refuses result) : isAck (some result) = false :=
  isAck_of_refuses hrefuses (errorAlone_of_result hresult)

/-- A path whose success is an acknowledgement meets the expectation. -/
theorem classified_of_ackStatus
    (hreports : ∀ result, path.Reports result → hasAckStatus result = true) :
    path.Classified := by
  constructor
  · intro result _ hreport
    have hack := isAck_of_hasAckStatus (hreports result hreport)
    exact ⟨hack, writtenOnce_of_isAck hack⟩
  · intro result hresult hrefuses
    exact isAck_of_refused hresult hrefuses

/-- A path whose success is no acknowledgement meets it only without a
success. -/
theorem classified_iff_of_isReport (hresult : path.result = some result)
    (hreport : IsReport result)
    (hwritten : path.Reports result ↔ path.RegisterWritten) :
    path.Classified ↔ ¬ path.RegisterWritten := by
  have hnot := isAck_of_isReport hreport
  constructor
  · intro hclassified hregister
    have hack := hclassified.accepted result hresult (hwritten.2 hregister)
    rw [hnot] at hack
    cases hack.1
  · intro hregister
    constructor
    · intro other hother hreports
      rw [hresult] at hother
      obtain rfl := Option.some.inj hother
      exact absurd (hwritten.1 hreports) hregister
    · intro other hother hrefuses
      exact isAck_of_refused hother hrefuses

/-- The select entities read the answers rightly except where a register was
written over Modbus. -/
theorem classified_iff : path.Classified ↔ ¬ path.RegisterWritten := by
  cases path with
  | modbusTcp exchange address value unitId =>
      obtain ⟨hreport, hok⟩ :=
        writeModbusSingleRegister_spec exchange address value unitId
      exact classified_iff_of_isReport rfl hreport hok
  | modbusEybond sendBytes address value unitId =>
      obtain ⟨report, hresult, hreport, hok⟩ :=
        result_modbusEybond sendBytes address value unitId
      exact classified_iff_of_isReport hresult hreport hok
  | voltronicTcp reply =>
      exact iff_of_true (classified_of_ackStatus fun _ hack => hack) not_false
  | eybond response =>
      exact iff_of_true (classified_of_ackStatus fun _ hack => hack) not_false
  | pi18 command raw =>
      exact iff_of_true (classified_of_ackStatus fun _ hack => hack) not_false

end Paths

/-! ## An echo -/

/-- A write of 2 to register 301 of unit 1, with its checksum. -/
def outputPriorityFrame : List UInt8 :=
  withModbusCrc [0x01, 0x06, 0x01, 0x2D, 0x00, 0x02]

theorem streamAccepts_echo : StreamAccepts .stream 301 2 1 0x06 := by
  refine ⟨outputPriorityFrame, outputPriorityFrame, ?_, rfl, ?_⟩
  · decide +kernel
  · exact ⟨by decide +kernel, by decide +kernel, by decide +kernel,
      by decide +kernel⟩

/-- The inverter echoes the write, which is a success and is repeated. -/
theorem echo_not_classified : ¬ ∀ path : SetPath, path.Classified := by
  intro hall
  obtain ⟨hreport, hok⟩ := writeModbusSingleRegister_spec .stream 301 2 1
  have hreports := hok.2 ⟨0x06, List.mem_cons_self, streamAccepts_echo⟩
  have hack := (hall (.modbusTcp .stream 301 2 1)).accepted _ rfl hreports
  rw [isAck_of_isReport hreport] at hack
  cases hack.1

end SetAck
end DessMonitor
