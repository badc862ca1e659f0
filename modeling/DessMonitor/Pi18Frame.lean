import DessMonitor.Foundation.Delimited
import DessMonitor.Crc

/-!
# PI18 responses

A response is `^Dnnn`, the payload, two checksum bytes and a carriage return.
The collector takes everything up to the first carriage return for the frame,
and the checksum bytes may be one.
-/

namespace DessMonitor
namespace Pi18

open Crc

def carriageReturn : UInt8 := 0x0D

/-! ## The collector -/

/-- A call of `on_response`. -/
inductive Response where
  | data (bytes : List UInt8)
  | crcMismatch
  deriving DecidableEq

/-- `_Pi18FrameCollector`. -/
structure FrameCollector where
  strictCrc : Bool
  buffer : List UInt8

/-- What is answered to a frame that ends before its carriage return. -/
def respond (strictCrc : Bool) (body : List UInt8) : Response :=
  if !(validatePi18Response body).1 && strictCrc then .crcMismatch
  else .data (body ++ [carriageReturn])

/-- `data_received`, with the response that it calls back with. -/
def FrameCollector.dataReceived (collector : FrameCollector)
    (data : List UInt8) : FrameCollector × Option Response :=
  let buffer := collector.buffer ++ data
  let received := { collector with buffer }
  if carriageReturn ∈ buffer then
    (received,
      some (respond collector.strictCrc
        (Delimited.body carriageReturn buffer)))
  else
    (received, none)

/-- The first response while these chunks are received. -/
def FrameCollector.firstResponse (collector : FrameCollector) :
    List (List UInt8) → Option Response
  | [] => none
  | chunk :: chunks =>
      match collector.dataReceived chunk with
      | (_, some response) => some response
      | (received, none) => received.firstResponse chunks

/-- The collector of a new connection. -/
def FrameCollector.connectionMade (strictCrc : Bool) : FrameCollector :=
  ⟨strictCrc, []⟩

/-- The collector answers to the first message of the stream. -/
theorem FrameCollector.firstResponse_eq (collector : FrameCollector)
    (chunks : List (List UInt8)) :
    collector.firstResponse chunks =
      (Delimited.firstMessage carriageReturn collector.buffer chunks).map
        (respond collector.strictCrc) := by
  induction chunks generalizing collector with
  | nil =>
      rfl
  | cons chunk chunks ih =>
      unfold firstResponse Delimited.firstMessage dataReceived
      by_cases hmem : carriageReturn ∈ collector.buffer ++ chunk
      · simp only [if_pos hmem, Option.map_some]
      · simp only [if_neg hmem]
        exact ih _

/-- However the stream is cut, its first line is answered to. -/
theorem firstResponse_connectionMade (strictCrc : Bool)
    {chunks : List (List UInt8)}
    (hstream : carriageReturn ∈ chunks.flatten) :
    (FrameCollector.connectionMade strictCrc).firstResponse chunks =
      some (respond strictCrc
        (Delimited.body carriageReturn chunks.flatten)) := by
  rw [FrameCollector.firstResponse_eq]
  have hmessage : Delimited.firstMessage carriageReturn [] chunks =
      some (Delimited.body carriageReturn ([] ++ chunks.flatten)) :=
    Delimited.firstMessage_eq_body (by simp) (by simpa using hstream)
  unfold FrameCollector.connectionMade
  dsimp only
  rw [hmessage, List.nil_append]
  rfl

/-! ## The payload of a response -/

def responseMark : List UInt8 := [0x5E, 0x44]
def voltronicMark : List UInt8 := [0x28]

/-- `_strip_pi18_frame`. -/
def stripPi18Frame (raw : List UInt8) : List UInt8 :=
  if raw = [] then
    raw
  else
    let body := Delimited.body carriageReturn raw
    let payload := if 2 ≤ body.length then withoutCrc body else body
    if responseMark.isPrefixOf payload && decide (5 ≤ payload.length) then
      payload.drop 5
    else if voltronicMark.isPrefixOf payload then
      payload.drop 1
    else
      payload

/-! ## Frames -/

/-- The character of a decimal digit. -/
def digitByte (digit : Fin 10) : UInt8 := UInt8.ofNat (48 + digit.val)

theorem digitByte_ne_carriageReturn (digit : Fin 10) :
    digitByte digit ≠ carriageReturn := by
  revert digit
  decide

/-- What a device answers with. -/
structure ResponseFrame where
  hundreds : Fin 10
  tens : Fin 10
  units : Fin 10
  payload : List UInt8
  payload_clean : carriageReturn ∉ payload

namespace ResponseFrame

variable (frame : ResponseFrame)

def header : List UInt8 :=
  responseMark ++
    [digitByte frame.hundreds, digitByte frame.tens, digitByte frame.units]

/-- What the checksum is over. -/
def checked : List UInt8 := frame.header ++ frame.payload

def crc : List UInt8 := crc16XmodemBytes frame.checked

def bytes : List UInt8 := frame.checked ++ frame.crc ++ [carriageReturn]

theorem length_header : frame.header.length = 5 := rfl

theorem length_crc : frame.crc.length = 2 := rfl

theorem length_bytes :
    frame.bytes.length = (frame.checked ++ frame.crc).length + 1 :=
  List.length_append

theorem checked_clean : carriageReturn ∉ frame.checked := by
  intro hmem
  rcases List.mem_append.1 hmem with hheader | hpayload
  · have hhundreds := digitByte_ne_carriageReturn frame.hundreds
    have htens := digitByte_ne_carriageReturn frame.tens
    have hunits := digitByte_ne_carriageReturn frame.units
    have hmark : carriageReturn ∉ responseMark := by
      decide
    simp only [header, List.mem_append, List.mem_cons, List.not_mem_nil,
      or_false] at hheader
    rcases hheader with hheader | hheader | hheader | hheader
    · exact hmark hheader
    · exact hhundreds hheader.symm
    · exact htens hheader.symm
    · exact hunits hheader.symm
  · exact frame.payload_clean hpayload

theorem length_checked_pos : 0 < frame.checked.length := by
  have hheader := frame.length_header
  unfold checked
  rw [List.length_append]
  omega

/-- A checksum without a carriage return lies before the first one. -/
theorem body_bytes (hcrc : carriageReturn ∉ frame.crc) :
    Delimited.body carriageReturn frame.bytes =
      frame.checked ++ frame.crc := by
  have hclean : carriageReturn ∉ frame.checked ++ frame.crc := by
    intro hmem
    rcases List.mem_append.1 hmem with hchecked | hmem
    · exact frame.checked_clean hchecked
    · exact hcrc hmem
  exact Delimited.body_append_cons hclean

/-- A checksum with a carriage return is cut. -/
theorem length_body_bytes_lt (hcrc : carriageReturn ∈ frame.crc) :
    (Delimited.body carriageReturn frame.bytes).length <
      (frame.checked ++ frame.crc).length := by
  have hmem : carriageReturn ∈ frame.checked ++ frame.crc :=
    List.mem_append_right _ hcrc
  have hbody : Delimited.body carriageReturn frame.bytes =
      Delimited.body carriageReturn (frame.checked ++ frame.crc) :=
    Delimited.body_append_of_mem hmem
  have hle := List.IsPrefix.length_le
    (List.takeWhile_prefix (l := frame.checked ++ frame.crc)
      (p := fun byte => byte ≠ carriageReturn))
  rw [hbody]
  refine lt_of_le_of_ne hle ?_
  intro hlength
  have hwhole : Delimited.body carriageReturn (frame.checked ++ frame.crc) =
      frame.checked ++ frame.crc :=
    List.IsPrefix.eq_of_length (List.takeWhile_prefix _) hlength
  have hclean := Delimited.delimiter_notMem_body carriageReturn
    (frame.checked ++ frame.crc)
  rw [hwhole] at hclean
  exact hclean hmem

/-- The payload is got back from the whole frame. -/
theorem stripPi18Frame_bytes (hcrc : carriageReturn ∉ frame.crc) :
    stripPi18Frame frame.bytes = frame.payload := by
  have hnonempty : frame.bytes ≠ [] := by
    simp [bytes]
  have hlength : 2 ≤ (frame.checked ++ frame.crc).length := by
    rw [List.length_append, frame.length_crc]
    omega
  have hmark : responseMark.isPrefixOf frame.checked = true := by
    rw [List.isPrefixOf_iff_prefix, checked, header, List.append_assoc]
    exact List.prefix_append _ _
  have hheader : 5 ≤ frame.checked.length := by
    rw [checked, List.length_append, frame.length_header]
    omega
  unfold stripPi18Frame
  rw [if_neg hnonempty]
  dsimp only
  rw [frame.body_bytes hcrc, if_pos hlength,
    withoutCrc_append frame.length_crc, hmark, decide_eq_true hheader]
  exact List.drop_left' frame.length_header

end ResponseFrame

/-! ## Recovery -/

/-- The first response to a frame that came in these chunks is the frame, and
the decoder gets its payload. -/
structure Recovered (frame : ResponseFrame) (strictCrc : Bool)
    (chunks : List (List UInt8)) : Prop where
  delivered :
    (FrameCollector.connectionMade strictCrc).firstResponse chunks =
      some (.data frame.bytes)
  stripped : stripPi18Frame frame.bytes = frame.payload

theorem carriageReturn_mem_bytes (frame : ResponseFrame) :
    carriageReturn ∈ frame.bytes := by
  simp [ResponseFrame.bytes]

/-- A frame is recovered, however it is cut and whether or not the checksum is
strict, exactly when no checksum byte is a carriage return. -/
theorem frame_recovered_iff (frame : ResponseFrame) (strictCrc : Bool)
    (chunks : List (List UInt8)) (hsplit : chunks.flatten = frame.bytes) :
    Recovered frame strictCrc chunks ↔ carriageReturn ∉ frame.crc := by
  have hstream : carriageReturn ∈ chunks.flatten := by
    rw [hsplit]
    exact carriageReturn_mem_bytes frame
  have hfirst := firstResponse_connectionMade strictCrc hstream
  rw [hsplit] at hfirst
  constructor
  · intro hrecovered hcrc
    have hshort := frame.length_body_bytes_lt hcrc
    have hdelivered := hrecovered.delivered
    rw [hfirst, Option.some_inj] at hdelivered
    unfold respond at hdelivered
    split at hdelivered
    · cases hdelivered
    · have hbytes := Response.data.inj hdelivered
      have hlengths := congrArg List.length hbytes
      rw [List.length_append, List.length_singleton,
        frame.length_bytes] at hlengths
      omega
  · intro hcrc
    have hvalid : validatePi18Response (frame.checked ++ frame.crc) =
        (true, frame.checked) :=
      validatePi18Response_append
        (List.length_pos_iff.1 frame.length_checked_pos)
    constructor
    · rw [hfirst, frame.body_bytes hcrc]
      unfold respond
      rw [hvalid]
      rfl
    · exact frame.stripPi18Frame_bytes hcrc

/-- `^D006047` has the checksum 0x2B0D. -/
def cutFrame : ResponseFrame where
  hundreds := 0
  tens := 0
  units := 6
  payload := [0x30, 0x34, 0x37]
  payload_clean := by decide

def wholeFrame : ResponseFrame where
  hundreds := 0
  tens := 0
  units := 6
  payload := [0x30, 0x34, 0x38]
  payload_clean := by decide

theorem wholeFrame_recovered :
    Recovered wholeFrame true [wholeFrame.bytes.take 3,
      wholeFrame.bytes.drop 3] ↔ carriageReturn ∉ wholeFrame.crc :=
  frame_recovered_iff wholeFrame true _ (by decide +kernel)

theorem cutFrame_not_recovered :
    ¬ ∀ (frame : ResponseFrame) (strictCrc : Bool)
      (chunks : List (List UInt8)), chunks.flatten = frame.bytes →
      Recovered frame strictCrc chunks := by
  intro hall
  have hdelivered := (hall cutFrame false [cutFrame.bytes]
    (by decide +kernel)).delivered
  revert hdelivered
  decide +kernel

end Pi18
end DessMonitor
