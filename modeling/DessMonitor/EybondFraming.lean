import DessMonitor.EybondManagerModel
import DessMonitor.Foundation.MessageStream

/-!
# EyBond frames on the wire

A frame is a header of eight bytes and a payload.  The header gives the length
of the frame less six, and the reader loop of a session takes the length of
the payload from it.  The loop ends with the error of the first read that the
stream cannot fill.
-/

namespace DessMonitor
namespace Eybond

open MessageStream

/-! ## Packed numbers -/

inductive StreamError where
  | incompleteRead (received : Bytes) (expected : ℕ)
  | structError
  deriving DecidableEq

/-- `>H`; `none` is `struct.error`. -/
def packShort (value : ℤ) : Option (Bytes) :=
  if 0 ≤ value ∧ value < 0x10000 then
    some [.ofNat (value.toNat / 0x100), .ofNat (value.toNat % 0x100)]
  else none

/-- `>B`. -/
def packByte (value : ℤ) : Option (Bytes) :=
  if 0 ≤ value ∧ value < 0x100 then some [.ofNat value.toNat] else none

def unpackShort (high low : UInt8) : ℕ :=
  high.toNat * 0x100 + low.toNat

theorem packShort_of_lt {value : ℕ} (hvalue : value < 0x10000) :
    ∃ high low, packShort value = some [high, low] ∧
      unpackShort high low = value := by
  refine ⟨.ofNat (value / 0x100), .ofNat (value % 0x100), ?_, ?_⟩
  · unfold packShort
    rw [if_pos (by omega), Int.toNat_natCast]
  · unfold unpackShort
    rw [UInt8.toNat_ofNat', UInt8.toNat_ofNat']
    omega

theorem packByte_of_lt {value : ℕ} (hvalue : value < 0x100) :
    ∃ byte : UInt8, packByte value = some [byte] ∧ byte.toNat = value := by
  refine ⟨.ofNat value, ?_, ?_⟩
  · unfold packByte
    rw [if_pos (by omega), Int.toNat_natCast]
  · rw [UInt8.toNat_ofNat']
    omega

/-! ## Headers -/

def headerSize : ℕ := 8
def wireLenOffset : ℤ := 6

structure EyHeader where
  tid : ℕ
  devcode : ℕ
  wireLen : ℕ
  devaddr : ℕ
  fcode : ℕ
  deriving DecidableEq

def EyHeader.totalLen (header : EyHeader) : ℤ :=
  header.wireLen + wireLenOffset

def EyHeader.payloadLen (header : EyHeader) : ℤ :=
  header.totalLen - headerSize

def encodeHeader (tid devcode totalLen devaddr fcode : ℤ) :
    Option (Bytes) := do
  let tid ← packShort tid
  let devcode ← packShort devcode
  let wireLen ← packShort (totalLen - wireLenOffset)
  let devaddr ← packByte devaddr
  let fcode ← packByte fcode
  return tid ++ devcode ++ wireLen ++ devaddr ++ fcode

/-- `none` is the `struct.error` of too few bytes. -/
def decodeHeader (data : Bytes) : Option EyHeader :=
  match data.take headerSize with
  | [tid, tid', devcode, devcode', wireLen, wireLen', devaddr, fcode] =>
      some
        { tid := unpackShort tid tid'
          devcode := unpackShort devcode devcode'
          wireLen := unpackShort wireLen wireLen'
          devaddr := devaddr.toNat
          fcode := fcode.toNat }
  | _ => none

/-! ## Frames -/

structure WireFrame where
  tid : ℕ
  devcode : ℕ
  devaddr : ℕ
  fcode : ℕ
  payload : Bytes
  deriving DecidableEq

/-- What the handler of a session looks at. -/
def WireFrame.received (frame : WireFrame) : Frame :=
  ⟨frame.tid, frame.fcode, frame.payload⟩

/-- The header and the payload, as every sender puts them together. -/
def WireFrame.encode? (frame : WireFrame) : Option Bytes :=
  (encodeHeader frame.tid frame.devcode
    (headerSize + frame.payload.length : ℕ) frame.devaddr frame.fcode).map
    (· ++ frame.payload)

/-- `reader.readexactly`. -/
def readBytes (count : ℕ) (stream : Bytes) :
    Except StreamError (Bytes × Bytes) :=
  readexactly .incompleteRead count stream

/-- One turn of the read loop of `_handle_session`. -/
def readFrame (stream : Bytes) :
    Except StreamError (WireFrame × Bytes) := do
  let (head, rest) ← readBytes headerSize stream
  match decodeHeader head with
  | none => .error .structError
  | some header =>
      let (payload, rest) ←
        if 0 < header.payloadLen then
          readBytes header.payloadLen.toNat rest
        else .ok ([], rest)
      return (⟨header.tid, header.devcode, header.devaddr, header.fcode,
        payload⟩, rest)

/-! ## The read loop -/

theorem readFrame_of_header {stream head rest : Bytes} {header : EyHeader}
    (hread : readBytes headerSize stream = .ok (head, rest))
    (hheader : decodeHeader head = some header) :
    readFrame stream = do
      let (payload, rest) ←
        if 0 < header.payloadLen then
          readBytes header.payloadLen.toNat rest
        else .ok ([], rest)
      return (⟨header.tid, header.devcode, header.devaddr, header.fcode,
        payload⟩, rest) := by
  unfold readFrame
  rw [hread]
  dsimp only [Except.bind, bind]
  rw [hheader]

theorem readFrame_shrinks {stream rest : Bytes} {frame : WireFrame}
    (hread : readFrame stream = .ok (frame, rest)) :
    rest.length < stream.length := by
  cases hhead : readBytes headerSize stream with
  | error error =>
      unfold readFrame at hread
      rw [hhead] at hread
      cases hread
  | ok taken =>
      obtain ⟨head, body⟩ := taken
      obtain ⟨rfl, hlength⟩ := readexactly_eq_ok _ hhead
      have hbody : body.length < (head ++ body).length := by
        rw [List.length_append, hlength, headerSize]
        omega
      cases hheader : decodeHeader head with
      | none =>
          unfold readFrame at hread
          rw [hhead] at hread
          dsimp only [Except.bind, bind] at hread
          rw [hheader] at hread
          cases hread
      | some header =>
          rw [readFrame_of_header hhead hheader] at hread
          by_cases hpayload : 0 < header.payloadLen
          · rw [if_pos hpayload] at hread
            cases hdata : readBytes header.payloadLen.toNat body with
            | error error =>
                rw [hdata] at hread
                cases hread
            | ok taken =>
                obtain ⟨payload, after⟩ := taken
                rw [hdata] at hread
                obtain ⟨-, rfl⟩ := Prod.mk.inj (Except.ok.inj hread)
                obtain ⟨rfl, -⟩ := readexactly_eq_ok _ hdata
                rw [List.length_append] at hbody
                omega
          · rw [if_neg hpayload] at hread
            obtain ⟨-, rfl⟩ := Prod.mk.inj (Except.ok.inj hread)
            exact hbody

def frameReader : Reader UInt8 WireFrame StreamError where
  next := readFrame
  shrinks := readFrame_shrinks

/-- The frames that `_handle_session` handles of a stream which ends behind
these bytes, and the error that ends its loop. -/
def readLoop (stream : Bytes) : List WireFrame × StreamError :=
  frameReader.readAll stream

def StreamError.IsIncomplete (error : StreamError) : Prop :=
  ∃ received expected, error = .incompleteRead received expected

/-! ## Frames that fit their fields -/

structure WireFrame.Fits (frame : WireFrame) : Prop where
  tid_lt : frame.tid < 0x10000
  devcode_lt : frame.devcode < 0x10000
  devaddr_lt : frame.devaddr < 0x100
  fcode_lt : frame.fcode < 0x100
  payload_le : frame.payload.length ≤ 65533

/-- The bytes of a frame that fits. -/
def WireFrame.bytes (frame : WireFrame) : Bytes :=
  frame.encode?.getD []

/-- The length field counts the payload and two bytes of the header. -/
def WireFrame.header (frame : WireFrame) : EyHeader where
  tid := frame.tid
  devcode := frame.devcode
  wireLen := frame.payload.length + 2
  devaddr := frame.devaddr
  fcode := frame.fcode

theorem WireFrame.payloadLen_header (frame : WireFrame) :
    frame.header.payloadLen = frame.payload.length := by
  unfold EyHeader.payloadLen EyHeader.totalLen WireFrame.header
  rw [wireLenOffset, headerSize]
  push_cast
  ring

theorem WireFrame.Fits.header_bytes {frame : WireFrame} (hfits : frame.Fits) :
    ∃ head, frame.encode? = some (head ++ frame.payload) ∧
      head.length = headerSize ∧ decodeHeader head = some frame.header := by
  obtain ⟨tid, tid', htid, hunpackTid⟩ := packShort_of_lt hfits.tid_lt
  obtain ⟨devcode, devcode', hdevcode, hunpackDevcode⟩ :=
    packShort_of_lt hfits.devcode_lt
  have hlength : frame.payload.length + 2 < 0x10000 := by
    have hle := hfits.payload_le
    omega
  obtain ⟨wireLen, wireLen', hwireLen, hunpackWireLen⟩ :=
    packShort_of_lt hlength
  obtain ⟨devaddr, hdevaddr, htoNatDevaddr⟩ := packByte_of_lt hfits.devaddr_lt
  obtain ⟨fcode, hfcode, htoNatFcode⟩ := packByte_of_lt hfits.fcode_lt
  have htotal : ((headerSize + frame.payload.length : ℕ) : ℤ) - wireLenOffset =
      ((frame.payload.length + 2 : ℕ) : ℤ) := by
    rw [wireLenOffset, headerSize]
    push_cast
    ring
  refine ⟨[tid, tid', devcode, devcode', wireLen, wireLen', devaddr, fcode],
    ?_, rfl, ?_⟩
  · unfold WireFrame.encode? encodeHeader
    rw [htid, hdevcode, htotal, hwireLen, hdevaddr, hfcode]
    rfl
  · unfold decodeHeader WireFrame.header
    rw [← hunpackTid, ← hunpackDevcode, ← hunpackWireLen, ← htoNatDevaddr,
      ← htoNatFcode]
    rfl

theorem WireFrame.Fits.encode?_eq {frame : WireFrame} (hfits : frame.Fits) :
    frame.encode? = some frame.bytes := by
  obtain ⟨head, hencode, -⟩ := hfits.header_bytes
  unfold WireFrame.bytes
  rw [hencode]
  rfl

theorem readFrame_part {head payload part : Bytes} {header : EyHeader}
    (hlength : head.length = headerSize)
    (hheader : decodeHeader head = some header)
    (hpayload : header.payloadLen = payload.length)
    (hpart : part <+: head ++ payload) (hne : part ≠ head ++ payload) :
    ∃ error, readFrame part = .error error ∧ error.IsIncomplete := by
  by_cases hshort : part.length < headerSize
  · refine ⟨.incompleteRead part headerSize, ?_, _, _, rfl⟩
    unfold readFrame
    rw [readBytes, readexactly_of_lt _ hshort]
    rfl
  · have hlong : head <+: part := by
      apply List.prefix_of_prefix_length_le (List.prefix_append head payload)
        hpart
      omega
    obtain ⟨body, rfl⟩ := hlong
    rw [List.prefix_append_right_inj] at hpart
    have hbody : body.length < payload.length := by
      have hle := hpart.length_le
      have hnot : body.length ≠ payload.length := by
        intro hsame
        exact hne (by rw [hpart.eq_of_length hsame])
      omega
    refine ⟨.incompleteRead body payload.length, ?_, _, _, rfl⟩
    rw [readFrame_of_header (readexactly_append _ hlength body) hheader,
      hpayload, if_pos (by omega), Int.toNat_natCast, readBytes,
      readexactly_of_lt _ hbody]
    rfl

theorem readFrame_append {head payload : Bytes} {header : EyHeader}
    (hlength : head.length = headerSize)
    (hheader : decodeHeader head = some header)
    (hpayload : header.payloadLen = payload.length) (rest : Bytes) :
    readFrame (head ++ (payload ++ rest)) =
      .ok (⟨header.tid, header.devcode, header.devaddr, header.fcode,
        payload⟩, rest) := by
  rw [readFrame_of_header (readexactly_append _ hlength _) hheader, hpayload]
  by_cases hempty : payload = []
  · subst hempty
    rfl
  · have hpositive := List.length_pos_iff.mpr hempty
    rw [if_pos (by omega), Int.toNat_natCast, readBytes, readexactly_append _ rfl]
    rfl

theorem WireFrame.Fits.delimits {frame : WireFrame} (hfits : frame.Fits) :
    frameReader.Delimits StreamError.IsIncomplete frame.bytes frame := by
  obtain ⟨head, hencode, hlength, hheader⟩ := hfits.header_bytes
  have hbytes : frame.bytes = head ++ frame.payload := by
    unfold WireFrame.bytes
    rw [hencode]
    rfl
  rw [hbytes]
  constructor
  · intro rest
    rw [List.append_assoc]
    exact readFrame_append hlength hheader frame.payloadLen_header rest
  · intro part hpart hne
    exact readFrame_part hlength hheader frame.payloadLen_header hpart hne

theorem readFrame_nil :
    readFrame [] = .error (.incompleteRead [] headerSize) := rfl

/-- Frames sent back to back are read back in order with nothing left, and of
a stream that was cut off exactly the frames that are all there. -/
theorem readLoop_frames {frames : List WireFrame}
    (hframes : ∀ frame ∈ frames, frame.Fits) :
    (∀ frame ∈ frames, frame.encode? = some frame.bytes) ∧
      readLoop (frames.flatMap WireFrame.bytes) =
        (frames, .incompleteRead [] headerSize) ∧
      ∀ part, part <+: frames.flatMap WireFrame.bytes →
        Reader.CutOff StreamError.IsIncomplete WireFrame.bytes frames part
          (readLoop part) := by
  have hdelimits : ∀ frame ∈ frames,
      frameReader.Delimits StreamError.IsIncomplete frame.bytes frame :=
    fun frame hmem => (hframes frame hmem).delimits
  refine ⟨fun frame hmem => (hframes frame hmem).encode?_eq, ?_, ?_⟩
  · have hall := Reader.readAll_flatMap hdelimits []
    rw [List.append_nil, frameReader.readAll_of_error readFrame_nil,
      List.append_nil] at hall
    exact hall
  · intro part hpart
    exact Reader.readAll_part hdelimits ⟨_, readFrame_nil, _, _, rfl⟩ hpart

/-- A heartbeat of a dongle, and a reply without payload behind it. -/
def heartbeatThenReply : List WireFrame :=
  [⟨1, 0x0994, 1, fcHeartbeat, [0x50, 0x4e, 0x31]⟩,
    ⟨42, 0x0994, 3, fcForward2Device, []⟩]

theorem readLoop_heartbeatThenReply :
    (∀ frame ∈ heartbeatThenReply, frame.encode? = some frame.bytes) ∧
      readLoop (heartbeatThenReply.flatMap WireFrame.bytes) =
        (heartbeatThenReply, .incompleteRead [] headerSize) ∧
      ∀ part, part <+: heartbeatThenReply.flatMap WireFrame.bytes →
        Reader.CutOff StreamError.IsIncomplete WireFrame.bytes
          heartbeatThenReply part (readLoop part) := by
  apply readLoop_frames
  intro frame hmem
  simp only [heartbeatThenReply, List.mem_cons, List.not_mem_nil,
    or_false] at hmem
  rcases hmem with rfl | rfl <;> constructor <;> decide

end Eybond
end DessMonitor
