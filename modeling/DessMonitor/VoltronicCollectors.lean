import DessMonitor.Foundation.Delimited
import DessMonitor.Foundation.PyBytes
import DessMonitor.VoltronicFrame

/-!
# The collectors of PI30 responses

The protocols of a TCP gateway and of a serial line both answer with what comes
before the first carriage return.  The one of the gateway does so as soon as it
has a carriage return or a line feed, so that a line feed within the first line
makes its response depend on where the stream is cut.
-/

namespace DessMonitor
namespace Voltronic

open Crc

def carriageReturn : UInt8 := 0x0D
def lineFeed : UInt8 := 0x0A

/-! ## The protocols -/

/-- A call of `on_response`. -/
inductive Response where
  | text (response : String)
  | crcMismatch
  deriving DecidableEq

/-- `raw_bytes.strip().decode(errors="ignore")`. -/
def responseText (rawBytes : List UInt8) : String :=
  .ofList (PyBytes.decodeUtf8 (PyBytes.strip rawBytes))

/-- What is answered to a frame; `none` if its validation raises. -/
def respond (strictCrc : Bool) (rawBytes : List UInt8) : Option Response := do
  let (ok, _) ← validateVoltronicResponse rawBytes
  if !ok && strictCrc then some .crcMismatch
  else some (.text (responseText rawBytes))

structure Collector where
  strictCrc : Bool
  buffer : List UInt8

/-- `data_received` of a protocol that waits for one of these bytes, with the
response that it calls back with. -/
def Collector.dataReceived (terminators : List UInt8) (collector : Collector)
    (data : List UInt8) : Collector × Option Response :=
  let buffer := collector.buffer ++ data
  let received := { collector with buffer }
  if ∃ terminator ∈ terminators, terminator ∈ buffer then
    (received,
      respond collector.strictCrc (Delimited.body carriageReturn buffer))
  else (received, none)

/-- The first response while these chunks are received. -/
def Collector.firstResponse (terminators : List UInt8)
    (collector : Collector) : List (List UInt8) → Option Response
  | [] => none
  | chunk :: chunks =>
      match collector.dataReceived terminators chunk with
      | (_, some response) => some response
      | (received, none) => received.firstResponse terminators chunks

/-- The collector of a new connection. -/
def Collector.connectionMade (strictCrc : Bool) : Collector := ⟨strictCrc, []⟩

/-- `ElfinTCPProtocol`. -/
def elfinTcpProtocol (strictCrc : Bool) (chunks : List (List UInt8)) :
    Option Response :=
  (Collector.connectionMade strictCrc).firstResponse
    [carriageReturn, lineFeed] chunks

/-- `SerialCommandProtocol`. -/
def serialCommandProtocol (strictCrc : Bool) (chunks : List (List UInt8)) :
    Option Response :=
  (Collector.connectionMade strictCrc).firstResponse [carriageReturn] chunks

/-! ## Frames -/

/-- The validation finds a checksum that fits. -/
def isValid (rawBytes : List UInt8) : Bool :=
  (validateVoltronicResponse rawBytes).any Prod.fst

theorem validateVoltronicResponse_isSome (raw : List UInt8) :
    (validateVoltronicResponse raw).isSome = true := by
  unfold validateVoltronicResponse
  dsimp only
  split
  · rfl
  · rw [matchesScope_eq]
    rfl

theorem respond_eq (strictCrc : Bool) (rawBytes : List UInt8) :
    respond strictCrc rawBytes =
      some (if !isValid rawBytes && strictCrc then .crcMismatch
        else .text (responseText rawBytes)) := by
  obtain ⟨⟨ok, payload⟩, hvalid⟩ :=
    Option.isSome_iff_exists.1 (validateVoltronicResponse_isSome rawBytes)
  unfold respond isValid
  rw [hvalid]
  dsimp only [Option.bind_eq_bind, Option.bind_some, Option.any_some]
  split <;> rfl

/-- Under a strict checksum both are valid or neither is, and where a text is
answered it is the same. -/
structure SameAnswer (strictCrc : Bool) (left right : List UInt8) : Prop where
  validity : strictCrc = true → isValid left = isValid right
  text : strictCrc = false ∨ isValid right = true →
    responseText left = responseText right

/-- Two answers that may be a mismatch. -/
theorem answer_eq_iff {left right : Bool} {leftText rightText : String} :
    (if !left then Response.crcMismatch else .text leftText) =
        (if !right then .crcMismatch else .text rightText) ↔
      left = right ∧ (right = true → leftText = rightText) := by
  cases left with
  | false => cases right <;> simp
  | true => cases right <;> simp

theorem respond_eq_iff (strictCrc : Bool) (left right : List UInt8) :
    respond strictCrc left = respond strictCrc right ↔
      SameAnswer strictCrc left right := by
  rw [respond_eq, respond_eq, Option.some_inj]
  cases strictCrc with
  | false =>
      rw [Bool.and_false, Bool.and_false, if_neg Bool.false_ne_true,
        if_neg Bool.false_ne_true, Response.text.injEq]
      constructor
      · intro htext
        exact ⟨nofun, fun _ => htext⟩
      · intro hsame
        exact hsame.text (Or.inl rfl)
  | true =>
      rw [Bool.and_true, Bool.and_true, answer_eq_iff]
      constructor
      · rintro ⟨hvalidity, htext⟩
        refine ⟨fun _ => hvalidity, ?_⟩
        rintro (hstrict | hvalid)
        · cases hstrict
        · exact htext hvalid
      · intro hsame
        exact ⟨hsame.validity rfl, fun hvalid => hsame.text (Or.inr hvalid)⟩

/-! ## Streams -/

/-- What comes before the first carriage return. -/
def firstLine (stream : List UInt8) : List UInt8 :=
  Delimited.body carriageReturn stream

/-- What a collector answers to: the first line, or a part of it that has
another of its terminators. -/
def Taken (terminators line part : List UInt8) : Prop :=
  part <+: line ∧
    (part = line ∨
      ∃ terminator ∈ terminators,
        terminator ≠ carriageReturn ∧ terminator ∈ part)

theorem taken_body {terminators buffer rest : List UInt8}
    (hterminated : ∃ terminator ∈ terminators, terminator ∈ buffer) :
    Taken terminators (firstLine (buffer ++ rest)) (firstLine buffer) := by
  unfold Taken firstLine
  by_cases hreturn : carriageReturn ∈ buffer
  · rw [Delimited.body_append_of_mem hreturn]
    exact ⟨List.prefix_rfl, Or.inl rfl⟩
  · rw [Delimited.body_of_notMem hreturn,
      Delimited.body_append_of_notMem hreturn]
    obtain ⟨terminator, hmem, hbuffer⟩ := hterminated
    refine ⟨List.prefix_append _ _, Or.inr ⟨terminator, hmem, ?_, hbuffer⟩⟩
    rintro rfl
    exact hreturn hbuffer

/-- However a stream with a carriage return is cut, a collector answers. -/
theorem Collector.exists_firstResponse {terminators : List UInt8}
    (hreturn : carriageReturn ∈ terminators) (collector : Collector)
    (chunks : List (List UInt8))
    (hbuffer : ∀ terminator ∈ terminators, terminator ∉ collector.buffer)
    (hstream : carriageReturn ∈ collector.buffer ++ chunks.flatten) :
    ∃ part,
      Taken terminators (firstLine (collector.buffer ++ chunks.flatten))
        part ∧
      collector.firstResponse terminators chunks =
        respond collector.strictCrc part := by
  induction chunks generalizing collector with
  | nil =>
      rw [List.flatten_nil, List.append_nil] at hstream
      exact absurd hstream (hbuffer _ hreturn)
  | cons chunk chunks ih =>
      rw [List.flatten_cons, ← List.append_assoc] at hstream ⊢
      unfold firstResponse dataReceived
      by_cases hterminated : ∃ terminator ∈ terminators,
          terminator ∈ collector.buffer ++ chunk
      · refine ⟨firstLine (collector.buffer ++ chunk),
          taken_body hterminated, ?_⟩
        simp only [if_pos hterminated]
        rw [respond_eq, respond_eq]
        rfl
      · have hclean : ∀ terminator ∈ terminators,
            terminator ∉ collector.buffer ++ chunk :=
          fun terminator hmem hbuffer =>
            hterminated ⟨terminator, hmem, hbuffer⟩
        simp only [if_neg hterminated]
        exact ih ⟨collector.strictCrc, collector.buffer ++ chunk⟩ hclean
          hstream

section Protocols

variable {strictCrc : Bool} {stream : List UInt8}

/-- The serial protocol answers to the first line. -/
theorem serialCommandProtocol_eq {chunks : List (List UInt8)}
    (hchunks : chunks.flatten = stream)
    (hstream : carriageReturn ∈ stream) :
    serialCommandProtocol strictCrc chunks =
      respond strictCrc (firstLine stream) := by
  subst hchunks
  obtain ⟨part, ⟨_, htaken⟩, hresponse⟩ :=
    Collector.exists_firstResponse (List.mem_singleton.2 rfl)
      (Collector.connectionMade strictCrc) chunks (fun _ _ => List.not_mem_nil)
      hstream
  rcases htaken with rfl | ⟨terminator, hmem, hne, _⟩
  · exact hresponse
  · exact absurd (List.mem_singleton.1 hmem) hne

variable (strictCrc) in
/-- The protocol of the gateway answers to the first line or to a part of it
with a line feed. -/
theorem elfinTcpProtocol_cases {chunks : List (List UInt8)}
    (hchunks : chunks.flatten = stream)
    (hstream : carriageReturn ∈ stream) :
    ∃ part, part <+: firstLine stream ∧
      (part = firstLine stream ∨ lineFeed ∈ part) ∧
      elfinTcpProtocol strictCrc chunks = respond strictCrc part := by
  subst hchunks
  obtain ⟨part, ⟨hpart, htaken⟩, hresponse⟩ :=
    Collector.exists_firstResponse (List.mem_cons_self)
      (Collector.connectionMade strictCrc) chunks (fun _ _ => List.not_mem_nil)
      hstream
  refine ⟨part, hpart, ?_, hresponse⟩
  rcases htaken with hline | ⟨terminator, hmem, hne, hin⟩
  · exact Or.inl hline
  · rcases List.mem_pair.1 hmem with hreturn | hfeed
    · exact absurd hreturn hne
    · rw [hfeed] at hin
      exact Or.inr hin

variable (strictCrc) in
/-- The protocol of the gateway can be made to answer to any part of the first
line that has a line feed. -/
theorem elfinTcpProtocol_part {part : List UInt8}
    (hpart : part <+: firstLine stream) (hfeed : lineFeed ∈ part) :
    ∃ chunks : List (List UInt8), chunks.flatten = stream ∧
      elfinTcpProtocol strictCrc chunks = respond strictCrc part := by
  have hprefix : part <+: stream :=
    hpart.trans (List.takeWhile_prefix _)
  obtain ⟨rest, rfl⟩ := hprefix
  have hclean : carriageReturn ∉ part :=
    fun hreturn => Delimited.delimiter_notMem_body _ _ (hpart.subset hreturn)
  refine ⟨[part, rest], by simp, ?_⟩
  have hterminated : ∃ terminator ∈ [carriageReturn, lineFeed],
      terminator ∈ ([] : List UInt8) ++ part :=
    ⟨lineFeed, List.mem_pair.2 (Or.inr rfl), hfeed⟩
  have hline : Delimited.body carriageReturn ([] ++ part) = part :=
    Delimited.body_of_notMem hclean
  unfold elfinTcpProtocol Collector.firstResponse Collector.dataReceived
    Collector.connectionMade
  simp only [if_pos hterminated, hline]
  rw [respond_eq]

/-- However a stream is cut, each protocol has one first response, and both
have the same. -/
structure CutFree (strictCrc : Bool) (stream : List UInt8) : Prop where
  elfin : ∀ left right : List (List UInt8),
    left.flatten = stream → right.flatten = stream →
      elfinTcpProtocol strictCrc left = elfinTcpProtocol strictCrc right
  serial : ∀ left right : List (List UInt8),
    left.flatten = stream → right.flatten = stream →
      serialCommandProtocol strictCrc left =
        serialCommandProtocol strictCrc right
  agree : ∀ left right : List (List UInt8),
    left.flatten = stream → right.flatten = stream →
      elfinTcpProtocol strictCrc left = serialCommandProtocol strictCrc right

/-- Cutting the first line behind a line feed changes neither its validity nor
its text. -/
def FeedsHarmless (strictCrc : Bool) (stream : List UInt8) : Prop :=
  ∀ part, part <+: firstLine stream → lineFeed ∈ part →
    SameAnswer strictCrc part (firstLine stream)

/-- The first response does not depend on the cuts exactly when the line feeds
of the first line are harmless. -/
theorem cutFree_iff (hstream : carriageReturn ∈ stream) :
    CutFree strictCrc stream ↔ FeedsHarmless strictCrc stream := by
  constructor
  · intro hfree part hpart hfeed
    obtain ⟨chunks, hchunks, hresponse⟩ :=
      elfinTcpProtocol_part strictCrc hpart hfeed
    have hagree := hfree.agree chunks chunks hchunks hchunks
    rw [hresponse, serialCommandProtocol_eq hchunks hstream] at hagree
    exact (respond_eq_iff _ _ _).1 hagree
  · intro hharmless
    have helfin : ∀ chunks : List (List UInt8), chunks.flatten = stream →
        elfinTcpProtocol strictCrc chunks =
          respond strictCrc (firstLine stream) := by
      intro chunks hchunks
      obtain ⟨part, hpart, htaken, hresponse⟩ :=
        elfinTcpProtocol_cases strictCrc hchunks hstream
      rcases htaken with hline | hfeed
      · rw [hresponse, hline]
      · rw [hresponse]
        exact (respond_eq_iff _ _ _).2 (hharmless part hpart hfeed)
    have hserial : ∀ chunks : List (List UInt8), chunks.flatten = stream →
        serialCommandProtocol strictCrc chunks =
          respond strictCrc (firstLine stream) :=
      fun chunks hchunks => serialCommandProtocol_eq hchunks hstream
    constructor
    · intro left right hleft hright
      rw [helfin left hleft, helfin right hright]
    · intro left right hleft hright
      rw [hserial left hleft, hserial right hright]
    · intro left right hleft hright
      rw [helfin left hleft, hserial right hright]

end Protocols

theorem feedsHarmless_of_notMem {strictCrc : Bool} {stream : List UInt8}
    (hfeed : lineFeed ∉ firstLine stream) :
    FeedsHarmless strictCrc stream :=
  fun _ hpart hmem => absurd (hpart.subset hmem) hfeed

/-- A first line without line feeds. -/
theorem cutFree_plain : CutFree true [0x28, 0x31, 0x0D] :=
  (cutFree_iff (by decide)).2 (feedsHarmless_of_notMem (by decide))

/-- `(3P` with the raw checksum 0x0A33, whose first byte is a line feed. -/
def feedInCrc : List UInt8 := [0x28, 0x33, 0x50, 0x0A, 0x33, 0x0D]

theorem feedInCrc_not_cutFree :
    ¬ ∀ (strictCrc : Bool) (stream : List UInt8),
      carriageReturn ∈ stream → CutFree strictCrc stream := by
  intro hall
  have hsame := (hall true feedInCrc (by decide)).elfin [feedInCrc]
    [feedInCrc.take 4, feedInCrc.drop 4] (by decide) (by decide)
  revert hsame
  decide +kernel

end Voltronic
end DessMonitor
