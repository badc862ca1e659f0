import DessMonitor.Foundation.BoundedLog
import DessMonitor.Foundation.InsertionDict
import DessMonitor.Foundation.PyBytes

/-!
# The log of raw frames

The transports record every reply they receive, with the verdict of its
checksum, under the command it answers.  Only the last frames of a command are
kept, and a download of the diagnostics shows them.
-/

namespace DessMonitor
namespace FrameLog

open BoundedLog PyBytes

def maxFramesPerCommand : ℕ := 20

structure Frame where
  timestamp : ℤ
  byteCount : ℕ
  crcValid : Bool
  rawHex : List Char
  rawAscii : List Char
  deriving DecidableEq

/-- Bytes that do not print are written as escapes. -/
def safeAscii (data : List UInt8) : List Char :=
  data.flatMap fun byte =>
    if 0x20 ≤ byte.toNat ∧ byte.toNat < 0x7F then [Char.ofNat byte.toNat]
    else '\\' :: 'x' :: hexPair byte

abbrev Frames := Dict String (List Frame)

/-- The arguments of a `record` with the time of the call. -/
structure Capture where
  command : String
  rawBytes : List UInt8
  crcValid : Bool
  now : ℤ

def Capture.frame (capture : Capture) : Frame where
  timestamp := capture.now
  byteCount := capture.rawBytes.length
  crcValid := capture.crcValid
  rawHex := hexSpaced capture.rawBytes
  rawAscii := safeAscii capture.rawBytes

def record (frames : Frames) (capture : Capture) : Frames :=
  let buffer := (frames.get? capture.command).getD []
  frames.set capture.command
    (push maxFramesPerCommand buffer capture.frame)

def snapshot (frames : Frames) : Dict String (List Frame) := frames

def clear (_ : Frames) : Frames := .empty

inductive Event where
  | record (capture : Capture)
  | clear

def next (frames : Frames) : Event → Frames
  | .record capture => record frames capture
  | .clear => clear frames

/-- The log after some calls. -/
def after (events : List Event) : Frames :=
  events.foldl next .empty

/-- What was recorded under a command since the last `clear`. -/
def recorded (command : String) (events : List Event) : List Capture :=
  events.foldl (fun captures event =>
    match event with
    | .record capture =>
        if capture.command = command then captures ++ [capture] else captures
    | .clear => []) []

/-! ## Frames -/

@[simp] theorem frame_rawHex (capture : Capture) :
    fromHex capture.frame.rawHex = some capture.rawBytes :=
  fromHex_hexSpaced capture.rawBytes

@[simp] theorem frame_byteCount (capture : Capture) :
    capture.frame.byteCount = capture.rawBytes.length := rfl

@[simp] theorem frame_crcValid (capture : Capture) :
    capture.frame.crcValid = capture.crcValid := rfl

def Printable (c : Char) : Prop :=
  0x20 ≤ c.toNat ∧ c.toNat < 0x7F

theorem toNat_ofNat {value : ℕ} (hvalue : value < 0x7F) :
    (Char.ofNat value).toNat = value := by
  have hvalid : value.isValidChar := .inl (by omega)
  rw [Char.ofNat, dif_pos hvalid]
  rfl

theorem printable_digitChar {value : ℕ} (hvalue : value < 16) :
    Printable (Nat.digitChar value) := by
  interval_cases value <;> simp [Printable, Nat.digitChar]

theorem printable_of_mem_safeAscii {data : List UInt8} {c : Char}
    (hmem : c ∈ safeAscii data) : Printable c := by
  simp only [safeAscii, List.mem_flatMap] at hmem
  obtain ⟨byte, -, hmem⟩ := hmem
  have hsize : byte.toNat < 256 := byte.toNat_lt
  split_ifs at hmem with hprints
  · rw [List.mem_singleton] at hmem
    subst hmem
    rwa [Printable, toNat_ofNat (by omega)]
  · simp only [hexPair, List.mem_cons, List.not_mem_nil, or_false] at hmem
    rcases hmem with rfl | rfl | rfl | rfl
    · simp [Printable]
    · simp [Printable]
    · exact printable_digitChar (by omega)
    · exact printable_digitChar (by omega)

/-! ## The last frames -/

@[simp] theorem after_append (events : List Event) (event : Event) :
    after (events ++ [event]) = next (after events) event := by
  simp [after]

@[simp] theorem recorded_append_record (command : String)
    (events : List Event) (capture : Capture) :
    recorded command (events ++ [.record capture]) =
      if capture.command = command then
        recorded command events ++ [capture]
      else recorded command events := by
  simp [recorded]

@[simp] theorem recorded_append_clear (command : String)
    (events : List Event) :
    recorded command (events ++ [.clear]) = [] := by
  simp [recorded]

/-- The frames that a buffer with the last captures holds, and no buffer for
a command without captures. -/
def buffer? (captures : List Capture) : Option (List Frame) :=
  if captures = [] then none
  else some ((captures.map Capture.frame).rtake maxFramesPerCommand)

theorem getD_buffer? (captures : List Capture) :
    (buffer? captures).getD [] =
      (captures.map Capture.frame).rtake maxFramesPerCommand := by
  unfold buffer?
  split_ifs with hnone
  · simp [hnone]
  · rfl

theorem get?_after (events : List Event) (command : String) :
    (after events).get? command = buffer? (recorded command events) := by
  induction events using List.reverseRecOn with
  | nil => simp [after, recorded, buffer?]
  | append_singleton events event ih =>
      rw [after_append]
      cases event with
      | clear => simp [next, clear, buffer?]
      | record capture =>
          rw [recorded_append_record]
          by_cases hsame : capture.command = command
          · subst hsame
            rw [next, record, Dict.get?_set_self, ih, getD_buffer?,
              push_rtake, if_pos rfl]
            simp [buffer?]
          · simp [next, record, hsame,
              Dict.get?_set_of_ne _ (Ne.symm hsame), ih]

/-- In every run the diagnostics show, for each command with a frame since the
last `clear`, its last frames in order and nothing else.  Each shows the bytes
that came and the verdict on them, in printable characters only. -/
theorem snapshot_shows_last_frames (events : List Event) (command : String) :
    ((snapshot (after events)).contains command = true ↔
        recorded command events ≠ []) ∧
      ∀ frames, (snapshot (after events)).get? command = some frames →
        frames.length = min maxFramesPerCommand
          (recorded command events).length ∧
        (frames.map fun frame =>
            (fromHex frame.rawHex, frame.byteCount, frame.crcValid)) =
          ((recorded command events).map fun capture =>
            (some capture.rawBytes, capture.rawBytes.length,
              capture.crcValid)).rtake maxFramesPerCommand ∧
        ∀ frame ∈ frames, ∀ c ∈ frame.rawAscii, Printable c := by
  have hbuffer := get?_after events command
  constructor
  · rw [snapshot, Dict.contains, hbuffer, buffer?]
    split_ifs with hnone <;> simp [hnone]
  · intro frames hframes
    rw [snapshot, hbuffer, buffer?] at hframes
    split_ifs at hframes
    cases hframes
    refine ⟨by simp, ?_, ?_⟩
    · simp [List.rtake, List.map_drop, Function.comp_def]
    · intro frame hmem c hc
      obtain ⟨capture, -, rfl⟩ := List.mem_map.mp (List.mem_of_mem_drop hmem)
      exact printable_of_mem_safeAscii hc

end FrameLog
end DessMonitor
