import DessMonitor.Foundation.PyString
import DessMonitor.Foundation.Url

/-!
# Byte strings

The methods of Python's byte strings that the sources use, and the decoders
that leave out what they cannot decode.
-/

namespace DessMonitor
namespace PyBytes

/-- The white space of `bytes.strip`. -/
def isSpace (byte : UInt8) : Bool :=
  (9 ≤ byte && byte ≤ 13) || byte == 0x20

/-- `data.strip()`. -/
def strip (data : List UInt8) : List UInt8 :=
  ((data.dropWhile isSpace).reverse.dropWhile isSpace).reverse

/-- `part in data`. -/
def contains (data part : List UInt8) : Bool :=
  data.tails.any part.isPrefixOf

/-- `text.encode("ascii")` of ASCII text. -/
def ascii (text : String) : List UInt8 :=
  text.toList.map fun c => UInt8.ofNat c.toNat

/-- `data.decode("ascii", errors="ignore")`. -/
def decodeAscii (data : List UInt8) : List Char :=
  (data.filter (· < 0x80)).map fun byte => Char.ofNat byte.toNat

/-- What a first byte stands for; nothing if it cannot be one. -/
def openSequence (byte : ℕ) : List Char × Option Url.Partial :=
  if byte < 0x80 then ([Char.ofNat byte], none)
  else ([], (Url.openSequence byte).2)

def decodeFrom (unfinished : Option Url.Partial) : List ℕ → List Char
  | [] => []
  | byte :: rest =>
      match unfinished with
      | none => (openSequence byte).1 ++ decodeFrom (openSequence byte).2 rest
      | some sequence =>
          if sequence.low ≤ byte ∧ byte ≤ sequence.high then
            let value := sequence.value * 64 + (byte - 0x80)
            if sequence.missing = 1 then
              Char.ofNat value :: decodeFrom none rest
            else
              decodeFrom (some ⟨sequence.missing - 1, value, 0x80, 0xbf⟩) rest
          else
            (openSequence byte).1 ++ decodeFrom (openSequence byte).2 rest

/-- `data.decode(errors="ignore")`. -/
def decodeUtf8 (data : List UInt8) : List Char :=
  decodeFrom none (data.map UInt8.toNat)

example : decodeUtf8 [0x41, 0xC3, 0xA9, 0xC3, 0x42, 0xFF] =
    ['A', 'é', 'B'] := by decide

/-! ## Hexadecimal text -/

def hexPair (byte : UInt8) : List Char :=
  [Nat.digitChar (byte.toNat / 16), Nat.digitChar (byte.toNat % 16)]

/-- `data.hex(" ")`. -/
def hexSpaced : List UInt8 → List Char
  | [] => []
  | [byte] => hexPair byte
  | byte :: rest => hexPair byte ++ ' ' :: hexSpaced rest

/-- `bytes.fromhex(text)`, with blanks between the bytes. -/
def fromHex : List Char → Option (List UInt8)
  | [] => some []
  | [_] => none
  | high :: low :: rest =>
      if high = ' ' then fromHex (low :: rest)
      else if Url.isHexDigit high && Url.isHexDigit low then
        (fromHex rest).map
          (UInt8.ofNat (Url.hexValue high * 16 + Url.hexValue low) :: ·)
      else none

theorem hexValue_digitChar {value : ℕ} (hvalue : value < 16) :
    Nat.digitChar value ≠ ' ' ∧ Url.isHexDigit (Nat.digitChar value) = true ∧
      Url.hexValue (Nat.digitChar value) = value := by
  interval_cases value <;> decide

theorem fromHex_hexPair (byte : UInt8) (rest : List Char) :
    fromHex (hexPair byte ++ rest) = (fromHex rest).map (byte :: ·) := by
  have hsize : byte.toNat < 256 := byte.toNat_lt
  obtain ⟨hblank, hhigh, hhighValue⟩ :=
    hexValue_digitChar (by omega : byte.toNat / 16 < 16)
  obtain ⟨-, hlow, hlowValue⟩ :=
    hexValue_digitChar (by omega : byte.toNat % 16 < 16)
  have hbyte : byte.toNat / 16 * 16 + byte.toNat % 16 = byte.toNat := by
    omega
  simp [hexPair, fromHex, hblank, hhigh, hlow, hhighValue, hlowValue, hbyte]

/-- The text of some bytes reads back as the bytes. -/
theorem fromHex_hexSpaced (data : List UInt8) :
    fromHex (hexSpaced data) = some data := by
  induction data with
  | nil => rfl
  | cons byte rest ih =>
      cases rest with
      | nil => simpa [hexSpaced, fromHex] using fromHex_hexPair byte []
      | cons next rest =>
          have hblank : fromHex (' ' :: hexSpaced (next :: rest)) =
              some (next :: rest) := by
            cases rest <;> simpa [hexSpaced, hexPair, fromHex] using ih
          simp [hexSpaced, fromHex_hexPair, hblank]

example : hexSpaced [0x28, 0x0D, 0xFF] =
    ['2', '8', ' ', '0', 'd', ' ', 'f', 'f'] := by decide

end PyBytes
end DessMonitor
