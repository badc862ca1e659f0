import DessMonitor.CrcRegister

/-!
# PI30 responses and their checksums

The checksum of PI30 is XMODEM computed a byte at a time, and its two bytes
keep clear of the bytes that delimit a frame.  A response is accepted with any
of three checksum scopes, raw or kept clear.
-/

namespace DessMonitor
namespace Crc

/-! ## `crc16_voltronic` -/

/-- One round of the loop. -/
def voltronicByte (crc : ℕ) (byte : UInt8) : ℕ :=
  let x := (crc >>> 8) ^^^ byte.toNat
  let x := x ^^^ (x >>> 4)
  ((crc <<< 8) ^^^ (x <<< 12) ^^^ (x <<< 5) ^^^ x) &&& 0xFFFF

def frameControl : List ℕ := [0x28, 0x0D, 0x0A]

def bump (byte : ℕ) : ℕ := if byte ∈ frameControl then byte + 1 else byte

/-- `bytes` of integers, which raises if one of them is not that of a byte. -/
def bytesOf (values : List ℕ) : Option (List UInt8) :=
  if ∀ value ∈ values, value < 256 then some (values.map UInt8.ofNat)
  else none

def crc16Voltronic (data : List UInt8) : Option (List UInt8) :=
  let crc := data.foldl voltronicByte 0
  let high := (crc >>> 8) &&& 0xFF
  let low := crc &&& 0xFF
  bytesOf [bump high, bump low]

/-! ## It is XMODEM -/

theorem ofNat_shiftLeft (width value count : ℕ) :
    BitVec.ofNat width (value <<< count) =
      BitVec.ofNat width value <<< count := by
  apply BitVec.eq_of_toNat_eq
  rw [BitVec.toNat_ofNat, BitVec.toNat_shiftLeft, BitVec.toNat_ofNat,
    Nat.mod_two_pow_shiftLeft_mod_two_pow]

/-- The byte that the shifts of a round are of. -/
def folded (crc : BitVec 16) (byte : UInt8) : BitVec 16 :=
  let x := (crc >>> 8) ^^^ byte.toBitVec.setWidth 16
  x ^^^ (x >>> 4)

theorem toNat_folded (crc : BitVec 16) (byte : UInt8) :
    (folded crc byte).toNat =
      ((crc.toNat >>> 8) ^^^ byte.toNat) ^^^
        (((crc.toNat >>> 8) ^^^ byte.toNat) >>> 4) := by
  have hbyte : (byte.toBitVec.setWidth 16).toNat = byte.toNat := by
    have hbound := byte.toNat_lt
    rw [BitVec.toNat_setWidth]
    exact Nat.mod_eq_of_lt (by change byte.toNat < _; omega)
  unfold folded
  simp only [BitVec.toNat_xor, BitVec.toNat_ushiftRight, hbyte]

theorem voltronicByte_toNat (crc : BitVec 16) (byte : UInt8) :
    voltronicByte crc.toNat byte =
      ((crc <<< 8) ^^^ (folded crc byte <<< 12) ^^^
        (folded crc byte <<< 5) ^^^ folded crc byte).toNat := by
  have hmask : ∀ value : ℕ,
      value &&& 0xFFFF = (BitVec.ofNat 16 value).toNat := by
    intro value
    rw [BitVec.toNat_ofNat]
    exact Nat.and_two_pow_sub_one_eq_mod value 16
  unfold voltronicByte
  dsimp only
  rw [← toNat_folded, hmask, BitVec.ofNat_xor, BitVec.ofNat_xor,
    BitVec.ofNat_xor, ofNat_shiftLeft, ofNat_shiftLeft, ofNat_shiftLeft]
  simp only [BitVec.ofNat_toNat, BitVec.setWidth_eq]

/-- A byte in the low half moves up. -/
theorem iterate_xmodemBit_low (low : BitVec 8) :
    xmodemBit^[8] (low.setWidth 16) = low.setWidth 16 <<< 8 := by
  have hall : ∀ bits : BitVec 8,
      xmodemBit^[8] (bits.setWidth 16) = bits.setWidth 16 <<< 8 := by
    decide +kernel
  exact hall low

/-- A byte in the high half is folded onto the polynomial. -/
theorem iterate_xmodemBit_high (high : BitVec 8) :
    xmodemBit^[8] (high.setWidth 16 <<< 8) =
      (folded 0#16 ⟨high⟩ <<< 12) ^^^ (folded 0#16 ⟨high⟩ <<< 5) ^^^
        folded 0#16 ⟨high⟩ := by
  have hall : ∀ bits : BitVec 8,
      xmodemBit^[8] (bits.setWidth 16 <<< 8) =
        (folded 0#16 ⟨bits⟩ <<< 12) ^^^ (folded 0#16 ⟨bits⟩ <<< 5) ^^^
          folded 0#16 ⟨bits⟩ := by
    decide +kernel
  exact hall high

theorem checkValue_halves (crc : BitVec 16) :
    crc = checkValue ⟨(crc >>> 8).setWidth 8⟩ ⟨crc.setWidth 8⟩ :=
  (eq_bigEndian_iff _ _ crc).1 rfl

theorem folded_checkValue (high low byte : UInt8) :
    folded (checkValue high low) byte = folded 0#16 (high ^^^ byte) := by
  have hhalf : checkValue high low >>> 8 = high.toBitVec.setWidth 16 := by
    apply BitVec.eq_of_getLsbD_eq
    intro index hindex
    by_cases hbound : 8 + index < 16
    · simp [checkValue, hbound, hindex]
    · have hhigh : high.toBitVec.getLsbD index = false :=
        BitVec.getLsbD_of_ge _ _ (by omega)
      simp [checkValue, hbound, hhigh]
  unfold folded
  rw [hhalf, UInt8.toBitVec_xor, BitVec.setWidth_xor]
  simp

/-- The round of eight bits is the round of a byte. -/
theorem xmodemByte_eq_folded (crc : BitVec 16) (byte : UInt8) :
    xmodemByte crc byte =
      (crc <<< 8) ^^^ (folded crc byte <<< 12) ^^^
        (folded crc byte <<< 5) ^^^ folded crc byte := by
  have hhalves := checkValue_halves crc
  generalize (⟨(crc >>> 8).setWidth 8⟩ : UInt8) = high at hhalves
  generalize (⟨crc.setWidth 8⟩ : UInt8) = low at hhalves
  subst hhalves
  have hentered : checkValue high low ^^^
      (byte.toBitVec.setWidth 16 <<< 8) =
        ((high ^^^ byte).toBitVec.setWidth 16 <<< 8) ^^^
          low.toBitVec.setWidth 16 := by
    rw [UInt8.toBitVec_xor, BitVec.setWidth_xor,
      BitVec.shiftLeft_xor_distrib, checkValue]
    ac_rfl
  have hshifted : checkValue high low <<< 8 =
      low.toBitVec.setWidth 16 <<< 8 := by
    apply BitVec.eq_of_getLsbD_eq
    intro index hindex
    by_cases hhalf : index < 8
    · simp [hhalf]
    · have hbelow : index - 8 < 8 := by omega
      simp [checkValue, hbelow]
  have hxor := xmodemRegister.iterate_advance_xor 8
    ((high ^^^ byte).toBitVec.setWidth 16 <<< 8) (low.toBitVec.setWidth 16)
  change xmodemBit^[8] _ = xmodemBit^[8] _ ^^^ xmodemBit^[8] _ at hxor
  unfold xmodemByte
  rw [hentered, hxor, iterate_xmodemBit_low, iterate_xmodemBit_high,
    folded_checkValue, hshifted]
  ac_rfl

theorem foldl_voltronicByte (crc : BitVec 16) (data : List UInt8) :
    data.foldl voltronicByte crc.toNat =
      (data.foldl xmodemByte crc).toNat := by
  induction data generalizing crc with
  | nil => rfl
  | cons byte data ih =>
      rw [List.foldl_cons, List.foldl_cons, voltronicByte_toNat,
        ← xmodemByte_eq_folded, ih]

theorem bump_mem_byte {value : ℕ} (hvalue : value < 256) :
    bump value < 256 ∧ bump value ∉ frameControl := by
  by_cases hmem : value ∈ frameControl
  · have hall : ∀ control ∈ frameControl,
        bump control < 256 ∧ bump control ∉ frameControl := by
      decide
    exact hall value hmem
  · unfold bump
    rw [if_neg hmem]
    exact ⟨hvalue, hmem⟩

theorem toNat_ofNat_bump {value : ℕ} (hvalue : value < 256) :
    (UInt8.ofNat (bump value)).toNat = bump value :=
  UInt8.toNat_ofNat_of_lt' (bump_mem_byte hvalue).1

/-- The two bytes of XMODEM, bumped. -/
def bumped (crc : List UInt8) : List UInt8 :=
  crc.map fun byte => UInt8.ofNat (bump byte.toNat)

theorem crc16Voltronic_eq_bumped (data : List UInt8) :
    crc16Voltronic data = some (bumped (crc16XmodemBytes data)) := by
  have hfold : data.foldl voltronicByte 0 = (crc16Xmodem data).toNat :=
    foldl_voltronicByte 0#16 data
  have hhigh : ((crc16Xmodem data).toNat >>> 8) &&& 0xFF =
      (UInt8.ofBitVec (((crc16Xmodem data) >>> 8).setWidth 8)).toNat := by
    change _ = (((crc16Xmodem data) >>> 8).setWidth 8).toNat
    rw [BitVec.toNat_setWidth, BitVec.toNat_ushiftRight]
    exact Nat.and_two_pow_sub_one_eq_mod _ 8
  have hlow : (crc16Xmodem data).toNat &&& 0xFF =
      (UInt8.ofBitVec ((crc16Xmodem data).setWidth 8)).toNat := by
    change _ = ((crc16Xmodem data).setWidth 8).toNat
    rw [BitVec.toNat_setWidth]
    exact Nat.and_two_pow_sub_one_eq_mod _ 8
  unfold crc16Voltronic
  dsimp only
  rw [hfold, hhigh, hlow]
  unfold bytesOf
  rw [if_pos]
  · rfl
  · intro value hmem
    rcases List.mem_pair.1 hmem with hvalue | hvalue
    · rw [hvalue]
      exact (bump_mem_byte (UInt8.toNat_lt _)).1
    · rw [hvalue]
      exact (bump_mem_byte (UInt8.toNat_lt _)).1

/-- The fast checksum is that of XMODEM with the bytes bumped that delimit
frames, and its bytes do not delimit frames. -/
theorem crc16Voltronic_spec (data : List UInt8) :
    ∃ bytes, crc16Voltronic data = some bytes ∧
      bytes.map UInt8.toNat =
        (crc16XmodemBytes data).map (fun byte => bump byte.toNat) ∧
      ∀ byte ∈ bytes, byte.toNat ∉ frameControl := by
  refine ⟨_, crc16Voltronic_eq_bumped data, ?_, ?_⟩
  · unfold bumped
    rw [List.map_map]
    apply List.map_congr_left
    intro byte _
    exact toNat_ofNat_bump byte.toNat_lt
  · intro byte hmem
    obtain ⟨plain, _, rfl⟩ := List.mem_map.1 hmem
    rw [toNat_ofNat_bump plain.toNat_lt]
    exact (bump_mem_byte plain.toNat_lt).2

/-! ## `validate_voltronic_response` -/

def openParenthesis : UInt8 := 0x28
def returnByte : UInt8 := 0x0D

/-- What gateways put before a frame. -/
def gatewayJunk : List UInt8 := [0x20, 0x09, 0x0D, 0x0A, 0x00]

/-- From behind the first parenthesis on. -/
def frameBody (raw : List UInt8) : List UInt8 :=
  match raw.idxOf? openParenthesis with
  | some index => raw.drop (index + 1)
  | none => raw.dropWhile (· ∈ gatewayJunk)

/-- What a firmware may compute its checksum over. -/
def crcScopes (payload : List UInt8) : List (List UInt8) :=
  [payload, openParenthesis :: payload, payload ++ [returnByte]]

/-- The loop over the scopes. -/
def matchesScope (received : List UInt8) : List (List UInt8) → Option Bool
  | [] => some false
  | scope :: scopes => do
      let unbumped := crc16XmodemBytes scope
      let bumped ← crc16Voltronic scope
      if received = unbumped ∨ received = bumped then some true
      else matchesScope received scopes

def validateVoltronicResponse (raw : List UInt8) :
    Option (Bool × List UInt8) :=
  let body := frameBody raw
  if body.length < 3 then some (false, body)
  else do
    let payload := withoutCrc body
    let received := trailingCrc body
    let ok ← matchesScope received (crcScopes payload)
    some (ok, payload)

/-- A firmware variant: the scope of its checksum and the form of the bytes. -/
def VariantCrc (payload crc : List UInt8) : Prop :=
  ∃ scope ∈ crcScopes payload,
    crc = crc16XmodemBytes scope ∨ some crc = crc16Voltronic scope

theorem matchesScope_eq (received : List UInt8)
    (scopes : List (List UInt8)) :
    matchesScope received scopes =
      some (scopes.any fun scope =>
        decide (received = crc16XmodemBytes scope ∨
          received = bumped (crc16XmodemBytes scope))) := by
  induction scopes with
  | nil => rfl
  | cons scope scopes ih =>
      unfold matchesScope
      rw [crc16Voltronic_eq_bumped, List.any_cons, ih]
      dsimp only [Option.bind_eq_bind, Option.bind_some]
      split
      · next hmatch => rw [decide_eq_true hmatch, Bool.true_or]
      · next hdiffers => rw [decide_eq_false hdiffers, Bool.false_or]

/-- The scopes are all tried. -/
theorem matchesScope_variant {payload crc : List UInt8}
    (hvariant : VariantCrc payload crc) :
    matchesScope crc (crcScopes payload) = some true := by
  obtain ⟨scope, hmem, hform⟩ := hvariant
  rw [crc16Voltronic_eq_bumped, Option.some_inj] at hform
  rw [matchesScope_eq, Option.some_inj, List.any_eq_true]
  exact ⟨scope, hmem, decide_eq_true hform⟩

theorem VariantCrc.length {payload crc : List UInt8}
    (hvariant : VariantCrc payload crc) : crc.length = 2 := by
  obtain ⟨scope, _, hraw | hbumped⟩ := hvariant
  · rw [hraw]
    rfl
  · rw [crc16Voltronic_eq_bumped, Option.some_inj] at hbumped
    rw [hbumped]
    rfl

theorem idxOf?_append_cons {junk : List UInt8} {byte : UInt8}
    (hjunk : byte ∉ junk) (rest : List UInt8) :
    (junk ++ byte :: rest).idxOf? byte = some junk.length := by
  induction junk with
  | nil =>
      rw [List.nil_append, List.idxOf?_cons, beq_self_eq_true]
      rfl
  | cons first junk ih =>
      rw [List.mem_cons, not_or] at hjunk
      rw [List.cons_append, List.idxOf?_cons, ih hjunk.2,
        beq_eq_false_iff_ne.2 (Ne.symm hjunk.1)]
      rfl

/-- The frame begins behind the junk. -/
theorem frameBody_append {junk : List UInt8}
    (hjunk : openParenthesis ∉ junk) (rest : List UInt8) :
    frameBody (junk ++ openParenthesis :: rest) = rest := by
  have hsplit : junk ++ openParenthesis :: rest =
      (junk ++ [openParenthesis]) ++ rest := by
    simp
  unfold frameBody
  rw [idxOf?_append_cons hjunk]
  dsimp only
  rw [hsplit]
  exact List.drop_left' List.length_append

/-- A frame of any variant is accepted behind any junk. -/
theorem validateVoltronicResponse_variant {junk payload crc : List UInt8}
    (hjunk : openParenthesis ∉ junk) (hpayload : payload ≠ [])
    (hvariant : VariantCrc payload crc) :
    validateVoltronicResponse
        (junk ++ [openParenthesis] ++ payload ++ crc) =
      some (true, payload) := by
  have hlength := hvariant.length
  have hpositive := List.length_pos_iff.2 hpayload
  have hraw : junk ++ [openParenthesis] ++ payload ++ crc =
      junk ++ openParenthesis :: (payload ++ crc) := by
    simp
  unfold validateVoltronicResponse
  rw [hraw, frameBody_append hjunk]
  dsimp only
  rw [if_neg (by rw [List.length_append]; omega), withoutCrc_append hlength,
    trailingCrc_append hlength, matchesScope_variant hvariant]
  rfl

/-- The clone that puts the carriage return into the scope, behind junk. -/
theorem validateVoltronicResponse_variant_clone :
    validateVoltronicResponse
        ([0x00, 0x20] ++ [openParenthesis] ++ [0x28, 0x31] ++
          crc16XmodemBytes [0x28, 0x31, 0x0D]) =
      some (true, [0x28, 0x31]) :=
  validateVoltronicResponse_variant (by decide) (by decide)
    ⟨[0x28, 0x31, 0x0D], by decide, Or.inl rfl⟩

end Crc
end DessMonitor
