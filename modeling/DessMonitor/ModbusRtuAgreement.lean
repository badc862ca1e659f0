import DessMonitor.ModbusRtu
import Mathlib.Tactic

/-!
# The two decoders of a Modbus reply

Both functions make the same checks up to the checksum.  Behind it only one of
them looks whether the byte count is even, which the other finds out when it
reads beyond the data, if it reads that far.
-/

namespace DessMonitor
namespace Modbus

open Crc MessageStream

/-! ## The checks in common -/

/-- A reply `uid :: func :: byteCount :: body` that passes the checks which
both functions make. -/
structure Checked (unitId : ℤ) (uid func byteCount : UInt8)
    (body : List UInt8) : Prop where
  sameUnit : (uid.toNat : ℤ) = unitId
  noException : func.toNat &&& 0x80 = 0
  complete : byteCount.toNat + 2 ≤ body.length
  crc : littleEndian (byteAt body byteCount.toNat)
    (byteAt body (byteCount.toNat + 1)) =
      crc16Modbus (uid :: func :: byteCount :: body.take byteCount.toNat)

instance (unitId : ℤ) (uid func byteCount : UInt8) (body : List UInt8) :
    Decidable (Checked unitId uid func byteCount body) :=
  decidable_of_iff
    ((uid.toNat : ℤ) = unitId ∧ func.toNat &&& 0x80 = 0 ∧
      byteCount.toNat + 2 ≤ body.length ∧
      littleEndian (byteAt body byteCount.toNat)
        (byteAt body (byteCount.toNat + 1)) =
          crc16Modbus (uid :: func :: byteCount :: body.take byteCount.toNat))
    ⟨fun hall => ⟨hall.1, hall.2.1, hall.2.2.1, hall.2.2.2⟩,
      fun hall => ⟨hall.sameUnit, hall.noException, hall.complete, hall.crc⟩⟩

/-- The data of a reply that passes them. -/
def checkedData (resp : List UInt8) (unitId : ℤ) : Option (List UInt8) :=
  match resp with
  | uid :: func :: byteCount :: body =>
      if Checked unitId uid func byteCount body then
        some (body.take byteCount.toNat)
      else none
  | _ => none

theorem checkedData_of_length {resp : List UInt8} (hshort : resp.length < 5)
    (unitId : ℤ) : checkedData resp unitId = none := by
  match resp with
  | [] => rfl
  | [_] => rfl
  | [_, _] => rfl
  | uid :: func :: byteCount :: body =>
      apply if_neg
      intro hchecked
      have hcomplete := hchecked.complete
      simp only [List.length_cons] at hshort
      omega

section Shapes

variable {uid func byteCount : UInt8} {body : List UInt8} {unitId : ℤ}

theorem checkedData_of_not
    (hfails : ¬ Checked unitId uid func byteCount body) :
    checkedData (uid :: func :: byteCount :: body) unitId = none :=
  if_neg hfails

theorem checkedData_of_forall_not {stream : List UInt8}
    (hfails : ∀ byteCount body, ¬ Checked unitId uid func byteCount body) :
    checkedData (uid :: func :: stream) unitId = none := by
  cases stream with
  | nil => rfl
  | cons byteCount body => exact checkedData_of_not (hfails byteCount body)

theorem checkedData_of_checked
    (hchecked : Checked unitId uid func byteCount body) :
    checkedData (uid :: func :: byteCount :: body) unitId =
      some (body.take byteCount.toNat) :=
  if_pos hchecked

theorem Checked.length_take (hchecked : Checked unitId uid func byteCount body) :
    (body.take byteCount.toNat).length = byteCount.toNat := by
  have hcomplete := hchecked.complete
  rw [List.length_take]
  omega

end Shapes

/-- From one buffer, a reply is decoded if it passes the common checks. -/
theorem parseReadHoldingResponse_toOption (resp : List UInt8)
    (count unitId : ℤ) :
    (parseReadHoldingResponse resp count unitId).toOption =
      (checkedData resp unitId).bind fun data =>
        (registersUpTo (min data.length (count * 2)) data).toOption := by
  unfold parseReadHoldingResponse
  by_cases hlength : resp.length < 5
  · rw [if_pos hlength, checkedData_of_length hlength]
    rfl
  rw [if_neg hlength]
  match resp with
  | [] => exact absurd (by decide) hlength
  | [_] => exact absurd (by simp) hlength
  | [_, _] => exact absurd (by simp) hlength
  | uid :: func :: byteCount :: body =>
      have huid : byteAt (uid :: func :: byteCount :: body) 0 =
          uid.toNat := rfl
      have hfunc : byteAt (uid :: func :: byteCount :: body) 1 =
          func.toNat := rfl
      have hcount : byteAt (uid :: func :: byteCount :: body) 2 =
          byteCount.toNat := rfl
      have hstop : 3 + byteCount.toNat = byteCount.toNat + 3 :=
        Nat.add_comm _ _
      have hhead : (uid :: func :: byteCount :: body).take
          (byteCount.toNat + 3) =
            uid :: func :: byteCount :: body.take byteCount.toNat := rfl
      have hlow : byteAt (uid :: func :: byteCount :: body)
          (byteCount.toNat + 3) = byteAt body byteCount.toNat := rfl
      have hhigh : byteAt (uid :: func :: byteCount :: body)
          (byteCount.toNat + 3 + 1) =
            byteAt body (byteCount.toNat + 1) := rfl
      simp only [huid, hfunc, hcount, hstop, hhead, hlow, hhigh,
        List.length_cons]
      by_cases hunit : (uid.toNat : ℤ) = unitId
      · rw [if_neg (not_not.mpr hunit)]
        by_cases hplain : func.toNat &&& 0x80 = 0
        · rw [if_neg (not_not.mpr hplain)]
          by_cases hcomplete : byteCount.toNat + 2 ≤ body.length
          · rw [if_neg (by omega)]
            by_cases hcrc : littleEndian (byteAt body byteCount.toNat)
                (byteAt body (byteCount.toNat + 1)) =
                  crc16Modbus (uid :: func :: byteCount ::
                    body.take byteCount.toNat)
            · have hchecked : Checked unitId uid func byteCount body :=
                ⟨hunit, hplain, hcomplete, hcrc⟩
              rw [if_neg (not_not.mpr hcrc), checkedData_of_checked hchecked,
                Option.bind_some, hchecked.length_take]
              rfl
            · rw [if_pos hcrc, checkedData_of_not fun hall => hcrc hall.crc]
              rfl
          · rw [if_pos (by omega),
              checkedData_of_not fun hall => hcomplete hall.complete]
            rfl
        · rw [if_pos hplain,
            checkedData_of_not fun hall => hplain hall.noException]
          rfl
      · rw [if_pos hunit, checkedData_of_not fun hall => hunit hall.sameUnit]
        rfl

theorem withoutCrc_take {body : List UInt8} {count : ℕ}
    (hcomplete : count + 2 ≤ body.length) :
    withoutCrc (body.take (count + 2)) = body.take count := by
  unfold withoutCrc
  rw [List.length_take, Nat.min_eq_left hcomplete, Nat.add_sub_cancel,
    List.take_take, Nat.min_eq_left (by omega)]

theorem readModbusData_toOption {uid func byteCount : UInt8}
    {body : List UInt8} {unitId : ℤ} (hunit : (uid.toNat : ℤ) = unitId)
    (hplain : func.toNat &&& 0x80 = 0) (count : ℤ) :
    (readModbusData [uid, func, byteCount] body byteCount.toNat
        count).toOption =
      (checkedData (uid :: func :: byteCount :: body) unitId).bind fun data =>
        if data.length % 2 = 0 then
          (registersUpTo (min data.length (count * 2)) data).toOption
        else none := by
  have hhead (data : List UInt8) : [uid, func, byteCount] ++ data =
      uid :: func :: byteCount :: data := rfl
  unfold readModbusData
  by_cases hcomplete : byteCount.toNat + 2 ≤ body.length
  · rw [readBytes, readexactly_of_le _ hcomplete]
    dsimp only [Except.bind, bind]
    rw [withoutCrc_take hcomplete, byteAt_take (by omega),
      byteAt_take (by omega), hhead]
    by_cases hcrc : littleEndian (byteAt body byteCount.toNat)
        (byteAt body (byteCount.toNat + 1)) =
          crc16Modbus (uid :: func :: byteCount :: body.take byteCount.toNat)
    · have hchecked : Checked unitId uid func byteCount body :=
        ⟨hunit, hplain, hcomplete, hcrc⟩
      rw [if_neg (not_not.mpr hcrc), checkedData_of_checked hchecked,
        Option.bind_some, hchecked.length_take]
      by_cases heven : byteCount.toNat % 2 = 0
      · rw [if_neg (not_not.mpr heven), if_pos heven]
      · rw [if_pos heven, if_neg heven]
        rfl
    · rw [if_pos hcrc, checkedData_of_not fun hall => hcrc hall.crc]
      rfl
  · rw [readBytes, readexactly_of_lt _ (by omega),
      checkedData_of_not fun hall => hcomplete hall.complete]
    rfl

/-- From the socket, its byte count must be even as well. -/
theorem readModbusBlock_toOption (resp : List UInt8) (count unitId : ℤ) :
    (readModbusBlock resp count unitId).toOption =
      (checkedData resp unitId).bind fun data =>
        if data.length % 2 = 0 then
          (registersUpTo (min data.length (count * 2)) data).toOption
        else none := by
  unfold readModbusBlock
  match resp with
  | [] => rfl
  | [_] => rfl
  | uid :: func :: stream =>
      have hheader : readBytes 2 (uid :: func :: stream) =
          .ok ([uid, func], stream) :=
        readexactly_of_le _ (by simp)
      have huid : byteAt [uid, func] 0 = uid.toNat := rfl
      have hfunc : byteAt [uid, func] 1 = func.toNat := rfl
      rw [hheader]
      simp only [Except.bind, bind, huid, hfunc]
      by_cases hunit : (uid.toNat : ℤ) = unitId
      · rw [if_neg (not_not.mpr hunit)]
        by_cases hplain : func.toNat &&& 0x80 = 0
        · rw [if_neg (not_not.mpr hplain)]
          cases stream with
          | nil => rfl
          | cons byteCount body =>
              have hlength : readBytes 1 (byteCount :: body) =
                  .ok ([byteCount], body) :=
                readexactly_of_le _ (by simp)
              rw [hlength]
              exact readModbusData_toOption hunit hplain count
        · rw [if_pos hplain, checkedData_of_forall_not fun _ _ hall =>
            hplain hall.noException]
          cases readBytes 3 stream <;> rfl
      · rw [if_pos hunit,
          checkedData_of_forall_not fun _ _ hall => hunit hall.sameUnit]
        rfl

/-! ## The registers -/

/-- The loop needs the second byte of its last register. -/
theorem registersUpTo_isSome_iff (limit : ℤ) (data : List UInt8) :
    (registersUpTo limit data).toOption.isSome ↔
      limit + limit % 2 ≤ data.length := by
  fun_induction registersUpTo limit data with
  | case1 data limit hlimit =>
      have hle : limit + limit % 2 ≤ data.length := by
        omega
      exact iff_of_true rfl hle
  | case2 limit hlimit high low rest ih =>
      have hnext : (limit - 2) + (limit - 2) % 2 ≤ (rest.length : ℤ) ↔
          limit + limit % 2 ≤ ((high :: low :: rest).length : ℤ) := by
        rw [List.length_cons, List.length_cons]
        omega
      rw [← hnext, ← ih]
      cases registersUpTo (limit - 2) rest <;> exact Iff.rfl
  | case3 data limit hlimit hpair =>
      have hshort : ¬ limit + limit % 2 ≤ data.length := by
        match data, hpair with
        | [], _ =>
            rw [List.length_nil]
            omega
        | [_], _ =>
            rw [List.length_singleton]
            omega
        | high :: low :: rest, hpair => exact absurd rfl (hpair high low rest)
      exact iff_of_false (by decide) hshort

/-! ## Agreement -/

/-- Both fail, or both succeed with the same registers. -/
def Agree (left right : Except ReadError Registers) : Prop :=
  (∃ error error', left = .error error ∧ right = .error error') ∨
    ∃ registers, left = .ok registers ∧ right = .ok registers

theorem agree_iff_toOption (left right : Except ReadError Registers) :
    Agree left right ↔ left.toOption = right.toOption := by
  unfold Agree
  cases left with
  | error error => cases right <;> simp [Except.toOption]
  | ok registers =>
      cases right with
      | error error => simp [Except.toOption]
      | ok registers' => simp [Except.toOption, eq_comm]

/-- A reply that passes the common checks and carries an odd number of bytes,
more than were asked for. -/
def OddSurplus (resp : List UInt8) (count unitId : ℤ) : Prop :=
  ∃ uid func byteCount body, resp = uid :: func :: byteCount :: body ∧
    Checked unitId uid func byteCount body ∧ byteCount.toNat % 2 = 1 ∧
      count * 2 < byteCount.toNat

theorem oddSurplus_iff (resp : List UInt8) (count unitId : ℤ) :
    OddSurplus resp count unitId ↔
      ∃ data, checkedData resp unitId = some data ∧ data.length % 2 = 1 ∧
        count * 2 < data.length := by
  constructor
  · rintro ⟨uid, func, byteCount, body, rfl, hchecked, hodd, hsurplus⟩
    refine ⟨_, checkedData_of_checked hchecked, ?_, ?_⟩
    · rw [hchecked.length_take]
      exact hodd
    · rw [hchecked.length_take]
      exact hsurplus
  · rintro ⟨data, hdata, hodd, hsurplus⟩
    match resp with
    | [] => cases hdata
    | [_] => cases hdata
    | [_, _] => cases hdata
    | uid :: func :: byteCount :: body =>
        by_cases hchecked : Checked unitId uid func byteCount body
        · rw [checkedData_of_checked hchecked] at hdata
          obtain rfl := Option.some.inj hdata
          rw [hchecked.length_take] at hodd hsurplus
          exact ⟨uid, func, byteCount, body, rfl, hchecked, hodd, hsurplus⟩
        · rw [checkedData_of_not hchecked] at hdata
          cases hdata

/-- The two decoders agree on a reply unless it carries an odd surplus. -/
theorem decoders_agree_iff (resp : List UInt8) (count unitId : ℤ) :
    Agree (readModbusBlock resp count unitId)
        (parseReadHoldingResponse resp count unitId) ↔
      ¬ OddSurplus resp count unitId := by
  rw [agree_iff_toOption, readModbusBlock_toOption,
    parseReadHoldingResponse_toOption, oddSurplus_iff]
  cases hdata : checkedData resp unitId with
  | none =>
      refine iff_of_true rfl ?_
      rintro ⟨data, hother, -⟩
      cases hother
  | some data =>
      have hsome := registersUpTo_isSome_iff (min data.length (count * 2)) data
      simp only [Option.bind_some, Option.some.injEq, exists_eq_left']
      by_cases heven : data.length % 2 = 0
      · rw [if_pos heven]
        exact iff_of_true rfl (by omega)
      · have hnone : none = (registersUpTo (min data.length (count * 2))
            data).toOption ↔
              ¬ min (data.length : ℤ) (count * 2) +
                min (data.length : ℤ) (count * 2) % 2 ≤ data.length := by
          rw [← hsome, eq_comm, Option.not_isSome_iff_eq_none]
        rw [if_neg heven, hnone]
        omega

/-- Three bytes with a valid checksum in answer to a read of one register. -/
theorem oddReply_not_agree :
    ¬ Agree
      (readModbusBlock [1, 3, 3, 0, 230, 7, 0x4e, 0x2c] 1 1)
      (parseReadHoldingResponse [1, 3, 3, 0, 230, 7, 0x4e, 0x2c] 1 1) := by
  rw [agree_iff_toOption]
  decide +kernel

end Modbus
end DessMonitor
