import DessMonitor.Foundation.FixedDecimals
import DessMonitor.ModbusAdapterModel
import DessMonitor.Pi18Frame
import DessMonitor.Pi18Response

/-!
# Set frames of PI18

The setters of a PI18 device are those of the Voltronic dialect, and what they
write is wrapped by the frame of a query.  The set commands of the protocol
have another mark and other bodies, so no setter sends one of them.
-/

namespace DessMonitor
namespace Pi18

open Crc
open Smg (OutputSourcePrioritySetting ChargeSourcePrioritySetting)

/-! ## The inherited setters -/

inductive BatteryTypeSetting where
  | agm
  | flooded
  | user
  | lifep04
  deriving DecidableEq

def BatteryTypeSetting.value : BatteryTypeSetting → String
  | .agm => "PBT00"
  | .flooded => "PBT01"
  | .user => "PBT02"
  | .lifep04 => "PBT03"

def outputSourceValue : OutputSourcePrioritySetting → String
  | .utilityFirst => "POP00"
  | .solarFirst => "POP01"
  | .sbuPriority => "POP02"

def chargeSourceValue : ChargeSourcePrioritySetting → String
  | .utilityFirst => "PCP00"
  | .solarFirst => "PCP01"
  | .solarAndUtility => "PCP02"

/-- A call of a semantic setter of `BaseAdapter`. -/
inductive SetterCall where
  | batteryType (battery : BatteryTypeSetting)
  | outputSourcePriority (mode : OutputSourcePrioritySetting)
  | chargeSourcePriority (mode : ChargeSourcePrioritySetting)
  | batteryBulkVoltage (voltage : PyFloat)
  | batteryFloatVoltage (voltage : PyFloat)
  | ratedBatteryVoltage (voltage : ℤ)
  | maxCombinedChargeCurrent (amps : ℤ)
  | batteryChargeCurrent (amps : ℤ)
  | maxUtilityChargeCurrent (amps : ℤ) (floatFormat : Bool)

/-- An integer formatted as a float; `none` is the error on one beyond
binary64. -/
def tenthsOf (amps : ℤ) : Option String :=
  match PyFloat.ofRat amps with
  | .finite value => some (PyFormat.fixedPadded 4 1 (.finite value))
  | _ => none

/-- The command that a setter passes to `set_data`. -/
def SetterCall.command : SetterCall → Option String
  | .batteryType battery => some battery.value
  | .outputSourcePriority mode => some (outputSourceValue mode)
  | .chargeSourcePriority mode => some (chargeSourceValue mode)
  | .batteryBulkVoltage voltage =>
      some ("PBAV" ++ PyFormat.fixed 2 voltage)
  | .batteryFloatVoltage voltage =>
      some ("PBFV" ++ PyFormat.fixed 2 voltage)
  | .ratedBatteryVoltage voltage =>
      some ("PBRV" ++ PyFormat.decimal 0 voltage)
  | .maxCombinedChargeCurrent amps =>
      some ("MNCHGC" ++ PyFormat.decimal 3 amps)
  | .batteryChargeCurrent amps =>
      some ("PBATC" ++ PyFormat.decimal 3 amps)
  | .maxUtilityChargeCurrent amps false =>
      some ("MUCHGC" ++ PyFormat.decimal 3 amps)
  | .maxUtilityChargeCurrent amps true =>
      (tenthsOf amps).map fun text => "MUCHGC" ++ text

/-! ## The request frame -/

/-- The body of the request for a command. -/
def requestBody (command : String) : String :=
  let cmd := String.ofList (command.toList.map Char.toUpper)
  (logicalToNative.lookup cmd).getD cmd

/-- `build_request_frame`; `none` is the error on a body that is not ASCII. -/
def buildRequestFrame (command : String) : Option (List UInt8) :=
  let body := requestBody command
  if body.toList.all fun c => decide (c.toNat < 128) then
    let head := PyBytes.ascii
      ("^P" ++ PyFormat.decimal 3 (body.length + 3) ++ body)
    some (head ++ crc16XmodemBytes head ++ [carriageReturn])
  else none

/-- The frame that a setter of a PI18 device sends. -/
def SetterCall.frame (call : SetterCall) : Option (List UInt8) :=
  call.command.bind buildRequestFrame

/-! ## The set commands of the protocol -/

/-- One character of a command. -/
inductive Slot where
  | literal (c : Char)
  | digit
  | letter
  deriving DecidableEq

def Slot.accepts (slot : Slot) (c : Char) : Bool :=
  match slot with
  | .literal expected => c == expected
  | .digit => c.isDigit
  | .letter => c.isAlpha

/-- A command as the protocol writes it: `#` for a digit, `?` for a letter. -/
def pattern (text : String) : List Slot :=
  text.toList.map fun c =>
    if c = '#' then .digit else if c = '?' then .letter else .literal c

def setCommands : List (List Slot) :=
  ["MCHGC#,###", "PF", "LON#", "P??", "PSP#", "V####", "BUCD###,###",
    "PCP#,#", "MCHGV###,###", "POP#", "F50", "F60", "MUCHGC#,###", "PBT#",
    "POPM#,#", "PSDV###", "ID######################", "DAT############",
    "CLE", "ACCT####,####", "ACLT####,####", "PGR#"].map pattern

def conforms : List Slot → List Char → Bool
  | [], [] => true
  | slot :: slots, c :: text => slot.accepts c && conforms slots text
  | _, _ => false

def IsSetCommand (body : String) : Prop :=
  ∃ slots ∈ setCommands, conforms slots body.toList = true

instance (body : String) : Decidable (IsSetCommand body) :=
  inferInstanceAs (Decidable (∃ slots ∈ setCommands,
    conforms slots body.toList = true))

/-- A set command in its frame: mark, length, body, checksum and end. -/
def IsSetFrame (frame : List UInt8) : Prop :=
  ∃ body, IsSetCommand body ∧
    let head := PyBytes.ascii
      ("^S" ++ PyFormat.decimal 3 (body.length + 3) ++ body)
    frame = head ++ crc16XmodemBytes head ++ [carriageReturn]

/-! ## Bodies -/

/-- The command can begin with these characters. -/
def begins : List Slot → List Char → Bool
  | _, [] => true
  | slot :: slots, c :: text => slot.accepts c && begins slots text
  | [], _ :: _ => false

section Bodies

variable {slots : List Slot} {start rest body : List Char}

theorem begins_of_conforms (hconforms : conforms slots (start ++ rest) = true) :
    begins slots start = true := by
  induction start generalizing slots with
  | nil => cases slots <;> rfl
  | cons c start ih =>
      cases slots with
      | nil => cases hconforms
      | cons slot slots =>
          simp only [List.cons_append, conforms, Bool.and_eq_true]
            at hconforms
          simp only [begins, Bool.and_eq_true]
          exact ⟨hconforms.1, ih hconforms.2⟩

theorem mem_of_conforms (hconforms : conforms slots body = true) {c : Char}
    (hslot : Slot.literal c ∈ slots) : c ∈ body := by
  induction slots generalizing body with
  | nil => cases hslot
  | cons slot slots ih =>
      cases body with
      | nil => cases hconforms
      | cons first body =>
          simp only [conforms, Bool.and_eq_true] at hconforms
          rcases List.mem_cons.mp hslot with rfl | hlater
          · have heq : first = c := by
              simpa [Slot.accepts] using hconforms.1
            rw [heq]
            exact List.mem_cons_self
          · exact List.mem_cons_of_mem first (ih hconforms.2 hlater)

/-- No set command begins like this. -/
theorem not_conforms_of_begins
    (hnone : setCommands.all (fun slots => !begins slots start) = true)
    (hslots : slots ∈ setCommands) :
    conforms slots (start ++ rest) = false := by
  by_contra hconforms
  rw [Bool.not_eq_false] at hconforms
  have hbegins := begins_of_conforms hconforms
  have hnot := List.all_eq_true.mp hnone slots hslots
  rw [hbegins] at hnot
  cases hnot

end Bodies

/-! ## Setters -/

theorem lookup_native_eq_none {cmd : String}
    (hfirst : cmd.toList.head? ≠ some 'Q') :
    logicalToNative.lookup cmd = none := by
  have hkeys : ∀ entry ∈ logicalToNative,
      entry.1.toList.head? = some 'Q' := by
    decide
  rw [List.lookup_eq_none_iff]
  intro entry hmem
  rw [bne_iff_ne]
  rintro rfl
  exact hfirst (hkeys entry hmem)

/-- A command that begins with capitals is its own body. -/
theorem requestBody_append {start rest : String}
    (hupper : start.toList.map Char.toUpper = start.toList)
    (hfirst : start.toList.head? = some 'M' ∨
      start.toList.head? = some 'P') :
    (requestBody (start ++ rest)).toList =
      start.toList ++ rest.toList.map Char.toUpper := by
  have hcmd : (start ++ rest).toList.map Char.toUpper =
      start.toList ++ rest.toList.map Char.toUpper := by
    rw [String.toList_append, List.map_append, hupper]
  have hlookup : logicalToNative.lookup (String.ofList
      (start.toList ++ rest.toList.map Char.toUpper)) = none := by
    apply lookup_native_eq_none
    rw [String.toList_ofList, List.head?_append]
    rcases hfirst with hfirst | hfirst <;> rw [hfirst] <;> simp
  unfold requestBody
  dsimp only
  rw [hcmd, hlookup, Option.getD_none, String.toList_ofList]

theorem not_setCommand_of_begins (start rest : String)
    (hupper : start.toList.map Char.toUpper = start.toList)
    (hfirst : start.toList.head? = some 'M' ∨
      start.toList.head? = some 'P')
    (hnone : setCommands.all
      (fun slots => !begins slots start.toList) = true) :
    ¬IsSetCommand (requestBody (start ++ rest)) := by
  rintro ⟨slots, hslots, hconforms⟩
  rw [requestBody_append hupper hfirst,
    not_conforms_of_begins hnone hslots] at hconforms
  cases hconforms

theorem toUpper_of_lt {c : Char} (hsmall : c.toNat < 97) :
    c.toUpper = c := by
  have hnot : ¬('a'.val ≤ c.val ∧ c.val ≤ 'z'.val) := by
    rintro ⟨hlow, -⟩
    have hlow' : 97 ≤ c.toNat := hlow
    omega
  unfold Char.toUpper
  rw [dif_neg hnot]

/-- What stands behind the letters of the utility current has no comma. -/
theorem not_setCommand_muchgc {text : String}
    (htext : ∀ c ∈ text.toList, c = '-' ∨ c = '.' ∨ c.isDigit = true) :
    ¬IsSetCommand (requestBody ("MUCHGC" ++ text)) := by
  rintro ⟨slots, hslots, hconforms⟩
  have hsame : text.toList.map Char.toUpper = text.toList := by
    have hid : ∀ c ∈ text.toList, Char.toUpper c = id c := by
      intro c hmem
      apply toUpper_of_lt
      rcases htext c hmem with rfl | rfl | hdigit
      · decide
      · decide
      · have hrange := (PyString.isDigit_iff c).mp hdigit
        omega
    rw [List.map_congr_left hid, List.map_id]
  rw [requestBody_append (by decide) (.inl rfl), hsame] at hconforms
  have hbegins := begins_of_conforms hconforms
  have hcomma : Slot.literal ',' ∈ slots := by
    have htable : ∀ slots ∈ setCommands,
        begins slots "MUCHGC".toList = true → Slot.literal ',' ∈ slots := by
      decide
    exact htable slots hslots hbegins
  rcases List.mem_append.mp (mem_of_conforms hconforms hcomma) with
    hletters | hnumber
  · exact absurd hletters (by decide)
  · rcases htext ',' hnumber with hc | hc | hc <;> exact absurd hc (by decide)

/-- The body of no setter is a set command. -/
theorem not_setCommand_of_setter (call : SetterCall) {command : String}
    (hcommand : call.command = some command) :
    ¬IsSetCommand (requestBody command) := by
  cases call with
  | batteryType battery =>
      obtain rfl := Option.some.inj hcommand
      cases battery <;> decide
  | outputSourcePriority mode =>
      obtain rfl := Option.some.inj hcommand
      cases mode <;> decide
  | chargeSourcePriority mode =>
      obtain rfl := Option.some.inj hcommand
      cases mode <;> decide
  | batteryBulkVoltage voltage =>
      obtain rfl := Option.some.inj hcommand
      exact not_setCommand_of_begins "PBAV" _ (by decide) (.inr rfl)
        (by decide)
  | batteryFloatVoltage voltage =>
      obtain rfl := Option.some.inj hcommand
      exact not_setCommand_of_begins "PBFV" _ (by decide) (.inr rfl)
        (by decide)
  | ratedBatteryVoltage voltage =>
      obtain rfl := Option.some.inj hcommand
      exact not_setCommand_of_begins "PBRV" _ (by decide) (.inr rfl)
        (by decide)
  | maxCombinedChargeCurrent amps =>
      obtain rfl := Option.some.inj hcommand
      exact not_setCommand_of_begins "MNCHGC" _ (by decide) (.inl rfl)
        (by decide)
  | batteryChargeCurrent amps =>
      obtain rfl := Option.some.inj hcommand
      exact not_setCommand_of_begins "PBATC" _ (by decide) (.inr rfl)
        (by decide)
  | maxUtilityChargeCurrent amps floatFormat =>
      cases floatFormat with
      | false =>
          obtain rfl := Option.some.inj hcommand
          apply not_setCommand_muchgc
          intro c hmem
          exact (PyFormat.mem_decimal hmem).imp_right .inr
      | true =>
          obtain ⟨text, htext, rfl⟩ := Option.map_eq_some_iff.mp hcommand
          unfold tenthsOf at htext
          split at htext
          · obtain rfl := Option.some.inj htext
            apply not_setCommand_muchgc
            intro c hmem
            exact PyFormat.mem_fixedPadded hmem
          · cases htext

/-! ## Frames -/

/-- The second byte of a frame is that of its mark. -/
theorem getElem?_frame {start : String} {mark : Char}
    (hstart : start.toList = ['^', mark]) (length body : String)
    (rest : List UInt8) :
    (PyBytes.ascii (start ++ length ++ body) ++ rest)[1]? =
      some (UInt8.ofNat mark.toNat) := by
  simp [PyBytes.ascii, hstart]

theorem getElem?_buildRequestFrame {command : String} {frame : List UInt8}
    (hframe : buildRequestFrame command = some frame) :
    frame[1]? = some (UInt8.ofNat 'P'.toNat) := by
  unfold buildRequestFrame at hframe
  dsimp only at hframe
  split at hframe
  · obtain rfl := Option.some.inj hframe
    rw [List.append_assoc]
    exact getElem?_frame rfl _ _ _
  · cases hframe

theorem getElem?_of_setFrame {frame : List UInt8} (hset : IsSetFrame frame) :
    frame[1]? = some (UInt8.ofNat 'S'.toNat) := by
  obtain ⟨body, -, hframe⟩ := hset
  dsimp only at hframe
  rw [hframe, List.append_assoc]
  exact getElem?_frame rfl _ _ _

/-- No setter sends a set frame, and the body of none is a set command. -/
theorem setter_sends_no_set_frame (call : SetterCall) :
    (¬∃ frame, call.frame = some frame ∧ IsSetFrame frame) ∧
      ∀ command, call.command = some command →
        ¬IsSetCommand (requestBody command) := by
  refine ⟨?_, fun command => not_setCommand_of_setter call⟩
  rintro ⟨frame, hframe, hset⟩
  obtain ⟨command, -, hbuild⟩ := Option.bind_eq_some_iff.mp hframe
  have hmark := getElem?_buildRequestFrame hbuild
  rw [getElem?_of_setFrame hset] at hmark
  exact absurd hmark (by decide)

theorem solarFirst_not_set_frame :
    ¬∀ call : SetterCall,
      ∃ frame, call.frame = some frame ∧ IsSetFrame frame := by
  intro hall
  obtain ⟨frame, hframe, hset⟩ := hall (.outputSourcePriority .solarFirst)
  have hsent : (SetterCall.outputSourcePriority .solarFirst).frame.bind
      (fun frame => frame[1]?) = some 0x50 := by
    decide +kernel
  rw [hframe, Option.bind_some, getElem?_of_setFrame hset] at hsent
  exact absurd hsent (by decide)

example : (SetterCall.outputSourcePriority .solarFirst).frame.map
    (List.take 10) = some (PyBytes.ascii "^P008POP01") := by decide +kernel

end Pi18
end DessMonitor
