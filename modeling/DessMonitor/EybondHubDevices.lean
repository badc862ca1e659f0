import DessMonitor.EybondTargetStability

/-!
# The form of the discovered devices

One form lists every dongle the hub knows, and its submission writes all of
them: a ticked removal takes the record out, and everything else overwrites
the configuration of the record.  What session events wrote is not touched,
and neither is a dongle that was discovered since.
-/

namespace DessMonitor
namespace Eybond

def hubChildProtocolNone : String := "none"

/-- The fields `<pn>__remove`, `<pn>__name` and so on of a submission. -/
structure DeviceFields where
  remove : Option Bool
  name : Option String
  devaddr : Option ℤ
  protocol : Option String
  enabled : Option Bool

/-- `user_input`: the fields of every product number. -/
abbrev DeviceForm := String → DeviceFields

namespace DeviceFields

def childName (fields : DeviceFields) : String :=
  PyString.strip (fields.name.getD "")

def childProtocol (fields : DeviceFields) : Option String :=
  some (fields.protocol.getD hubChildProtocolNone) |>.filter
    (· ≠ hubChildProtocolNone)

/-- The configuration a submission asks for. -/
def configure (fields : DeviceFields) (record : DongleRecord) :
    DongleRecord :=
  if fields.remove.getD false then .unconfigured record.pn
  else
    { record with
      name := fields.childName
      devaddr := fields.devaddr.getD record.devaddr
      protocol := fields.childProtocol
      enabled := fields.enabled.getD false }

end DeviceFields

namespace EybondRegistry

def applyDevice (form : DeviceForm) (registry : EybondRegistry)
    (record : DongleRecord) : EybondRegistry :=
  let fields := form record.pn
  if fields.remove.getD false then registry.remove record.pn
  else
    let named := registry.setName record.pn fields.childName
    let addressed := named.setDevaddr record.pn
      (fields.devaddr.getD record.devaddr)
    let assigned := addressed.setProtocol record.pn fields.childProtocol
    assigned.setEnabled record.pn (fields.enabled.getD false)

/-- `_apply_device_bulk`. -/
def applyDeviceBulk (registry : EybondRegistry)
    (records : List DongleRecord) (form : DeviceForm) : EybondRegistry :=
  records.foldl (applyDevice form) registry

/-! ## Records under their own product number -/

def Keyed (registry : EybondRegistry) : Prop :=
  ∀ pn record, registry.get? pn = some record → record.pn = pn

section Keyed

variable {registry : EybondRegistry} {pn : String} {record : DongleRecord}

theorem Keyed.ensure (hkeyed : registry.Keyed) (pn : String) :
    (registry.ensure pn).pn = pn := by
  unfold EybondRegistry.ensure
  cases hget : registry.get? pn with
  | none => rfl
  | some record => exact hkeyed pn record hget

theorem Keyed.set (hkeyed : registry.Keyed) (hrecord : record.pn = pn) :
    Keyed (registry.set pn record) := by
  intro other found hfound
  rw [Dict.get?_set] at hfound
  split_ifs at hfound with hsame
  · cases hfound
    rw [hrecord, hsame]
  · exact hkeyed other found hfound

theorem Keyed.erase (hkeyed : registry.Keyed) : Keyed (registry.erase pn) := by
  intro other found hfound
  rw [Dict.get?_erase] at hfound
  split_ifs at hfound
  exact hkeyed other found hfound

theorem Keyed.recordSeen (hkeyed : registry.Keyed) (pn peer : String)
    (status : DongleStatus) (now : String) :
    (registry.recordSeen pn peer status now).Keyed := by
  unfold EybondRegistry.recordSeen
  split
  next => exact hkeyed.set rfl
  next record hget => exact hkeyed.set (hkeyed pn record hget)

theorem Keyed.markDisconnected (hkeyed : registry.Keyed) (pn now : String) :
    (registry.markDisconnected pn now).Keyed := by
  unfold EybondRegistry.markDisconnected
  split
  next => exact hkeyed
  next record hget => exact hkeyed.set (hkeyed pn record hget)

theorem Keyed.resetConnectionState (hkeyed : registry.Keyed) :
    registry.resetConnectionState.Keyed := by
  intro pn record hget
  obtain ⟨before, hbefore, rfl⟩ := by
    simpa [EybondRegistry.resetConnectionState] using hget
  exact hkeyed pn before hbefore

end Keyed

/-! ## What a submission writes -/

section Submission

variable {registry : EybondRegistry} {form : DeviceForm}
  {record : DongleRecord} {pn : String}

@[simp] theorem ensure_set_self (registry : EybondRegistry) (pn : String)
    (record : DongleRecord) : ensure (registry.set pn record) pn = record := by
  simp [ensure]

/-- The four setters of a record write it once. -/
theorem applyDevice_eq (registry : EybondRegistry) (form : DeviceForm)
    (record : DongleRecord) :
    registry.applyDevice form record =
      if (form record.pn).remove.getD false then registry.erase record.pn
      else
        registry.set record.pn
          { registry.ensure record.pn with
            name := (form record.pn).childName
            devaddr := (form record.pn).devaddr.getD record.devaddr
            protocol := (form record.pn).childProtocol
            enabled := (form record.pn).enabled.getD false } := by
  simp [applyDevice, remove, setName, setDevaddr, setProtocol, setEnabled]

theorem Keyed.applyDevice (hkeyed : registry.Keyed) (form : DeviceForm)
    (record : DongleRecord) : (registry.applyDevice form record).Keyed := by
  rw [applyDevice_eq]
  split_ifs
  · exact hkeyed.erase
  · exact hkeyed.set (hkeyed.ensure record.pn)

theorem Keyed.applyDeviceBulk (hkeyed : registry.Keyed)
    (records : List DongleRecord) (form : DeviceForm) :
    (registry.applyDeviceBulk records form).Keyed := by
  induction records generalizing registry with
  | nil => exact hkeyed
  | cons record records ih => exact ih (hkeyed.applyDevice form record)

theorem configuration_applyDevice_of_ne (hne : pn ≠ record.pn) :
    (registry.applyDevice form record).configuration pn =
      registry.configuration pn := by
  rw [applyDevice_eq]
  split_ifs
  · rw [configuration_erase, if_neg hne]
  · rw [configuration_set, if_neg hne]

theorem configuration_applyDevice_self
    (hrecord : registry.configuration record.pn = record.configuration) :
    (registry.applyDevice form record).configuration record.pn =
      (form record.pn).configure record.configuration := by
  rw [applyDevice_eq, DeviceFields.configure]
  split_ifs
  · rw [configuration_erase, if_pos rfl]
    rfl
  · rw [configuration_set, if_pos rfl, ← hrecord]
    have hdevaddr := congrArg DongleRecord.devaddr hrecord
    simp only [configuration, DongleRecord.configuration] at hdevaddr ⊢
    rw [hdevaddr]

theorem configuration_applyDeviceBulk_of_notMem
    {records : List DongleRecord}
    (hnone : pn ∉ records.map DongleRecord.pn) :
    (registry.applyDeviceBulk records form).configuration pn =
      registry.configuration pn := by
  induction records generalizing registry with
  | nil => rfl
  | cons first records ih =>
      rw [List.map_cons, List.mem_cons, not_or] at hnone
      rw [applyDeviceBulk, List.foldl_cons, ← applyDeviceBulk,
        ih hnone.2, configuration_applyDevice_of_ne hnone.1]

/-- Each record is written once, whatever is written before and after it. -/
theorem configuration_applyDeviceBulk_of_mem {records : List DongleRecord}
    (hdistinct : (records.map DongleRecord.pn).Nodup)
    (hrecords : ∀ record ∈ records,
      registry.configuration record.pn = record.configuration)
    (hmem : record ∈ records) :
    (registry.applyDeviceBulk records form).configuration record.pn =
      (form record.pn).configure record.configuration := by
  induction records generalizing registry with
  | nil => cases hmem
  | cons first records ih =>
      rw [List.map_cons, List.nodup_cons] at hdistinct
      rw [applyDeviceBulk, List.foldl_cons, ← applyDeviceBulk]
      rcases List.mem_cons.mp hmem with rfl | hrest
      · rw [configuration_applyDeviceBulk_of_notMem hdistinct.1,
          configuration_applyDevice_self (hrecords record hmem)]
      · apply ih hdistinct.2 _ hrest
        intro other hother
        have hne : other.pn ≠ first.pn := by
          rintro hsame
          exact hdistinct.1 (hsame ▸ List.mem_map_of_mem hother)
        rw [configuration_applyDevice_of_ne hne]
        exact hrecords other (List.mem_cons_of_mem first hother)

theorem Keyed.pns (hkeyed : registry.Keyed) :
    registry.all.map DongleRecord.pn = registry.keys := by
  rw [all, Dict.values, List.map_map, Dict.keys]
  apply List.map_congr_left
  intro entry hentry
  exact hkeyed entry.1 entry.2 ((Dict.get?_eq_some_iff registry).mpr hentry)

theorem Keyed.get?_of_mem (hkeyed : registry.Keyed)
    (hmem : record ∈ registry.all) : registry.get? record.pn = some record := by
  obtain ⟨entry, hentry, rfl⟩ := List.mem_map.mp hmem
  have hget := (Dict.get?_eq_some_iff registry).mpr hentry
  rwa [hkeyed entry.1 entry.2 hget]

/-- A submission configures the dongles the hub knows as the form says, and
leaves every other product number as it was. -/
theorem configuration_applyDeviceBulk (hkeyed : registry.Keyed)
    (form : DeviceForm) (pn : String) :
    (registry.applyDeviceBulk registry.all form).configuration pn =
      if registry.contains pn then
        (form pn).configure (registry.configuration pn)
      else registry.configuration pn := by
  cases hget : registry.get? pn with
  | none =>
      have hnone : pn ∉ registry.all.map DongleRecord.pn := by
        rw [hkeyed.pns, Dict.mem_keys_iff]
        simp [hget]
      rw [configuration_applyDeviceBulk_of_notMem hnone]
      simp [Dict.contains, hget]
  | some record =>
      have hpn := hkeyed pn record hget
      have hentry := (Dict.get?_eq_some_iff registry).mp hget
      have hmem : record ∈ registry.all := List.mem_map_of_mem hentry
      have hdistinct : (registry.all.map DongleRecord.pn).Nodup :=
        hkeyed.pns ▸ registry.nodup_keys
      subst hpn
      rw [configuration_applyDeviceBulk_of_mem hdistinct _ hmem,
        configuration_of_get? hget]
      · simp [Dict.contains, hget]
      · intro other hother
        exact configuration_of_get? (hkeyed.get?_of_mem hother)

end Submission

end EybondRegistry

end Eybond
end DessMonitor
