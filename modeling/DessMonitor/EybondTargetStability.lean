import DessMonitor.EybondChildren

/-!
# Discovery and configuration of dongles

Session events create records and update their lifecycle fields; the options
flow changes the configuration fields of the same records.  What is polled
depends on the configuration alone: a record that was only ever discovered is
as good as none.
-/

namespace DessMonitor
namespace Eybond

/-! ## The configuration of a record -/

/-- The record without what session events write. -/
def DongleRecord.configuration (record : DongleRecord) : DongleRecord :=
  { record with
    status := .disconnected
    peer := ""
    firstSeen := ""
    lastSeen := "" }

@[simp] theorem DongleRecord.configuration_unconfigured (pn : String) :
    (unconfigured pn).configuration = unconfigured pn := rfl

theorem DongleRecord.childTarget_configuration (key : ListenerKey)
    (broadcast : String) (announceIp : Option String)
    (record : DongleRecord) :
    record.configuration.childTarget key broadcast announceIp =
      record.childTarget key broadcast announceIp := rfl

/-- A record that is not configured is not polled. -/
theorem DongleRecord.childTarget_unconfigured (key : ListenerKey)
    (broadcast : String) (announceIp : Option String) (pn : String) :
    (unconfigured pn).childTarget key broadcast announceIp = none := rfl

/-- The configuration under a product number, known or not. -/
def EybondRegistry.configuration (registry : EybondRegistry) (pn : String) :
    DongleRecord :=
  (registry.ensure pn).configuration

theorem EybondRegistry.childTarget_configuration (registry : EybondRegistry)
    (key : ListenerKey) (broadcast : String) (announceIp : Option String)
    (pn : String) :
    (registry.get? pn).bind
        (DongleRecord.childTarget key broadcast announceIp) =
      (registry.configuration pn).childTarget key broadcast announceIp := by
  unfold configuration ensure
  rw [DongleRecord.childTarget_configuration]
  cases registry.get? pn with
  | none =>
      exact (DongleRecord.childTarget_unconfigured key broadcast announceIp
        pn).symm
  | some record =>
      rfl

/-- Registries of the same configuration have the same targets. -/
theorem buildChildTargets_perm {left right : EybondRegistry}
    (hsame : ∀ pn, left.configuration pn = right.configuration pn)
    (key : ListenerKey) (broadcast : String) (announceIp : Option String) :
    (buildChildTargets left key broadcast announceIp).Perm
      (buildChildTargets right key broadcast announceIp) := by
  apply Dict.filterMap_values_perm
  intro pn
  rw [EybondRegistry.childTarget_configuration,
    EybondRegistry.childTarget_configuration, hsame pn]

/-! ## Operations -/

inductive RegistryOp where
  | recordSeen (pn peer : String) (status : DongleStatus) (now : String)
  | markDisconnected (pn now : String)
  | resetConnectionState
  | setEnabled (pn : String) (enabled : Bool)
  | setProtocol (pn : String) (protocol : Option String)
  | setDevaddr (pn : String) (devaddr : ℤ)
  | setName (pn name : String)
  | put (record : DongleRecord)
  | remove (pn : String)
  | load (data : StoredRegistry)

namespace RegistryOp

def apply (registry : EybondRegistry) : RegistryOp → EybondRegistry
  | .recordSeen pn peer status now =>
      registry.recordSeen pn peer status now
  | .markDisconnected pn now => registry.markDisconnected pn now
  | .resetConnectionState => registry.resetConnectionState
  | .setEnabled pn enabled => registry.setEnabled pn enabled
  | .setProtocol pn protocol => registry.setProtocol pn protocol
  | .setDevaddr pn devaddr => registry.setDevaddr pn devaddr
  | .setName pn name => registry.setName pn name
  | .put record => registry.put record
  | .remove pn => registry.remove pn
  | .load data => EybondRegistry.load data

def applyAll (registry : EybondRegistry) (ops : List RegistryOp) :
    EybondRegistry :=
  ops.foldl apply registry

/-- Configuration operations, as opposed to session events. -/
def configures : RegistryOp → Bool
  | .recordSeen .. => false
  | .markDisconnected .. => false
  | .resetConnectionState => false
  | _ => true

/-- The configuration operations that change one field. -/
def isSetter : RegistryOp → Bool
  | .setEnabled .. => true
  | .setProtocol .. => true
  | .setDevaddr .. => true
  | .setName .. => true
  | _ => false

end RegistryOp

/-! ## Session events keep the configuration -/

namespace EybondRegistry

variable {registry left right : EybondRegistry}

theorem configuration_of_get? {pn : String} {record : DongleRecord}
    (hget : registry.get? pn = some record) :
    registry.configuration pn = record.configuration := by
  unfold configuration ensure
  rw [hget]
  rfl

theorem configuration_of_none {pn : String}
    (hget : registry.get? pn = none) :
    registry.configuration pn = .unconfigured pn := by
  unfold configuration ensure
  rw [hget]
  rfl

theorem configuration_set (registry : EybondRegistry) (pn other : String)
    (record : DongleRecord) :
    configuration (registry.set pn record) other =
      if other = pn then record.configuration
      else registry.configuration other := by
  unfold configuration ensure
  rw [Dict.get?_set]
  split <;> rfl

/-- A record that keeps its configuration may be written back. -/
theorem configuration_set_same {pn : String} {record : DongleRecord}
    (hrecord : record.configuration = registry.configuration pn)
    (other : String) :
    configuration (registry.set pn record) other =
      registry.configuration other := by
  rw [configuration_set]
  split
  next heq => rw [heq, hrecord]
  next => rfl

theorem configuration_recordSeen (registry : EybondRegistry)
    (pn peer : String) (status : DongleStatus) (now other : String) :
    (registry.recordSeen pn peer status now).configuration other =
      registry.configuration other := by
  unfold recordSeen
  split
  next hget =>
    apply configuration_set_same
    rw [configuration_of_none hget]
    rfl
  next record hget =>
    apply configuration_set_same
    rw [configuration_of_get? hget]
    rfl

theorem configuration_markDisconnected (registry : EybondRegistry)
    (pn now other : String) :
    (registry.markDisconnected pn now).configuration other =
      registry.configuration other := by
  unfold markDisconnected
  split
  next => rfl
  next record hget =>
    apply configuration_set_same
    rw [configuration_of_get? hget]
    rfl

theorem configuration_resetConnectionState (registry : EybondRegistry)
    (other : String) :
    registry.resetConnectionState.configuration other =
      registry.configuration other := by
  unfold configuration ensure resetConnectionState
  rw [Dict.get?_mapValues]
  cases registry.get? other <;> rfl

/-- A session event changes no configuration. -/
theorem configuration_apply_of_event {op : RegistryOp}
    (hevent : op.configures = false) (pn : String) :
    (op.apply registry).configuration pn = registry.configuration pn := by
  cases op with
  | recordSeen seen peer status now =>
      exact configuration_recordSeen registry seen peer status now pn
  | markDisconnected seen now =>
      exact configuration_markDisconnected registry seen now pn
  | resetConnectionState =>
      exact configuration_resetConnectionState registry pn
  | setEnabled | setProtocol | setDevaddr | setName | put | remove | load =>
      cases hevent

/-! ## Configuration operations only look at the configuration -/

/-- A change that does not look at what session events write. -/
theorem configuration_set_congr
    (hsame : ∀ pn, left.configuration pn = right.configuration pn)
    {pn : String} {leftRecord rightRecord : DongleRecord}
    (hrecord : leftRecord.configuration = rightRecord.configuration)
    (other : String) :
    configuration (left.set pn leftRecord) other =
      configuration (right.set pn rightRecord) other := by
  rw [configuration_set, configuration_set, hrecord, hsame other]

theorem configuration_erase (registry : EybondRegistry)
    (pn other : String) :
    configuration (registry.erase pn) other =
      if other = pn then .unconfigured other
      else registry.configuration other := by
  unfold configuration ensure
  rw [Dict.get?_erase]
  split <;> rfl

theorem configuration_apply_congr
    (hsame : ∀ pn, left.configuration pn = right.configuration pn)
    (op : RegistryOp) (hconfigures : op.configures = true) (other : String) :
    (op.apply left).configuration other =
      (op.apply right).configuration other := by
  cases op with
  | recordSeen | markDisconnected | resetConnectionState =>
      cases hconfigures
  | setEnabled pn enabled =>
      apply configuration_set_congr hsame
      exact congrArg
        (fun record : DongleRecord => { record with enabled := enabled })
        (hsame pn)
  | setProtocol pn protocol =>
      apply configuration_set_congr hsame
      exact congrArg
        (fun record : DongleRecord => { record with protocol := protocol })
        (hsame pn)
  | setDevaddr pn devaddr =>
      apply configuration_set_congr hsame
      exact congrArg
        (fun record : DongleRecord => { record with devaddr := devaddr })
        (hsame pn)
  | setName pn name =>
      apply configuration_set_congr hsame
      exact congrArg
        (fun record : DongleRecord => { record with name := name })
        (hsame pn)
  | put record =>
      exact configuration_set_congr hsame rfl other
  | remove pn =>
      unfold RegistryOp.apply remove
      rw [configuration_erase, configuration_erase, hsame other]
  | load data =>
      rfl

/-- Leaving the session events out of a run keeps its configuration. -/
theorem configuration_applyAll_filter (ops : List RegistryOp)
    (hsame : ∀ pn, left.configuration pn = right.configuration pn) :
    ∀ pn, (RegistryOp.applyAll left ops).configuration pn =
      (RegistryOp.applyAll right
        (ops.filter RegistryOp.configures)).configuration pn := by
  induction ops generalizing left right with
  | nil =>
      exact hsame
  | cons op ops ih =>
      cases hconfigures : op.configures with
      | true =>
          rw [List.filter_cons_of_pos hconfigures]
          exact ih (configuration_apply_congr hsame op hconfigures)
      | false =>
          rw [List.filter_cons_of_neg (by rw [hconfigures]; decide)]
          apply ih
          intro pn
          rw [configuration_apply_of_event hconfigures, hsame pn]

/-! ## Setters keep what session events write -/

/-- The fields that session events write. -/
structure SameLifecycle (before after : DongleRecord) : Prop where
  status : after.status = before.status
  peer : after.peer = before.peer
  firstSeen : after.firstSeen = before.firstSeen
  lastSeen : after.lastSeen = before.lastSeen

theorem sameLifecycle_set {pn other : String}
    {changed record : DongleRecord} (hget : registry.get? other = some record)
    (hchanged : SameLifecycle (registry.ensure pn) changed) :
    ∃ after, (registry.set pn changed).get? other = some after ∧
      SameLifecycle record after := by
  rw [Dict.get?_set]
  split
  next heq =>
    refine ⟨changed, rfl, ?_⟩
    unfold ensure at hchanged
    rw [← heq, hget] at hchanged
    exact hchanged
  next =>
    exact ⟨record, hget, rfl, rfl, rfl, rfl⟩

theorem setter_sameLifecycle {op : RegistryOp} (hsetter : op.isSetter = true)
    {pn : String} {record : DongleRecord}
    (hget : registry.get? pn = some record) :
    ∃ after, (op.apply registry).get? pn = some after ∧
      SameLifecycle record after := by
  cases op with
  | recordSeen | markDisconnected | resetConnectionState | put | remove |
      load =>
      cases hsetter
  | setEnabled | setProtocol | setDevaddr | setName =>
      exact sameLifecycle_set hget ⟨rfl, rfl, rfl, rfl⟩

end EybondRegistry

/-! ## The two directions -/

/-- Session events do not change what is polled, and setters do not change
what session events write. -/
theorem discovery_keeps_targets (registry : EybondRegistry) :
    (∀ (ops : List RegistryOp) (key : ListenerKey) (broadcast : String)
      (announceIp : Option String),
      (buildChildTargets (RegistryOp.applyAll registry ops) key broadcast
        announceIp).Perm
      (buildChildTargets (RegistryOp.applyAll registry
        (ops.filter RegistryOp.configures)) key broadcast announceIp)) ∧
    ∀ (op : RegistryOp) (pn : String) (record : DongleRecord),
      op.isSetter = true → registry.get? pn = some record →
        ∃ after, (op.apply registry).get? pn = some after ∧
          EybondRegistry.SameLifecycle record after := by
  constructor
  · intro ops key broadcast announceIp
    apply buildChildTargets_perm
    exact EybondRegistry.configuration_applyAll_filter ops fun _ => rfl
  · intro op pn record hsetter hget
    exact EybondRegistry.setter_sameLifecycle hsetter hget

theorem discovery_keeps_targets_enabled :
    ∃ after, ((RegistryOp.setEnabled "A" true).apply
        (EybondRegistry.recordSeen .empty "A" "10.0.0.5:502" .connected
          "now")).get? "A" = some after ∧
      EybondRegistry.SameLifecycle
        { DongleRecord.unconfigured "A" with
          firstSeen := "now"
          lastSeen := "now"
          status := .connected
          peer := "10.0.0.5:502" } after :=
  (discovery_keeps_targets _).2 (.setEnabled "A" true) "A" _ rfl rfl

end Eybond
end DessMonitor
