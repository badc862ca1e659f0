import DessMonitor.Foundation.InsertionDict
import Mathlib.Data.Int.Basic

/-!
# The registry of discovered dongles

One record per product number.  Session events update the lifecycle fields of
a record, the options flow its configuration fields.  The registry is stored
as a dictionary of plain fields and loaded back with defaults for the missing
ones.
-/

namespace DessMonitor
namespace Eybond

inductive DongleStatus where
  | connected
  | disconnected
  deriving DecidableEq

def DongleStatus.value : DongleStatus → String
  | .connected => "connected"
  | .disconnected => "disconnected"

/-- `DongleStatus(text)`; `none` is `ValueError`. -/
def DongleStatus.ofValue? (text : String) : Option DongleStatus :=
  if text = "connected" then some .connected
  else if text = "disconnected" then some .disconnected
  else none

structure DongleRecord where
  pn : String
  name : String
  enabled : Bool
  protocol : Option String
  devaddr : ℤ
  status : DongleStatus
  peer : String
  firstSeen : String
  lastSeen : String
  modelHint : String
  legacyId : String
  deriving DecidableEq

def DongleRecord.unconfigured (pn : String) : DongleRecord where
  pn := pn
  name := ""
  enabled := false
  protocol := none
  devaddr := 1
  status := .disconnected
  peer := ""
  firstSeen := ""
  lastSeen := ""
  modelHint := ""
  legacyId := ""

/-! ## Stored records -/

/-- A record as the store holds it.  Only the product number is required. -/
structure StoredRecord where
  pn : String
  name : Option String
  enabled : Option Bool
  protocol : Option (Option String)
  devaddr : Option ℤ
  status : Option String
  peer : Option String
  firstSeen : Option String
  lastSeen : Option String
  modelHint : Option String
  legacyId : Option String
  deriving DecidableEq

def DongleRecord.toDict (record : DongleRecord) : StoredRecord where
  pn := record.pn
  name := some record.name
  enabled := some record.enabled
  protocol := some record.protocol
  devaddr := some record.devaddr
  status := some record.status.value
  peer := some record.peer
  firstSeen := some record.firstSeen
  lastSeen := some record.lastSeen
  modelHint := some record.modelHint
  legacyId := some record.legacyId

def DongleRecord.fromDict (data : StoredRecord) : DongleRecord :=
  let default := unconfigured data.pn
  { pn := data.pn
    name := data.name.getD default.name
    enabled := data.enabled.getD default.enabled
    protocol := data.protocol.getD default.protocol
    devaddr := data.devaddr.getD default.devaddr
    status := (data.status.bind DongleStatus.ofValue?).getD .disconnected
    peer := data.peer.getD default.peer
    firstSeen := data.firstSeen.getD default.firstSeen
    lastSeen := data.lastSeen.getD default.lastSeen
    modelHint := data.modelHint.getD default.modelHint
    legacyId := data.legacyId.getD default.legacyId }

/-- A stored record loads back unchanged. -/
theorem DongleRecord.fromDict_toDict (record : DongleRecord) :
    fromDict record.toDict = record := by
  rcases record with ⟨pn, name, enabled, protocol, devaddr, status, peer,
    firstSeen, lastSeen, modelHint, legacyId⟩
  cases status <;> rfl

/-! ## The registry -/

abbrev EybondRegistry := Dict String DongleRecord

abbrev StoredRegistry := Dict String StoredRecord

namespace EybondRegistry

def recordSeen (registry : EybondRegistry) (pn peer : String)
    (status : DongleStatus) (now : String) : EybondRegistry :=
  match registry.get? pn with
  | none =>
      registry.set pn { DongleRecord.unconfigured pn with
        firstSeen := now
        lastSeen := now
        status := status
        peer := peer }
  | some record =>
      registry.set pn { record with
        lastSeen := now
        status := status
        peer := if peer = "" then record.peer else peer }

def markDisconnected (registry : EybondRegistry) (pn now : String) :
    EybondRegistry :=
  match registry.get? pn with
  | none => registry
  | some record =>
      registry.set pn { record with status := .disconnected, lastSeen := now }

def resetConnectionState (registry : EybondRegistry) : EybondRegistry :=
  registry.mapValues fun record =>
    { record with status := .disconnected, peer := "" }

/-- `_ensure`: the record of this product number, a new one when missing. -/
def ensure (registry : EybondRegistry) (pn : String) : DongleRecord :=
  (registry.get? pn).getD (.unconfigured pn)

def setEnabled (registry : EybondRegistry) (pn : String) (enabled : Bool) :
    EybondRegistry :=
  registry.set pn { registry.ensure pn with enabled := enabled }

def setProtocol (registry : EybondRegistry) (pn : String)
    (protocol : Option String) : EybondRegistry :=
  registry.set pn { registry.ensure pn with protocol := protocol }

def setDevaddr (registry : EybondRegistry) (pn : String) (devaddr : ℤ) :
    EybondRegistry :=
  registry.set pn { registry.ensure pn with devaddr := devaddr }

def setName (registry : EybondRegistry) (pn name : String) :
    EybondRegistry :=
  registry.set pn { registry.ensure pn with name := name }

def remove (registry : EybondRegistry) (pn : String) : EybondRegistry :=
  registry.erase pn

def put (registry : EybondRegistry) (record : DongleRecord) :
    EybondRegistry :=
  registry.set record.pn record

def all (registry : EybondRegistry) : List DongleRecord :=
  registry.values

def enabledPns (registry : EybondRegistry) : List String :=
  (registry.all.filter DongleRecord.enabled).map DongleRecord.pn

def toDict (registry : EybondRegistry) : StoredRegistry :=
  registry.mapValues DongleRecord.toDict

def load (data : StoredRegistry) : EybondRegistry :=
  data.mapValues DongleRecord.fromDict

end EybondRegistry

end Eybond
end DessMonitor
