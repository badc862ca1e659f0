import DessMonitor.DirectCoordinatorModel
import DessMonitor.EybondListenerMap
import DessMonitor.Foundation.PyString

/-!
# Poll targets of a hub

Every enabled dongle with a supported protocol becomes a poll target.  Its URI
carries the product number, so that commands reach the right dongle on the
shared listener; its identity is the migrated one where there is one.
-/

namespace DessMonitor
namespace Eybond

open Direct (DeviceTarget)

def protocolVoltronic : String := "voltronic"
def protocolPi18 : String := "pi18"
def protocolModbus : String := "modbus"

namespace DongleRecord

def supportedProtocols : List String :=
  [protocolVoltronic, protocolPi18, protocolModbus]

def childScheme (protocol : Option String) : String :=
  if protocol = some protocolPi18 then "eybond-pi18"
  else if protocol = some protocolModbus then "eybond-modbus"
  else "eybond"

def childId (record : DongleRecord) : String :=
  "eybond:" ++ record.pn ++ ":" ++ toString record.devaddr

def childUri (record : DongleRecord) (key : ListenerKey) (broadcast : String)
    (announceIp : Option String) : String :=
  let params := ["pn=" ++ record.pn] ++
    (if broadcast ≠ "" ∧ broadcast ≠ defaultBroadcast then
      ["broadcast=" ++ broadcast] else []) ++
    (match announceIp with
      | some announce => if announce ≠ "" then ["announce=" ++ announce] else []
      | none => [])
  childScheme record.protocol ++ "://" ++ key.1 ++ ":" ++ toString key.2 ++
    "/" ++ toString record.devaddr ++ "?" ++ String.intercalate "&" params

/-- The target of one record; none when it is not to be polled. -/
def childTarget (key : ListenerKey) (broadcast : String)
    (announceIp : Option String) (record : DongleRecord) :
    Option DeviceTarget :=
  match record.protocol with
  | none => none
  | some protocol =>
      if record.enabled ∧ protocol ∈ supportedProtocols then
        some
          { id := PyString.orElse record.legacyId record.childId
            uri := record.childUri key broadcast announceIp
            protocol := protocol
            name := PyString.orElse record.name record.pn }
      else none

end DongleRecord

def buildChildTargets (registry : EybondRegistry) (key : ListenerKey)
    (broadcast : String) (announceIp : Option String) : List DeviceTarget :=
  registry.all.filterMap (DongleRecord.childTarget key broadcast announceIp)

end Eybond
end DessMonitor
