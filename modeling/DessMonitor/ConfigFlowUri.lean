import DessMonitor.DeviceUri
import DessMonitor.EybondUri

/-!
# Device URIs of the config flow

The config flow composes a device URI from the fields of its form, and takes a
stored one apart to fill the form again.  What the URI leads to is decided by
the adapter factory and by each adapter on its own.
-/

namespace DessMonitor
namespace ConfigFlow

open PyString

/-! ## Protocols and transports -/

inductive Protocol where
  | voltronic
  | pi18
  | modbus
  | agent
  deriving DecidableEq

inductive Transport where
  | tcpElfin
  | tcp
  | serial
  | eybond
  | agentHttp
  deriving DecidableEq

def Protocol.text : Protocol → String
  | .voltronic => "voltronic"
  | .pi18 => "pi18"
  | .modbus => "modbus"
  | .agent => "agent"

def Transport.text : Transport → String
  | .tcpElfin => "tcp_elfin"
  | .tcp => "tcp"
  | .serial => "serial"
  | .eybond => "eybond"
  | .agentHttp => "agent_http"

def protocols : List Protocol := [.voltronic, .pi18, .modbus, .agent]

def transportsByProtocol : Protocol → List Transport
  | .voltronic => [.tcpElfin, .serial, .eybond]
  | .pi18 => [.tcp, .serial, .eybond]
  | .modbus => [.tcp, .serial, .eybond]
  | .agent => [.agentHttp]

/-- The first transport a protocol offers. -/
def defaultTransport (protocol : Protocol) : Transport :=
  (transportsByProtocol protocol).head?.getD .tcpElfin

def legacyProtocolTransport (protocol : String) :
    Option (Protocol × Transport) :=
  if protocol = "tcp_elfin" then some (.voltronic, .tcpElfin)
  else if protocol = "serial" then some (.voltronic, .serial)
  else if protocol = "eybond" then some (.voltronic, .eybond)
  else none

def normalizeProtocolTransport (protocol transport : Option String) :
    Protocol × Transport :=
  let legacy := protocol.bind legacyProtocolTransport
  let transport := transport.or (legacy.map fun pair => pair.2.text)
  let protocol :=
    match legacy with
    | some pair => pair.1
    | none =>
        (protocols.find? fun known => some known.text = protocol).getD .voltronic
  match (transportsByProtocol protocol).find? fun known =>
      some known.text = transport with
  | some supported => (protocol, supported)
  | none => (protocol, defaultTransport protocol)

/-! ## The builder -/

def defaultTcpPort : ℕ := 8899
def defaultAgentPort : ℕ := 8787
def defaultEybondBindHost : String := "0.0.0.0"
def defaultEybondBindPort : ℕ := 8899
def defaultEybondDevaddr : ℤ := 1
def defaultEybondBroadcast : String := "255.255.255.255"
def defaultEybondAnnounceIp : String := ""

/-- The fields of the connection form. -/
structure ConnectionForm where
  host : String
  port : ℕ
  serialDevice : String
  agentDeviceId : String
  eybondDevaddr : ℕ
  eybondBroadcast : String
  eybondAnnounceIp : String

namespace ConnectionForm

def networkUri (form : ConnectionForm) (scheme : String) : String :=
  scheme ++ "://" ++ form.host ++ ":" ++ toString form.port

def eybondUri (form : ConnectionForm) (scheme : String) : String :=
  let params :=
    (if form.eybondBroadcast ≠ "" ∧
        form.eybondBroadcast ≠ defaultEybondBroadcast then
      ["broadcast=" ++ form.eybondBroadcast] else []) ++
    (if form.eybondAnnounceIp ≠ "" then
      ["announce=" ++ form.eybondAnnounceIp] else [])
  form.networkUri scheme ++ "/" ++ toString form.eybondDevaddr ++
    (if params = [] then "" else "?" ++ String.intercalate "&" params)

end ConnectionForm

def buildDeviceUri (protocol transport : String) (form : ConnectionForm) :
    String :=
  match normalizeProtocolTransport (some protocol) (some transport) with
  | (.agent, _) => form.networkUri "agent" ++ "/" ++ form.agentDeviceId
  | (.modbus, _) => form.networkUri "modbus"
  | (.pi18, .serial) => "pi18-serial://" ++ form.serialDevice
  | (.pi18, .eybond) => form.eybondUri "eybond-pi18"
  | (.pi18, _) => form.networkUri "pi18"
  | (.voltronic, .serial) => form.serialDevice
  | (.voltronic, .tcpElfin) => form.networkUri "tcp"
  | (.voltronic, .eybond) => form.eybondUri "eybond"
  | (.voltronic, _) => ""

/-! ## The parser -/

/-- The recovered fields; `none` is a key that is not there. -/
structure DeviceFields where
  protocol : Protocol
  transport : Transport
  host : String
  port : ℤ
  serialDevice : String
  agentDeviceId : String
  eybondDevaddr : Option ℤ
  eybondBroadcast : Option String
  eybondAnnounceIp : Option String
  deriving DecidableEq

namespace DeviceFields

def blank : DeviceFields where
  protocol := .voltronic
  transport := .tcpElfin
  host := ""
  port := defaultTcpPort
  serialDevice := ""
  agentDeviceId := ""
  eybondDevaddr := some defaultEybondDevaddr
  eybondBroadcast := some defaultEybondBroadcast
  eybondAnnounceIp := some defaultEybondAnnounceIp

def network (protocol : Protocol) (transport : Transport) (host : String)
    (port : ℤ) : DeviceFields where
  protocol := protocol
  transport := transport
  host := host
  port := port
  serialDevice := ""
  agentDeviceId := ""
  eybondDevaddr := none
  eybondBroadcast := none
  eybondAnnounceIp := none

def serial (protocol : Protocol) (serialDevice : String) : DeviceFields :=
  { network protocol .serial "" defaultTcpPort with
    serialDevice := serialDevice }

end DeviceFields

/-- `parsed.port or default`; `none` is `ValueError`. -/
def portOr (parsed : Url.ParseResult) (default : ℕ) : Option ℤ :=
  (Url.port parsed).map fun port =>
    match port with
    | none => default
    | some number => if number = 0 then default else number

def parseNetworkUri (protocol : Protocol) (transport : Transport)
    (defaultPort : ℕ) (device : String) : Option DeviceFields := do
  let parsed ← Url.urlparse device
  let port ← portOr parsed defaultPort
  some (.network protocol transport (.ofList (Url.hostname parsed)) port)

def parseAgentDeviceUri (device : String) : Option DeviceFields := do
  let parsed ← Url.urlparse device
  let port ← portOr parsed defaultAgentPort
  let fields : DeviceFields :=
    .network .agent .agentHttp (.ofList (Url.hostname parsed)) port
  some
    { fields with agentDeviceId := .ofList (parsed.path.dropWhile (· = '/')) }

def parseEybondDeviceUri (device : String) : Option DeviceFields := do
  let parsed ← Url.urlparse device
  let path := if parsed.path = [] then ['/'] else parsed.path
  let devaddr := path.dropWhile (· = '/')
  let host := Url.hostname parsed
  let port ← portOr parsed defaultEybondBindPort
  some
    { protocol :=
        if startsWith device "eybond-pi18://" then .pi18 else .voltronic
      transport := .eybond
      host := if host = [] then defaultEybondBindHost else .ofList host
      port := port
      serialDevice := ""
      agentDeviceId := ""
      eybondDevaddr := some
        (if devaddr = [] then defaultEybondDevaddr
        else (toInt? devaddr).getD defaultEybondDevaddr)
      eybondBroadcast := some
        (((Url.queryValue parsed.query "broadcast").map .ofList).getD
          defaultEybondBroadcast)
      eybondAnnounceIp := some
        (((Url.queryValue parsed.query "announce").map .ofList).getD
          defaultEybondAnnounceIp) }

/-- `host:port` without a scheme. -/
def parseLegacyUri (device : String) : DeviceFields :=
  let portPart := afterLast ':' device.toList
  let hostPart := device.toList.take (device.toList.length - portPart.length - 1)
  match toInt? portPart with
  | none => .blank
  | some port => .network .voltronic .tcpElfin (.ofList hostPart) port

def parseDeviceUri (device : String) : Option DeviceFields :=
  if device = "" then some .blank
  else if startsWith device "agent://" then parseAgentDeviceUri device
  else if startsWith device "modbus://" then
    parseNetworkUri .modbus .tcp defaultTcpPort device
  else if startsWith device "pi18://" then
    parseNetworkUri .pi18 .tcp defaultTcpPort device
  else if startsWith device "pi18-serial://" then
    (splitOnce "pi18-serial://".toList device.toList).map fun parts =>
      .serial .pi18 (.ofList parts.2)
  else if startsWith device "tcp://" then
    parseNetworkUri .voltronic .tcpElfin defaultTcpPort device
  else if startsWith device "eybond-pi18://" || startsWith device "eybond://" then
    parseEybondDeviceUri device
  else if ':' ∈ device.toList ∧ startsWith device "/" = false ∧
      startsWith device "\\" = false then
    some (parseLegacyUri device)
  else some (.serial .voltronic device)

/-! ## The adapters -/

/-- What the selected adapter speaks, and over what; `none` is a text that the
adapter cannot read. -/
def adapterSpeaks (device : String) : Option (Protocol × Transport) :=
  match Device.getAdapter device with
  | .agent => (Device.parseAgentUri device).map fun _ => (.agent, .agentHttp)
  | .modbus =>
      if startsWith device "eybond-modbus://" then
        (Eybond.parseEybondUri device).map fun _ => (.modbus, .eybond)
      else (Device.parseModbusUri device).map fun _ => (.modbus, .tcp)
  | .pi18 =>
      if startsWith device "pi18://" then
        (Device.parsePi18TcpUri device).map fun _ => (.pi18, .tcp)
      else (Device.parsePi18SerialUri device).map fun _ => (.pi18, .serial)
  | .eybond =>
      (Eybond.parseEybondUri device).map fun _ =>
        (if startsWith device "eybond-pi18://" then .pi18 else .voltronic,
          .eybond)
  | .voltronic =>
      if startsWith device "tcp://" then
        (Device.parseTcpUri device).map fun _ => (.voltronic, .tcpElfin)
      else some (.voltronic, .serial)

end ConfigFlow
end DessMonitor
