import DessMonitor.Foundation.UrlAuthority

/-!
# Device URIs

A device is named by a URI or by a bare serial port.  The factory selects an
adapter by the start of the text, each adapter takes its own text apart, and
the registry of command queues takes the same text apart once more to name the
endpoint behind it.
-/

namespace DessMonitor
namespace Device

open PyString

/-! ## Endpoints -/

/-- What an adapter opens; host names are compared without case. -/
inductive Endpoint where
  | network (host : List Char) (port : ℤ)
  | serial (path : List Char)
  deriving DecidableEq

def lower (text : List Char) : List Char := text.map Char.toLower

/-- The address after `marker`; `none` is the `ValueError` of a text that has
no marker, not two parts, or no number for its port. -/
def parseHostPort (marker device : String) : Option (List Char × ℤ) := do
  let (_, addr) ← splitOnce marker.toList device.toList
  match split ':' addr with
  | [host, portStr] => (toInt? portStr).map fun port => (host, port)
  | _ => none

def parseTcpUri : String → Option (List Char × ℤ) := parseHostPort "tcp://"

def parsePi18TcpUri : String → Option (List Char × ℤ) :=
  parseHostPort "pi18://"

def parseModbusUri : String → Option (List Char × ℤ) :=
  parseHostPort "modbus://"

def parsePi18SerialUri (device : String) : Option (List Char) :=
  (splitOnce "pi18-serial://".toList device.toList).map Prod.snd

/-- `parse_agent_uri`; `none` is `ValueError`. -/
def parseAgentUri (device : String) :
    Option (List Char × ℕ × List Char) := do
  let parsed ← Url.urlparse device
  let host := Url.hostname parsed
  let port := (← Url.port parsed).getD 0
  let providerDeviceId := parsed.path.dropWhile (· = '/')
  if parsed.scheme ≠ "agent".toList ∨ host = [] ∨ port = 0 ∨
      providerDeviceId = [] then none
  else some (host, port, providerDeviceId)

inductive Adapter where
  | agent
  | modbus
  | pi18
  | eybond
  | voltronic
  deriving DecidableEq

/-- `get_adapter`. -/
def getAdapter (deviceUri : String) : Adapter :=
  if startsWith deviceUri "agent://" then .agent
  else if startsWith deviceUri "modbus://" ||
      startsWith deviceUri "eybond-modbus://" then .modbus
  else if startsWith deviceUri "pi18://" ||
      startsWith deviceUri "pi18-serial://" then .pi18
  else if startsWith deviceUri "eybond://" ||
      startsWith deviceUri "eybond-pi18://" then .eybond
  else .voltronic

def networkEndpoint (address : List Char × ℤ) : Endpoint :=
  .network (lower address.1) address.2

/-- What the selected adapter opens by itself, when it can read the text. -/
def opens (uri : String) : Option Endpoint :=
  match getAdapter uri with
  | .agent =>
      (parseAgentUri uri).map fun (host, port, _) => .network host port
  | .modbus =>
      if startsWith uri "eybond-modbus://" then none
      else (parseModbusUri uri).map networkEndpoint
  | .pi18 =>
      if startsWith uri "pi18://" then
        (parsePi18TcpUri uri).map networkEndpoint
      else (parsePi18SerialUri uri).map .serial
  | .eybond => none
  | .voltronic =>
      if startsWith uri "tcp://" then (parseTcpUri uri).map networkEndpoint
      else some (.serial uri.toList)

/-! ## Keys -/

def orUri (text : List Char) (uri : String) : List Char :=
  if text = [] then uri.toList else text

/-- `transport_key`; `none` is the `ValueError` of an authority that cannot be
read. -/
def transportKey (uri : String) : Option String :=
  if uri = "" then some ""
  else if contains uri.toList "://".toList = false then
    some (.ofList ("serial:".toList ++ uri.toList))
  else do
    let parsed ← Url.urlparse uri
    let scheme := String.ofList parsed.scheme
    if scheme ∈ ["eybond", "eybond-pi18", "eybond-modbus"] then
      some (.ofList ("eybond:".toList ++ orUri parsed.netloc uri))
    else if scheme ∈ ["tcp", "pi18", "modbus", "agent"] then
      some (.ofList (parsed.scheme ++ ':' :: lower parsed.netloc))
    else if scheme ∈ ["pi18-serial", "serial"] then
      some (.ofList ("serial:".toList ++ orUri parsed.path uri))
    else some uri

example : transportKey "tcp://192.168.1.5:8899" =
    some "tcp:192.168.1.5:8899" := by decide +kernel

example : transportKey "pi18-serial:///dev/ttyUSB0" =
    transportKey "/dev/ttyUSB0" := by decide +kernel

/-! ## Forms -/

inductive NetworkScheme where
  | tcp
  | pi18
  | modbus
  | agent
  deriving DecidableEq

def NetworkScheme.name : NetworkScheme → List Char
  | .tcp => "tcp".toList
  | .pi18 => "pi18".toList
  | .modbus => "modbus".toList
  | .agent => "agent".toList

/-- How a device that is not behind an EyBond dongle is written. -/
inductive Form where
  | network (scheme : NetworkScheme) (address : List Char)
  | bare (name : List Char)
  | pi18Serial (name : List Char)

def formOf (uri : String) : Form :=
  if startsWith uri "tcp://" then .network .tcp (uri.toList.drop 6)
  else if startsWith uri "pi18://" then .network .pi18 (uri.toList.drop 7)
  else if startsWith uri "modbus://" then .network .modbus (uri.toList.drop 9)
  else if startsWith uri "agent://" then .network .agent (uri.toList.drop 8)
  else if startsWith uri "pi18-serial://" then
    .pi18Serial (uri.toList.drop 14)
  else .bare uri.toList

/-! ## Devices -/

def isHostChar (c : Char) : Bool :=
  Url.isAsciiLetter c || c.isDigit || c = '-' || c = '.' || c = '_'

/-- What a system can open: a port of a host that has a name or an IPv4
address, or a path.  To the serial library a path with `://` is a URL. -/
def Endpoint.isReachable : Endpoint → Bool
  | .network host port =>
      host ≠ [] && host.all isHostChar && 1 ≤ port && port ≤ 65535
  | .serial path =>
      path ≠ [] && !path.contains (Char.ofNat 0) &&
        !contains path "://".toList

/-- An agent may have a user before its host; international text there is
left out. -/
def Form.hasAsciiUser : Form → Bool
  | .network .agent address =>
      (Url.cutAuthority address).all fun c => c.toNat < 0x80
  | _ => true

/-- A device of its own, under any text with which its adapter opens it. -/
structure DeviceUri where
  text : String
  endpoint : Endpoint
  opened : opens text = some endpoint
  reachable : endpoint.isReachable = true
  asciiUser : (formOf text).hasAsciiUser = true

end Device
end DessMonitor
