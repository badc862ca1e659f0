import DessMonitor.ConfigFlowRoundTrip
import DessMonitor.DeviceAddress

/-!
# Stored device strings

The options flow and the transport layer classify the same string, each by
starts of its own.  The formats with a scheme and the serial ports without a
colon mean the same to both.  A bare `host:port` is Elfin TCP to the options
flow, and to the factory it is what is left: the name of a serial port.
-/

namespace DessMonitor
namespace ConfigFlow

open PyString

/-! ## The documented formats -/

/-- A serial port that is stored as its path. -/
structure SerialPath where
  chars : List Char
  nonempty : chars ≠ []
  colonFree : ':' ∉ chars

/-- What the inverters behind a dongle speak. -/
inductive Dialect where
  | voltronic
  | pi18

def Dialect.scheme : Dialect → String
  | .voltronic => "eybond"
  | .pi18 => "eybond-pi18"

def Dialect.protocol : Dialect → Protocol
  | .voltronic => .voltronic
  | .pi18 => .pi18

/-- What may follow the address of a listener: a path, a query, or nothing. -/
structure ListenerTail where
  chars : List Char
  delimited : ∀ c ∈ chars.head?, Url.isDelimiter c = true

/-- A device as the options keep it, in one of the documented formats. -/
inductive StoredDevice where
  | direct (service : Device.Service) (host : Device.Host) (port : Device.Port)
  | pi18Serial (path : List Char)
  | eybond (dialect : Dialect) (host : Device.Host) (port : Device.Port)
      (tail : ListenerTail)
  | serial (path : SerialPath)
  | legacy (host : Device.Host) (port : Device.Port)

namespace StoredDevice

def text : StoredDevice → String
  | direct service host port =>
      Device.networkUri service host port
  | pi18Serial path => schemeUri "pi18-serial" path
  | eybond dialect host port tail =>
      schemeUri dialect.scheme (Device.authority host port ++ tail.chars)
  | serial path => .ofList path.chars
  | legacy host port => .ofList (Device.authority host port)

def IsLegacy : StoredDevice → Prop
  | legacy _ _ => True
  | _ => False

end StoredDevice

/-- What the options flow shows is what the adapter speaks. -/
def MeantAlike (device : String) : Prop :=
  ∃ fields, parseDeviceUri device = some fields ∧
    adapterSpeaks device = some (fields.protocol, fields.transport)

/-! ## Direct connections -/

section Direct

variable {parsed : Url.ParseResult}

theorem portOr_authority {host : Device.Host} {port : Device.Port}
    (hnetloc : parsed.netloc = Device.authority host port) (default : ℕ) :
    portOr parsed default = some (port.number : ℤ) := by
  have hnonzero : ¬ port.number = 0 := by
    have hpositive := port.positive
    unfold Device.Port.number
    omega
  unfold portOr
  rw [Device.port_authority hnetloc, Option.map_some]
  dsimp only
  rw [if_neg hnonzero]

variable (service : Device.Service) (host : Device.Host) (port : Device.Port)

theorem parseNetworkUri_direct (protocol : Protocol) (transport : Transport)
    (default : ℕ) :
    parseNetworkUri protocol transport default
        (Device.networkUri service host port) =
      some (.network protocol transport
        (.ofList (Device.lower host.chars)) port.number) := by
  unfold parseNetworkUri
  rw [Device.urlparse_network]
  simp only [Option.bind_eq_bind, Option.bind_some]
  rw [portOr_authority rfl, Device.hostname_authority rfl]
  rfl

/-- An adapter that reads the string speaks what was parsed. -/
theorem meantAlike_of_read {device : String} {fields : DeviceFields}
    {Address : Type} {read : Option Address} {address : Address}
    (hparse : parseDeviceUri device = some fields)
    (hspeaks : adapterSpeaks device =
      read.map fun _ => (fields.protocol, fields.transport))
    (hread : read = some address) : MeantAlike device := by
  rw [hread] at hspeaks
  exact ⟨fields, hparse, hspeaks⟩

theorem meantAlike_tcp :
    MeantAlike (Device.networkUri .tcp host port) :=
  meantAlike_of_read
    (parseDeviceUri_tcp.trans
      (parseNetworkUri_direct .tcp host port .voltronic .tcpElfin _))
    adapterSpeaks_tcp (Device.parseHostPort_direct "tcp://" host port)

theorem meantAlike_pi18 :
    MeantAlike (Device.networkUri .pi18 host port) :=
  meantAlike_of_read
    (parseDeviceUri_pi18.trans
      (parseNetworkUri_direct .pi18 host port .pi18 .tcp _))
    adapterSpeaks_pi18 (Device.parseHostPort_direct "pi18://" host port)

theorem meantAlike_modbus :
    MeantAlike (Device.networkUri .modbus host port) :=
  meantAlike_of_read
    (parseDeviceUri_modbus.trans
      (parseNetworkUri_direct .modbus host port .modbus .tcp _))
    adapterSpeaks_modbus (Device.parseHostPort_direct "modbus://" host port)

theorem parseAgentDeviceUri_direct (deviceId : Device.DeviceId) :
    ∃ providerDeviceId,
      parseAgentDeviceUri
          (Device.networkUri (.agent deviceId) host port) =
        some
          { DeviceFields.network .agent .agentHttp
              (.ofList (Device.lower host.chars)) port.number with
            agentDeviceId := providerDeviceId } := by
  unfold parseAgentDeviceUri
  rw [Device.urlparse_network]
  simp only [Option.bind_eq_bind, Option.bind_some]
  rw [portOr_authority rfl, Device.hostname_authority rfl]
  exact ⟨_, rfl⟩

theorem meantAlike_agent (deviceId : Device.DeviceId) :
    MeantAlike
      (Device.networkUri (.agent deviceId) host port) := by
  obtain ⟨providerDeviceId, hparse⟩ :=
    parseAgentDeviceUri_direct host port deviceId
  obtain ⟨read, hread⟩ := Device.parseAgentUri_network deviceId host port
  exact meantAlike_of_read (parseDeviceUri_agent.trans hparse)
    adapterSpeaks_agent hread

theorem meantAlike_direct (service : Device.Service) :
    MeantAlike (StoredDevice.text (.direct service host port)) := by
  cases service with
  | tcp => exact meantAlike_tcp host port
  | pi18 => exact meantAlike_pi18 host port
  | modbus => exact meantAlike_modbus host port
  | agent deviceId => exact meantAlike_agent host port deviceId

end Direct

/-! ## Listeners -/

namespace Dialect

variable (dialect : Dialect) {body : List Char}

theorem isScheme : Url.IsScheme dialect.scheme.toList := by
  cases dialect with
  | voltronic => constructor <;> decide
  | pi18 => constructor <;> decide

theorem parseDeviceUri :
    parseDeviceUri (schemeUri dialect.scheme body) =
      parseEybondDeviceUri (schemeUri dialect.scheme body) := by
  cases dialect with
  | voltronic => exact parseDeviceUri_eybond
  | pi18 => exact parseDeviceUri_eybondPi18

theorem adapterSpeaks :
    adapterSpeaks (schemeUri dialect.scheme body) =
      (Eybond.parseEybondUri (schemeUri dialect.scheme body)).map fun _ =>
        (dialect.protocol, .eybond) := by
  cases dialect with
  | voltronic => exact adapterSpeaks_eybond
  | pi18 => exact adapterSpeaks_eybondPi18

/-- The parser asks for the scheme once more. -/
theorem startsWith_pi18 :
    (if startsWith (schemeUri dialect.scheme body) "eybond-pi18://" then
      Protocol.pi18 else .voltronic) = dialect.protocol := by
  rw [startsWith_schemeUri]
  cases dialect with
  | voltronic => rfl
  | pi18 => rfl

end Dialect

section Listener

variable (dialect : Dialect) (host : Device.Host) (port : Device.Port)
  (tail : ListenerTail)

theorem text_eybond :
    StoredDevice.text (.eybond dialect host port tail) =
      schemeUri dialect.scheme
        (Device.authority host port ++ tail.chars) := rfl

/-- The address of a listener is read whatever follows it. -/
theorem urlparse_listener :
    ∃ parsed,
      Url.urlparse (schemeUri dialect.scheme
          (Device.authority host port ++ tail.chars)) = some parsed ∧
        parsed.netloc = Device.authority host port :=
  ⟨_, Url.urlparse_of_parts dialect.isScheme (Device.authority_plain host port)
    tail.delimited, rfl⟩

theorem parseEybondUri_listener :
    ∃ uri, Eybond.parseEybondUri (schemeUri dialect.scheme
      (Device.authority host port ++ tail.chars)) = some uri := by
  obtain ⟨parsed, hparsed, hnetloc⟩ :=
    urlparse_listener dialect host port tail
  unfold Eybond.parseEybondUri
  rw [hparsed]
  simp only [Option.bind_eq_bind, Option.bind_some]
  rw [Device.port_authority hnetloc]
  exact ⟨_, rfl⟩

theorem parseEybondDeviceUri_listener :
    ∃ fields,
      parseEybondDeviceUri (schemeUri dialect.scheme
          (Device.authority host port ++ tail.chars)) = some fields ∧
        fields.protocol = dialect.protocol ∧ fields.transport = .eybond := by
  obtain ⟨parsed, hparsed, hnetloc⟩ :=
    urlparse_listener dialect host port tail
  unfold parseEybondDeviceUri
  rw [hparsed]
  simp only [Option.bind_eq_bind, Option.bind_some]
  rw [portOr_authority hnetloc, dialect.startsWith_pi18]
  exact ⟨_, rfl, rfl, rfl⟩

theorem meantAlike_eybond :
    MeantAlike (StoredDevice.text (.eybond dialect host port tail)) := by
  obtain ⟨fields, hfields, hprotocol, htransport⟩ :=
    parseEybondDeviceUri_listener dialect host port tail
  obtain ⟨uri, hread⟩ := parseEybondUri_listener dialect host port tail
  rw [text_eybond]
  apply meantAlike_of_read (dialect.parseDeviceUri.trans hfields) _ hread
  rw [hprotocol, htransport]
  exact dialect.adapterSpeaks

end Listener

/-! ## Serial ports and bare addresses -/

theorem meantAlike_pi18Serial (path : List Char) :
    MeantAlike (schemeUri "pi18-serial" path) :=
  meantAlike_of_read (parseDeviceUri_pi18Serial path) adapterSpeaks_pi18Serial
    (Device.parsePi18SerialUri_append path)

/-- Any colon makes Elfin TCP of a string, whatever stands around it. -/
theorem parseLegacyUri_tcpElfin (device : String) :
    (parseLegacyUri device).protocol = .voltronic ∧
      (parseLegacyUri device).transport = .tcpElfin := by
  unfold parseLegacyUri
  dsimp only
  cases toInt? (afterLast ':' device.toList) with
  | none => exact ⟨rfl, rfl⟩
  | some port => exact ⟨rfl, rfl⟩

/-- Without a scheme the factory has serial ports only, and the options flow
agrees on strings without a colon and on those that start like a path. -/
theorem meantAlike_schemeless_iff {device : String}
    (hschemeless : Device.Schemeless device) (hne : device ≠ "") :
    MeantAlike device ↔
      (':' ∈ device.toList → startsWith device "/" = true ∨
        startsWith device "\\" = true) := by
  have hparse := parseDeviceUri_schemeless hschemeless hne
  have hspeaks := adapterSpeaks_schemeless hschemeless
  constructor
  · rintro ⟨fields, hfields, hsame⟩ hcolon
    by_contra hpath
    rw [not_or, Bool.not_eq_true, Bool.not_eq_true] at hpath
    rw [if_pos ⟨hcolon, hpath⟩, hfields] at hparse
    have hlegacy : fields = parseLegacyUri device := Option.some.inj hparse
    rw [hspeaks, hlegacy, (parseLegacyUri_tcpElfin device).2] at hsame
    have htransport : Transport.serial = .tcpElfin :=
      congrArg Prod.snd (Option.some.inj hsame)
    cases htransport
  · intro hpath
    rw [if_neg] at hparse
    · exact ⟨_, hparse, hspeaks⟩
    · rintro ⟨hcolon, hslash, hbackslash⟩
      rcases hpath hcolon with hstart | hstart
      · rw [hslash] at hstart
        cases hstart
      · rw [hbackslash] at hstart
        cases hstart

theorem meantAlike_serial (path : SerialPath) :
    MeantAlike (StoredDevice.text (.serial path)) := by
  have hcolon : ':' ∉ (StoredDevice.text (.serial path)).toList := by
    unfold StoredDevice.text
    rw [String.toList_ofList]
    exact path.colonFree
  have hne : StoredDevice.text (.serial path) ≠ "" :=
    Device.ofList_ne_empty path.nonempty
  rw [meantAlike_schemeless_iff (schemeless_serial hcolon) hne]
  intro hmem
  exact absurd hmem hcolon

section Legacy

variable (host : Device.Host) (port : Device.Port)

/-- Neither a host nor a port has a slash. -/
theorem notMem_authority {c : Char} (hhost : Device.isHostChar c = false)
    (hcolon : c ≠ ':') : c ∉ Device.authority host port := by
  have hdigit : c.isDigit = false := by
    simp only [Device.isHostChar, Bool.or_eq_false_iff] at hhost
    exact hhost.1.1.1.2
  intro hmem
  rcases List.mem_append.mp hmem with hmem | hmem
  · exact Device.notMem_of_isHostChar host.named hhost hmem
  · rcases List.mem_cons.mp hmem with rfl | hmem
    · exact hcolon rfl
    · exact Device.notMem_of_isDigit port.numeric hdigit hmem

theorem not_meantAlike_legacy :
    ¬ MeantAlike (StoredDevice.text (.legacy host port)) := by
  have htext : (StoredDevice.text (.legacy host port)).toList =
      Device.authority host port := String.toList_ofList
  have hslash : '/' ∉ (StoredDevice.text (.legacy host port)).toList := by
    rw [htext]
    exact notMem_authority host port (by decide) (by decide)
  have hbackslash :
      '\\' ∉ (StoredDevice.text (.legacy host port)).toList := by
    rw [htext]
    exact notMem_authority host port (by decide) (by decide)
  have hcolon : ':' ∈ (StoredDevice.text (.legacy host port)).toList := by
    rw [htext]
    exact List.mem_append_right _ List.mem_cons_self
  have hne : StoredDevice.text (.legacy host port) ≠ "" := by
    apply Device.ofList_ne_empty
    unfold Device.authority
    simp
  have hschemeless :
      Device.Schemeless (StoredDevice.text (.legacy host port)) :=
    Device.schemeless_of_notMem (by decide) hslash
  rw [meantAlike_schemeless_iff hschemeless hne]
  intro hpath
  rcases hpath hcolon with hstart | hstart
  · rw [Device.startsWith_of_notMem (by decide) hslash] at hstart
    cases hstart
  · rw [Device.startsWith_of_notMem (by decide) hbackslash] at hstart
    cases hstart

end Legacy

/-- A documented string means the same to both unless it is a bare
`host:port`. -/
theorem meantAlike_iff (stored : StoredDevice) :
    MeantAlike stored.text ↔ ¬ stored.IsLegacy := by
  cases stored with
  | direct service host port =>
      exact iff_of_true (meantAlike_direct host port service) id
  | pi18Serial path => exact iff_of_true (meantAlike_pi18Serial path) id
  | eybond dialect host port tail =>
      exact iff_of_true (meantAlike_eybond dialect host port tail) id
  | serial path => exact iff_of_true (meantAlike_serial path) id
  | legacy host port =>
      exact iff_of_false (not_meantAlike_legacy host port)
        fun hscheme => hscheme trivial

/-- The options flow shows Elfin TCP, and the adapter opens a serial port of
that name. -/
theorem legacyBridge_not_meantAlike :
    ¬ ∀ stored : StoredDevice, MeantAlike stored.text := by
  intro hall
  obtain ⟨fields, hfields, hspeaks⟩ :=
    hall (.legacy Device.bridgeHost Device.bridgePort)
  have hparse : (parseDeviceUri
      (StoredDevice.text (.legacy Device.bridgeHost Device.bridgePort))).map
        DeviceFields.transport = some .tcpElfin := by
    decide +kernel
  have hserial : adapterSpeaks
      (StoredDevice.text (.legacy Device.bridgeHost Device.bridgePort)) =
        some (.voltronic, .serial) := by
    decide +kernel
  have htransport : fields.transport = .tcpElfin := by
    rw [hfields] at hparse
    exact Option.some.inj hparse
  rw [hserial, htransport] at hspeaks
  have hsame : Transport.serial = .tcpElfin :=
    congrArg Prod.snd (Option.some.inj hspeaks)
  cases hsame

end ConfigFlow
end DessMonitor
