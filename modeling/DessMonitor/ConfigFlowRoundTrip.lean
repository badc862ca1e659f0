import DessMonitor.ConfigFlowUri
import DessMonitor.DeviceAdapter
import DessMonitor.EybondUriFields
import DessMonitor.Foundation.UrlAuthority

/-!
# Round trip of a device URI

A form is written as a URI, the URI selects an adapter, and the options flow
reads it back.  Three case distinctions have to agree: they do not for the
transports of Modbus that the builder leaves out.
-/

namespace DessMonitor
namespace ConfigFlow

open PyString

/-! ## Forms -/

/-- A DNS name or an IPv4 address in lower case. -/
structure LowerHost (host : List Char) : Prop where
  nonempty : host ≠ []
  named : ∀ c ∈ host, Device.isHostChar c = true
  lower : Device.lower host = host

/-- The values of the fields that a pair asks for. -/
structure ConnectionForm.Valid (form : ConnectionForm) (protocol : Protocol)
    (transport : Transport) : Prop where
  host : transport ≠ .serial → LowerHost form.host.toList
  port : transport ≠ .serial → 1 ≤ form.port ∧ form.port ≤ 65535
  serialDevice : transport = .serial → ':' ∉ form.serialDevice.toList
  agentDeviceId : protocol = .agent → ∀ c ∈ form.agentDeviceId.toList,
    Url.isDelimiter c = false
  devaddr : transport = .eybond →
    1 ≤ form.eybondDevaddr ∧ form.eybondDevaddr ≤ 16
  broadcast : transport = .eybond →
    Eybond.DottedText form.eybondBroadcast.toList
  announce : transport = .eybond → form.eybondAnnounceIp ≠ "" →
    Eybond.DottedText form.eybondAnnounceIp.toList

/-- The fields that a pair uses are those of the form. -/
structure Recovers (protocol : Protocol) (transport : Transport)
    (form : ConnectionForm) (fields : DeviceFields) : Prop where
  sameProtocol : fields.protocol = protocol
  sameTransport : fields.transport = transport
  host : transport ≠ .serial → fields.host = form.host
  port : transport ≠ .serial → fields.port = form.port
  serialDevice : transport = .serial →
    fields.serialDevice = form.serialDevice
  agentDeviceId : protocol = .agent →
    fields.agentDeviceId = form.agentDeviceId
  devaddr : transport = .eybond →
    fields.eybondDevaddr = some (form.eybondDevaddr : ℤ)
  broadcast : transport = .eybond →
    fields.eybondBroadcast = some form.eybondBroadcast
  announce : transport = .eybond →
    fields.eybondAnnounceIp = some form.eybondAnnounceIp

/-- The URI opens what was chosen and is read back. -/
structure ReadsBack (protocol : Protocol) (transport : Transport)
    (form : ConnectionForm) (uri : String) : Prop where
  speaks : adapterSpeaks uri = some (protocol, transport)
  recovers : ∃ fields, parseDeviceUri uri = some fields ∧
    Recovers protocol transport form fields

def RoundTrips (protocol : Protocol) (transport : Transport)
    (form : ConnectionForm) : Prop :=
  ReadsBack protocol transport form
    (buildDeviceUri protocol.text transport.text form)

/-- What the builder and the parser know about. -/
def Known (form : ConnectionForm) : Protocol → Transport → Prop
  | .modbus, transport => transport = .tcp
  | .agent, _ => form.agentDeviceId ≠ "" ∧
      ∀ c ∈ form.agentDeviceId.toList, Url.isKept c = true
  | .voltronic, .serial => form.serialDevice ≠ ""
  | _, _ => True

theorem normalizeProtocolTransport_offered {protocol : Protocol}
    {transport : Transport}
    (hoffered : transport ∈ transportsByProtocol protocol) :
    normalizeProtocolTransport (some protocol.text) (some transport.text) =
      (protocol, transport) := by
  revert hoffered
  cases protocol <;> cases transport <;> decide

/-! ## URIs with a scheme -/

def schemeUri (scheme : String) (body : List Char) : String :=
  .ofList (scheme.toList ++ ':' :: '/' :: '/' :: body)

section Scheme

variable {scheme : String} {body : List Char}

theorem startsWith_schemeUri (start : String) :
    startsWith (schemeUri scheme body) start =
      start.toList.isPrefixOf (scheme.toList ++ ':' :: '/' :: '/' :: body) :=
  Device.startsWith_ofList _ start

theorem schemeUri_ne_empty : schemeUri scheme body ≠ "" := by
  apply Device.ofList_ne_empty
  simp

theorem parseDeviceUri_agent :
    parseDeviceUri (schemeUri "agent" body) =
      parseAgentDeviceUri (schemeUri "agent" body) := by
  unfold parseDeviceUri
  rw [if_neg schemeUri_ne_empty]
  simp only [startsWith_schemeUri]
  rfl

theorem parseDeviceUri_modbus :
    parseDeviceUri (schemeUri "modbus" body) =
      parseNetworkUri .modbus .tcp defaultTcpPort
        (schemeUri "modbus" body) := by
  unfold parseDeviceUri
  rw [if_neg schemeUri_ne_empty]
  simp only [startsWith_schemeUri]
  rfl

theorem parseDeviceUri_pi18 :
    parseDeviceUri (schemeUri "pi18" body) =
      parseNetworkUri .pi18 .tcp defaultTcpPort (schemeUri "pi18" body) := by
  unfold parseDeviceUri
  rw [if_neg schemeUri_ne_empty]
  simp only [startsWith_schemeUri]
  rfl

theorem parseDeviceUri_tcp :
    parseDeviceUri (schemeUri "tcp" body) =
      parseNetworkUri .voltronic .tcpElfin defaultTcpPort
        (schemeUri "tcp" body) := by
  unfold parseDeviceUri
  rw [if_neg schemeUri_ne_empty]
  simp only [startsWith_schemeUri]
  rfl

theorem parseDeviceUri_eybondPi18 :
    parseDeviceUri (schemeUri "eybond-pi18" body) =
      parseEybondDeviceUri (schemeUri "eybond-pi18" body) := by
  unfold parseDeviceUri
  rw [if_neg schemeUri_ne_empty]
  simp only [startsWith_schemeUri]
  rfl

theorem parseDeviceUri_eybond :
    parseDeviceUri (schemeUri "eybond" body) =
      parseEybondDeviceUri (schemeUri "eybond" body) := by
  unfold parseDeviceUri
  rw [if_neg schemeUri_ne_empty]
  simp only [startsWith_schemeUri]
  rfl

/-! Every scheme has one adapter, whatever follows it. -/

theorem adapterSpeaks_agent :
    adapterSpeaks (schemeUri "agent" body) =
      (Device.parseAgentUri (schemeUri "agent" body)).map fun _ =>
        (.agent, .agentHttp) := by
  have hadapter : Device.getAdapter (schemeUri "agent" body) =
      .agent := Device.getAdapter_agent body
  unfold adapterSpeaks
  rw [hadapter]

theorem adapterSpeaks_modbus :
    adapterSpeaks (schemeUri "modbus" body) =
      (Device.parseModbusUri (schemeUri "modbus" body)).map fun _ =>
        (.modbus, .tcp) := by
  have hadapter : Device.getAdapter (schemeUri "modbus" body) =
      .modbus := Device.getAdapter_modbus body
  unfold adapterSpeaks
  rw [hadapter]
  dsimp only
  rw [startsWith_schemeUri]
  rfl

theorem adapterSpeaks_pi18 :
    adapterSpeaks (schemeUri "pi18" body) =
      (Device.parsePi18TcpUri (schemeUri "pi18" body)).map fun _ =>
        (.pi18, .tcp) := by
  have hadapter : Device.getAdapter (schemeUri "pi18" body) =
      .pi18 := Device.getAdapter_pi18 body
  unfold adapterSpeaks
  rw [hadapter]
  dsimp only
  rw [startsWith_schemeUri]
  rfl

theorem adapterSpeaks_pi18Serial :
    adapterSpeaks (schemeUri "pi18-serial" body) =
      (Device.parsePi18SerialUri (schemeUri "pi18-serial" body)).map fun _ =>
        (.pi18, .serial) := by
  have hadapter : Device.getAdapter (schemeUri "pi18-serial" body) =
      .pi18 := Device.getAdapter_pi18Serial body
  unfold adapterSpeaks
  rw [hadapter]
  dsimp only
  rw [startsWith_schemeUri]
  rfl

theorem adapterSpeaks_tcp :
    adapterSpeaks (schemeUri "tcp" body) =
      (Device.parseTcpUri (schemeUri "tcp" body)).map fun _ =>
        (.voltronic, .tcpElfin) := by
  have hadapter : Device.getAdapter (schemeUri "tcp" body) =
      .voltronic := Device.getAdapter_tcp body
  unfold adapterSpeaks
  rw [hadapter]
  dsimp only
  rw [startsWith_schemeUri]
  rfl

theorem adapterSpeaks_eybond :
    adapterSpeaks (schemeUri "eybond" body) =
      (Eybond.parseEybondUri (schemeUri "eybond" body)).map fun _ =>
        (.voltronic, .eybond) := by
  have hadapter : Device.getAdapter (schemeUri "eybond" body) =
      .eybond := Device.getAdapter_eybond body
  unfold adapterSpeaks
  rw [hadapter]
  dsimp only
  rw [startsWith_schemeUri]
  rfl

theorem adapterSpeaks_eybondPi18 :
    adapterSpeaks (schemeUri "eybond-pi18" body) =
      (Eybond.parseEybondUri (schemeUri "eybond-pi18" body)).map fun _ =>
        (.pi18, .eybond) := by
  have hadapter : Device.getAdapter (schemeUri "eybond-pi18" body) =
      .eybond := Device.getAdapter_eybondPi18 body
  unfold adapterSpeaks
  rw [hadapter]
  dsimp only
  rw [startsWith_schemeUri]
  rfl

end Scheme

/-! ## Hosts and ports -/

section Network

variable {host : List Char} {number : ℕ} {scheme : String}

theorem LowerHost.notMem (hhost : LowerHost host) {c : Char}
    (hother : Device.isHostChar c = false) : c ∉ host :=
  Device.notMem_of_isHostChar hhost.named hother

theorem LowerHost.ascii (hhost : LowerHost host) :
    ∀ c ∈ host, c.toNat < 0x80 := by
  intro c hmem
  have hrange := Device.toNat_of_isHostChar (hhost.named c hmem)
  omega

theorem LowerHost.plainHost (hhost : LowerHost host) :
    Url.PlainHost host where
  nonempty := hhost.nonempty
  kept := by
    intro c hmem
    have hplain := Device.isPlain_of_isHostChar (hhost.named c hmem)
    exact Url.isKept_of_toNat (Url.toNat_of_isPlain hplain).1
  delimiter := by
    intro c hmem
    exact Url.not_isDelimiter_of_isPlain
      (Device.isPlain_of_isHostChar (hhost.named c hmem))
  user := hhost.notMem (by decide)
  opening := hhost.notMem (by decide)
  closing := hhost.notMem (by decide)
  colon := hhost.notMem (by decide)
  lower := by
    rw [partition_of_notMem (hhost.notMem (by decide))]
    exact hhost.lower

theorem portOr_hostPort {parsed : Url.ParseResult} (hhost : LowerHost host)
    (hnetloc : parsed.netloc = Url.hostPort host number)
    (hport : 1 ≤ number ∧ number ≤ 65535) (default : ℕ) :
    portOr parsed default = some (number : ℤ) := by
  have hnonzero : ¬ number = 0 := by
    omega
  unfold portOr
  rw [hhost.plainHost.port hnetloc hport.2, Option.map_some]
  dsimp only
  rw [if_neg hnonzero]

theorem parseNetworkUri_hostPort (hscheme : Url.IsScheme scheme.toList)
    (hhost : LowerHost host) (hport : 1 ≤ number ∧ number ≤ 65535)
    (protocol : Protocol) (transport : Transport) (default : ℕ) :
    parseNetworkUri protocol transport default
        (schemeUri scheme (Url.hostPort host number)) =
      some (.network protocol transport (.ofList host) number) := by
  unfold parseNetworkUri schemeUri
  rw [hhost.plainHost.urlparse_bare hscheme hhost.ascii]
  simp only [Option.bind_eq_bind, Option.bind_some]
  rw [portOr_hostPort hhost rfl hport, hhost.plainHost.hostname rfl]
  rfl

/-- The adapters on a direct connection read host and port by themselves. -/
theorem parseHostPort_hostPort (hhost : LowerHost host)
    (hport : 1 ≤ number ∧ number ≤ 65535) (marker : String) :
    Device.parseHostPort marker
        (.ofList (marker.toList ++ Url.hostPort host number)) =
      some (host, (number : ℤ)) :=
  Device.parseHostPort_append marker (hhost.notMem (by decide))
    (Url.notMem_decimal (by decide)) (Url.toInt?_decimal (by omega))

end Network

/-! ## Agents -/

section Agent

variable {host deviceId : List Char} {number : ℕ}

theorem urlparse_agent (hhost : LowerHost host)
    (hdevice : ∀ c ∈ deviceId, Url.isDelimiter c = false) :
    Url.urlparse (schemeUri "agent"
        (Url.hostPort host number ++ '/' :: deviceId)) =
      some
        { scheme := "agent".toList
          netloc := Url.hostPort host number
          path := '/' :: deviceId.filter Url.isKept
          query := [] } := by
  have hscheme : Url.IsScheme "agent".toList := by
    constructor <;> decide
  have hfragment : '#' ∉ deviceId := fun hmem =>
    absurd (hdevice '#' hmem) (by decide)
  have hquestion : '?' ∉ deviceId := fun hmem =>
    absurd (hdevice '?' hmem) (by decide)
  exact hhost.plainHost.urlparse_path hscheme hhost.ascii hfragment hquestion

theorem dropWhile_agent
    (hdevice : ∀ c ∈ deviceId, Url.isDelimiter c = false) :
    ('/' :: deviceId.filter Url.isKept).dropWhile (· = '/') =
      deviceId.filter Url.isKept := by
  apply dropWhile_eq_cons
  intro hmem
  exact absurd (hdevice '/' (List.mem_filter.mp hmem).1) (by decide)

theorem parseAgentDeviceUri_agent (hhost : LowerHost host)
    (hport : 1 ≤ number ∧ number ≤ 65535)
    (hdevice : ∀ c ∈ deviceId, Url.isDelimiter c = false) :
    parseAgentDeviceUri (schemeUri "agent"
        (Url.hostPort host number ++ '/' :: deviceId)) =
      some
        { DeviceFields.network .agent .agentHttp (.ofList host) number with
          agentDeviceId := .ofList (deviceId.filter Url.isKept) } := by
  unfold parseAgentDeviceUri
  rw [urlparse_agent hhost hdevice]
  simp only [Option.bind_eq_bind, Option.bind_some]
  rw [portOr_hostPort hhost rfl hport, hhost.plainHost.hostname rfl,
    dropWhile_agent hdevice]
  rfl

/-- An agent needs a device that is left of the written one. -/
theorem parseAgentUri_agent (hhost : LowerHost host)
    (hport : 1 ≤ number ∧ number ≤ 65535)
    (hdevice : ∀ c ∈ deviceId, Url.isDelimiter c = false) :
    Device.parseAgentUri (schemeUri "agent"
        (Url.hostPort host number ++ '/' :: deviceId)) =
      if deviceId.filter Url.isKept = [] then none
      else some (host, number, deviceId.filter Url.isKept) := by
  have hnonzero : number ≠ 0 := by
    omega
  unfold Device.parseAgentUri
  rw [urlparse_agent hhost hdevice]
  simp only [Option.bind_eq_bind, Option.bind_some]
  rw [hhost.plainHost.hostname rfl, hhost.plainHost.port rfl hport.2]
  simp only [Option.bind_some, Option.getD_some]
  rw [dropWhile_agent hdevice]
  by_cases hempty : deviceId.filter Url.isKept = []
  · simp [hempty]
  · simp [hempty, hhost.nonempty, hnonzero]

end Agent

/-! ## Serial ports -/

section Serial

variable {device : String}

theorem adapterSpeaks_schemeless (hschemeless : Device.Schemeless device) :
    adapterSpeaks device = some (.voltronic, .serial) := by
  unfold adapterSpeaks
  rw [hschemeless.getAdapter]
  dsimp only
  rw [hschemeless "tcp://" (by decide)]
  rfl

theorem parseDeviceUri_schemeless (hschemeless : Device.Schemeless device)
    (hne : device ≠ "") :
    parseDeviceUri device =
      if ':' ∈ device.toList ∧ startsWith device "/" = false ∧
          startsWith device "\\" = false then
        some (parseLegacyUri device)
      else some (.serial .voltronic device) := by
  unfold parseDeviceUri
  rw [if_neg hne, hschemeless "agent://" (by decide),
    hschemeless "modbus://" (by decide), hschemeless "pi18://" (by decide),
    hschemeless "pi18-serial://" (by decide),
    hschemeless "tcp://" (by decide),
    hschemeless "eybond-pi18://" (by decide),
    hschemeless "eybond://" (by decide)]
  rfl

/-- A path without a colon has no scheme. -/
theorem schemeless_serial (hdevice : ':' ∉ device.toList) :
    Device.Schemeless device :=
  Device.schemeless_of_notMem (by decide) hdevice

theorem parseDeviceUri_serial (hdevice : ':' ∉ device.toList)
    (hne : device ≠ "") :
    parseDeviceUri device = some (.serial .voltronic device) := by
  rw [parseDeviceUri_schemeless (schemeless_serial hdevice) hne, if_neg]
  rintro ⟨hcolon, -⟩
  exact hdevice hcolon

theorem parseDeviceUri_pi18Serial (path : List Char) :
    parseDeviceUri (schemeUri "pi18-serial" path) =
      some (.serial .pi18 (.ofList path)) := by
  have htext : (schemeUri "pi18-serial" path).toList =
      "pi18-serial://".toList ++ path := String.toList_ofList
  have hselect : parseDeviceUri (schemeUri "pi18-serial" path) =
      (splitOnce "pi18-serial://".toList
        (schemeUri "pi18-serial" path).toList).map fun parts =>
          .serial .pi18 (.ofList parts.2) := by
    unfold parseDeviceUri
    rw [if_neg schemeUri_ne_empty]
    simp only [startsWith_schemeUri]
    rfl
  rw [hselect, htext, splitOnce_append]
  rfl

end Serial

/-! ## EyBond listeners -/

theorem networkUri_eq (form : ConnectionForm) (scheme : String) :
    form.networkUri scheme =
      schemeUri scheme (Url.hostPort form.host.toList form.port) := by
  have hport : toString form.port = .ofList (Url.decimal form.port) :=
    Nat.toString_eq_ofList_toDigits
  apply String.toList_inj.mp
  unfold ConnectionForm.networkUri schemeUri Url.hostPort
  rw [hport]
  simp

def ConnectionForm.fields (form : ConnectionForm) :
    List (List Char × List Char) :=
  Eybond.addressFields form.eybondBroadcast form.eybondAnnounceIp

/-- What follows the port; no question mark without fields. -/
def ConnectionForm.pathAndQuery (form : ConnectionForm) : List Char :=
  Url.decimal form.eybondDevaddr ++
    if form.fields = [] then [] else '?' :: Url.renderQuery form.fields

theorem eybondUri_eq (form : ConnectionForm) (scheme : String) :
    form.eybondUri scheme =
      schemeUri scheme
        (Url.hostPort form.host.toList form.port ++
          '/' :: form.pathAndQuery) := by
  have hdevaddr : toString form.eybondDevaddr =
      .ofList (Url.decimal form.eybondDevaddr) :=
    Nat.toString_eq_ofList_toDigits
  have hdefault : defaultEybondBroadcast = Eybond.defaultBroadcast := rfl
  apply String.toList_inj.mp
  unfold ConnectionForm.eybondUri ConnectionForm.pathAndQuery
    ConnectionForm.fields Eybond.addressFields Eybond.optionalField
  rw [networkUri_eq, hdevaddr, hdefault]
  unfold schemeUri
  by_cases hempty : form.eybondBroadcast = ""
  · by_cases hannounce : form.eybondAnnounceIp = "" <;>
      simp [hempty, hannounce, Url.renderQuery, Url.renderField]
  by_cases hsame : form.eybondBroadcast = Eybond.defaultBroadcast
  · by_cases hannounce : form.eybondAnnounceIp = "" <;>
      simp [hsame, hannounce, Url.renderQuery, Url.renderField]
  · by_cases hannounce : form.eybondAnnounceIp = "" <;>
      simp [hempty, hsame, hannounce, Url.renderQuery, Url.renderField]

section Eybond

variable {form : ConnectionForm} {protocol : Protocol} {scheme : String}

theorem ConnectionForm.Valid.urlparse (hvalid : form.Valid protocol .eybond)
    (hscheme : Url.IsScheme scheme.toList) :
    Url.urlparse (schemeUri scheme
        (Url.hostPort form.host.toList form.port ++
          '/' :: form.pathAndQuery)) =
      some
        { scheme := scheme.toList
          netloc := Url.hostPort form.host.toList form.port
          path := '/' :: Url.decimal form.eybondDevaddr
          query := Url.renderQuery form.fields } := by
  have hhost := hvalid.host (by decide)
  have hkept : ∀ c ∈ Url.renderTail form.fields,
      Url.isKept c = true ∧ c ≠ '#' :=
    Eybond.addressFields_kept (hvalid.broadcast rfl) (hvalid.announce rfl)
  have hfragment : '#' ∉ Url.decimal form.eybondDevaddr :=
    Url.notMem_decimal (by decide)
  have hquestion : '?' ∉ Url.decimal form.eybondDevaddr :=
    Url.notMem_decimal (by decide)
  unfold ConnectionForm.pathAndQuery
  by_cases hempty : form.fields = []
  · rw [if_pos hempty, List.append_nil, hempty]
    unfold schemeUri
    rw [hhost.plainHost.urlparse_path hscheme hhost.ascii hfragment hquestion,
      List.filter_eq_self.mpr Url.decimal_kept]
    rfl
  · have hquery : ∀ c ∈ Url.renderQuery form.fields,
        Url.isKept c = true ∧ c ≠ '#' := by
      intro c hmem
      apply hkept
      unfold Url.renderTail
      rw [if_neg hempty]
      exact List.mem_cons_of_mem _ hmem
    have hclean : '#' ∉ Url.renderQuery form.fields :=
      fun hmem => (hquery '#' hmem).2 rfl
    rw [if_neg hempty]
    unfold schemeUri
    rw [hhost.plainHost.urlparse_query hscheme hhost.ascii Url.decimal_kept
      hfragment hquestion,
      List.filter_eq_self.mpr fun c hmem => (hquery c hmem).1,
      partition_of_notMem hclean]

theorem ConnectionForm.Valid.queryValue (hvalid : form.Valid protocol .eybond)
    (name : String) :
    Url.queryValue (Url.renderQuery form.fields) name =
      Url.fieldValue form.fields name :=
  Url.queryValue_renderQuery
    (Eybond.plain_addressFields (hvalid.broadcast rfl) (hvalid.announce rfl))
    name

/-- The adapter reads host and port, whatever the scheme. -/
theorem ConnectionForm.Valid.parseEybondUri
    (hvalid : form.Valid protocol .eybond)
    (hscheme : Url.IsScheme scheme.toList) :
    (Eybond.parseEybondUri (schemeUri scheme
      (Url.hostPort form.host.toList form.port ++
        '/' :: form.pathAndQuery))).isSome = true := by
  have hhost := hvalid.host (by decide)
  have hport := hvalid.port (by decide)
  unfold Eybond.parseEybondUri
  rw [hvalid.urlparse hscheme]
  simp only [Option.bind_eq_bind, Option.bind_some]
  rw [hhost.plainHost.port rfl hport.2]
  rfl

def ConnectionForm.eybondFields (form : ConnectionForm)
    (protocol : Protocol) : DeviceFields :=
  { DeviceFields.network protocol .eybond form.host form.port with
    eybondDevaddr := some form.eybondDevaddr
    eybondBroadcast := some form.eybondBroadcast
    eybondAnnounceIp := some form.eybondAnnounceIp }

theorem ConnectionForm.Valid.parseEybondDeviceUri
    (hvalid : form.Valid protocol .eybond)
    (hscheme : Url.IsScheme scheme.toList) :
    ConfigFlow.parseEybondDeviceUri (schemeUri scheme
        (Url.hostPort form.host.toList form.port ++
          '/' :: form.pathAndQuery)) =
      some (form.eybondFields
        (if startsWith (schemeUri scheme
          (Url.hostPort form.host.toList form.port ++
            '/' :: form.pathAndQuery)) "eybond-pi18://" then
          .pi18 else .voltronic)) := by
  have hhost := hvalid.host (by decide)
  have hport := hvalid.port (by decide)
  have hdevaddr := hvalid.devaddr rfl
  have hgiven : form.eybondBroadcast ≠ "" := by
    simpa using (hvalid.broadcast rfl).nonempty
  have hpath : ('/' :: Url.decimal form.eybondDevaddr).dropWhile (· = '/') =
      Url.decimal form.eybondDevaddr :=
    dropWhile_eq_cons (Url.notMem_decimal (by decide))
  have hbroadcast : ((Url.queryValue (Url.renderQuery form.fields)
      "broadcast").map String.ofList).getD defaultEybondBroadcast =
        form.eybondBroadcast := by
    rw [hvalid.queryValue]
    exact Eybond.broadcast_read hgiven
  have hannounce : ((Url.queryValue (Url.renderQuery form.fields)
      "announce").map String.ofList).getD defaultEybondAnnounceIp =
        form.eybondAnnounceIp := by
    rw [hvalid.queryValue]
    exact Eybond.announce_read
  unfold ConfigFlow.parseEybondDeviceUri
  rw [hvalid.urlparse hscheme]
  simp only [Option.bind_eq_bind, Option.bind_some]
  rw [portOr_hostPort hhost rfl hport, hhost.plainHost.hostname rfl]
  simp only [Option.bind_some]
  rw [hbroadcast, hannounce, if_neg hhost.nonempty, String.ofList_toList,
    if_neg (List.cons_ne_nil _ _), hpath, if_neg (Url.decimal_ne_nil _),
    Url.toInt?_decimal (by omega)]
  rfl

end Eybond

/-! ## The pairs -/

section Pairs

variable {form : ConnectionForm} {protocol : Protocol} {transport : Transport}

theorem recovers_network (hagent : protocol ≠ .agent)
    (hserial : transport ≠ .serial) (heybond : transport ≠ .eybond) :
    Recovers protocol transport form
      (.network protocol transport form.host form.port) where
  sameProtocol := rfl
  sameTransport := rfl
  host := fun _ => rfl
  port := fun _ => rfl
  serialDevice := fun heq => absurd heq hserial
  agentDeviceId := fun heq => absurd heq hagent
  devaddr := fun heq => absurd heq heybond
  broadcast := fun heq => absurd heq heybond
  announce := fun heq => absurd heq heybond

theorem recovers_serial (hagent : protocol ≠ .agent) :
    Recovers protocol .serial form
      (.serial protocol form.serialDevice) where
  sameProtocol := rfl
  sameTransport := rfl
  host := fun hne => absurd rfl hne
  port := fun hne => absurd rfl hne
  serialDevice := fun _ => rfl
  agentDeviceId := fun heq => absurd heq hagent
  devaddr := fun heq => absurd heq (by decide)
  broadcast := fun heq => absurd heq (by decide)
  announce := fun heq => absurd heq (by decide)

theorem recovers_eybond (hagent : protocol ≠ .agent) :
    Recovers protocol .eybond form (form.eybondFields protocol) where
  sameProtocol := rfl
  sameTransport := rfl
  host := fun _ => rfl
  port := fun _ => rfl
  serialDevice := fun heq => absurd heq (by decide)
  agentDeviceId := fun heq => absurd heq hagent
  devaddr := fun _ => rfl
  broadcast := fun _ => rfl
  announce := fun _ => rfl

/-- A direct connection whose scheme the adapter and the parser agree on. -/
theorem readsBack_network {scheme : String} {default : ℕ}
    (hscheme : Url.IsScheme scheme.toList)
    (hvalid : form.Valid protocol transport) (hagent : protocol ≠ .agent)
    (hserial : transport ≠ .serial) (heybond : transport ≠ .eybond)
    (hspeaks : adapterSpeaks (schemeUri scheme
      (Url.hostPort form.host.toList form.port)) = some (protocol, transport))
    (hselect : parseDeviceUri (schemeUri scheme
      (Url.hostPort form.host.toList form.port)) =
        parseNetworkUri protocol transport default (schemeUri scheme
          (Url.hostPort form.host.toList form.port))) :
    ReadsBack protocol transport form (form.networkUri scheme) := by
  have hparse := parseNetworkUri_hostPort hscheme (hvalid.host hserial)
    (hvalid.port hserial) protocol transport default
  rw [String.ofList_toList] at hparse
  rw [networkUri_eq]
  exact ⟨hspeaks, _, hselect.trans hparse,
    recovers_network hagent hserial heybond⟩

theorem readsBack_tcp (hvalid : form.Valid .voltronic .tcpElfin) :
    ReadsBack .voltronic .tcpElfin form (form.networkUri "tcp") := by
  have hscheme : Url.IsScheme "tcp".toList := by
    constructor <;> decide
  have hread : Device.parseTcpUri (schemeUri "tcp"
      (Url.hostPort form.host.toList form.port)) =
        some (form.host.toList, (form.port : ℤ)) :=
    parseHostPort_hostPort (hvalid.host (by decide)) (hvalid.port (by decide))
      "tcp://"
  have hspeaks : adapterSpeaks (schemeUri "tcp"
      (Url.hostPort form.host.toList form.port)) = some (.voltronic, .tcpElfin) := by
    rw [adapterSpeaks_tcp, hread]
    rfl
  exact readsBack_network hscheme hvalid (by decide) (by decide) (by decide)
    hspeaks parseDeviceUri_tcp

theorem readsBack_pi18 (hvalid : form.Valid .pi18 .tcp) :
    ReadsBack .pi18 .tcp form (form.networkUri "pi18") := by
  have hscheme : Url.IsScheme "pi18".toList := by
    constructor <;> decide
  have hread : Device.parsePi18TcpUri (schemeUri "pi18"
      (Url.hostPort form.host.toList form.port)) =
        some (form.host.toList, (form.port : ℤ)) :=
    parseHostPort_hostPort (hvalid.host (by decide)) (hvalid.port (by decide))
      "pi18://"
  have hspeaks : adapterSpeaks (schemeUri "pi18"
      (Url.hostPort form.host.toList form.port)) = some (.pi18, .tcp) := by
    rw [adapterSpeaks_pi18, hread]
    rfl
  exact readsBack_network hscheme hvalid (by decide) (by decide) (by decide)
    hspeaks parseDeviceUri_pi18

theorem readsBack_modbus (hvalid : form.Valid .modbus .tcp) :
    ReadsBack .modbus .tcp form (form.networkUri "modbus") := by
  have hscheme : Url.IsScheme "modbus".toList := by
    constructor <;> decide
  have hread : Device.parseModbusUri (schemeUri "modbus"
      (Url.hostPort form.host.toList form.port)) =
        some (form.host.toList, (form.port : ℤ)) :=
    parseHostPort_hostPort (hvalid.host (by decide)) (hvalid.port (by decide))
      "modbus://"
  have hspeaks : adapterSpeaks (schemeUri "modbus"
      (Url.hostPort form.host.toList form.port)) = some (.modbus, .tcp) := by
    rw [adapterSpeaks_modbus, hread]
    rfl
  exact readsBack_network hscheme hvalid (by decide) (by decide) (by decide)
    hspeaks parseDeviceUri_modbus

/-- Modbus is built for TCP only. -/
theorem readsBack_modbus_iff (hvalid : form.Valid .modbus transport) :
    ReadsBack .modbus transport form (form.networkUri "modbus") ↔
      transport = .tcp := by
  constructor
  · rintro ⟨hspeaks, -⟩
    rw [networkUri_eq, adapterSpeaks_modbus] at hspeaks
    obtain ⟨address, -, hpair⟩ := Option.map_eq_some_iff.mp hspeaks
    exact (Prod.ext_iff.mp hpair).2.symm
  · rintro rfl
    exact readsBack_modbus hvalid

theorem readsBack_agent_iff (hvalid : form.Valid .agent .agentHttp) :
    ReadsBack .agent .agentHttp form
        (form.networkUri "agent" ++ "/" ++ form.agentDeviceId) ↔
      form.agentDeviceId ≠ "" ∧
        ∀ c ∈ form.agentDeviceId.toList, Url.isKept c = true := by
  have hhost := hvalid.host (by decide)
  have hport := hvalid.port (by decide)
  have hdevice := hvalid.agentDeviceId rfl
  have huri : form.networkUri "agent" ++ "/" ++ form.agentDeviceId =
      schemeUri "agent" (Url.hostPort form.host.toList form.port ++
        '/' :: form.agentDeviceId.toList) := by
    apply String.toList_inj.mp
    rw [networkUri_eq]
    simp [schemeUri]
  have hread := parseAgentUri_agent hhost hport hdevice
  have hparse := parseAgentDeviceUri_agent hhost hport hdevice
  rw [← parseDeviceUri_agent] at hparse
  rw [huri, ← List.filter_eq_self]
  constructor
  · rintro ⟨hspeaks, fields, hfields, hsame⟩
    rw [hparse] at hfields
    obtain rfl := Option.some.inj hfields
    have hdeviceId := congrArg String.toList (hsame.agentDeviceId rfl)
    rw [String.toList_ofList] at hdeviceId
    refine ⟨?_, hdeviceId⟩
    rintro hempty
    rw [adapterSpeaks_agent, hread, hdeviceId, hempty] at hspeaks
    cases hspeaks
  · rintro ⟨hne, hkept⟩
    rw [hkept] at hread hparse
    have hnonempty : form.agentDeviceId.toList ≠ [] := by
      simpa using hne
    rw [if_neg hnonempty] at hread
    rw [String.ofList_toList, String.ofList_toList] at hparse
    have hspeaks : adapterSpeaks (schemeUri "agent"
        (Url.hostPort form.host.toList form.port ++
          '/' :: form.agentDeviceId.toList)) = some (.agent, .agentHttp) := by
      rw [adapterSpeaks_agent, hread]
      rfl
    refine ⟨hspeaks, _, hparse, ?_⟩
    exact
      { sameProtocol := rfl
        sameTransport := rfl
        host := fun _ => rfl
        port := fun _ => rfl
        serialDevice := fun heq => absurd heq (by decide)
        agentDeviceId := fun _ => rfl
        devaddr := fun heq => absurd heq (by decide)
        broadcast := fun heq => absurd heq (by decide)
        announce := fun heq => absurd heq (by decide) }

/-- Without a path the options flow starts from a blank TCP form. -/
theorem readsBack_serial_iff (hvalid : form.Valid .voltronic .serial) :
    ReadsBack .voltronic .serial form form.serialDevice ↔
      form.serialDevice ≠ "" := by
  have hcolon := hvalid.serialDevice rfl
  constructor
  · rintro ⟨-, fields, hfields, hsame⟩ hempty
    rw [hempty] at hfields
    obtain rfl : DeviceFields.blank = fields := Option.some.inj hfields
    cases hsame.sameTransport
  · intro hne
    exact ⟨adapterSpeaks_schemeless (schemeless_serial hcolon), _,
      parseDeviceUri_serial hcolon hne, recovers_serial (by decide)⟩

theorem readsBack_pi18Serial (form : ConnectionForm) :
    ReadsBack .pi18 .serial form ("pi18-serial://" ++ form.serialDevice) := by
  have huri : "pi18-serial://" ++ form.serialDevice =
      schemeUri "pi18-serial" form.serialDevice.toList := by
    apply String.toList_inj.mp
    simp [schemeUri]
  have hparse := parseDeviceUri_pi18Serial form.serialDevice.toList
  rw [String.ofList_toList] at hparse
  have hspeaks : adapterSpeaks (schemeUri "pi18-serial"
      form.serialDevice.toList) = some (.pi18, .serial) := by
    rw [adapterSpeaks_pi18Serial, schemeUri,
      Device.parsePi18SerialUri_append]
    rfl
  rw [huri]
  exact ⟨hspeaks, _, hparse, recovers_serial (by decide)⟩

theorem readsBack_eybond (hvalid : form.Valid .voltronic .eybond) :
    ReadsBack .voltronic .eybond form (form.eybondUri "eybond") := by
  have hscheme : Url.IsScheme "eybond".toList := by
    constructor <;> decide
  have hparse := hvalid.parseEybondDeviceUri hscheme
  rw [← parseDeviceUri_eybond, startsWith_schemeUri] at hparse
  have hspeaks : adapterSpeaks (schemeUri "eybond"
      (Url.hostPort form.host.toList form.port ++
        '/' :: form.pathAndQuery)) = some (.voltronic, .eybond) := by
    obtain ⟨uri, hread⟩ := Option.isSome_iff_exists.mp
      (hvalid.parseEybondUri hscheme)
    rw [adapterSpeaks_eybond, hread]
    rfl
  rw [eybondUri_eq]
  exact ⟨hspeaks, _, hparse, recovers_eybond (by decide)⟩

theorem readsBack_eybondPi18 (hvalid : form.Valid .pi18 .eybond) :
    ReadsBack .pi18 .eybond form (form.eybondUri "eybond-pi18") := by
  have hscheme : Url.IsScheme "eybond-pi18".toList := by
    constructor <;> decide
  have hparse := hvalid.parseEybondDeviceUri hscheme
  rw [← parseDeviceUri_eybondPi18, startsWith_schemeUri] at hparse
  have hspeaks : adapterSpeaks (schemeUri "eybond-pi18"
      (Url.hostPort form.host.toList form.port ++
        '/' :: form.pathAndQuery)) = some (.pi18, .eybond) := by
    obtain ⟨uri, hread⟩ := Option.isSome_iff_exists.mp
      (hvalid.parseEybondUri hscheme)
    rw [adapterSpeaks_eybondPi18, hread]
    rfl
  rw [eybondUri_eq]
  exact ⟨hspeaks, _, hparse,
    recovers_eybond (by decide)⟩

/-- A form comes back exactly if builder and parser know its pair and its
device. -/
theorem roundTrips_iff
    (hoffered : transport ∈ transportsByProtocol protocol)
    (hvalid : form.Valid protocol transport) :
    RoundTrips protocol transport form ↔ Known form protocol transport := by
  unfold RoundTrips buildDeviceUri
  rw [normalizeProtocolTransport_offered hoffered]
  cases protocol with
  | voltronic =>
      cases transport with
      | tcpElfin => exact iff_of_true (readsBack_tcp hvalid) trivial
      | serial => exact readsBack_serial_iff hvalid
      | eybond => exact iff_of_true (readsBack_eybond hvalid) trivial
      | tcp | agentHttp => exact absurd hoffered (by decide)
  | pi18 =>
      cases transport with
      | tcp => exact iff_of_true (readsBack_pi18 hvalid) trivial
      | serial => exact iff_of_true (readsBack_pi18Serial form) trivial
      | eybond => exact iff_of_true (readsBack_eybondPi18 hvalid) trivial
      | tcpElfin | agentHttp => exact absurd hoffered (by decide)
  | modbus => exact readsBack_modbus_iff hvalid
  | agent =>
      cases transport with
      | agentHttp => exact readsBack_agent_iff hvalid
      | tcpElfin | tcp | serial | eybond => exact absurd hoffered (by decide)

end Pairs

/-! ## A pair that is known and one that is not -/

def listenForm : ConnectionForm where
  host := "0.0.0.0"
  port := 8899
  serialDevice := ""
  agentDeviceId := ""
  eybondDevaddr := 5
  eybondBroadcast := "192.168.1.255"
  eybondAnnounceIp := "192.168.1.10"

theorem listenForm_valid {protocol : Protocol} (hagent : protocol ≠ .agent) :
    listenForm.Valid protocol .eybond where
  host := fun _ => ⟨by decide, forall_mem_of_all (by decide), by decide⟩
  port := fun _ => by decide
  serialDevice := fun _ => by decide
  agentDeviceId := fun heq => absurd heq hagent
  devaddr := fun _ => by decide
  broadcast := fun _ => ⟨by decide, forall_mem_of_all (by decide)⟩
  announce := fun _ _ => ⟨by decide, forall_mem_of_all (by decide)⟩

theorem roundTrips_iff_pi18_eybond :
    RoundTrips .pi18 .eybond listenForm ↔ Known listenForm .pi18 .eybond :=
  roundTrips_iff (by decide) (listenForm_valid (by decide))

/-- Modbus over a dongle is offered, and it is built as Modbus over TCP. -/
theorem not_roundTrips_modbus_eybond :
    ¬ ∀ (protocol : Protocol) (transport : Transport) (form : ConnectionForm),
      transport ∈ transportsByProtocol protocol →
        form.Valid protocol transport → RoundTrips protocol transport form := by
  intro hall
  have hspeaks := (hall .modbus .eybond listenForm (by decide)
    (listenForm_valid (by decide))).speaks
  have hopens : adapterSpeaks (buildDeviceUri Protocol.modbus.text
      Transport.eybond.text listenForm) = some (.modbus, .tcp) := by
    decide +kernel
  rw [hopens] at hspeaks
  cases hspeaks

end ConfigFlow
end DessMonitor
