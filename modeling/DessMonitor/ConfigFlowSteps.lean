import DessMonitor.ConfigFlowRoundTrip
import DessMonitor.Foundation.LabelledRun
import DessMonitor.Foundation.ListUpdate
import Mathlib.Data.List.DropRight

/-!
# The forms of a device entry

A device is set up with four forms, for its name, protocol, transport and
connection.  The options flow asks for the last three again, filled with what
is stored.  Home Assistant hands on what is entered if it fits the form that is
shown, and the forms of several flows may be open at once.
-/

namespace DessMonitor
namespace ConfigFlow

open LabelledRun ListUpdate PyString

/-! ## Options -/

def busModes : List String := ["serialized", "concurrent_writes"]
def defaultBusMode : String := "serialized"
def defaultUpdateInterval : ℤ := 10
def minUpdateInterval : ℤ := 1
def maxUpdateInterval : ℤ := 300
def defaultStrictCrc : Bool := false
def defaultDebugPanel : Bool := true

/-- The options of a device entry; `none` is a key that is not there. -/
structure DeviceOptions where
  protocol : Option String
  transport : Option String
  device : Option String
  host : Option String
  port : Option ℤ
  serialDevice : Option String
  agentDeviceId : Option String
  eybondDevaddr : Option ℤ
  eybondBroadcast : Option String
  eybondAnnounceIp : Option String
  updateInterval : Option ℤ
  strictCrc : Option Bool
  busMode : Option String
  debugPanel : Option Bool
  deriving DecidableEq

/-- What is entered in the connection form. -/
structure ConnectionInput where
  serialDevice : Option String
  host : Option String
  port : Option ℤ
  agentDeviceId : Option String
  eybondDevaddr : Option ℤ
  eybondBroadcast : Option String
  eybondAnnounceIp : Option String
  updateInterval : Option ℤ
  strictCrc : Option Bool
  busMode : Option String
  debugPanel : Option Bool
  deriving DecidableEq

/-- `_CRC_CAPABLE_PROTOCOLS`. -/
def crcCapable : Protocol → Bool
  | .voltronic => true
  | .pi18 => true
  | .modbus => false
  | .agent => false

/-- The transports whose form has the bus mode. -/
def bridged : Transport → Bool
  | .tcpElfin => true
  | .tcp => true
  | .serial => false
  | .eybond => false
  | .agentHttp => false

/-- The form has just the keys of this protocol and transport, and its
selectors bound the numbers. -/
@[mk_iff]
structure ConnectionInput.Fits (input : ConnectionInput)
    (protocol : Protocol) (transport : Transport) (editing : Bool) :
    Prop where
  serialDevice : input.serialDevice.isSome = decide (transport = .serial)
  host : input.host.isSome = decide (transport ≠ .serial)
  port : input.port.isSome = decide (transport ≠ .serial)
  agentDeviceId : input.agentDeviceId.isSome =
    decide (transport ≠ .serial ∧ protocol = .agent)
  devaddr : input.eybondDevaddr.isSome = decide (transport = .eybond)
  broadcast : input.eybondBroadcast.isSome = decide (transport = .eybond)
  announce : input.eybondAnnounceIp.isSome = decide (transport = .eybond)
  interval : input.updateInterval.isSome = true
  strictCrc : input.strictCrc.isSome = crcCapable protocol
  busMode : input.busMode.isSome = bridged transport
  debugPanel : input.debugPanel.isSome = editing
  ports : ∀ port ∈ input.port, 1 ≤ port ∧ port ≤ 65535
  devaddrs : ∀ devaddr ∈ input.eybondDevaddr, 1 ≤ devaddr ∧ devaddr ≤ 16
  intervals : ∀ interval ∈ input.updateInterval,
    minUpdateInterval ≤ interval ∧ interval ≤ maxUpdateInterval
  busModes : ∀ mode ∈ input.busMode, mode ∈ busModes

namespace ConnectionInput

instance (input : ConnectionInput) (protocol : Protocol)
    (transport : Transport) (editing : Bool) :
    Decidable (input.Fits protocol transport editing) :=
  decidable_of_iff' _ (fits_iff input protocol transport editing)

/-- `(user_input.get(key) or default).strip()`. -/
def text (entered : Option String) (default : String) : String :=
  strip (orElse (entered.getD "") default)

def portNumber (input : ConnectionInput) : ℤ :=
  match input.port with
  | none => defaultTcpPort
  | some port => if port = 0 then defaultTcpPort else port

def devaddr (input : ConnectionInput) : ℤ :=
  input.eybondDevaddr.getD defaultEybondDevaddr

def form (input : ConnectionInput) : ConnectionForm where
  host := text input.host ""
  port := input.portNumber.toNat
  serialDevice := text input.serialDevice ""
  agentDeviceId := text input.agentDeviceId ""
  eybondDevaddr := input.devaddr.toNat
  eybondBroadcast := text input.eybondBroadcast defaultEybondBroadcast
  eybondAnnounceIp := text input.eybondAnnounceIp defaultEybondAnnounceIp

/-- `_validate_connection`: the keys with an error and their messages. -/
def errors (input : ConnectionInput) (protocol : Protocol)
    (transport : Transport) : List (String × String) :=
  let (protocol, transport) :=
    normalizeProtocolTransport (some protocol.text) (some transport.text)
  (if transport = .serial ∧ input.form.serialDevice = "" then
      [("serial_device", "serial_required")] else []) ++
    (if transport ≠ .serial ∧ input.form.host = "" then
      [("host", "host_required")] else []) ++
    (if protocol = .agent ∧ input.form.agentDeviceId = "" then
      [("agent_device_id", "agent_device_id_required")] else [])

def chosenBusMode (input : ConnectionInput) : String :=
  let mode := input.busMode.getD defaultBusMode
  if mode ∈ busModes then mode else defaultBusMode

/-- The options that `async_step_connection` writes. -/
def options (input : ConnectionInput) (protocol : Protocol)
    (transport : Transport) (editing : Bool) : DeviceOptions where
  protocol := protocol.text
  transport := transport.text
  device := buildDeviceUri protocol.text transport.text input.form
  host := input.form.host
  port := input.portNumber
  serialDevice := input.form.serialDevice
  agentDeviceId := input.form.agentDeviceId
  eybondDevaddr := input.devaddr
  eybondBroadcast := input.form.eybondBroadcast
  eybondAnnounceIp := input.form.eybondAnnounceIp
  updateInterval := input.updateInterval.getD defaultUpdateInterval
  strictCrc := input.strictCrc.getD defaultStrictCrc
  busMode := input.chosenBusMode
  debugPanel :=
    if editing then some (input.debugPanel.getD defaultDebugPanel) else none

end ConnectionInput

/-! ## What a form is filled with -/

/-- `_defaults` of the options flow. -/
structure ConnectionDefaults where
  host : String
  port : ℤ
  serialDevice : String
  agentDeviceId : String
  eybondDevaddr : ℤ
  eybondBroadcast : String
  eybondAnnounceIp : String
  updateInterval : ℤ
  strictCrc : Bool
  busMode : String
  deriving DecidableEq

def ConnectionDefaults.load (options : DeviceOptions)
    (parsed : DeviceFields) : ConnectionDefaults where
  host := options.host.getD parsed.host
  port := options.port.getD parsed.port
  serialDevice := options.serialDevice.getD parsed.serialDevice
  agentDeviceId := options.agentDeviceId.getD parsed.agentDeviceId
  eybondDevaddr := options.eybondDevaddr.getD
    (parsed.eybondDevaddr.getD defaultEybondDevaddr)
  eybondBroadcast := options.eybondBroadcast.getD
    (parsed.eybondBroadcast.getD defaultEybondBroadcast)
  eybondAnnounceIp := options.eybondAnnounceIp.getD
    (parsed.eybondAnnounceIp.getD defaultEybondAnnounceIp)
  updateInterval := options.updateInterval.getD defaultUpdateInterval
  strictCrc := options.strictCrc.getD defaultStrictCrc
  busMode := options.busMode.getD defaultBusMode

def defaultPort : Transport → ℤ
  | .agentHttp => defaultAgentPort
  | .eybond => defaultEybondBindPort
  | _ => defaultTcpPort

/-- `value or vol.UNDEFINED`. -/
def filled (value : String) : Option String :=
  if value = "" then none else some value

/-- The connection form as it is shown, for an options flow with the state of
the debug panel. -/
def ConnectionDefaults.shown (defaults : ConnectionDefaults)
    (protocol : Protocol) (transport : Transport) (debugPanel : Bool) :
    ConnectionInput where
  serialDevice :=
    if transport = .serial then filled defaults.serialDevice else none
  host :=
    if transport = .serial then none
    else if transport = .eybond then
      some (orElse defaults.host defaultEybondBindHost)
    else filled defaults.host
  port :=
    if transport = .serial then none
    else if defaults.port = 0 then some (defaultPort transport)
    else some defaults.port
  agentDeviceId :=
    if transport ≠ .serial ∧ protocol = .agent then
      filled defaults.agentDeviceId
    else none
  eybondDevaddr :=
    if transport = .eybond then some defaults.eybondDevaddr else none
  eybondBroadcast :=
    if transport = .eybond then some defaults.eybondBroadcast else none
  eybondAnnounceIp :=
    if transport = .eybond then some defaults.eybondAnnounceIp else none
  updateInterval := some defaults.updateInterval
  strictCrc := if crcCapable protocol then some defaults.strictCrc else none
  busMode := if bridged transport then some defaults.busMode else none
  debugPanel := some debugPanel

/-! ## Flows -/

inductive FlowStep where
  | device
  | menu
  | protocol
  | transport
  | connection
  | closed
  deriving DecidableEq

/-- A flow; `entry` is the entry that an options flow edits. -/
structure Flow where
  entry : Option ℕ
  step : FlowStep
  name : Option String
  protocol : Protocol
  transport : Transport
  defaults : Option ConnectionDefaults

structure DeviceEntry where
  title : String
  name : Option String
  options : DeviceOptions
  deriving DecidableEq

/-- `ConfigFlow` at the form for the name. -/
def Flow.setup : Flow where
  entry := none
  step := .device
  name := none
  protocol := .voltronic
  transport := .tcpElfin
  defaults := none

/-- `OptionsFlow.async_step_init`; `none` is a stored device that
`_parse_device_uri` raises on. -/
def Flow.openOptions (id : ℕ) (options : DeviceOptions) : Option Flow := do
  let parsed ← parseDeviceUri (options.device.getD "")
  let pair := normalizeProtocolTransport
    (options.protocol.or parsed.protocol.text)
    (options.transport.or parsed.transport.text)
  some
    { entry := id
      step := if pair.2 = .eybond then .menu else .protocol
      name := none
      protocol := pair.1
      transport := pair.2
      defaults := some (.load options parsed) }

def Flow.normalize (flow : Flow) (protocol transport : String) : Flow :=
  let pair := normalizeProtocolTransport (some protocol) (some transport)
  { flow with protocol := pair.1, transport := pair.2 }

structure FlowWorld where
  entries : List DeviceEntry
  flows : List Flow

inductive FlowEvent where
  | startSetup
  | startOptions (id : ℕ)
  | submitName (fid : ℕ) (name : String)
  | chooseEdit (fid : ℕ)
  | submitProtocol (fid : ℕ) (protocol : String)
  | submitTransport (fid : ℕ) (transport : String)
  | submitConnection (fid : ℕ) (input : ConnectionInput)

namespace FlowWorld

def opened (world : FlowWorld) (flow : Flow) : FlowWorld :=
  { world with flows := world.flows ++ [flow] }

def setFlow (world : FlowWorld) (fid : ℕ) (flow : Flow) : FlowWorld :=
  { world with flows := world.flows.set fid flow }

/-- `async_create_entry` of either flow. -/
def createEntry (world : FlowWorld) (flow : Flow)
    (options : DeviceOptions) : FlowWorld :=
  match flow.entry with
  | none =>
      { world with
        entries := world.entries ++
          [{ title := orElse (flow.name.getD "") "Inverter"
             name := flow.name
             options := options }] }
  | some id =>
      { world with
        entries := world.entries.modify id fun entry =>
          { entry with options := options } }

def submitConnection (world : FlowWorld) (fid : ℕ) (flow : Flow)
    (input : ConnectionInput) : FlowWorld :=
  let pair := normalizeProtocolTransport (some flow.protocol.text)
    (some flow.transport.text)
  if input.errors pair.1 pair.2 = [] then
    (world.createEntry flow
      (input.options pair.1 pair.2 flow.entry.isSome)).setFlow fid
        { flow with step := .closed }
  else world

/-- A form that is shown again with its errors stays open. -/
def step (world : FlowWorld) : FlowEvent → Option FlowWorld
  | .startSetup => some (world.opened .setup)
  | .startOptions id => do
      let entry ← world.entries[id]?
      let flow ← Flow.openOptions id entry.options
      some (world.opened flow)
  | .submitName fid name => do
      let flow ← world.flows[fid]?
      if flow.step = .device then
        let name := strip name
        some (world.setFlow fid
          { flow with
            name := some name
            step := if name = "" then .device else .protocol })
      else none
  | .chooseEdit fid => do
      let flow ← world.flows[fid]?
      if flow.step = .menu then
        some (world.setFlow fid { flow with step := .protocol })
      else none
  | .submitProtocol fid protocol => do
      let flow ← world.flows[fid]?
      if flow.step = .protocol ∧ protocol ∈ protocols.map Protocol.text then
        some (world.setFlow fid
          { flow.normalize protocol flow.transport.text with
            step := .transport })
      else none
  | .submitTransport fid transport => do
      let flow ← world.flows[fid]?
      if flow.step = .transport ∧
          transport ∈ (transportsByProtocol flow.protocol).map
            Transport.text then
        some (world.setFlow fid
          { flow.normalize flow.protocol.text transport with
            step := .connection })
      else none
  | .submitConnection fid input => do
      let flow ← world.flows[fid]?
      if flow.step = .connection ∧
          input.Fits flow.protocol flow.transport flow.entry.isSome then
        some (world.submitConnection fid flow input)
      else none

end FlowWorld

/-! ## Normal forms -/

theorem normalizeProtocolTransport_mem (protocol transport : Option String) :
    (normalizeProtocolTransport protocol transport).2 ∈
      transportsByProtocol
        (normalizeProtocolTransport protocol transport).1 := by
  have hdefault : ∀ known, defaultTransport known ∈
      transportsByProtocol known := by
    intro known
    cases known <;> decide
  unfold normalizeProtocolTransport
  dsimp only
  split
  next supported hfound => exact List.mem_of_find?_eq_some hfound
  next => exact hdefault _

section Strip

variable {drop : Char → Bool} {chars : List Char}

theorem stripChars_eq : stripChars drop chars =
    (chars.dropWhile drop).rdropWhile drop := rfl

theorem stripChars_stripChars :
    stripChars drop (stripChars drop chars) = stripChars drop chars := by
  have hfront : (stripChars drop chars).dropWhile drop =
      stripChars drop chars := by
    rw [List.dropWhile_eq_self_iff]
    intro hlength
    have hprefix : stripChars drop chars <+: chars.dropWhile drop :=
      List.rdropWhile_prefix drop _
    have hwhole := hlength.trans_le hprefix.length_le
    have hhead := hprefix.getElem hlength
    rw [hhead]
    exact List.dropWhile_get_zero_not drop chars hwhole
  rw [stripChars_eq, hfront]
  exact List.rdropWhile_idempotent drop _

@[simp] theorem strip_strip (value : String) :
    strip (strip value) = strip value := by
  unfold strip
  rw [String.toList_ofList, stripChars_stripChars]

end Strip

/-! ## What a flow writes -/

/-- Options that a connection form of an offered pair has written. -/
def DeviceOptions.Written (options : DeviceOptions) : Prop :=
  ∃ (protocol : Protocol) (transport : Transport) (input : ConnectionInput)
    (editing : Bool),
    transport ∈ transportsByProtocol protocol ∧
      input.Fits protocol transport editing ∧
      input.errors protocol transport = [] ∧
      options = input.options protocol transport editing

def Flow.Offered (flow : Flow) : Prop :=
  flow.transport ∈ transportsByProtocol flow.protocol

/-- Every entry is one of the old ones or was written by a flow. -/
structure FlowWorld.Sound (legacy : List DeviceEntry) (world : FlowWorld) :
    Prop where
  offered : ∀ flow ∈ world.flows, flow.Offered
  written : ∀ (id : ℕ) entry, world.entries[id]? = some entry →
    legacy[id]? = some entry ∨ entry.options.Written

section Sound

variable {legacy : List DeviceEntry} {world after : FlowWorld}
  {event : FlowEvent} {flow replacement : Flow} {fid : ℕ}

theorem FlowWorld.Sound.setFlow (hsound : world.Sound legacy)
    (hoffered : replacement.Offered) :
    (world.setFlow fid replacement).Sound legacy := by
  refine ⟨?_, hsound.written⟩
  intro other hmem
  rcases List.mem_or_eq_of_mem_set hmem with hold | rfl
  · exact hsound.offered other hold
  · exact hoffered

theorem FlowWorld.Sound.opened (hsound : world.Sound legacy)
    (hoffered : flow.Offered) : (world.opened flow).Sound legacy := by
  refine ⟨?_, hsound.written⟩
  intro other hmem
  rcases List.mem_append.mp hmem with hold | hnew
  · exact hsound.offered other hold
  · rw [List.mem_singleton.mp hnew]
    exact hoffered

theorem FlowWorld.Sound.createEntry (hsound : world.Sound legacy)
    {options : DeviceOptions} (hwritten : options.Written) :
    (world.createEntry flow options).Sound legacy := by
  unfold FlowWorld.createEntry
  split
  next =>
    refine ⟨hsound.offered, ?_⟩
    intro id entry hentry
    rcases getElem?_append_singleton_cases hentry with hold | ⟨-, rfl⟩
    · exact hsound.written id entry hold
    · exact .inr hwritten
  next edited =>
    refine ⟨hsound.offered, ?_⟩
    intro id entry hentry
    simp only [List.getElem?_modify, Option.map_eq_map,
      Option.map_eq_some_iff] at hentry
    obtain ⟨old, hold, rfl⟩ := hentry
    split
    next => exact .inr hwritten
    next => exact hsound.written id old hold

theorem openOptions_offered {id : ℕ} {options : DeviceOptions}
    (hopen : Flow.openOptions id options = some flow) : flow.Offered := by
  simp only [Flow.openOptions, Option.bind_eq_bind,
    Option.bind_eq_some_iff] at hopen
  obtain ⟨parsed, -, hflow⟩ := hopen
  cases hflow
  exact normalizeProtocolTransport_mem _ _

theorem FlowWorld.Sound.submitConnection (hsound : world.Sound legacy)
    {input : ConnectionInput} (hflow : flow ∈ world.flows)
    (hfits : input.Fits flow.protocol flow.transport flow.entry.isSome) :
    (world.submitConnection fid flow input).Sound legacy := by
  have hoffered := hsound.offered flow hflow
  unfold FlowWorld.submitConnection
  rw [normalizeProtocolTransport_offered hoffered]
  dsimp only
  split
  next herrors =>
    have hclosed : Flow.Offered { flow with step := .closed } := hoffered
    apply FlowWorld.Sound.setFlow _ hclosed
    exact hsound.createEntry
      ⟨flow.protocol, flow.transport, input, flow.entry.isSome, hoffered,
        hfits, herrors, rfl⟩
  next => exact hsound

theorem FlowWorld.Sound.after_step (hsound : world.Sound legacy)
    (hstep : world.step event = some after) : after.Sound legacy := by
  cases event with
  | startSetup =>
      cases hstep
      exact hsound.opened
        (by simp [Flow.Offered, Flow.setup, transportsByProtocol])
  | startOptions id =>
      simp only [FlowWorld.step, Option.bind_eq_bind,
        Option.bind_eq_some_iff] at hstep
      obtain ⟨entry, -, flow, hopen, hstep⟩ := hstep
      cases hstep
      exact hsound.opened (openOptions_offered hopen)
  | submitName fid name =>
      simp only [FlowWorld.step, Option.bind_eq_bind,
        Option.bind_eq_some_iff] at hstep
      obtain ⟨flow, hflow, hstep⟩ := hstep
      split_ifs at hstep
      all_goals
        cases hstep
        exact hsound.setFlow (hsound.offered flow (List.mem_of_getElem? hflow))
  | chooseEdit fid =>
      simp only [FlowWorld.step, Option.bind_eq_bind,
        Option.bind_eq_some_iff] at hstep
      obtain ⟨flow, hflow, hstep⟩ := hstep
      split_ifs at hstep
      cases hstep
      exact hsound.setFlow (hsound.offered flow (List.mem_of_getElem? hflow))
  | submitProtocol fid protocol =>
      simp only [FlowWorld.step, Option.bind_eq_bind,
        Option.bind_eq_some_iff] at hstep
      obtain ⟨flow, -, hstep⟩ := hstep
      split_ifs at hstep
      cases hstep
      exact hsound.setFlow (normalizeProtocolTransport_mem _ _)
  | submitTransport fid transport =>
      simp only [FlowWorld.step, Option.bind_eq_bind,
        Option.bind_eq_some_iff] at hstep
      obtain ⟨flow, -, hstep⟩ := hstep
      split_ifs at hstep
      cases hstep
      exact hsound.setFlow (normalizeProtocolTransport_mem _ _)
  | submitConnection fid input =>
      simp only [FlowWorld.step, Option.bind_eq_bind,
        Option.bind_eq_some_iff] at hstep
      obtain ⟨flow, hflow, hstep⟩ := hstep
      split_ifs at hstep with hfits
      cases hstep
      exact hsound.submitConnection (List.mem_of_getElem? hflow) hfits.2

theorem sound_of_run {events : List FlowEvent}
    (hrun : Run (graph FlowWorld.step) ⟨legacy, []⟩ events world) :
    world.Sound legacy := by
  apply hrun.invariant (FlowWorld.Sound legacy)
  · constructor
    · intro flow hmem
      cases hmem
    · intro id entry hentry
      exact .inl hentry
  · intro before event after hbefore hstep
    exact hbefore.after_step hstep

end Sound

/-! ## Consistent options -/

/-- The options are those of one filled form of an offered pair. -/
structure DeviceOptions.Consistent (options : DeviceOptions)
    (protocol : Protocol) (transport : Transport) (form : ConnectionForm) :
    Prop where
  offered : transport ∈ transportsByProtocol protocol
  sameProtocol : options.protocol = some protocol.text
  sameTransport : options.transport = some transport.text
  device : options.device =
    some (buildDeviceUri protocol.text transport.text form)
  host : options.host = some form.host
  port : options.port = some (form.port : ℤ)
  serialDevice : options.serialDevice = some form.serialDevice
  agentDeviceId : options.agentDeviceId = some form.agentDeviceId
  devaddr : options.eybondDevaddr = some (form.eybondDevaddr : ℤ)
  broadcast : options.eybondBroadcast = some form.eybondBroadcast
  announce : options.eybondAnnounceIp = some form.eybondAnnounceIp
  portRange : 1 ≤ form.port ∧ form.port ≤ 65535
  devaddrRange : 1 ≤ form.eybondDevaddr ∧ form.eybondDevaddr ≤ 16
  serialRequired : transport = .serial → form.serialDevice ≠ ""
  hostRequired : transport ≠ .serial → form.host ≠ ""
  agentRequired : protocol = .agent → form.agentDeviceId ≠ ""
  interval : ∃ interval, options.updateInterval = some interval ∧
    minUpdateInterval ≤ interval ∧ interval ≤ maxUpdateInterval
  busMode : ∃ mode ∈ busModes, options.busMode = some mode

section Written

variable {protocol : Protocol} {transport : Transport}
  {input : ConnectionInput} {editing : Bool}

theorem ConnectionInput.Fits.portNumber
    (hfits : input.Fits protocol transport editing) :
    1 ≤ input.portNumber ∧ input.portNumber ≤ 65535 := by
  unfold ConnectionInput.portNumber
  split
  next => decide
  next port hport =>
    have hrange := hfits.ports port hport
    rw [if_neg (by omega)]
    exact hrange

theorem ConnectionInput.Fits.devaddr_range
    (hfits : input.Fits protocol transport editing) :
    1 ≤ input.devaddr ∧ input.devaddr ≤ 16 := by
  unfold ConnectionInput.devaddr
  cases hdevaddr : input.eybondDevaddr with
  | none => decide
  | some devaddr => exact hfits.devaddrs devaddr hdevaddr

theorem ConnectionInput.chosenBusMode_mem (input : ConnectionInput) :
    input.chosenBusMode ∈ busModes := by
  unfold ConnectionInput.chosenBusMode
  dsimp only
  split
  next hmem => exact hmem
  next => decide

theorem errors_eq_nil_iff (hoffered : transport ∈ transportsByProtocol protocol) :
    input.errors protocol transport = [] ↔
      (transport = .serial → input.form.serialDevice ≠ "") ∧
        (transport ≠ .serial → input.form.host ≠ "") ∧
        (protocol = .agent → input.form.agentDeviceId ≠ "") := by
  unfold ConnectionInput.errors
  rw [normalizeProtocolTransport_offered hoffered]
  simp

theorem ConnectionInput.Fits.consistent
    (hfits : input.Fits protocol transport editing)
    (hoffered : transport ∈ transportsByProtocol protocol)
    (herrors : input.errors protocol transport = []) :
    (input.options protocol transport editing).Consistent protocol transport
      input.form := by
  obtain ⟨hserial, hhost, hagent⟩ := (errors_eq_nil_iff hoffered).mp herrors
  have hport := hfits.portNumber
  have hdevaddr := hfits.devaddr_range
  obtain ⟨interval, hinterval⟩ := Option.isSome_iff_exists.mp hfits.interval
  refine ⟨hoffered, rfl, rfl, rfl, rfl, ?_, rfl, rfl, ?_, rfl, rfl, ?_, ?_,
    hserial, hhost, hagent, ?_, ?_⟩
  · simp [ConnectionInput.options, ConnectionInput.form]
    omega
  · simp [ConnectionInput.options, ConnectionInput.form]
    omega
  · simp only [ConnectionInput.form]
    omega
  · simp only [ConnectionInput.form]
    omega
  · exact ⟨interval, by simp [ConnectionInput.options, hinterval],
      hfits.intervals interval hinterval⟩
  · exact ⟨input.chosenBusMode, input.chosenBusMode_mem, rfl⟩

end Written

/-- However the flows overlap and whatever is entered, an entry that a flow
has created or edited holds the options of one filled form. -/
theorem options_consistent_of_run {legacy : List DeviceEntry}
    {events : List FlowEvent} {world : FlowWorld}
    (hrun : Run (graph FlowWorld.step) ⟨legacy, []⟩ events world)
    {id : ℕ} {entry : DeviceEntry}
    (hentry : world.entries[id]? = some entry) :
    legacy[id]? = some entry ∨
      ∃ protocol transport form,
        entry.options.Consistent protocol transport form := by
  rcases (sound_of_run hrun).written id entry hentry with
    hold | ⟨protocol, transport, input, editing, hoffered, hfits, herrors,
      hoptions⟩
  · exact .inl hold
  · right
    rw [hoptions]
    exact ⟨protocol, transport, input.form,
      hfits.consistent hoffered herrors⟩

/-- A Voltronic inverter behind a dongle, with a blank broadcast address. -/
def dongleInput : ConnectionInput where
  serialDevice := none
  host := some " 0.0.0.0 "
  port := some 8899
  agentDeviceId := none
  eybondDevaddr := some 3
  eybondBroadcast := some " "
  eybondAnnounceIp := some ""
  updateInterval := some 10
  strictCrc := some true
  busMode := none
  debugPanel := none

/-- An entry from before the flows kept more than the device. -/
def legacyEntry : DeviceEntry where
  title := "Cellar"
  name := some "Cellar"
  options :=
    { protocol := none
      transport := none
      device := some "/dev/ttyUSB0"
      host := none
      port := none
      serialDevice := none
      agentDeviceId := none
      eybondDevaddr := none
      eybondBroadcast := none
      eybondAnnounceIp := none
      updateInterval := none
      strictCrc := none
      busMode := none
      debugPanel := none }

/-- Two flows are open while the first one sets an inverter up. -/
def afterSetup : FlowWorld :=
  (execute FlowWorld.step ⟨[legacyEntry], []⟩
    [.startSetup, .startOptions 0, .submitName 0 " Roof ",
      .submitProtocol 0 "voltronic", .submitProtocol 1 "pi18",
      .submitTransport 0 "eybond", .submitConnection 0 dongleInput]).get
    (by decide +kernel)

def roofEntry : DeviceEntry :=
  afterSetup.entries[1]?.get (by decide +kernel)

theorem options_consistent_of_run_dongle :
    ∃ protocol transport form,
      roofEntry.options.Consistent protocol transport form := by
  have hrun : Run (graph FlowWorld.step) ⟨[legacyEntry], []⟩ _ afterSetup :=
    run_of_execute (Option.some_get _).symm
  have hentry : afterSetup.entries[1]? = some roofEntry :=
    (Option.some_get _).symm
  rcases options_consistent_of_run hrun hentry with hold | hconsistent
  · cases hold
  · exact hconsistent

/-! ## Edits that change nothing -/

section Refill

variable {Value : Type*} {asked : Prop} [Decidable asked]

theorem eq_none_of_isSome {entered : Option Value}
    (hpresent : entered.isSome = decide asked) (hasked : ¬ asked) :
    entered = none := by
  simpa [hasked] using hpresent

/-- A field that is filled with what it gave before gives the same again,
where the form has it and where it does not. -/
theorem getD_refill {entered : Option Value} (default : Value)
    (hpresent : entered.isSome = decide asked) :
    (if asked then some (entered.getD default) else none).getD default =
      entered.getD default := by
  by_cases hasked : asked
  · simp [hasked]
  · simp [hasked, eq_none_of_isSome hpresent hasked]

@[simp] theorem orElse_empty_right (value : String) :
    orElse value "" = value := by
  unfold orElse
  split
  next hempty => exact hempty.symm
  next => rfl

theorem strip_orElse {value default : String} (hvalue : strip value = value)
    (hdefault : strip default = default) :
    strip (orElse value default) = orElse value default := by
  unfold orElse
  split
  next => exact hdefault
  next => exact hvalue

theorem text_none {default : String} (hdefault : strip default = default) :
    ConnectionInput.text none default = default := by
  simpa [ConnectionInput.text, orElse] using hdefault

/-- A text is stripped already; only a blank one makes way for the default. -/
theorem text_refill {entered : Option String} {default : String}
    (hdefault : strip default = default)
    (hpresent : entered.isSome = decide asked) :
    ConnectionInput.text
        (if asked then some (ConnectionInput.text entered default)
        else none) default =
      orElse (ConnectionInput.text entered default) default := by
  by_cases hasked : asked
  · rw [if_pos hasked]
    exact strip_orElse (strip_strip _) hdefault
  · rw [if_neg hasked, eq_none_of_isSome hpresent hasked, text_none hdefault]
    unfold orElse
    split <;> rfl

end Refill

section Shown

variable {protocol : Protocol} {transport : Transport}
  {input : ConnectionInput} {editing debugPanel : Bool}

/-- The connection form filled with what an input has given. -/
def ConnectionInput.refilled (input : ConnectionInput) (protocol : Protocol)
    (transport : Transport) (debugPanel : Bool) : ConnectionInput where
  serialDevice :=
    if transport = .serial then some (text input.serialDevice "") else none
  host := if transport ≠ .serial then some (text input.host "") else none
  port := if transport ≠ .serial then some input.portNumber else none
  agentDeviceId :=
    if transport ≠ .serial ∧ protocol = .agent then
      some (text input.agentDeviceId "")
    else none
  eybondDevaddr := if transport = .eybond then some input.devaddr else none
  eybondBroadcast :=
    if transport = .eybond then
      some (text input.eybondBroadcast defaultEybondBroadcast)
    else none
  eybondAnnounceIp :=
    if transport = .eybond then
      some (text input.eybondAnnounceIp defaultEybondAnnounceIp)
    else none
  updateInterval := some (input.updateInterval.getD defaultUpdateInterval)
  strictCrc :=
    if crcCapable protocol then
      some (input.strictCrc.getD defaultStrictCrc)
    else none
  busMode := if bridged transport then some input.chosenBusMode else none
  debugPanel := some debugPanel

/-- That is what the options flow shows, whatever the stored device was
taken apart into. -/
theorem shown_eq_refilled (hfits : input.Fits protocol transport editing)
    (hoffered : transport ∈ transportsByProtocol protocol)
    (herrors : input.errors protocol transport = [])
    (parsed : DeviceFields) :
    (ConnectionDefaults.load (input.options protocol transport editing)
        parsed).shown protocol transport debugPanel =
      input.refilled protocol transport debugPanel := by
  obtain ⟨hserial, hhost, hagent⟩ := (errors_eq_nil_iff hoffered).mp herrors
  have hport := hfits.portNumber
  have hport' : input.portNumber ≠ 0 := by
    omega
  simp only [ConnectionDefaults.shown, ConnectionDefaults.load,
    ConnectionInput.options, ConnectionInput.refilled, Option.getD_some,
    ConnectionInput.mk.injEq, ConnectionInput.form, hport', if_false,
    and_true]
  refine ⟨?_, ?_, ?_, ?_⟩
  · split
    next h => exact if_neg (hserial h)
    next => rfl
  · by_cases h : transport = .serial
    · simp [h]
    · have hfilled : input.form.host ≠ "" := hhost h
      simp only [h, if_false, ne_eq, not_false_eq_true, if_true]
      split
      next => exact congrArg some (if_neg hfilled)
      next => exact if_neg hfilled
  · by_cases h : transport = .serial <;> simp [h]
  · split
    next h => exact if_neg (hagent h.2)
    next => rfl

/-- A blank broadcast address stands for the default in the URI as well. -/
theorem buildDeviceUri_broadcast (protocol transport : String)
    (form : ConnectionForm) :
    buildDeviceUri protocol transport
        { form with
          eybondBroadcast :=
            orElse form.eybondBroadcast defaultEybondBroadcast } =
      buildDeviceUri protocol transport form := by
  have hsame : ∀ scheme, ConnectionForm.eybondUri
      { form with
        eybondBroadcast :=
          orElse form.eybondBroadcast defaultEybondBroadcast } scheme =
        form.eybondUri scheme := by
    intro scheme
    by_cases hblank : form.eybondBroadcast = ""
    · simp [ConnectionForm.eybondUri, ConnectionForm.networkUri, orElse,
        hblank]
    · simp [ConnectionForm.eybondUri, ConnectionForm.networkUri, orElse,
        hblank]
  unfold buildDeviceUri
  simp only [hsame]
  rfl

theorem refilled_portNumber (hfits : input.Fits protocol transport editing) :
    (input.refilled protocol transport debugPanel).portNumber =
      input.portNumber := by
  have hport := hfits.portNumber
  have hne : input.portNumber ≠ 0 := by
    omega
  by_cases hserial : transport = .serial
  · have hnone : input.port = none := by
      simpa [hserial] using hfits.port
    simp [ConnectionInput.refilled, ConnectionInput.portNumber, hserial,
      hnone]
  · have hsome : (input.refilled protocol transport debugPanel).port =
        some input.portNumber := by
      simp [ConnectionInput.refilled, hserial]
    rw [ConnectionInput.portNumber, hsome]
    exact if_neg hne

theorem refilled_form (hfits : input.Fits protocol transport editing) :
    (input.refilled protocol transport debugPanel).form =
      { input.form with
        eybondBroadcast :=
          orElse input.form.eybondBroadcast defaultEybondBroadcast } := by
  have hport : (input.refilled protocol transport debugPanel).portNumber =
      input.portNumber := refilled_portNumber hfits
  have hblank : strip "" = "" := by
    decide
  have hbroadcast : strip defaultEybondBroadcast = defaultEybondBroadcast := by
    decide
  have hempty : strip defaultEybondAnnounceIp = defaultEybondAnnounceIp := by
    decide
  have hserial := text_refill hblank hfits.serialDevice
  have hhost := text_refill hblank hfits.host
  have hagent := text_refill hblank hfits.agentDeviceId
  have haddress := text_refill hbroadcast hfits.broadcast
  have hannounce := (text_refill hempty hfits.announce).trans
    (orElse_empty_right _)
  have hdevaddr := getD_refill defaultEybondDevaddr hfits.devaddr
  rw [orElse_empty_right] at hserial hhost hagent
  simp only [ConnectionInput.form, hport, ConnectionForm.mk.injEq]
  simp only [ConnectionInput.refilled, ConnectionInput.devaddr, hserial,
    hhost, hagent, haddress, hannounce, hdevaddr, and_self]

theorem refilled_devaddr (hfits : input.Fits protocol transport editing) :
    (input.refilled protocol transport debugPanel).devaddr =
      input.devaddr :=
  getD_refill defaultEybondDevaddr hfits.devaddr

theorem refilled_fits (hfits : input.Fits protocol transport editing) :
    (input.refilled protocol transport debugPanel).Fits protocol transport
      true := by
  obtain ⟨interval, hinterval⟩ := Option.isSome_iff_exists.mp hfits.interval
  have hrange := hfits.intervals interval hinterval
  constructor
  case ports =>
    simpa [ConnectionInput.refilled] using fun _ => hfits.portNumber
  case devaddrs =>
    simpa [ConnectionInput.refilled] using fun _ => hfits.devaddr_range
  case intervals =>
    simpa [ConnectionInput.refilled, hinterval] using hrange
  case busModes =>
    simpa [ConnectionInput.refilled] using fun _ => input.chosenBusMode_mem
  case interval => rfl
  case debugPanel => rfl
  -- the fields that the form has or has not
  all_goals
    simp only [ConnectionInput.refilled]
    split <;> simp_all

theorem refilled_errors (hfits : input.Fits protocol transport editing)
    (hoffered : transport ∈ transportsByProtocol protocol)
    (herrors : input.errors protocol transport = []) :
    (input.refilled protocol transport debugPanel).errors protocol
      transport = [] := by
  rw [errors_eq_nil_iff hoffered] at herrors ⊢
  rw [refilled_form hfits]
  exact herrors

theorem refilled_busMode (hfits : input.Fits protocol transport editing) :
    (input.refilled protocol transport debugPanel).chosenBusMode =
      input.chosenBusMode := by
  have hmem := input.chosenBusMode_mem
  by_cases hbridged : bridged transport = true
  · have hmode : (input.refilled protocol transport debugPanel).busMode =
        some input.chosenBusMode := by
      simp [ConnectionInput.refilled, hbridged]
    rw [ConnectionInput.chosenBusMode, hmode]
    exact if_pos hmem
  · have habsent : bridged transport = false := by
      simpa using hbridged
    have hnone : input.busMode = none := by
      simpa [habsent] using hfits.busMode
    simp [ConnectionInput.chosenBusMode, ConnectionInput.refilled, habsent,
      hnone]

theorem refilled_strictCrc (hfits : input.Fits protocol transport editing) :
    (input.refilled protocol transport debugPanel).strictCrc.getD
        defaultStrictCrc =
      input.strictCrc.getD defaultStrictCrc := by
  apply getD_refill defaultStrictCrc
  simpa using hfits.strictCrc

end Shown

/-- What an edit that changes nothing leaves of the options: a blank broadcast
address becomes the default, and the debug panel is spelled out. -/
def DeviceOptions.kept (options : DeviceOptions) : DeviceOptions :=
  { options with
    eybondBroadcast :=
      options.eybondBroadcast.map fun broadcast =>
        orElse broadcast defaultEybondBroadcast
    debugPanel := some (options.debugPanel.getD defaultDebugPanel) }

theorem refilled_options {protocol : Protocol} {transport : Transport}
    {input : ConnectionInput} {editing : Bool}
    (hfits : input.Fits protocol transport editing) :
    (input.refilled protocol transport
        ((input.options protocol transport editing).debugPanel.getD
          defaultDebugPanel)).options protocol transport true =
      (input.options protocol transport editing).kept := by
  simp only [ConnectionInput.options, DeviceOptions.kept,
    refilled_form hfits, refilled_portNumber hfits, refilled_devaddr hfits,
    refilled_strictCrc hfits, refilled_busMode hfits,
    buildDeviceUri_broadcast]
  rfl

/-- The connection form that an options flow shows. -/
def Flow.shownForm (flow : Flow) (options : DeviceOptions) :
    Option ConnectionInput :=
  flow.defaults.map fun defaults =>
    defaults.shown flow.protocol flow.transport
      (options.debugPanel.getD defaultDebugPanel)

/-- The forms of a flow that has just opened, handed on as they are shown. -/
def Flow.unchangedEdit (flow : Flow) (fid : ℕ) (shown : ConnectionInput) :
    List FlowEvent :=
  (if flow.step = .menu then [.chooseEdit fid] else []) ++
    [.submitProtocol fid flow.protocol.text,
      .submitTransport fid flow.transport.text,
      .submitConnection fid shown]

section Edit

variable {world : FlowWorld} {flow next : Flow} {id : ℕ}
  {protocol : Protocol} {transport : Transport} {input : ConnectionInput}
  {editing : Bool}

@[simp] theorem FlowWorld.opened_flow :
    (world.opened flow).flows[world.flows.length]? = some flow :=
  List.getElem?_concat_length

@[simp] theorem FlowWorld.opened_setFlow :
    (world.opened flow).setFlow world.flows.length next =
      world.opened next := by
  simp [FlowWorld.opened, FlowWorld.setFlow]

theorem openOptions_written
    (hoffered : transport ∈ transportsByProtocol protocol)
    (hopen : Flow.openOptions id (input.options protocol transport editing) =
      some flow) :
    flow.protocol = protocol ∧ flow.transport = transport ∧
      flow.entry = some id ∧
      (flow.step = .menu ∨ flow.step = .protocol) ∧
      ∃ parsed, flow.defaults = some
        (.load (input.options protocol transport editing) parsed) := by
  simp only [Flow.openOptions, Option.bind_eq_bind,
    Option.bind_eq_some_iff] at hopen
  obtain ⟨parsed, -, hflow⟩ := hopen
  have hpair : normalizeProtocolTransport
      ((input.options protocol transport editing).protocol.or
        parsed.protocol.text)
      ((input.options protocol transport editing).transport.or
        parsed.transport.text) = (protocol, transport) :=
    normalizeProtocolTransport_offered hoffered
  rw [hpair] at hflow
  cases hflow
  exact ⟨rfl, rfl, rfl, ite_eq_or_eq _ _ _, parsed, rfl⟩

theorem chooseEdit_opened :
    (world.opened { flow with step := .menu }).step
        (.chooseEdit world.flows.length) =
      some (world.opened { flow with step := .protocol }) := by
  simp [FlowWorld.step]

theorem submitProtocol_opened
    (hoffered : flow.transport ∈ transportsByProtocol flow.protocol) :
    (world.opened { flow with step := .protocol }).step
        (.submitProtocol world.flows.length flow.protocol.text) =
      some (world.opened { flow with step := .transport }) := by
  have hknown : flow.protocol.text ∈ protocols.map Protocol.text := by
    cases flow.protocol <;> decide
  simp [FlowWorld.step, hknown, Flow.normalize,
    normalizeProtocolTransport_offered hoffered]

theorem submitTransport_opened
    (hoffered : flow.transport ∈ transportsByProtocol flow.protocol) :
    (world.opened { flow with step := .transport }).step
        (.submitTransport world.flows.length flow.transport.text) =
      some (world.opened { flow with step := .connection }) := by
  have hknown : flow.transport.text ∈
      (transportsByProtocol flow.protocol).map Transport.text :=
    List.mem_map_of_mem hoffered
  simp only [FlowWorld.step, FlowWorld.opened_flow, Option.bind_eq_bind,
    Option.bind_some, hknown, and_self, if_true, FlowWorld.opened_setFlow,
    Flow.normalize, normalizeProtocolTransport_offered hoffered]

theorem createEntry_opened {options : DeviceOptions} (flow : Flow)
    (hedited : flow.entry = some id) :
    (world.opened flow).createEntry flow options =
      FlowWorld.opened
        { world with
          entries := world.entries.modify id fun entry =>
            { entry with options := options } } flow := by
  rw [FlowWorld.createEntry, hedited]
  rfl

theorem submitConnection_opened
    (hoffered : flow.transport ∈ transportsByProtocol flow.protocol)
    (hedited : flow.entry = some id)
    (hfits : input.Fits flow.protocol flow.transport true)
    (herrors : input.errors flow.protocol flow.transport = []) :
    (world.opened { flow with step := .connection }).step
        (.submitConnection world.flows.length input) =
      some (FlowWorld.opened
        { world with
          entries := world.entries.modify id fun entry =>
            { entry with
              options := input.options flow.protocol flow.transport true } }
        { flow with step := .closed }) := by
  have hediting : flow.entry.isSome = true := by
    rw [hedited, Option.isSome_some]
  simp only [FlowWorld.step, FlowWorld.opened_flow, Option.bind_eq_bind,
    Option.bind_some, hediting, hfits, and_self, if_true,
    FlowWorld.submitConnection, normalizeProtocolTransport_offered hoffered,
    herrors]
  rw [createEntry_opened { flow with step := .connection } hedited]
  exact congrArg some FlowWorld.opened_setFlow

theorem unchangedEdit_executes
    (hoffered : flow.transport ∈ transportsByProtocol flow.protocol)
    (hstep : flow.step = .menu ∨ flow.step = .protocol)
    (hedited : flow.entry = some id)
    (hfits : input.Fits flow.protocol flow.transport true)
    (herrors : input.errors flow.protocol flow.transport = []) :
    execute FlowWorld.step (world.opened flow)
        (flow.unchangedEdit world.flows.length input) =
      some (FlowWorld.opened
        { world with
          entries := world.entries.modify id fun entry =>
            { entry with
              options := input.options flow.protocol flow.transport true } }
        { flow with step := .closed }) := by
  rcases hstep with hmenu | hprotocol
  · have hflow : flow = { flow with step := .menu } := by
      rw [← hmenu]
    rw [hflow]
    simp [Flow.unchangedEdit, execute, chooseEdit_opened,
      submitProtocol_opened hoffered, submitTransport_opened hoffered,
      submitConnection_opened hoffered hedited hfits herrors]
  · have hflow : flow = { flow with step := .protocol } := by
      rw [← hprotocol]
    rw [hflow]
    simp [Flow.unchangedEdit, execute,
      submitProtocol_opened hoffered, submitTransport_opened hoffered,
      submitConnection_opened hoffered hedited hfits herrors]

end Edit

/-- Handing on every form as it is shown keeps an entry whose options a form
has written, whatever else is entered before. -/
theorem unchanged_edit_of_run {legacy : List DeviceEntry}
    {events : List FlowEvent} {world : FlowWorld}
    (hrun : Run (graph FlowWorld.step) ⟨legacy, []⟩ events world)
    {id : ℕ} {entry : DeviceEntry} {flow : Flow}
    (hentry : world.entries[id]? = some entry)
    (hlegacy : legacy[id]? = some entry → entry.options.Written)
    (hopen : Flow.openOptions id entry.options = some flow) :
    ∃ shown, flow.shownForm entry.options = some shown ∧
      Run (graph FlowWorld.step) world
        (.startOptions id :: flow.unchangedEdit world.flows.length shown)
        { entries :=
            world.entries.set id { entry with options := entry.options.kept }
          flows := world.flows ++ [{ flow with step := .closed }] } := by
  have hwritten : entry.options.Written := by
    rcases (sound_of_run hrun).written id entry hentry with hold | hnew
    · exact hlegacy hold
    · exact hnew
  obtain ⟨protocol, transport, input, editing, hoffered, hfits, herrors,
    hoptions⟩ := hwritten
  have hstart : world.step (.startOptions id) = some (world.opened flow) := by
    simp [FlowWorld.step, hentry, hopen]
  rw [hoptions] at hopen ⊢
  obtain ⟨rfl, rfl, hedited, hstep, parsed, hdefaults⟩ :=
    openOptions_written hoffered hopen
  refine ⟨input.refilled flow.protocol flow.transport
    ((input.options flow.protocol flow.transport editing).debugPanel.getD
      defaultDebugPanel), ?_, ?_⟩
  · rw [Flow.shownForm, hdefaults]
    exact congrArg some (shown_eq_refilled hfits hoffered herrors parsed)
  · apply run_of_execute
    simp only [execute, hstart, Option.bind_some]
    rw [unchangedEdit_executes hoffered hstep hedited (refilled_fits hfits)
      (refilled_errors hfits hoffered herrors), refilled_options hfits,
      List.modify_eq_set_getElem?, hentry]
    rfl

def roofFlow : Flow :=
  (Flow.openOptions 1 roofEntry.options).get (by decide +kernel)

theorem unchanged_edit_of_run_dongle :
    ∃ shown, roofFlow.shownForm roofEntry.options = some shown ∧
      Run (graph FlowWorld.step) afterSetup
        (.startOptions 1 ::
          roofFlow.unchangedEdit afterSetup.flows.length shown)
        { entries :=
            afterSetup.entries.set 1
              { roofEntry with options := roofEntry.options.kept }
          flows := afterSetup.flows ++ [{ roofFlow with step := .closed }] } := by
  have hrun : Run (graph FlowWorld.step) ⟨[legacyEntry], []⟩ _ afterSetup :=
    run_of_execute (Option.some_get _).symm
  exact unchanged_edit_of_run hrun (Option.some_get _).symm nofun
    (Option.some_get _).symm

end ConfigFlow
end DessMonitor
