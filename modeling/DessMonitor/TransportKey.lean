import DessMonitor.DeviceAdapter
import DessMonitor.Foundation.IntText

/-!
# One queue for one endpoint

A key names the endpoint together with the scheme it was written with, and a
serial port under `pi18-serial://` by what a URL has for its path.  Keys
therefore tell endpoints apart up to such paths, but one endpoint may have
several, and a name that makes no URL has none.
-/

namespace DessMonitor
namespace Device

open PyString Url

/-! ## Forms -/

theorem NetworkScheme.isScheme (scheme : NetworkScheme) :
    IsScheme scheme.name := by
  cases scheme <;> constructor <;> decide

theorem isScheme_pi18Serial : IsScheme "pi18-serial".toList := by
  constructor <;> decide

def Form.text : Form → List Char
  | .network scheme address => scheme.name ++ ':' :: '/' :: '/' :: address
  | .bare name => name
  | .pi18Serial name => "pi18-serial".toList ++ ':' :: '/' :: '/' :: name

theorem append_drop_of_startsWith {uri start : String}
    (hstart : startsWith uri start = true) :
    start.toList ++ uri.toList.drop start.toList.length = uri.toList := by
  unfold startsWith at hstart
  rw [List.isPrefixOf_iff_prefix] at hstart
  exact List.prefix_iff_eq_append.mp hstart

/-- Every text has a form. -/
theorem text_formOf (uri : String) : (formOf uri).text = uri.toList := by
  unfold formOf
  split
  next hstart => exact append_drop_of_startsWith hstart
  split
  next hstart => exact append_drop_of_startsWith hstart
  split
  next hstart => exact append_drop_of_startsWith hstart
  split
  next hstart => exact append_drop_of_startsWith hstart
  split
  next hstart => exact append_drop_of_startsWith hstart
  rfl

theorem eq_ofList_of_formOf {uri : String} {form : Form}
    (hform : formOf uri = form) : uri = .ofList form.text := by
  rw [← hform, text_formOf, String.ofList_toList]

/-! ## Addresses -/

/-- A direct address is a host and a number around the only colon. -/
theorem parseHostPort_eq_some {marker : String} {address host : List Char}
    {port : ℤ}
    (hparse : parseHostPort marker (.ofList (marker.toList ++ address)) =
      some (host, port)) :
    ∃ digits, address = host ++ ':' :: digits ∧ ':' ∉ host ∧
      toInt? digits = some port := by
  unfold parseHostPort at hparse
  rw [String.toList_ofList, splitOnce_append] at hparse
  dsimp only [Option.bind_eq_bind, Option.bind_some] at hparse
  split at hparse
  case h_2 => cases hparse
  case h_1 left digits hparts =>
  obtain ⟨hsplit, hclean, -⟩ := split_eq_pair hparts
  obtain ⟨number, hnumber, heq⟩ := Option.map_eq_some_iff.mp hparse
  obtain ⟨rfl, rfl⟩ := Prod.mk.inj heq
  exact ⟨digits, hsplit, hclean, hnumber⟩

theorem isHostChar_of_toLower {c : Char}
    (hlower : isHostChar c.toLower = true) : isHostChar c = true := by
  unfold Char.toLower at hlower
  split at hlower
  next hupper =>
    have hletter : isAsciiLetter c = true := by
      have hhigh : c.toNat ≤ 90 := hupper.2
      unfold isAsciiLetter
      rw [Bool.and_eq_true]
      exact ⟨decide_eq_true (by omega),
        (Bool.or_eq_true _ _).mpr (.inl (decide_eq_true hupper))⟩
    simp [isHostChar, hletter]
  next => exact hlower

section Direct

variable {host digits : List Char} {port : ℤ}

theorem cutAuthority_direct (hhost : ∀ c ∈ host, isHostChar c = true)
    (hport : toInt? digits = some port) :
    cutAuthority (host ++ ':' :: digits) =
      host ++ ':' :: digits.filter isKept := by
  have hkept : host.filter isKept = host := by
    apply filter_kept
    intro c hmem
    exact (toNat_of_isPlain (isPlain_of_isHostChar (hhost c hmem))).1
  have hcolon : isKept ':' = true := by
    decide
  have hcontinues : ∀ c ∈ host ++ ':' :: digits.filter isKept,
      (!isDelimiter c) = true := by
    intro c hmem
    rw [Bool.not_eq_true']
    rcases List.mem_append.mp hmem with hmem | hmem
    · exact not_isDelimiter_of_isPlain (isPlain_of_isHostChar (hhost c hmem))
    · rcases List.mem_cons.mp hmem with rfl | hmem
      · decide
      · have hdigit := List.mem_of_mem_filter hmem
        unfold isDelimiter
        rw [decide_eq_false_iff_not]
        rintro (rfl | rfl | rfl) <;>
          exact notMem_of_toInt? hport (by decide) (by decide) hdigit
  unfold cutAuthority
  rw [List.filter_append, hkept, List.filter_cons_of_pos hcolon,
    List.takeWhile_eq_self_iff.mpr hcontinues]

theorem isReadable_direct (hhost : ∀ c ∈ host, isHostChar c = true)
    (hport : toInt? digits = some port) :
    isReadable (host ++ ':' :: digits) = true := by
  have hbracket : ∀ c, isHostChar c = false → c ≠ ':' →
      isNumeral c = false → isIntSpace c = false →
        (host ++ ':' :: digits).contains c = false := by
    intro c hname hcolon hnumeral hspace
    rw [List.contains_eq_mem, decide_eq_false_iff_not, List.mem_append,
      List.mem_cons]
    rintro (hmem | rfl | hmem)
    · exact notMem_of_isHostChar hhost hname hmem
    · exact hcolon rfl
    · exact notMem_of_toInt? hport hnumeral hspace hmem
  have hopening := hbracket '[' (by decide) (by decide) (by decide) (by decide)
  have hclosing := hbracket ']' (by decide) (by decide) (by decide) (by decide)
  have hascii : ∀ c ∈ host, c.toNat < 0x80 := by
    intro c hmem
    have hplain := toNat_of_isPlain (isPlain_of_isHostChar (hhost c hmem))
    omega
  rw [isReadable_iff, hopening, hclosing, List.any_append, List.any_cons,
    not_hidesDelimiter_of_ascii hascii, not_hidesDelimiter_of_toInt? hport]
  simp [hidesDelimiter]

end Direct

/-- The address that stands in a lowered authority. -/
def NetworkScheme.target (scheme : NetworkScheme) (lowered : List Char) :
    List Char × Option ℤ :=
  match scheme with
  | .agent =>
      ((hostinfo lowered).1, some (PyFloat.digitsValue (hostinfo lowered).2))
  | _ => ((partition ':' lowered).1, toInt? (partition ':' lowered).2.2)

/-- An authority that is read, and the endpoint that it names. -/
structure Names (scheme : NetworkScheme) (address : List Char)
    (endpoint : Endpoint) : Prop where
  readable : isReadable (cutAuthority address) = true
  named : ∃ host port, endpoint = .network host port ∧
    scheme.target (lower (cutAuthority address)) = (host, some port)

section Network

variable {address : List Char} {endpoint : Endpoint}

theorem forall_of_isReachable {host : List Char} {port : ℤ}
    (hreachable : (Endpoint.network host port).isReachable = true) :
    ∀ c ∈ host, isHostChar c = true := by
  simp only [Endpoint.isReachable, Bool.and_eq_true] at hreachable
  exact List.all_eq_true.mp hreachable.1.1.2

/-- The port keeps its number when the URL loses its spaces. -/
theorem names_of_direct {scheme : NetworkScheme} {marker : String}
    (hscheme : scheme ≠ .agent)
    (hopens : (parseHostPort marker
      (.ofList (marker.toList ++ address))).map networkEndpoint =
        some endpoint)
    (hreachable : endpoint.isReachable = true) :
    Names scheme address endpoint := by
  obtain ⟨⟨host, port⟩, hparse, rfl⟩ := Option.map_eq_some_iff.mp hopens
  obtain ⟨digits, rfl, hclean, hport⟩ := parseHostPort_eq_some hparse
  have hhost : ∀ c ∈ host, isHostChar c = true := by
    intro c hmem
    exact isHostChar_of_toLower (forall_of_isReachable hreachable c.toLower
      (List.mem_map_of_mem hmem))
  have hspace : ∀ c, isIntSpace c = false → isKept c = true := by
    intro c hnot
    unfold isKept
    rw [decide_eq_true_eq]
    refine ⟨?_, ?_, ?_⟩ <;> rintro rfl <;> exact absurd hnot (by decide)
  have hkept := toInt?_filter hspace hport
  have hcut := cutAuthority_direct hhost hport
  have hcolon : ':' ∉ host.map Char.toLower := by
    intro hmem
    obtain ⟨c, hchar, hlower⟩ := List.mem_map.mp hmem
    obtain rfl := eq_of_toLower_eq hlower (by decide)
    exact hclean hchar
  have hparts : partition ':'
      (lower (host ++ ':' :: digits.filter isKept)) =
        (lower host, true, digits.filter isKept) := by
    have hmark : Char.toLower ':' = ':' := by
      decide
    unfold lower
    rw [List.map_append, List.map_cons, hmark, toLower_of_toInt? hkept,
      partition_append hcolon]
  constructor
  · rw [hcut]
    exact isReadable_direct hhost hkept
  · refine ⟨lower host, port, rfl, ?_⟩
    unfold NetworkScheme.target
    cases scheme with
    | agent => exact absurd rfl hscheme
    | tcp | pi18 | modbus =>
        dsimp only
        rw [hcut, hparts, hkept]

/-- Without a zone the host name is the lowered host. -/
theorem lower_hostinfo_of_hostname {parsed : ParseResult}
    (hzone : '%' ∉ Url.hostname parsed) :
    lower (hostinfo parsed.netloc).1 = Url.hostname parsed := by
  have hparts := partition_append_self '%' (hostinfo parsed.netloc).1
  unfold Url.hostname at hzone ⊢
  dsimp only at hzone ⊢
  cases hzoned : (partition '%' (hostinfo parsed.netloc).1).2.1 with
  | true =>
      rw [hzoned, if_pos rfl] at hzone
      simp at hzone
  | false =>
      rw [hzoned, if_neg Bool.false_ne_true, List.append_nil] at hparts
      rw [if_neg Bool.false_ne_true, List.append_nil, hparts]
      rfl

/-- A port that is not zero is written in digits. -/
theorem of_port {parsed : ParseResult} {number : ℕ} {port : Option ℕ}
    (hport : Url.port parsed = some port) (hnumber : port.getD 0 = number)
    (hpositive : number ≠ 0) :
    lower (hostinfo parsed.netloc).2 = (hostinfo parsed.netloc).2 ∧
      PyFloat.digitsValue (hostinfo parsed.netloc).2 = number := by
  unfold Url.port at hport
  dsimp only at hport
  split at hport
  · obtain rfl := Option.some.inj hport
    exact absurd hnumber.symm hpositive
  split at hport
  case isFalse => cases hport
  case isTrue hdigits =>
  obtain rfl := Option.some.inj hport
  refine ⟨?_, hnumber⟩
  have hsame : ∀ c ∈ (hostinfo parsed.netloc).2, Char.toLower c = id c := by
    intro c hmem
    have hrange := (isDigit_iff c).mp (List.all_eq_true.mp hdigits.1 c hmem)
    have hsmall : c.toNat < 65 := by
      omega
    exact (toLower_eq_iff hsmall c).mpr rfl
  unfold lower
  rw [List.map_congr_left hsame, List.map_id]

theorem names_of_agent
    (hopens : ((parseAgentUri (.ofList
      (Form.text (.network .agent address)))).map
        fun (host, port, _) => Endpoint.network host port) = some endpoint)
    (hreachable : endpoint.isReachable = true) :
    Names .agent address endpoint := by
  obtain ⟨⟨host, number, providerDeviceId⟩, hparse, rfl⟩ :=
    Option.map_eq_some_iff.mp hopens
  unfold parseAgentUri Form.text at hparse
  rw [urlparse_eq NetworkScheme.agent.isScheme] at hparse
  by_cases hreadable : isReadable (cutAuthority address) = true
  case neg =>
    rw [if_neg hreadable] at hparse
    cases hparse
  rw [if_pos hreadable] at hparse
  simp only [Option.bind_eq_bind, Option.bind_some,
    Option.bind_eq_some_iff] at hparse
  obtain ⟨port, hport, hparse⟩ := hparse
  split at hparse
  · cases hparse
  next hvalid =>
  obtain ⟨hname, hrest⟩ := Prod.mk.inj (Option.some.inj hparse)
  obtain ⟨hnumber, -⟩ := Prod.mk.inj hrest
  simp only [not_or] at hvalid
  obtain ⟨hlowered, hvalue⟩ := of_port hport hnumber
    (hnumber ▸ hvalid.2.2.1)
  have hzone : '%' ∉ host := by
    intro hmem
    exact absurd (forall_of_isReachable hreachable '%' hmem) (by decide)
  rw [← hname] at hzone
  have hhost := lower_hostinfo_of_hostname hzone
  refine ⟨hreadable, host, number, rfl, ?_⟩
  have hlower : hostinfo (lower (cutAuthority address)) =
      (lower (hostinfo (cutAuthority address)).1,
        lower (hostinfo (cutAuthority address)).2) :=
    hostinfo_lower (cutAuthority address)
  unfold NetworkScheme.target
  dsimp only
  rw [hlower, hlowered, hvalue]
  exact congrArg₂ Prod.mk (hhost.trans hname) rfl

end Network

/-! ## What a form opens -/

section Opens

variable {uri : String} {endpoint : Endpoint}

theorem startsWith_form (form : Form) (start : String) :
    startsWith (.ofList form.text) start = start.toList.isPrefixOf form.text :=
  startsWith_ofList _ start

theorem names_of_opens {scheme : NetworkScheme} {address : List Char}
    (hopens : opens (.ofList (Form.text (.network scheme address))) =
      some endpoint)
    (hreachable : endpoint.isReachable = true) :
    Names scheme address endpoint := by
  unfold opens at hopens
  -- The three direct schemes differ in the adapter and in the marker.
  cases scheme with
  | tcp =>
      have hadapter : getAdapter (.ofList (Form.text (.network .tcp address))) =
          .voltronic := getAdapter_tcp address
      rw [hadapter] at hopens
      dsimp only at hopens
      have hstart : startsWith (.ofList (Form.text (.network .tcp address)))
          "tcp://" = true := startsWith_form _ _
      rw [if_pos hstart] at hopens
      exact names_of_direct (by decide) hopens hreachable
  | pi18 =>
      have hadapter : getAdapter (.ofList (Form.text (.network .pi18 address))) =
          .pi18 := getAdapter_pi18 address
      rw [hadapter] at hopens
      dsimp only at hopens
      have hstart : startsWith (.ofList (Form.text (.network .pi18 address)))
          "pi18://" = true := startsWith_form _ _
      rw [if_pos hstart] at hopens
      exact names_of_direct (by decide) hopens hreachable
  | modbus =>
      have hadapter : getAdapter
          (.ofList (Form.text (.network .modbus address))) = .modbus :=
        getAdapter_modbus address
      rw [hadapter] at hopens
      dsimp only at hopens
      rw [startsWith_form, if_neg (by exact Bool.false_ne_true)] at hopens
      exact names_of_direct (by decide) hopens hreachable
  | agent =>
      have hadapter : getAdapter (.ofList (Form.text (.network .agent address))) =
          .agent := getAdapter_agent address
      rw [hadapter] at hopens
      exact names_of_agent hopens hreachable

theorem opens_pi18Serial (name : List Char) :
    opens (.ofList (Form.text (.pi18Serial name))) = some (.serial name) := by
  have hadapter : getAdapter (.ofList (Form.text (.pi18Serial name))) = .pi18 :=
    getAdapter_pi18Serial name
  have hparse : parsePi18SerialUri (.ofList (Form.text (.pi18Serial name))) =
      some name := parsePi18SerialUri_append name
  unfold opens
  rw [hadapter]
  dsimp only
  rw [startsWith_form, if_neg (by exact Bool.false_ne_true), hparse]
  rfl

/-- A text that starts with none of the schemes is a serial port, or the URI of
an EyBond device. -/
theorem eq_serial_of_bare {name : List Char} (hform : formOf uri = .bare name)
    (hopens : opens uri = some endpoint) :
    name = uri.toList ∧ endpoint = .serial uri.toList := by
  have htext := text_formOf uri
  rw [hform] at htext
  unfold formOf at hform
  split at hform
  · cases hform
  next htcp =>
  split at hform
  · cases hform
  next hpi18 =>
  split at hform
  · cases hform
  next hmodbus =>
  split at hform
  · cases hform
  next hagent =>
  split at hform
  · cases hform
  next hserial =>
  refine ⟨htext, ?_⟩
  have hadapter : getAdapter uri =
      if startsWith uri "eybond-modbus://" then .modbus
      else if startsWith uri "eybond://" || startsWith uri "eybond-pi18://" then
        .eybond
      else .voltronic := by
    unfold getAdapter
    simp only [hagent, hmodbus, hpi18, hserial, Bool.false_or, Bool.false_eq_true,
      if_false, Bool.or_self]
  unfold opens at hopens
  rw [hadapter] at hopens
  by_cases heybondModbus : startsWith uri "eybond-modbus://" = true
  · rw [if_pos heybondModbus] at hopens
    dsimp only at hopens
    rw [if_pos heybondModbus] at hopens
    cases hopens
  rw [if_neg heybondModbus] at hopens
  by_cases heybond :
      (startsWith uri "eybond://" || startsWith uri "eybond-pi18://") = true
  · rw [if_pos heybond] at hopens
    cases hopens
  rw [if_neg heybond] at hopens
  dsimp only at hopens
  rw [if_neg htcp] at hopens
  exact (Option.some.inj hopens).symm

end Opens

/-! ## Keys -/

/-- A serial name may fail to be a URL behind `pi18-serial://`. -/
def Form.isReadable : Form → Bool
  | .pi18Serial name => Url.isReadable (cutAuthority name)
  | _ => true

def Form.kind : Form → List Char
  | .network scheme _ => scheme.name
  | _ => "serial".toList

/-- What a key has behind its kind. -/
def Form.identity : Form → List Char
  | .network _ address => lower (cutAuthority address)
  | .bare name => name
  | .pi18Serial name =>
      if cutPath name = [] then Form.text (.pi18Serial name) else cutPath name

theorem Form.colon_notMem_kind (form : Form) : ':' ∉ form.kind := by
  cases form with
  | network scheme address => exact scheme.isScheme.colon_notMem
  | bare name | pi18Serial name =>
      change ':' ∉ "serial".toList
      decide

theorem ne_empty_of_contains {text part : List Char} (hpart : part ≠ [])
    (hcontains : contains text part = true) : String.ofList text ≠ "" := by
  apply ofList_ne_empty
  rintro rfl
  cases part with
  | nil => exact hpart rfl
  | cons c part => cases hcontains

/-- A text with a scheme is keyed by its URL. -/
theorem transportKey_of_scheme {scheme body : List Char} :
    transportKey (.ofList (scheme ++ ':' :: '/' :: '/' :: body)) =
      (urlparse (.ofList (scheme ++ ':' :: '/' :: '/' :: body))).bind
        fun parsed =>
          let uri := String.ofList (scheme ++ ':' :: '/' :: '/' :: body)
          let scheme := String.ofList parsed.scheme
          if scheme ∈ ["eybond", "eybond-pi18", "eybond-modbus"] then
            some (.ofList ("eybond:".toList ++ orUri parsed.netloc uri))
          else if scheme ∈ ["tcp", "pi18", "modbus", "agent"] then
            some (.ofList (parsed.scheme ++ ':' :: lower parsed.netloc))
          else if scheme ∈ ["pi18-serial", "serial"] then
            some (.ofList ("serial:".toList ++ orUri parsed.path uri))
          else some uri := by
  have hmarker : contains (scheme ++ ':' :: '/' :: '/' :: body)
      "://".toList = true := contains_append scheme "://".toList body
  have hnonempty := ne_empty_of_contains (by decide) hmarker
  unfold transportKey
  rw [if_neg hnonempty, String.toList_ofList, hmarker, if_neg (by decide)]
  rfl

theorem transportKey_network (scheme : NetworkScheme) {address : List Char}
    (hreadable : isReadable (cutAuthority address) = true) :
    transportKey (.ofList (Form.text (.network scheme address))) =
      some (.ofList (scheme.name ++ ':' :: lower (cutAuthority address))) := by
  unfold Form.text
  dsimp only
  rw [transportKey_of_scheme, urlparse_eq scheme.isScheme,
    if_pos hreadable]
  cases scheme <;> rfl

theorem transportKey_bare {name : List Char} (hnonempty : name ≠ [])
    (hbare : contains name "://".toList = false) :
    transportKey (.ofList name) =
      some (.ofList ("serial".toList ++ ':' :: name)) := by
  unfold transportKey
  rw [if_neg (ofList_ne_empty hnonempty), String.toList_ofList, if_pos hbare]
  rfl

theorem transportKey_pi18Serial (name : List Char) :
    transportKey (.ofList (Form.text (.pi18Serial name))) =
      if isReadable (cutAuthority name) then
        some (.ofList ("serial".toList ++ ':' ::
          Form.identity (.pi18Serial name)))
      else none := by
  have hidentity : orUri (cutPath name)
      (.ofList (Form.text (.pi18Serial name))) =
        Form.identity (.pi18Serial name) := by
    unfold orUri Form.identity
    rw [String.toList_ofList]
  rw [← hidentity]
  unfold Form.text
  dsimp only
  rw [transportKey_of_scheme, urlparse_eq isScheme_pi18Serial]
  split <;> rfl

/-! ## Devices -/

theorem of_isReachable_serial {path : List Char}
    (hreachable : (Endpoint.serial path).isReachable = true) :
    path ≠ [] ∧ contains path "://".toList = false := by
  simp only [Endpoint.isReachable, Bool.and_eq_true, decide_eq_true_eq,
    Bool.not_eq_true'] at hreachable
  exact ⟨hreachable.1.1, hreachable.2⟩

/-- What is known of an endpoint from the form of its text. -/
def Form.Stands (form : Form) (endpoint : Endpoint) : Prop :=
  match form with
  | .network scheme _ =>
      ∃ host port, endpoint = .network host port ∧
        scheme.target form.identity = (host, some port)
  | .bare name | .pi18Serial name =>
      endpoint = .serial name ∧ name ≠ [] ∧ contains name "://".toList = false

namespace DeviceUri

variable (uri : DeviceUri)

def form : Form := formOf uri.text

/-- A device is opened as its form says, and keyed as its form says. -/
theorem form_spec :
    uri.form.Stands uri.endpoint ∧
      transportKey uri.text =
        if uri.form.isReadable then
          some (.ofList (uri.form.kind ++ ':' :: uri.form.identity))
        else none := by
  have hopened := uri.opened
  have hreachable := uri.reachable
  have htext : uri.text = .ofList (formOf uri.text).text :=
    eq_ofList_of_formOf rfl
  unfold form
  cases hform : formOf uri.text with
  | network scheme address =>
      rw [hform] at htext
      rw [htext] at hopened ⊢
      have hnames := names_of_opens hopened hreachable
      exact ⟨hnames.named, transportKey_network scheme hnames.readable⟩
  | bare name =>
      obtain ⟨rfl, hserial⟩ := eq_serial_of_bare hform hopened
      rw [hserial] at hreachable
      obtain ⟨hnonempty, hbare⟩ := of_isReachable_serial hreachable
      refine ⟨⟨hserial, hnonempty, hbare⟩, ?_⟩
      have hkey := transportKey_bare hnonempty hbare
      rw [String.ofList_toList] at hkey
      exact hkey
  | pi18Serial name =>
      rw [hform] at htext
      rw [htext] at hopened ⊢
      rw [opens_pi18Serial] at hopened
      obtain heq := Option.some.inj hopened
      rw [← heq] at hreachable ⊢
      exact ⟨⟨rfl, of_isReachable_serial hreachable⟩,
        transportKey_pi18Serial name⟩

end DeviceUri

/-! ## One endpoint, one key -/

/-- Two URIs share a key when they share an endpoint, and only then. -/
def KeyedAlike (left right : DeviceUri) : Prop :=
  ∃ key key', transportKey left.text = some key ∧
    transportKey right.text = some key' ∧
      (key = key' ↔ left.endpoint = right.endpoint)

/-- A bare name and one under `pi18-serial://` that are keyed as one port
though they are two, or the other way round, or the latter is no URL. -/
def Mistaken (name other : List Char) : Prop :=
  isReadable (cutAuthority other) = false ∨
    (cutPath other ≠ other ∧ (name = other ∨ name = cutPath other))

/-- The URIs whose keys say something else than their endpoints: an endpoint
under two schemes or with its authority written in two ways, and serial ports
under `pi18-serial://` whose name is no URL or not the path of one. -/
def Confused (left right : DeviceUri) : Prop :=
  match left.form, right.form with
  | .network scheme address, .network scheme' address' =>
      left.endpoint = right.endpoint ∧
        (scheme ≠ scheme' ∨
          lower (cutAuthority address) ≠ lower (cutAuthority address'))
  | .network _ _, .pi18Serial name | .pi18Serial name, .network _ _ =>
      isReadable (cutAuthority name) = false
  | .bare name, .pi18Serial other | .pi18Serial other, .bare name =>
      Mistaken name other
  | .pi18Serial name, .pi18Serial other =>
      isReadable (cutAuthority name) = false ∨
        isReadable (cutAuthority other) = false ∨
          (name ≠ other ∧ cutPath name = cutPath other ∧ cutPath name ≠ [])
  | _, _ => False

theorem keyedAlike_iff (left right : DeviceUri) :
    KeyedAlike left right ↔
      left.form.isReadable = true ∧ right.form.isReadable = true ∧
        (left.form.kind = right.form.kind ∧
          left.form.identity = right.form.identity ↔
            left.endpoint = right.endpoint) := by
  have hleft := left.form_spec.2
  have hright := right.form_spec.2
  unfold KeyedAlike
  rw [hleft, hright]
  have hkeys : String.ofList (left.form.kind ++ ':' :: left.form.identity) =
      .ofList (right.form.kind ++ ':' :: right.form.identity) ↔
        left.form.kind = right.form.kind ∧
          left.form.identity = right.form.identity := by
    rw [String.ofList_inj, append_separator_inj left.form.colon_notMem_kind
      right.form.colon_notMem_kind]
  rw [← hkeys]
  constructor
  · rintro ⟨key, key', hkey, hkey', hiff⟩
    obtain ⟨hreadable, heq⟩ := Option.ite_none_right_eq_some.mp hkey
    obtain ⟨hreadable', heq'⟩ := Option.ite_none_right_eq_some.mp hkey'
    rw [← Option.some.inj heq, ← Option.some.inj heq'] at hiff
    exact ⟨hreadable, hreadable', hiff⟩
  · rintro ⟨hreadable, hreadable', hiff⟩
    exact ⟨_, _, if_pos hreadable, if_pos hreadable', hiff⟩

theorem NetworkScheme.name_inj {scheme scheme' : NetworkScheme} :
    scheme.name = scheme'.name ↔ scheme = scheme' := by
  constructor
  · cases scheme <;> cases scheme' <;> decide
  · rintro rfl
    rfl

theorem NetworkScheme.name_ne_serial (scheme : NetworkScheme) :
    scheme.name ≠ "serial".toList := by
  cases scheme <;> decide

section Pairs

variable {left right : DeviceUri}

/-- The key of a service names its address. -/
theorem keyedAlike_network {scheme scheme' : NetworkScheme}
    {address address' : List Char}
    (hleft : left.form = .network scheme address)
    (hright : right.form = .network scheme' address') :
    KeyedAlike left right ↔ ¬ Confused left right := by
  have hstands := left.form_spec.1
  have hstands' := right.form_spec.1
  rw [hleft] at hstands
  rw [hright] at hstands'
  obtain ⟨host, port, hendpoint, htarget⟩ := hstands
  obtain ⟨host', port', hendpoint', htarget'⟩ := hstands'
  rw [keyedAlike_iff]
  unfold Confused
  rw [hleft, hright]
  dsimp only [Form.isReadable, Form.kind, Form.identity] at htarget htarget' ⊢
  rw [NetworkScheme.name_inj]
  have hsame : scheme = scheme' ∧
      lower (cutAuthority address) = lower (cutAuthority address') →
        left.endpoint = right.endpoint := by
    rintro ⟨rfl, hlower⟩
    rw [hlower, htarget'] at htarget
    obtain ⟨rfl, hport⟩ := Prod.mk.inj htarget
    obtain rfl := Option.some.inj hport
    rw [hendpoint, hendpoint']
  tauto

/-- A serial port is not at an address, and its key says so. -/
theorem keyedAlike_serial_of_network {scheme : NetworkScheme}
    {address : List Char} (hleft : left.form = .network scheme address)
    (hkind : right.form.kind = "serial".toList)
    (hserial : ∃ path, right.endpoint = .serial path) :
    KeyedAlike left right ↔ right.form.isReadable = true := by
  have hstands := left.form_spec.1
  rw [hleft] at hstands
  obtain ⟨host, port, hendpoint, -⟩ := hstands
  obtain ⟨path, hpath⟩ := hserial
  have hopened : left.endpoint ≠ right.endpoint := by
    rw [hendpoint, hpath]
    exact Endpoint.noConfusion
  have hkinds : left.form.kind ≠ right.form.kind := by
    rw [hleft, hkind]
    exact scheme.name_ne_serial
  have hreadable : left.form.isReadable = true := by
    rw [hleft]
    rfl
  rw [keyedAlike_iff]
  tauto

/-- Bare names are keyed by themselves. -/
theorem keyedAlike_bare {name other : List Char}
    (hleft : left.form = .bare name) (hright : right.form = .bare other) :
    KeyedAlike left right := by
  have hstands := left.form_spec.1
  have hstands' := right.form_spec.1
  rw [hleft] at hstands
  rw [hright] at hstands'
  rw [keyedAlike_iff, hleft, hright, hstands.1, hstands'.1]
  simp [Form.isReadable, Form.kind, Form.identity]

theorem identity_pi18Serial (name : List Char) :
    Form.identity (.pi18Serial name) =
      if cutPath name = [] then Form.text (.pi18Serial name)
      else cutPath name := rfl

theorem contains_pi18Serial (name : List Char) :
    contains (Form.text (.pi18Serial name)) "://".toList = true :=
  contains_append "pi18-serial".toList "://".toList name

/-- A bare name is the key of another port if it is the path of its URL. -/
theorem eq_identity_iff {name other : List Char} (hnonempty : name ≠ [])
    (hbare : contains name "://".toList = false) :
    name = Form.identity (.pi18Serial other) ↔ name = cutPath other := by
  rw [identity_pi18Serial]
  by_cases hpath : cutPath other = []
  · rw [if_pos hpath, hpath]
    refine iff_of_false ?_ hnonempty
    intro hname
    rw [hname, contains_pi18Serial] at hbare
    cases hbare
  · rw [if_neg hpath]

theorem identity_eq_iff {name other : List Char} :
    Form.identity (.pi18Serial name) = Form.identity (.pi18Serial other) ↔
      name = other ∨ (cutPath name = cutPath other ∧ cutPath name ≠ []) := by
  -- A path starts with a slash, and a whole text with its scheme.
  have hwhole : ∀ name other, cutPath other ≠ [] →
      Form.text (.pi18Serial name) ≠ cutPath other := by
    intro name other hpath hsame
    have hslash := head_cutPath other 'p' (by rw [← hsame]; rfl)
    exact absurd hslash (by decide)
  rw [identity_pi18Serial, identity_pi18Serial]
  by_cases hname : cutPath name = []
  · rw [if_pos hname]
    by_cases hother : cutPath other = []
    · rw [if_pos hother, hname]
      have htext : Form.text (.pi18Serial name) =
          Form.text (.pi18Serial other) ↔ name = other := by
        unfold Form.text
        simp only [List.append_cancel_left_eq, List.cons.injEq, true_and]
      rw [htext]
      simp only [ne_eq, not_true_eq_false, and_false, or_false]
    · rw [if_neg hother]
      refine iff_of_false (hwhole name other hother) ?_
      rintro (rfl | ⟨-, hpath⟩)
      · exact hother hname
      · exact hpath hname
  · rw [if_neg hname]
    by_cases hother : cutPath other = []
    · rw [if_pos hother]
      refine iff_of_false (Ne.symm (hwhole other name hname)) ?_
      rintro (rfl | ⟨hpath, -⟩)
      · exact hname hother
      · exact hname (hpath.trans hother)
    · rw [if_neg hother]
      constructor
      · intro hpath
        exact .inr ⟨hpath, hname⟩
      · rintro (rfl | ⟨hpath, -⟩)
        · rfl
        · exact hpath

theorem keyedAlike_bare_pi18Serial {name other : List Char}
    (hleft : left.form = .bare name)
    (hright : right.form = .pi18Serial other) :
    KeyedAlike left right ↔ ¬ Mistaken name other := by
  have hstands := left.form_spec.1
  have hstands' := right.form_spec.1
  rw [hleft] at hstands
  rw [hright] at hstands'
  obtain ⟨hendpoint, hnonempty, hbare⟩ := hstands
  rw [keyedAlike_iff, hleft, hright, hendpoint, hstands'.1]
  have hkeyed : Form.identity (.bare name) =
      Form.identity (.pi18Serial other) ↔ name = cutPath other :=
    eq_identity_iff hnonempty hbare
  rw [hkeyed, Endpoint.serial.injEq]
  simp only [Form.isReadable, Form.kind, true_and, Mistaken, not_or,
    Bool.not_eq_false]
  have hsame : name = other → name = cutPath other → cutPath other = other := by
    rintro rfl hpath
    exact hpath.symm
  have hpath : cutPath other = other → (name = cutPath other ↔ name = other) := by
    intro heq
    rw [heq]
  tauto

theorem keyedAlike_pi18Serial {name other : List Char}
    (hleft : left.form = .pi18Serial name)
    (hright : right.form = .pi18Serial other) :
    KeyedAlike left right ↔ ¬ Confused left right := by
  have hstands := left.form_spec.1
  have hstands' := right.form_spec.1
  rw [hleft] at hstands
  rw [hright] at hstands'
  rw [keyedAlike_iff]
  unfold Confused
  rw [hleft, hright, hstands.1, hstands'.1, identity_eq_iff,
    Endpoint.serial.injEq]
  simp only [Form.isReadable, Form.kind, true_and, not_or, Bool.not_eq_false]
  tauto

end Pairs

theorem KeyedAlike.symm {left right : DeviceUri}
    (hkeyed : KeyedAlike left right) : KeyedAlike right left := by
  obtain ⟨key, key', hkey, hkey', hiff⟩ := hkeyed
  exact ⟨key', key, hkey', hkey, eq_comm.trans (hiff.trans eq_comm)⟩

theorem keyedAlike_comm {left right : DeviceUri} :
    KeyedAlike left right ↔ KeyedAlike right left :=
  ⟨KeyedAlike.symm, KeyedAlike.symm⟩

/-- Two URIs are keyed alike unless they are among the confused ones. -/
theorem transportKey_alike_iff (left right : DeviceUri) :
    KeyedAlike left right ↔ ¬ Confused left right := by
  have hserial : ∀ {uri : DeviceUri} {name : List Char},
      uri.form = .bare name ∨ uri.form = .pi18Serial name →
        uri.form.kind = "serial".toList ∧
          ∃ path, uri.endpoint = .serial path := by
    intro uri name hform
    have hstands := uri.form_spec.1
    rcases hform with hform | hform <;> rw [hform] at hstands ⊢ <;>
      exact ⟨rfl, name, hstands.1⟩
  cases hleft : left.form with
  | network scheme address =>
      cases hright : right.form with
      | network scheme' address' => exact keyedAlike_network hleft hright
      | bare name =>
          obtain ⟨hkind, hpath⟩ := hserial (.inl hright)
          rw [keyedAlike_serial_of_network hleft hkind hpath]
          unfold Confused
          rw [hleft, hright]
          simp [Form.isReadable]
      | pi18Serial name =>
          obtain ⟨hkind, hpath⟩ := hserial (.inr hright)
          rw [keyedAlike_serial_of_network hleft hkind hpath]
          unfold Confused
          rw [hleft, hright]
          simp [Form.isReadable]
  | bare name =>
      cases hright : right.form with
      | network scheme' address' =>
          obtain ⟨hkind, hpath⟩ := hserial (.inl hleft)
          rw [keyedAlike_comm, keyedAlike_serial_of_network hright hkind hpath]
          unfold Confused
          rw [hleft, hright]
          simp [Form.isReadable]
      | bare other =>
          refine iff_of_true (keyedAlike_bare hleft hright) ?_
          unfold Confused
          rw [hleft, hright]
          exact not_false
      | pi18Serial other =>
          rw [keyedAlike_bare_pi18Serial hleft hright]
          unfold Confused
          rw [hleft, hright]
  | pi18Serial name =>
      cases hright : right.form with
      | network scheme' address' =>
          obtain ⟨hkind, hpath⟩ := hserial (.inr hleft)
          rw [keyedAlike_comm, keyedAlike_serial_of_network hright hkind hpath]
          unfold Confused
          rw [hleft, hright]
          simp [Form.isReadable]
      | bare other =>
          rw [keyedAlike_comm, keyedAlike_bare_pi18Serial hright hleft]
          unfold Confused
          rw [hleft, hright]
      | pi18Serial other => exact keyedAlike_pi18Serial hleft hright

def bridgeTcp : DeviceUri where
  text := "tcp://10.0.0.5:8899"
  endpoint := .network "10.0.0.5".toList 8899
  opened := by decide +kernel
  reachable := by decide +kernel
  asciiUser := by decide +kernel

def bridgePi18 : DeviceUri where
  text := "pi18://10.0.0.5:8899"
  endpoint := .network "10.0.0.5".toList 8899
  opened := by decide +kernel
  reachable := by decide +kernel
  asciiUser := by decide +kernel

/-- One bridge, asked in two dialects, has two queues. -/
theorem bridge_not_keyedAlike :
    ¬ ∀ left right : DeviceUri, KeyedAlike left right := by
  intro hall
  obtain ⟨key, key', hkey, hkey', hiff⟩ := hall bridgeTcp bridgePi18
  have hdiffers :
      transportKey bridgeTcp.text ≠ transportKey bridgePi18.text := by
    decide +kernel
  rw [hkey, hkey', hiff.mpr rfl] at hdiffers
  exact hdiffers rfl

end Device
end DessMonitor
