import DessMonitor.DeviceAdapter

/-!
# Documented addresses

A network device is documented as a scheme, a host and a port, and an agent
has the device it serves behind them.
-/

namespace DessMonitor
namespace Device

open PyString Url

/-- A host name or an IPv4 address. -/
structure Host where
  chars : List Char
  nonempty : chars ≠ []
  named : ∀ c ∈ chars, isHostChar c = true

/-- A port as it is written; leading zeros are allowed. -/
structure Port where
  digits : List Char
  nonempty : digits ≠ []
  numeric : ∀ c ∈ digits, c.isDigit = true
  readable : digits.length ≤ 4300
  positive : 1 ≤ PyFloat.digitsValue digits
  bounded : PyFloat.digitsValue digits ≤ 65535

def Port.number (port : Port) : ℕ := PyFloat.digitsValue port.digits

/-- What follows the address of an agent, up to the end of the URI. -/
structure DeviceId where
  first : Char
  rest : List Char
  plain : Url.isPlain first = true

inductive Service where
  | tcp
  | pi18
  | modbus
  | agent (deviceId : DeviceId)

def Service.name : Service → List Char
  | .tcp => "tcp".toList
  | .pi18 => "pi18".toList
  | .modbus => "modbus".toList
  | .agent _ => "agent".toList

def Service.tail : Service → List Char
  | .agent deviceId => '/' :: deviceId.first :: deviceId.rest
  | _ => []

def authority (host : Host) (port : Port) : List Char :=
  host.chars ++ ':' :: port.digits

def networkUri (service : Service) (host : Host) (port : Port) : String :=
  .ofList (service.name ++ ':' :: '/' :: '/' ::
    (authority host port ++ service.tail))

/-! ## Reading them -/

theorem authority_plain (host : Host) (port : Port) :
    ∀ c ∈ authority host port, isPlain c = true := by
  intro c hmem
  rcases List.mem_append.mp hmem with hhost | hport
  · exact isPlain_of_isHostChar (host.named c hhost)
  · rcases List.mem_cons.mp hport with rfl | hdigit
    · decide
    · exact isPlain_of_isDigit (port.numeric c hdigit)

theorem Service.isScheme (service : Service) : IsScheme service.name := by
  cases service with
  | tcp => constructor <;> decide
  | pi18 => constructor <;> decide
  | modbus => constructor <;> decide
  | agent deviceId =>
      change IsScheme "agent".toList
      constructor <;> decide

theorem Service.tail_head (service : Service) :
    ∀ c ∈ service.tail.head?, isDelimiter c = true := by
  intro c hmem
  cases service with
  | agent deviceId =>
      obtain rfl := Option.some.inj hmem
      decide
  | tcp | pi18 | modbus => cases hmem

theorem parseHostPort_authority (marker : String) (host : Host)
    (port : Port) :
    parseHostPort marker
        (.ofList (marker.toList ++ authority host port)) =
      some (host.chars, (port.number : ℤ)) :=
  parseHostPort_append marker
    (notMem_of_isHostChar host.named (by decide))
    (notMem_of_isDigit port.numeric (by decide))
    (toInt?_of_digits port.nonempty port.readable fun c => port.numeric c)

theorem parseHostPort_direct (marker : String) (host : Host) (port : Port) :
    parseHostPort marker
        (.ofList (marker.toList ++ (authority host port ++ []))) =
      some (host.chars, (port.number : ℤ)) := by
  rw [List.append_nil]
  exact parseHostPort_authority marker host port

theorem urlparse_network (service : Service) (host : Host) (port : Port) :
    urlparse (networkUri service host port) =
      some
        { scheme := service.name
          netloc := authority host port
          path := (partition '?'
            (partition '#' (service.tail.filter isKept)).1).1
          query := (partition '?'
            (partition '#' (service.tail.filter isKept)).1).2.2 } :=
  urlparse_of_parts service.isScheme (authority_plain host port)
    service.tail_head

theorem hostinfo_authority (host : Host) (port : Port) :
    hostinfo (authority host port) = (host.chars, port.digits) := by
  have hplain := authority_plain host port
  have hat : '@' ∉ authority host port := by
    intro hmem
    rcases List.mem_append.mp hmem with hhost | hport
    · exact absurd (host.named '@' hhost) (by decide)
    · rcases List.mem_cons.mp hport with heq | hdigit
      · exact absurd heq (by decide)
      · exact absurd (port.numeric '@' hdigit) (by decide)
  have hbracket : '[' ∉ authority host port := by
    intro hmem
    exact absurd (hplain '[' hmem) (by decide)
  have hcolon := notMem_of_isHostChar host.named (c := ':') (by decide)
  rw [hostinfo_of_plain hat hbracket, authority, partition_append hcolon]

theorem hostname_authority {result : ParseResult} {host : Host} {port : Port}
    (hnetloc : result.netloc = authority host port) :
    Url.hostname result = lower host.chars := by
  have hpercent := notMem_of_isHostChar host.named (c := '%') (by decide)
  unfold Url.hostname
  rw [hnetloc, hostinfo_authority, partition_of_notMem hpercent]
  dsimp only
  rw [if_neg (by decide), List.append_nil]
  rfl

theorem port_authority {result : ParseResult} {host : Host} {port : Port}
    (hnetloc : result.netloc = authority host port) :
    Url.port result = some (some port.number) := by
  have hdigits : port.digits.all Char.isDigit = true :=
    List.all_eq_true.mpr port.numeric
  unfold Url.port
  rw [hnetloc, hostinfo_authority]
  dsimp only
  rw [if_neg port.nonempty, if_pos ⟨hdigits, port.readable, port.bounded⟩]
  rfl

theorem DeviceId.first_ne (deviceId : DeviceId) {c : Char}
    (hother : isPlain c = false) : deviceId.first ≠ c := by
  intro heq
  have hplain := deviceId.plain
  rw [heq, hother] at hplain
  cases hplain

/-- The path of an agent starts with one slash and the device. -/
theorem path_agent (deviceId : DeviceId) :
    ∃ more, (partition '?' (partition '#'
      ((Service.agent deviceId).tail.filter isKept)).1).1 =
        '/' :: deviceId.first :: more := by
  have hkept : isKept deviceId.first = true :=
    isKept_of_toNat (toNat_of_isPlain deviceId.plain).1
  have hslash : isKept '/' = true := by
    decide
  have hhash := deviceId.first_ne (c := '#') (by decide)
  have hquestion := deviceId.first_ne (c := '?') (by decide)
  unfold Service.tail
  rw [List.filter_cons_of_pos hslash, List.filter_cons_of_pos hkept,
    partition_fst, partition_fst]
  refine ⟨((deviceId.rest.filter isKept).takeWhile (· ≠ '#')).takeWhile
    (· ≠ '?'), ?_⟩
  simp [hhash, hquestion]

theorem parseAgentUri_network (deviceId : DeviceId) (host : Host)
    (port : Port) :
    ∃ providerDeviceId,
      parseAgentUri (networkUri (.agent deviceId) host port) =
        some (lower host.chars, port.number, providerDeviceId) := by
  obtain ⟨more, hpath⟩ := path_agent deviceId
  have hname : lower host.chars ≠ [] := by
    unfold lower
    simpa using host.nonempty
  have hnumber : port.number ≠ 0 := by
    have hpositive := port.positive
    unfold Port.number
    omega
  have hdevice : ('/' :: deviceId.first :: more).dropWhile (· = '/') ≠ [] := by
    have hslash := deviceId.first_ne (c := '/') (by decide)
    simp [hslash]
  refine ⟨('/' :: deviceId.first :: more).dropWhile (· = '/'), ?_⟩
  unfold parseAgentUri
  rw [urlparse_network, hpath]
  dsimp only [Option.bind_eq_bind, Option.bind_some]
  rw [hostname_authority rfl, port_authority rfl]
  dsimp only [Option.bind_some, Option.getD_some]
  rw [if_neg]
  rintro (hscheme | hempty | hzero | hmissing)
  · exact hscheme rfl
  · exact hname hempty
  · exact hnumber hzero
  · exact hdevice hmissing

def bridgeHost : Host where
  chars := "10.0.0.5".toList
  nonempty := by decide +kernel
  named := List.all_eq_true.mp (by decide +kernel)

def bridgePort : Port where
  digits := "8899".toList
  nonempty := by decide +kernel
  numeric := List.all_eq_true.mp (by decide +kernel)
  readable := by decide +kernel
  positive := by decide +kernel
  bounded := by decide +kernel

end Device
end DessMonitor
