import DessMonitor.EybondListenerMap
import DessMonitor.Foundation.Url

/-!
# Device URIs of the EyBond transport

`eybond://<bind_host>:<bind_port>/<devaddr>?broadcast=<ip>&announce=<ip>`, and
for the child of a hub `pn=<PN>` as well.
-/

namespace DessMonitor
namespace Eybond

structure EybondUri where
  key : ListenerKey
  devaddr : ℤ
  broadcast : String
  announceIp : Option String
  deriving DecidableEq

/-- `none` is the `ValueError` of an authority that cannot be read. -/
def parseEybondUri (device : String) : Option EybondUri := do
  let parsed ← Url.urlparse device
  let host := Url.hostname parsed
  let port ← Url.port parsed
  let path := if parsed.path = [] then "/1".toList else parsed.path
  let devaddr := path.dropWhile (· = '/')
  let announce := PyString.strip
    (.ofList ((Url.queryValue parsed.query "announce").getD []))
  some
    { key :=
        (if host = [] then "0.0.0.0" else .ofList host,
          match port with
          | none => 8899
          | some number => if number = 0 then 8899 else number)
      devaddr := if devaddr = [] then 1 else (PyString.toInt? devaddr).getD 1
      broadcast :=
        match Url.queryValue parsed.query "broadcast" with
        | none => defaultBroadcast
        | some broadcast => .ofList broadcast
      announceIp := if announce = "" then none else some announce }

example : parseEybondUri "eybond://0.0.0.0:8899/3?broadcast=10.0.0.255" =
    some ⟨("0.0.0.0", 8899), 3, "10.0.0.255", none⟩ := by
  decide +kernel

end Eybond
end DessMonitor
