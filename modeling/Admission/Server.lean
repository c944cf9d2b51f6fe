import Admission.Routes

/-!
# The server

A server listens on an address of a host.  What the host permits is a value: which addresses may
be bound, and whether a client reaches a bound one.

* `Host.bind` — a port below 1024 needs a privilege, and an address must be the host's own;
* `Server.exchange` — a request over a connection of its own, and the response as it arrives.
-/

namespace Admission

/-- What the operating system refuses. -/
inductive SystemError where
  | permissionDenied
  | addressInUse
  | addressNotAvailable
  | other (detail : String)
deriving DecidableEq

/-- The wording of a refusal. -/
def SystemError.message : SystemError → String
  | .permissionDenied => "Permission denied (os error 13)"
  | .addressInUse => "Address already in use (os error 98)"
  | .addressNotAvailable => "Cannot assign requested address (os error 99)"
  | .other detail => detail

/-- What a host permits.  A host without any route counts every address of version 4 as its own
and reaches none. -/
structure Host where
  owns : IpAddress → Bool
  privileged : Bool
  connected : Bool

/-- Whether an address stands for all of a host's own. -/
def IpAddress.isUnspecified : IpAddress → Bool
  | .v4 ip => ip.octets.toList.all (· == 0)
  | .v6 ip => ip.groups.toList.all (· == 0)

/-- Whether an address is of the host itself, whatever the host is. -/
def IpAddress.isLoopback : IpAddress → Bool
  | .v4 ip => ip.octets.toList.head? == some 127
  | .v6 ip => ip.groups.toList == [0, 0, 0, 0, 0, 0, 0, 1]

namespace Host

/-- A host with its loopback interface and nothing else. -/
def loopback : Host :=
  ⟨fun ip => ip.isLoopback || ip.isUnspecified, false, true⟩

/-- A host whose interfaces are all down. -/
def isolated : Host where
  owns ip := match ip with
    | .v4 _ => true
    | .v6 ip => ip.mapped?.isSome || (IpAddress.v6 ip).isUnspecified
  privileged := false
  connected := false

/-- Whether a port needs a privilege. -/
def isReserved (port : UInt16) : Bool :=
  0 < port && port < 1024

/-- Binds an address.  In version 4 the address is looked at first, in version 6 the port. -/
def bind (h : Host) (address : SocketAddress) : Except SystemError Unit :=
  let foreign := !h.owns address.ip
  let reserved := !h.privileged && isReserved address.port
  match address with
  | .v4 .. =>
    if foreign then .error .addressNotAvailable
    else if reserved then .error .permissionDenied
    else .ok ()
  | .v6 .. =>
    if reserved then .error .permissionDenied
    else if foreign then .error .addressNotAvailable
    else .ok ()

end Host

/-- The wording of a connection that finds no route. -/
def unreachableMessage : String :=
  "network unreachable"

namespace Server

/-- Starts a server on an address. -/
def start (h : Host) (address : SocketAddress) : Except SystemError (List Event) :=
  match h.bind address with
  | .ok () => .ok [.serverStarted address]
  | .error e => .error e

/-- Cuts the blanks around a header value, which are not part of it on the wire. -/
def trimValue (value : List UInt8) : List UInt8 :=
  let isBlank (b : UInt8) := b == 32 || b == 9
  ((value.dropWhile isBlank).reverse.dropWhile isBlank).reverse

/-- A request as it arrives over a connection from the host itself. -/
def arriving (r : Request) : Request :=
  { r with
    headers := r.headers.map fun h => { h with value := trimValue h.value }
    target := if r.target.path.isEmpty then { r.target with path := "/" } else r.target
    connection := some (.v4 .loopback 0)
    peer := none
    trusted := false }

/-- A response as it arrives over a connection that is closed after it. -/
def departing (method : String) (r : Response) : Response :=
  { r with
    headers := r.headers ++ [("connection", "close")]
    body := if method == "HEAD" then "" else r.body }

/-- A request over a connection of its own: what serving it gives, and the response as it arrives;
none if the host is not connected. -/
def exchange {α : Type} (h : Host) (serve : Request → α × Response) (r : Request) :
    Option (α × Response) :=
  if h.connected then
    let (result, response) := serve (arriving r)
    some (result, departing r.method response)
  else none

end Server
end Admission
