import VlanBinding.Http.MediaType
import VlanBinding.Integration.Notification
import VlanBinding.Json.Bytes
import VlanBinding.Service.Endpoint
import VlanBinding.Service.Reply

/-!
The service: notifications about ports come in and are handled, and what the integration sees of a
host can be inspected. Every request gets a reply.
-/

namespace VlanBinding.Service

open VlanBinding.Integration VlanBinding.Json

structure Request where
  method : String := "GET"
  /-- percent-encoded -/
  path : List Char
  query : List Char := []
  contentType : Option String := none
  body : ByteArray := .empty

/-- Characters of a scheme. -/
def Request.isSchemeChar (c : Char) : Bool := c.isAlphanum || "+-.".toList.contains c

/-- A target without the scheme and the authority in front of its path. -/
def Request.dropOrigin (target : List Char) : List Char :=
  match target.dropWhile isSchemeChar with
  | ':' :: '/' :: '/' :: rest => rest.dropWhile fun c => !("/?#".toList.contains c)
  | _ => target

/-- Splits a path from a query; what follows a hash sign counts for neither. -/
def Request.splitTarget (target : String) : List Char × List Char :=
  let cs := (dropOrigin target.toList).takeWhile (· ≠ '#')
  (cs.takeWhile (· ≠ '?'), (cs.dropWhile (· ≠ '?')).drop 1)

example : Request.splitTarget "http://host:80/api/status?pretty=true" =
    ("/api/status".toList, "pretty=true".toList) := by decide +kernel

end VlanBinding.Service

namespace VlanBinding

open VlanBinding.Integration VlanBinding.Json VlanBinding.Service

/-- A service with its integration. -/
structure Service where
  integrator : Integrator
  startedAt : String
deriving Repr

namespace Service

def version : String := "1.1.0"

/-- What the service tells of itself. -/
def status (s : Service) : Status where
  version := version
  enabled := s.integrator.isEnabled
  topologyMode := (s.integrator.source?.map LinkSource.mode).getD ""
  startedAt := s.startedAt

/-- Does the request say that its body is JSON? -/
def Request.saysJson (r : Request) : Bool :=
  ((r.contentType.bind Http.MediaType.parse?).map Http.MediaType.isJson).getD false

/-- The size of the largest body that is taken, in bytes. -/
def maxBody : Nat := 2 * 1024 * 1024

/-- The JSON that a request carries. -/
def content {α : Type} (decoder : Decoder α) (r : Request) : Except Reply α :=
  if !r.saysJson then .error .unsupported
  else if maxBody < r.body.size then .error .tooLarge
  else
    match decodeBytes decoder r.body with
    | .ok value => .ok value
    | .error .notJson => .error .badRequest
    | .error (.data _) => .error .wrongShape

/-- A name in a path. -/
def named (name : List Char) : Except Reply String :=
  match Http.Percent.decodeText? name with
  | some text => .ok text
  | none => .error .badRequest

def layoutOf (r : Request) : Except Reply Layout :=
  match Layout.ofQuery? r.query with
  | some layout => .ok layout
  | none => .error .badRequest

/-- A port of a body with the id that the path names. The body may leave the id out, but not give
another. -/
def portOf (id : String) (port : Neutron.Port) : Except Error Neutron.Port :=
  let port := if port.id = "" then { port with id } else port
  if port.id = id then .ok port else .error (.invalidPort id (.otherPort port.id))

/-- What a request says of a port: nothing that can be understood, something wrong, or a
notification. -/
def notification (endpoint : Endpoint) (r : Request) :
    Except Reply (Except Error Notification) := do
  match endpoint with
  | .port id =>
    let id ← named id
    if r.method = "PUT" then
      let body ← content Neutron.PortUpdateBody.decoder r
      pure do
        let port ← portOf id body.port
        let previous ← portOf id body.previousPort
        pure (.updated port previous)
    else
      let body ← content Neutron.PortBody.decoder r
      pure (Notification.deleted <$> portOf id body.port)
  | _ =>
    let body ← content Neutron.PortBody.decoder r
    pure (.ok (.created body.port))

/-- Replies to a notification when it is handled. -/
def notify (s : Service) (n : Except Error Notification) : Plan Reply := do
  match ← (Plan.ofExcept n >>= s.integrator.handle).attempt with
  | .ok () => pure .noContent
  | .error e => pure (.ofError e)

/-- Replies with JSON about a host. -/
def inspect (s : Service) (host : List Char) (r : Request)
    (look : LinkSource → String → Plan Json) : Plan Reply :=
  let asked : Except Reply (String × Layout) := do
    pure (← named host, ← layoutOf r)
  match asked, s.integrator with
  | .error reply, _ => pure reply
  | .ok _, .disabled => pure .disabled
  | .ok (host, layout), .enabled source => do
    match ← (look source host).attempt with
    | .ok value => pure (.ok value.sorted layout.isPretty)
    | .error e => pure (.ofError e)

/-- The links of a host. -/
def topologyJson (source : LinkSource) (host : String) : Plan Json := do
  pure (← source.resolve host).toJson

/-- The bindings that an interface would get on a host. -/
def bindingsJson (source : LinkSource) (host : String) : Plan Json := do
  let profile ← Profile.ofHost source host
  pure (.obj [("host", .str host), ("profile", profile.toJson),
    ("key_value_pairs", profile.pairs.toJson)])

/-- Replies to a request that an endpoint allows. -/
def serve (s : Service) (endpoint : Endpoint) (r : Request) : Plan Reply :=
  match endpoint with
  | .status =>
    match layoutOf r with
    | .error reply => pure reply
    | .ok layout => pure (.ok s.status.toJson layout.isPretty)
  | .topology host => s.inspect host r topologyJson
  | .bindings host => s.inspect host r bindingsJson
  | endpoint =>
    match notification endpoint r with
    | .error reply => pure reply
    | .ok n => s.notify n

/-- Replies to any request. -/
def respond (s : Service) (r : Request) : Plan Reply :=
  match Endpoint.ofPath? r.path with
  | none => pure .notFound
  | some endpoint =>
    if !endpoint.methods.contains r.method then pure .notAllowed
    else if r.method = "HEAD" then Reply.bodiless <$> s.serve endpoint r
    else s.serve endpoint r

end Service

end VlanBinding
