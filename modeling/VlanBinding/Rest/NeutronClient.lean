import VlanBinding.Neutron.Body
import VlanBinding.Rest.Session

/-!
The client of the Neutron API. It only reads.
-/

namespace VlanBinding.Rest

open VlanBinding.Http VlanBinding.Json

structure NeutronClient where
  url : String
  credentials : Credentials := .anonymous
deriving Repr

namespace NeutronClient

/-- Reads a body. -/
def get {α : Type} (c : NeutronClient) (decoder : Decoder α) (path : String)
    (query : List (String × String)) : Action α := do
  let response ← c.credentials.send path .get (joinUrl c.url path) query none
  if !response.status.isSuccess then throw (.ofStatus path response.status response.body)
  match decodeText decoder response.body with
  | .ok value => pure value
  | .error e => throw (.invalidResponse path (.ofDecodeError e))

def network (c : NeutronClient) (id : String) : Action Neutron.Network := do
  pure (← c.get Neutron.NetworkBody.decoder ("v2.0/networks/" ++ id) []).network

/-- The ports of a network that are bound to a host. -/
def ports (c : NeutronClient) (network host : String) : Action (List Neutron.Port) := do
  let query := [("network_id", network), ("binding:host_id", host)]
  pure (← c.get Neutron.PortsBody.decoder "v2.0/ports" query).ports

end NeutronClient

end VlanBinding.Rest
