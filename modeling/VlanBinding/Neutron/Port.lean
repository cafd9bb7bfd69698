import VlanBinding.Json.Decoder

/-!
A Neutron port: an attachment of a device to a network on a host. Every field but the id may be
absent, and an absent field differs from an empty one.
-/

namespace VlanBinding.Neutron

open VlanBinding.Json

structure Port where
  id : String := ""
  networkId : Option String := none
  hostId : Option String := none
  deviceId : Option String := none
  deviceOwner : Option String := none
  tenantId : Option String := none
  projectId : Option String := none
deriving DecidableEq, Repr, Inhabited

namespace Port

/-- The port before it is bound to anything: its binding fields are empty. -/
def unbound (id : String) : Port :=
  { id, networkId := some "", hostId := some "", deviceId := some "", deviceOwner := some "" }

/-- The project that owns the port, under its older name or its newer one. -/
def tenant (p : Port) : Option String := p.tenantId.or p.projectId

/-- The fields that decide which binding a port has: host, device, owner and network. -/
def bindingFields (p : Port) : List (Option String) :=
  [p.hostId, p.deviceId, p.deviceOwner, p.networkId]

def hasBindingFields (p : Port) : Bool := p.bindingFields.all Option.isSome

def schema : JsonRecord Port where
  name := "NeutronPort"
  start := {}
  fields :=
    [ defaulted "id" .string fun v p => { p with id := v },
      optional "network_id" .string fun v p => { p with networkId := v },
      optional "binding:host_id" .string fun v p => { p with hostId := v },
      optional "device_id" .string fun v p => { p with deviceId := v },
      optional "device_owner" .string fun v p => { p with deviceOwner := v },
      optional "tenant_id" .string fun v p => { p with tenantId := v },
      optional "project_id" .string fun v p => { p with projectId := v } ]

def decoder : Decoder Port := .record schema

def toJson (p : Port) : Json :=
  .obj (("id", .str p.id) ::
    optionalMember "network_id" .str p.networkId ++
    optionalMember "binding:host_id" .str p.hostId ++
    optionalMember "device_id" .str p.deviceId ++
    optionalMember "device_owner" .str p.deviceOwner ++
    optionalMember "tenant_id" .str p.tenantId ++
    optionalMember "project_id" .str p.projectId)

end Port

end VlanBinding.Neutron
