import VlanBinding.Fabric.Reference
import VlanBinding.Json.Printer

/-!
The binding profile of an interface: which links it goes over, and which port group it joins.
-/

namespace VlanBinding.Integration

open VlanBinding.Fabric VlanBinding.Json

/-- A link of a host, as the controller is told of it. -/
structure LinkInformation where
  /-- the interface of the switch -/
  portId : String
  switchInfo : String
  fabric : String
deriving DecidableEq, Repr, Inhabited

def LinkInformation.toJson (l : LinkInformation) : Json :=
  .obj [("port_id", .str l.portId), ("switch_info", .str l.switchInfo), ("fabric", .str l.fabric)]

structure Profile where
  links : List LinkInformation
  vnicType : String := "baremetal"
  /-- the port group to join, if there is one already -/
  portGroup : Option String := none
deriving DecidableEq, Repr, Inhabited

namespace Profile

def linksMember (p : Profile) : String × Json :=
  ("local_link_information", .arr (p.links.map LinkInformation.toJson))

def toJson (p : Profile) : Json :=
  .obj (p.linksMember :: ("vnic_type", .str p.vnicType) ::
    optionalMember "vpg" .str p.portGroup)

/-- The links as text. -/
def text (p : Profile) : String := (Json.obj [p.linksMember]).spaced

/-- The bindings that an interface carries. -/
def pairs (p : Profile) : KeyValuePairs :=
  .ofList ([("profile", p.text), ("vnic_type", p.vnicType)] ++
    (p.portGroup.map fun name => ("vpg", name)).toList)

end Profile

end VlanBinding.Integration
