import VlanBinding.Neutron.Network
import VlanBinding.Neutron.Port

/-!
The bodies in which ports and networks travel.
-/

namespace VlanBinding.Neutron

open VlanBinding.Json

/-- A single port: the body of a notification that a port was created or deleted. -/
structure PortBody where
  port : Port
deriving DecidableEq, Repr, Inhabited

/-- A port and what it was before: the body of a notification that a port was updated. -/
structure PortUpdateBody where
  port : Port
  previousPort : Port
deriving DecidableEq, Repr, Inhabited

structure NetworkBody where
  network : Network
deriving DecidableEq, Repr, Inhabited

structure PortsBody where
  ports : List Port := []
deriving DecidableEq, Repr, Inhabited

namespace PortBody

def schema : JsonRecord PortBody where
  name := "PortBody"
  start := ⟨{}⟩
  fields := [required "port" Port.decoder fun v b => { b with port := v }]

def decoder : Decoder PortBody := .record schema

def toJson (b : PortBody) : Json := .obj [("port", b.port.toJson)]

end PortBody

namespace PortUpdateBody

def schema : JsonRecord PortUpdateBody where
  name := "PortUpdateBody"
  start := ⟨{}, {}⟩
  fields :=
    [ required "port" Port.decoder fun v b => { b with port := v },
      required "original_port" Port.decoder fun v b => { b with previousPort := v } ]

def decoder : Decoder PortUpdateBody := .record schema

def toJson (b : PortUpdateBody) : Json :=
  .obj [("port", b.port.toJson), ("original_port", b.previousPort.toJson)]

end PortUpdateBody

namespace NetworkBody

def schema : JsonRecord NetworkBody where
  name := "NetworkBody"
  start := ⟨{}⟩
  fields := [required "network" Network.decoder fun v b => { b with network := v }]

def decoder : Decoder NetworkBody := .record schema

def toJson (b : NetworkBody) : Json := .obj [("network", b.network.toJson)]

end NetworkBody

namespace PortsBody

def schema : JsonRecord PortsBody where
  name := "PortsBody"
  start := {}
  fields := [defaulted "ports" (.list Port.decoder) fun v b => { b with ports := v }]

def decoder : Decoder PortsBody := .record schema

def toJson (b : PortsBody) : Json := .obj [("ports", .arr (b.ports.map Port.toJson))]

end PortsBody

end VlanBinding.Neutron
