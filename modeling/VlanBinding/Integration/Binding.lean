import VlanBinding.Integration.LinkSource
import VlanBinding.Integration.Profile

/-!
The profile of a node: every one of its links with the fabric of the switch, and the port group
that already joins exactly these links, if the controller made one.
-/

namespace VlanBinding.Integration

open VlanBinding.Topology

namespace Profile

/-- A link with the fabric of its switch. -/
def informationOf (link : Link) : Plan LinkInformation := do
  match ← Plan.ask (.readFabricName link.switchName) with
  | none => Plan.fail (.fabricNotFound link.switchName)
  | some fabric =>
    pure { portId := link.portName, switchInfo := link.switchName, fabric }

def informationOfAll : List Link → Plan (List LinkInformation)
  | [] => pure []
  | link :: rest => do
    let first ← informationOf link
    let others ← informationOfAll rest
    pure (first :: others)

/-- Do two lists have the same elements, whatever their order and number? -/
def sameElements (xs ys : List (String × String)) : Bool :=
  xs.all ys.contains && ys.all xs.contains

/-- Does a port group made by the controller join exactly these links? -/
def joins (group : Fabric.VirtualPortGroup) (links : List (String × String)) : Bool :=
  !group.userCreated &&
    match group.interfaceRefs.mapM Fabric.Reference.parentAndName with
    | some joined => sameElements joined links
    | none => false

/-- The first of the port groups that joins exactly these links. -/
def findGroup (links : List (String × String)) :
    List Fabric.Reference → Plan (Option Fabric.VirtualPortGroup)
  | [] => pure none
  | ref :: rest => do
    match ← Plan.ask (.getPortGroup ref.uuid) with
    | some group => if joins group links then pure (some group) else findGroup links rest
    | none => findGroup links rest

/-- The port group to reuse, looked for among those of the interface of the first link. -/
def reusableGroup (node : Node) : Plan (Option Fabric.VirtualPortGroup) :=
  match node.ports with
  | [] => Plan.fail (.invalidNode node.name .noPorts)
  | first :: _ => do
    match ← Plan.ask (.readInterface first.switchName first.portName) with
    | none => Plan.fail (.interfaceNotFound first.switchName first.portName)
    | some interface =>
      findGroup (node.ports.map Link.endpoint) interface.portGroupBackRefs

/-- The profile of a node: all of it, or an error. -/
def ofNode (node : Node) : Plan Profile := do
  let links ← informationOfAll node.ports
  let group ← reusableGroup node
  pure { links, portGroup := group.bind (·.name) }

/-- The profile of a host. -/
def ofHost (source : LinkSource) (host : String) : Plan Profile := do
  ofNode (← source.resolve host)

end Profile

end VlanBinding.Integration
