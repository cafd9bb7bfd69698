import VlanBinding.Integration.Plan
import VlanBinding.Topology.Index

/-!
Where the links of a host are known from: a topology document read once, or the fabric controller,
which is asked every time.
-/

namespace VlanBinding.Integration

open VlanBinding.Topology

inductive LinkSource where
  | document (index : Index)
  | controller
deriving Repr

/-- The name of each kind of source. -/
def LinkSource.mode : LinkSource → String
  | document _ => "file"
  | controller => "api"

namespace LinkSource

/-- The nodes of a topology file. -/
def load : Option File → Except Error Index
  | none => .error .noTopologyFile
  | some file =>
    match Document.load file with
    | .error e => .error (.topology e)
    | .ok d => .ok (.ofDocument d)

/-- The link of a card whose cable is known. A card without an interface has no link. -/
def linkOf? (host : String) (port : Fabric.Port) : Except Error (Option Link) :=
  match port.interfaceBackRefs.head? with
  | none => .ok none
  | some ref =>
    match ref.parentAndName with
    | none => .error (.invalidNode host (.malformedReference ref.target))
    | some (switchName, portName) =>
      match port.fqName.getLast? with
      | none => .error (.invalidNode host (.unnamedPort port.uuid))
      | some name => .ok (some { name := some name, switchName, portName })

/-- The links of the cards that a node of the controller refers to. -/
def collectLinks (host : String) : List Fabric.Reference → Plan (List Link)
  | [] => pure []
  | ref :: rest => do
    match ← Plan.ask (.getPort ref.uuid) with
    | none => Plan.fail (.invalidNode host (.portUnreadable ref.uuid))
    | some port =>
      let link ← Plan.ofExcept (linkOf? host port)
      let links ← collectLinks host rest
      pure (link.toList ++ links)

/-- What the controller knows of a host. -/
def resolveLive (host : String) : Plan Node := do
  match ← Plan.ask (.readNode host) with
  | none => Plan.fail (.nodeNotFound host)
  | some node =>
    match ← collectLinks host node.ports with
    | [] => Plan.fail (.invalidNode host .noLink)
    | links => pure ⟨host, links⟩

/-- The node of a host. -/
def resolve (host : String) : LinkSource → Plan Node
  | document index =>
    match index.node? host with
    | some node => pure node
    | none => Plan.fail (.nodeNotFound host)
  | controller => resolveLive host

/-- Is the host known? A controller that does not answer knows no host. -/
def contains (host : String) : LinkSource → Plan Bool
  | document index => pure (index.node? host).isSome
  | controller => do
    match ← (Plan.ask (.readNode host)).attempt with
    | .ok (node : Option Fabric.Node) => pure node.isSome
    | .error _ => pure false

end LinkSource

end VlanBinding.Integration
