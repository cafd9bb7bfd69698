/-!
The kinds of objects that the fabric controller keeps, and the names they go by.
-/

namespace VlanBinding.Fabric

/-- A fully qualified name: the names of all ancestors of an object, and last its own. -/
abbrev FqName := List String

/-- The order of names in listings: that of the first names in which they differ. -/
def FqName.precedes (a b : FqName) : Bool := a.lex b fun x y => decide (x < y)

inductive Resource where
  | project
  | virtualNetwork
  | virtualMachineInterface
  | physicalInterface
  | virtualPortGroup
  | physicalRouter
  | node
  | port
deriving DecidableEq, Repr, Inhabited

namespace Resource

/-- The name in paths and around bodies. -/
def name : Resource → String
  | project => "project"
  | virtualNetwork => "virtual-network"
  | virtualMachineInterface => "virtual-machine-interface"
  | physicalInterface => "physical-interface"
  | virtualPortGroup => "virtual-port-group"
  | physicalRouter => "physical-router"
  | node => "node"
  | port => "port"

/-- The name of all objects of the kind. -/
def collection (r : Resource) : String := r.name ++ "s"

def all : List Resource :=
  [project, virtualNetwork, virtualMachineInterface, physicalInterface, virtualPortGroup,
    physicalRouter, node, port]

/-- The kind of a name. -/
def ofName? (name : String) : Option Resource := all.find? (·.name == name)

end Resource

end VlanBinding.Fabric
