import VlanBinding.Fabric.Reference

/-!
The objects of the fabric controller that are read or written. Some fields are computed by the
controller: they are read and never written.
-/

namespace VlanBinding.Fabric

open VlanBinding.Json

/-- What every object has: a kind, a name, a uuid once it is stored, and a JSON form. -/
class IsObject (α : Type) where
  resource : Resource
  uuid? : α → Option String
  fqName : α → FqName
  decoder : Decoder α
  toJson : α → Json
  /-- the members that are read and never written -/
  unwritten : α → List (String × Json) := fun _ => []

/-- A uuid, unless it is empty. -/
def uuidUnlessEmpty (uuid : String) : Option String := if uuid = "" then none else some uuid

structure Project where
  uuid : String := ""
  fqName : FqName
deriving DecidableEq, Repr, Inhabited

def Project.schema : JsonRecord Project where
  name := "Project"
  start := ⟨"", []⟩
  fields :=
    [ defaulted "uuid" .string fun v p => { p with uuid := v },
      required "fq_name" (.list .string) fun v p => { p with fqName := v } ]

instance : IsObject Project where
  resource := .project
  uuid? p := uuidUnlessEmpty p.uuid
  fqName := Project.fqName
  decoder := .record Project.schema
  toJson p := .obj [("uuid", .str p.uuid), ("fq_name", .strings p.fqName)]

structure VirtualNetwork where
  uuid : String := ""
  fqName : FqName
deriving DecidableEq, Repr, Inhabited

def VirtualNetwork.schema : JsonRecord VirtualNetwork where
  name := "VirtualNetwork"
  start := ⟨"", []⟩
  fields :=
    [ defaulted "uuid" .string fun v n => { n with uuid := v },
      required "fq_name" (.list .string) fun v n => { n with fqName := v } ]

instance : IsObject VirtualNetwork where
  resource := .virtualNetwork
  uuid? n := uuidUnlessEmpty n.uuid
  fqName := VirtualNetwork.fqName
  decoder := .record VirtualNetwork.schema
  toJson n := .obj [("uuid", .str n.uuid), ("fq_name", .strings n.fqName)]

/-- A virtual machine interface: the VLAN sub-interface of a network on a compute host. The port
groups that refer to it are known to the controller and never written. -/
structure VirtualMachineInterface where
  uuid : Option String := none
  fqName : FqName
  parentType : String := ""
  networkRefs : List Reference := []
  properties : Option InterfaceProperties := none
  bindings : Option KeyValuePairs := none
  idPerms : Option IdPerms := none
  portGroupBackRefs : List Reference := []
deriving Repr, Inhabited

namespace VirtualMachineInterface

/-- The creator of every interface that is made here. -/
def creator : String := "networking-opencontrail"

/-- A new interface of a project on a network, not stored yet. -/
def make (name : String) (network : VirtualNetwork) (properties : InterfaceProperties)
    (bindings : KeyValuePairs) (project : Project) : VirtualMachineInterface where
  fqName := project.fqName ++ [name]
  parentType := Resource.project.name
  networkRefs := [{ target := network.fqName, uuid := network.uuid }]
  properties := some properties
  bindings := some bindings
  idPerms := some (.createdBy creator)

def name (v : VirtualMachineInterface) : Option String := v.fqName.getLast?

def schema : JsonRecord VirtualMachineInterface where
  name := "VirtualMachineInterface"
  start := { fqName := [] }
  fields :=
    [ optional "uuid" .string fun v i => { i with uuid := v },
      required "fq_name" (.list .string) fun v i => { i with fqName := v },
      defaulted "parent_type" .string fun v i => { i with parentType := v },
      defaulted "virtual_network_refs" (.list Reference.decoder)
        fun v i => { i with networkRefs := v },
      optional "virtual_machine_interface_properties" InterfaceProperties.decoder
        fun v i => { i with properties := v },
      optional "virtual_machine_interface_bindings" KeyValuePairs.decoder
        fun v i => { i with bindings := v },
      optional "id_perms" IdPerms.decoder fun v i => { i with idPerms := v },
      defaulted "virtual_port_group_back_refs" (.list Reference.decoder)
        fun v i => { i with portGroupBackRefs := v } ]

instance : IsObject VirtualMachineInterface where
  resource := .virtualMachineInterface
  uuid? := uuid
  fqName := fqName
  decoder := .record schema
  toJson i :=
    .obj (optionalMember "uuid" .str i.uuid ++
      [("fq_name", .strings i.fqName),
        ("parent_type", .str i.parentType),
        ("virtual_network_refs", Reference.listToJson i.networkRefs)] ++
      optionalMember "virtual_machine_interface_properties" InterfaceProperties.toJson
        i.properties ++
      optionalMember "virtual_machine_interface_bindings" KeyValuePairs.toJson i.bindings ++
      optionalMember "id_perms" IdPerms.toJson i.idPerms)
  unwritten i := [("virtual_port_group_back_refs", Reference.listToJson i.portGroupBackRefs)]

end VirtualMachineInterface

/-- An interface of a switch, with the port groups that it belongs to. -/
structure PhysicalInterface where
  uuid : String := ""
  fqName : FqName
  portGroupBackRefs : List Reference := []
deriving Repr, Inhabited

def PhysicalInterface.schema : JsonRecord PhysicalInterface where
  name := "PhysicalInterface"
  start := { fqName := [] }
  fields :=
    [ defaulted "uuid" .string fun v i => { i with uuid := v },
      required "fq_name" (.list .string) fun v i => { i with fqName := v },
      defaulted "virtual_port_group_back_refs" (.list Reference.decoder)
        fun v i => { i with portGroupBackRefs := v } ]

instance : IsObject PhysicalInterface where
  resource := .physicalInterface
  uuid? i := uuidUnlessEmpty i.uuid
  fqName := PhysicalInterface.fqName
  decoder := .record PhysicalInterface.schema
  toJson i := .obj [("uuid", .str i.uuid), ("fq_name", .strings i.fqName)]
  unwritten i := [("virtual_port_group_back_refs", Reference.listToJson i.portGroupBackRefs)]

/-- A group of interfaces of switches that serve as one link. Only its references to virtual
machine interfaces are ever written back. -/
structure VirtualPortGroup where
  uuid : String := ""
  fqName : FqName
  userCreated : Bool := false
  interfaceRefs : List Reference := []
  vmiRefs : List Reference := []
deriving Repr, Inhabited

namespace VirtualPortGroup

def name (g : VirtualPortGroup) : Option String := g.fqName.getLast?

/-- Does a reference denote an interface? Their uuids decide if both have one, else their names
do. -/
def denotes (ref : Reference) (vmi : VirtualMachineInterface) : Bool :=
  match vmi.uuid with
  | some uuid => if ref.uuid ≠ "" then ref.uuid == uuid else ref.target == vmi.fqName
  | none => ref.target == vmi.fqName

/-- The group without its references to an interface. -/
def detach (g : VirtualPortGroup) (vmi : VirtualMachineInterface) : VirtualPortGroup :=
  { g with vmiRefs := g.vmiRefs.filter fun ref => !denotes ref vmi }

def schema : JsonRecord VirtualPortGroup where
  name := "VirtualPortGroup"
  start := { fqName := [] }
  fields :=
    [ defaulted "uuid" .string fun v g => { g with uuid := v },
      required "fq_name" (.list .string) fun v g => { g with fqName := v },
      defaulted "virtual_port_group_user_created" .bool fun v g => { g with userCreated := v },
      defaulted "physical_interface_refs" (.list Reference.decoder)
        fun v g => { g with interfaceRefs := v },
      defaulted "virtual_machine_interface_refs" (.list Reference.decoder)
        fun v g => { g with vmiRefs := v } ]

instance : IsObject VirtualPortGroup where
  resource := .virtualPortGroup
  uuid? g := uuidUnlessEmpty g.uuid
  fqName := fqName
  decoder := .record schema
  toJson g :=
    .obj [("uuid", .str g.uuid), ("fq_name", .strings g.fqName),
      ("virtual_machine_interface_refs", Reference.listToJson g.vmiRefs)]
  unwritten g :=
    [("virtual_port_group_user_created", .bool g.userCreated),
      ("physical_interface_refs", Reference.listToJson g.interfaceRefs)]

end VirtualPortGroup

/-- A switch, with the fabric that it belongs to. -/
structure PhysicalRouter where
  uuid : String := ""
  fqName : FqName
  fabricRefs : List Reference := []
deriving Repr, Inhabited

def PhysicalRouter.schema : JsonRecord PhysicalRouter where
  name := "PhysicalRouter"
  start := { fqName := [] }
  fields :=
    [ defaulted "uuid" .string fun v r => { r with uuid := v },
      required "fq_name" (.list .string) fun v r => { r with fqName := v },
      defaulted "fabric_refs" (.list Reference.decoder) fun v r => { r with fabricRefs := v } ]

instance : IsObject PhysicalRouter where
  resource := .physicalRouter
  uuid? r := uuidUnlessEmpty r.uuid
  fqName := PhysicalRouter.fqName
  decoder := .record PhysicalRouter.schema
  toJson r :=
    .obj [("uuid", .str r.uuid), ("fq_name", .strings r.fqName),
      ("fabric_refs", Reference.listToJson r.fabricRefs)]

/-- A compute host that the controller knows, with references to its network cards. -/
structure Node where
  uuid : String := ""
  fqName : FqName
  hostname : Option String := none
  ports : List Reference := []
deriving Repr, Inhabited

def Node.schema : JsonRecord Node where
  name := "FabricNode"
  start := { fqName := [] }
  fields :=
    [ defaulted "uuid" .string fun v n => { n with uuid := v },
      required "fq_name" (.list .string) fun v n => { n with fqName := v },
      optional "node_hostname" .string fun v n => { n with hostname := v },
      defaulted "ports" (.list Reference.decoder) fun v n => { n with ports := v } ]

instance : IsObject Node where
  resource := .node
  uuid? n := uuidUnlessEmpty n.uuid
  fqName := Node.fqName
  decoder := .record Node.schema
  toJson n :=
    .obj ([("uuid", .str n.uuid), ("fq_name", .strings n.fqName)] ++
      optionalMember "node_hostname" .str n.hostname)
  unwritten n := [("ports", Reference.listToJson n.ports)]

/-- A network card of a compute host, with the interface of a switch that it is cabled to. -/
structure Port where
  uuid : String := ""
  fqName : FqName
  interfaceBackRefs : List Reference := []
deriving Repr, Inhabited

def Port.schema : JsonRecord Port where
  name := "FabricPort"
  start := { fqName := [] }
  fields :=
    [ defaulted "uuid" .string fun v p => { p with uuid := v },
      required "fq_name" (.list .string) fun v p => { p with fqName := v },
      defaulted "physical_interface_back_refs" (.list Reference.decoder)
        fun v p => { p with interfaceBackRefs := v } ]

instance : IsObject Port where
  resource := .port
  uuid? p := uuidUnlessEmpty p.uuid
  fqName := Port.fqName
  decoder := .record Port.schema
  toJson p := .obj [("uuid", .str p.uuid), ("fq_name", .strings p.fqName)]
  unwritten p := [("physical_interface_back_refs", Reference.listToJson p.interfaceBackRefs)]

/-! ## Objects of a kind -/

/-- The objects of a kind. -/
abbrev Resource.Object : Resource → Type
  | .project => Project
  | .virtualNetwork => VirtualNetwork
  | .virtualMachineInterface => VirtualMachineInterface
  | .physicalInterface => PhysicalInterface
  | .virtualPortGroup => VirtualPortGroup
  | .physicalRouter => PhysicalRouter
  | .node => Node
  | .port => Port

instance (r : Resource) : IsObject r.Object :=
  match r with
  | .project => inferInstanceAs (IsObject Project)
  | .virtualNetwork => inferInstanceAs (IsObject VirtualNetwork)
  | .virtualMachineInterface => inferInstanceAs (IsObject VirtualMachineInterface)
  | .physicalInterface => inferInstanceAs (IsObject PhysicalInterface)
  | .virtualPortGroup => inferInstanceAs (IsObject VirtualPortGroup)
  | .physicalRouter => inferInstanceAs (IsObject PhysicalRouter)
  | .node => inferInstanceAs (IsObject Node)
  | .port => inferInstanceAs (IsObject Port)

end VlanBinding.Fabric
