import VlanBinding.Json.Decoder
import VlanBinding.Yaml.Decoder
import VlanBinding.Yaml.Printer

/-!
The topology document: which compute hosts there are, and which interface of which switch each of
their links goes to.
-/

namespace VlanBinding.Topology

/-- A link of a host into the fabric. -/
structure Link where
  /-- the network card of the host -/
  name : Option String := none
  switchName : String
  /-- the interface of the switch -/
  portName : String
  switchId : Option String := none
deriving DecidableEq, Repr, Inhabited

/-- A compute host and its links. Its name is the host id of Neutron. -/
structure Node where
  name : String
  ports : List Link
deriving DecidableEq, Repr, Inhabited

structure Document where
  nodes : List Node
deriving DecidableEq, Repr, Inhabited

/-- The switch and the interface that a link goes to. -/
def Link.endpoint (l : Link) : String × String := (l.switchName, l.portName)

/-- The first node of a name. -/
def Document.node? (d : Document) (name : String) : Option Node :=
  d.nodes.find? (·.name == name)

/-! ## YAML -/

section Yaml

open VlanBinding.Yaml VlanBinding.Schema

def Link.yamlSchema (anchors : Anchors) : Record Located Misfit Link where
  name := "TopologyPort"
  start := { switchName := "", portName := "" }
  fields :=
    [ .defaulted "name" (Decoder.optionalString anchors) fun v l => { l with name := v },
      .required "switch_name" (Decoder.string anchors) fun v l => { l with switchName := v },
      .required "port_name" (Decoder.string anchors) fun v l => { l with portName := v },
      .defaulted "switch_id" (Decoder.optionalString anchors)
        fun v l => { l with switchId := v } ]

def Node.yamlSchema (anchors : Anchors) : Record Located Misfit Node where
  name := "TopologyNode"
  start := ⟨"", []⟩
  fields :=
    [ .required "name" (Decoder.string anchors) fun v n => { n with name := v },
      .required "ports" (Decoder.list anchors (Decoder.record anchors (Link.yamlSchema anchors)))
        fun v n => { n with ports := v } ]

def Document.yamlSchema (anchors : Anchors) : Record Located Misfit Document where
  name := "TopologyDocument"
  start := ⟨[]⟩
  fields :=
    [ .required "nodes" (Decoder.list anchors (Decoder.record anchors (Node.yamlSchema anchors)))
        fun v d => { d with nodes := v } ]

/-- The document that a text writes, whether or not it makes sense. -/
def Document.decode (text : String) : Except ReadError Document :=
  Yaml.decode (fun anchors => Decoder.record anchors (Document.yamlSchema anchors)) text

/-- An entry that is left out when there is no value. -/
def optionalEntry (key : String) : Option String → List (String × Tree)
  | none => []
  | some text => [(key, .text text)]

def Link.tree (l : Link) : Tree :=
  .map (optionalEntry "name" l.name ++
    [("switch_name", .text l.switchName), ("port_name", .text l.portName)] ++
    optionalEntry "switch_id" l.switchId)

def Node.tree (n : Node) : Tree :=
  .map [("name", .text n.name), ("ports", .list (n.ports.map Link.tree))]

/-- The document as text. -/
def Document.render (d : Document) : String :=
  renderMap [("nodes", .list (d.nodes.map Node.tree))]

end Yaml

/-! ## JSON -/

section Json

open VlanBinding.Json

def Link.schema : JsonRecord Link where
  name := "TopologyPort"
  start := { switchName := "", portName := "" }
  fields :=
    [ optional "name" .string fun v l => { l with name := v },
      required "switch_name" .string fun v l => { l with switchName := v },
      required "port_name" .string fun v l => { l with portName := v },
      optional "switch_id" .string fun v l => { l with switchId := v } ]

def Node.schema : JsonRecord Node where
  name := "TopologyNode"
  start := ⟨"", []⟩
  fields :=
    [ required "name" .string fun v n => { n with name := v },
      required "ports" (.list (.record Link.schema)) fun v n => { n with ports := v } ]

def Link.toJson (l : Link) : Json :=
  .obj (optionalMember "name" .str l.name ++
    [("switch_name", .str l.switchName), ("port_name", .str l.portName)] ++
    optionalMember "switch_id" .str l.switchId)

def Node.toJson (n : Node) : Json :=
  .obj [("name", .str n.name), ("ports", .arr (n.ports.map Link.toJson))]

def Document.toJson (d : Document) : Json := .obj [("nodes", .arr (d.nodes.map Node.toJson))]

end Json

end VlanBinding.Topology
