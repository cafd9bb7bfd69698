import VlanBinding.Keyed
import VlanBinding.Topology.Validation

/-!
The nodes of a document, to be found by the host that they describe.
-/

namespace VlanBinding.Topology

/-- The nodes under their names. -/
structure Index where
  nodes : Keyed String Node
deriving Repr

namespace Index

/-- The nodes of a document; of two nodes with one name the later one stays. -/
def ofDocument (d : Document) : Index :=
  ⟨d.nodes.foldl (fun kept n => Keyed.put n.name n kept) []⟩

def node? (i : Index) (host : String) : Option Node := Keyed.get? host i.nodes

end Index

/-- The index finds the last node of a name. -/
theorem Index.node?_ofDocument (d : Document) (host : String) :
    (Index.ofDocument d).node? host = d.nodes.reverse.find? (·.name = host) := by
  have h := Keyed.get?_foldl_put host (d.nodes.map fun n => (n.name, n)) []
  simp only [List.foldl_map, ← List.map_reverse, List.find?_map, Function.comp_def,
    Option.map_map, Keyed.get?_nil, Option.or_none] at h
  rw [Index.node?, Index.ofDocument, h]
  cases d.nodes.reverse.find? (·.name = host) <;> rfl

end VlanBinding.Topology
