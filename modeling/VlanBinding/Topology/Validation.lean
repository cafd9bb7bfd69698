import VlanBinding.File
import VlanBinding.Topology.Document
import VlanBinding.Wording

/-!
When a topology document makes sense: nothing in it has an empty name, every node has a link, and
no two nodes share a name. A document that does not is refused as a whole, with everything that is
wrong with it.
-/

namespace VlanBinding.Topology

/-- One thing that is wrong with a document. -/
inductive Violation where
  | emptyName (node : Nat)
  | noPorts (node : Nat)
  | emptySwitch (node port : Nat)
  | emptyPortName (node port : Nat)
  | sharedName
deriving DecidableEq, Repr

namespace Violation

def nodePath (node : Nat) : String := "nodes[" ++ toString node ++ "]"

def portPath (node port : Nat) : String := nodePath node ++ ".ports[" ++ toString port ++ "]"

def message : Violation → String
  | emptyName node => nodePath node ++ ".name: length"
  | noPorts node => nodePath node ++ ".ports: length"
  | emptySwitch node port => portPath node port ++ ".switch_name: length"
  | emptyPortName node port => portPath node port ++ ".port_name: length"
  | sharedName => "__all__: duplicated_node_names"

end Violation

/-- What is wrong with a link. -/
def Link.violations (node port : Nat) (l : Link) : List Violation :=
  (if l.switchName = "" then [.emptySwitch node port] else []) ++
    (if l.portName = "" then [.emptyPortName node port] else [])

/-- What is wrong with a node on its own. -/
def Node.violations (node : Nat) (n : Node) : List Violation :=
  (if n.name = "" then [.emptyName node] else []) ++
    (if n.ports = [] then [.noPorts node] else []) ++
    n.ports.zipIdx.flatMap fun (l, port) => l.violations node port

/-- Are the names of the nodes pairwise distinct? -/
def Document.distinctNames (d : Document) : Bool := decide (d.nodes.map (·.name)).Nodup

/-- What is wrong with the parts of a document. -/
def Document.partViolations (d : Document) : List Violation :=
  d.nodes.zipIdx.flatMap fun (n, node) => n.violations node

/-- All that is wrong with a document. Names are compared only when nothing else is wrong. -/
def Document.violations (d : Document) : List Violation :=
  if d.partViolations ≠ [] then d.partViolations
  else if d.distinctNames then []
  else [.sharedName]

/-- A document that makes sense. -/
structure Document.Valid (d : Document) : Prop where
  names : ∀ n ∈ d.nodes, n.name ≠ ""
  ports : ∀ n ∈ d.nodes, n.ports ≠ []
  links : ∀ n ∈ d.nodes, ∀ l ∈ n.ports, l.switchName ≠ "" ∧ l.portName ≠ ""
  distinct : (d.nodes.map (·.name)).Nodup

/-- Why a text is refused. -/
inductive Refusal where
  | notYaml
  | misfit (misfit : Yaml.Misfit)
  | violations (violations : List Violation)
deriving DecidableEq, Repr

/-- What is wrong with the text; violations are sorted by their messages. -/
def Refusal.message (w : Wording) : Refusal → String
  | notYaml => w.yaml
  | misfit m => m.message
  | violations vs =>
      ", ".intercalate ((vs.map Violation.message).mergeSort fun a b => decide (a ≤ b))

/-- Why there is no document. -/
inductive DocumentError where
  /-- the file cannot be read -/
  | unreadable (path : String)
  | invalid (reason : Refusal)
deriving DecidableEq, Repr

def DocumentError.message (w : Wording) : DocumentError → String
  | unreadable path => "could not read topology file " ++ path
  | invalid reason => "topology has invalid format: " ++ reason.message w

/-- A document read from text and found to make sense. -/
def Document.parse (text : String) : Except DocumentError Document :=
  match Document.decode text with
  | .error .notYaml => .error (.invalid .notYaml)
  | .error (.misfit m) => .error (.invalid (.misfit m))
  | .ok d =>
    match d.violations with
    | [] => .ok d
    | vs => .error (.invalid (.violations vs))

/-- A document read from a file. -/
def Document.load (file : File) : Except DocumentError Document :=
  match file.text? with
  | none => .error (.unreadable file.path)
  | some text => Document.parse text

end VlanBinding.Topology
