import VlanBinding.Yaml.Node
import VlanBinding.Yaml.Plain

/-!
Documents with every alias replaced by what it stands for. A node that holds an alias of itself
expands without end, and a few aliases of aliases to very much, so that there are limits on how deep
and how often.
-/

namespace VlanBinding.Yaml

mutual

/-- The size of a node: one for a leaf, and two for a collection, besides what it holds. -/
def Node.size : Node → Nat
  | .scalar _ _ _ => 1
  | .aliasOf _ => 1
  | .sequence items => sizeOfItems items + 2
  | .mapping entries => sizeOfEntries entries + 2

def sizeOfItems : List Node → Nat
  | [] => 0
  | item :: rest => item.size + sizeOfItems rest

def sizeOfEntries : List (Node × Node) → Nat
  | [] => 0
  | (key, value) :: rest => key.size + value.size + sizeOfEntries rest

end

namespace Node

/-- Follows an alias, if the node is one and it may still be followed. Gives how many may be
followed after it. -/
def follow? (node : Node) (left : Nat) : Option Nat :=
  match node, left with
  | .aliasOf _, 0 => none
  | .aliasOf _, left + 1 => some left
  | _, left => some left

/-- Expands a leaf, which has to be a value. -/
def expandLeaf? (node : Node) (left : Nat) : Option Nat :=
  match node with
  | .scalar text plain tag => if isValue text plain tag then some left else none
  | _ => none

/-- Expands a leaf or a collection, where `inner` expands what the collection holds. -/
def expandWith? (inner : Node → Nat → Option Nat) (node : Node) (left : Nat) : Option Nat :=
  match node with
  | .sequence items => items.foldlM (fun left item => inner item left) left
  | .mapping entries =>
    entries.foldlM (fun left entry => (inner entry.1 left).bind (inner entry.2)) left
  | leaf => leaf.expandLeaf? left

/-- Expands a node with at most `depth` collections within each other, following at most `left`
aliases. Gives how many may be followed after it. -/
def expand? (anchors : Anchors) : Nat → Node → Nat → Option Nat
  | 0, node, left => (node.follow? left).bind (expandLeaf? (node.resolve anchors))
  | depth + 1, node, left =>
    (node.follow? left).bind (expandWith? (expand? anchors depth) (node.resolve anchors))

/-- How many collections of a document may be within each other. -/
def depthLimit : Nat := 128

/-- How many aliases of a document may be followed. -/
def aliasLimit (document : Node) : Nat := 100 * document.size

/-- Does a document expand to a value within the limits? -/
def expands (anchors : Anchors) (document : Node) : Bool :=
  (document.expand? anchors depthLimit document.aliasLimit).isSome

end Node

end VlanBinding.Yaml
