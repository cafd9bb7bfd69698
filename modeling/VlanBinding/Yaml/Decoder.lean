import VlanBinding.Schema.Record
import VlanBinding.Yaml.Expansion

/-!
Decoders from YAML nodes into texts and records. Every error carries the path to the node that it
was met at.
-/

namespace VlanBinding.Yaml

open VlanBinding.Schema

/-- The way from the root of a document to a node. -/
inductive Path where
  | root
  | item (parent : Path) (index : Nat)
  | entry (parent : Path) (key : String)
  /-- a value whose key is no scalar -/
  | unknown (parent : Path)
deriving DecidableEq, Repr, Inhabited

namespace Path

/-- The path in front of a key. -/
def dotted (text : String) : Path → String
  | root => ""
  | _ => text ++ "."

def text : Path → String
  | root => "."
  | item parent index => parent.text ++ "[" ++ toString index ++ "]"
  | entry parent key => parent.dotted parent.text ++ key
  | unknown parent => parent.dotted parent.text ++ "?"

end Path

/-- A node and the way to it. -/
structure Located where
  path : Path
  node : Node
deriving Repr, Inhabited

/-- What is wrong, and where. -/
structure Misfit where
  path : Path
  problem : Problem
deriving DecidableEq, Repr

/-- The message of an error; the root is not named. -/
def Misfit.message (m : Misfit) : String :=
  match m.path with
  | .root => m.problem.message
  | path => path.text ++ ": " ++ m.problem.message

abbrev Decoder (α : Type) := Located → Except Misfit α

/-- The error of a node that is not of the wanted kind. -/
def Node.problem (node : Node) (wanted : String) : Problem :=
  match node with
  | .scalar text plain tag => scalarProblem text plain tag wanted
  | .sequence _ => .wrongType .sequence wanted
  | .mapping _ => .wrongType .map wanted
  | .aliasOf _ => .wrongType .unit wanted

namespace Decoder

variable (anchors : Anchors)

/-- The text of any scalar, as it stands in the document. -/
def string : Decoder String := fun n =>
  match n.node.resolve anchors with
  | .scalar text _ _ => .ok text
  | node => .error ⟨n.path, node.problem "a string"⟩

/-- Is a scalar the absence of a value? A null tag demands that. -/
def isAbsent (path : Path) (text : String) (plain : Bool) (tag : Option Tag) :
    Except Misfit Bool :=
  let null := text == "~" || text == "null"
  match plain, tag with
  | false, _ => .ok false
  | true, none => .ok null
  | true, some ⟨"!!", "null"⟩ =>
    if null then .ok true
    else .error ⟨path, .wrongValue (.str (Text.showText text)) "null"⟩
  | true, some _ => .ok false

/-- A text, or nothing where a plain null is written. -/
def optionalString : Decoder (Option String) := fun n =>
  match n.node.resolve anchors with
  | .scalar text plain tag =>
    let parent :=
      match n.path with
      | .root => Path.root
      | .item parent _ => parent
      | .entry parent _ => parent
      | .unknown parent => parent
    (isAbsent parent text plain tag).map fun absent => if absent then none else some text
  | node => .error ⟨n.path, node.problem "a string"⟩

/-- Items with their paths. -/
def locate (path : Path) (items : List Node) : List Located :=
  items.zipIdx.map fun (node, index) => ⟨.item path index, node⟩

/-- Located nodes in order. -/
def items {α : Type} (d : Decoder α) : List Located → Except Misfit (List α)
  | [] => .ok []
  | n :: rest =>
    match d n with
    | .error e => .error e
    | .ok v => (items d rest).map (v :: ·)

def list {α : Type} (d : Decoder α) : Decoder (List α) := fun n =>
  match n.node.resolve anchors with
  | .sequence nodes => items d (locate n.path nodes)
  | node => .error ⟨n.path, node.problem "a sequence"⟩

/-- A key, and the place of its value. A key that is an alias has no text in paths. -/
def member (path : Path) : Node × Node → Except Misfit String × Located
  | (.scalar key _ _, value) => (.ok key, ⟨.entry path key, value⟩)
  | (key, value) =>
    match key.resolve anchors with
    | .scalar text _ _ => (.ok text, ⟨.unknown path, value⟩)
    | node => (.error ⟨path, node.problem "field identifier"⟩, ⟨.unknown path, value⟩)

/-- A record, from a mapping or from the sequence of its fields. -/
def record {R : Type} (r : Record Located Misfit R) : Decoder R := fun n =>
  let report := fun problem => Misfit.mk n.path problem
  match n.node.resolve anchors with
  | .mapping entries =>
    r.ofMembers report (fun _ => .ok ()) (entries.map (member anchors n.path)) (.ok ())
  | .sequence nodes =>
    let expected := "sequence of " ++ counted r.fields.length "element"
    r.ofItems report (locate n.path nodes) (.ok ())
      (report (.wrongLength nodes.length expected))
  | node => .error (report (node.problem r.wanted))

end Decoder

/-- Why a text does not give the document that is wanted. -/
inductive ReadError where
  /-- the text is not one YAML document, or not one that expands within the limits -/
  | notYaml
  | misfit (misfit : Misfit)
deriving DecidableEq, Repr

/-- Decodes the only document of a text. What does not fit in it is reported only if the document
as a whole is sound. -/
def decode {α : Type} (decoder : Anchors → Decoder α) (text : String) : Except ReadError α :=
  match (parse? text).map fun stream => (stream.documents, stream.anchors) with
  | some ([document], anchors) =>
    match decoder anchors ⟨.root, document⟩ with
    | .ok value => .ok value
    | .error misfit => .error (if document.expands anchors then .misfit misfit else .notYaml)
  | _ => .error .notYaml

end VlanBinding.Yaml
