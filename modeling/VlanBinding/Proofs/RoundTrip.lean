import VlanBinding.Proofs.Nodes
import VlanBinding.Topology.Validation

/-!
Topology documents that are written and read back. What is written is one YAML mapping whose texts
come back letter by letter; the decoders then find every field where its record has it, and a text
that looks like nothing is quoted and stays a text.
Main statement: a document that makes sense reads back as itself.
-/

namespace VlanBinding.Yaml

namespace Decoder

variable {α : Type} {anchors : Anchors}

/-- A decoder that gives back what a tree was made of, wherever the tree stands. -/
def Recovers (d : Decoder α) (tree : α → Tree) : Prop :=
  ∀ x path, d ⟨path, (tree x).node⟩ = .ok x

theorem recovers_string : (string anchors).Recovers .text := fun _ _ => rfl

/-- A text that looks like nothing is in quotes, and so it is not taken for that. -/
theorem isAbsent_of_needsQuotes (path : Path) (text : String) :
    isAbsent path text (!needsQuotes text) none = .ok false := by
  cases hquoted : needsQuotes text with
  | true => rfl
  | false =>
      have htilde : text ≠ "~" := by
        rintro rfl
        exact absurd hquoted (by decide)
      have hnull : text ≠ "null" := by
        rintro rfl
        exact absurd hquoted (by decide)
      simp [isAbsent, htilde, hnull]

theorem optionalString_text (text : String) (path : Path) :
    optionalString anchors ⟨path, (Tree.text text).node⟩ = .ok (some text) := by
  simp only [optionalString, Tree.node, Node.resolve, isAbsent_of_needsQuotes]
  rfl

theorem items_zipIdx {d : Decoder α} {tree : α → Tree} (h : d.Recovers tree) (path : Path)
    (xs : List α) (start : Nat) :
    items d (((xs.map fun x => (tree x).node).zipIdx start).map fun (node, index) =>
      ⟨.item path index, node⟩) = .ok xs := by
  induction xs generalizing start with
  | nil => rfl
  | cons x xs ih =>
      rw [List.map_cons, List.zipIdx_cons, List.map_cons, items, h x, ih (start + 1)]
      rfl

theorem Recovers.list {d : Decoder α} {tree : α → Tree} (h : d.Recovers tree) :
    (list anchors d).Recovers fun xs => .list (xs.map tree) := by
  intro xs path
  have hnodes : itemNodes (xs.map tree) = xs.map fun x => (tree x).node := by
    rw [itemNodes_eq_map, List.map_map]
    rfl
  have hread := items_zipIdx h path xs 0
  rw [← hnodes] at hread
  exact hread

/-- The keys and the values of a mapping. -/
theorem map_member_entryNodes (path : Path) (entries : List (String × Tree)) :
    (entryNodes entries).map (member anchors path) =
      entries.map fun (key, value) => (.ok key, ⟨.entry path key, value.node⟩) := by
  induction entries with
  | nil => rfl
  | cons entry rest ih =>
      rw [entryNodes, List.map_cons, ih, List.map_cons]
      rfl

theorem record_map {R : Type} (r : Schema.Record Located Misfit R) (path : Path)
    (entries : List (String × Tree)) :
    record anchors r ⟨path, (Tree.map entries).node⟩ =
      r.ofMembers (Misfit.mk path) (fun _ => .ok ())
        (entries.map fun (key, value) => (.ok key, ⟨.entry path key, value.node⟩)) (.ok ()) := by
  rw [← map_member_entryNodes]
  rfl

end Decoder

end VlanBinding.Yaml

namespace VlanBinding.Topology

open VlanBinding.Yaml VlanBinding.Schema

variable {anchors : Anchors}

theorem recovers_link :
    (Decoder.record anchors (Link.yamlSchema anchors)).Recovers Link.tree := by
  rintro ⟨name, switchName, portName, switchId⟩ path
  rw [Link.tree, Decoder.record_map]
  cases name <;> cases switchId <;>
    simp [optionalEntry, Link.yamlSchema, Field.required, Field.defaulted, Record.ofMembers,
      Record.readMembers, Record.readMember, Record.missing?, Except.map,
      Decoder.recovers_string _ _, Decoder.optionalString_text]

theorem recovers_node :
    (Decoder.record anchors (Node.yamlSchema anchors)).Recovers Node.tree := by
  rintro ⟨name, ports⟩ path
  rw [Node.tree, Decoder.record_map]
  simp [Node.yamlSchema, Field.required, Record.ofMembers, Record.readMembers, Record.readMember,
    Record.missing?, Except.map, Decoder.recovers_string _ _, recovers_link.list _ _]

theorem shortKeys_link (l : Link) : l.tree.ShortKeys := by
  have hname : (scalar "name").length ≤ Lexer.keyLength := by decide
  have hswitch : (scalar "switch_name").length ≤ Lexer.keyLength := by decide
  have hport : (scalar "port_name").length ≤ Lexer.keyLength := by decide
  have hid : (scalar "switch_id").length ≤ Lexer.keyLength := by decide
  obtain ⟨name, switchName, portName, switchId⟩ := l
  cases name <;> cases switchId <;>
    simp [Link.tree, optionalEntry, Tree.ShortKeys, ShortKeysEntries, hname, hswitch, hport, hid]

theorem shortKeysItems_map {α : Type} {tree : α → Tree} (h : ∀ x, (tree x).ShortKeys)
    (xs : List α) : ShortKeysItems (xs.map tree) := by
  induction xs with
  | nil => trivial
  | cons x xs ih => exact ⟨h x, ih⟩

theorem shortKeys_node (n : Node) : n.tree.ShortKeys :=
  ⟨by decide, trivial, by decide, shortKeysItems_map shortKeys_link n.ports, trivial⟩

namespace Document

/-- What is written is read back, whether or not it makes sense. -/
theorem decode_render (d : Document) : Document.decode d.render = .ok d := by
  have hshort : ShortKeysEntries [("nodes", .list (d.nodes.map Node.tree))] :=
    ⟨by decide, shortKeysItems_map shortKeys_node d.nodes, trivial⟩
  rw [Document.decode, Yaml.decode, render, parse?_renderMap hshort]
  simp [Decoder.record_map, yamlSchema, Field.required, Record.ofMembers, Record.readMembers,
    Record.readMember, Record.missing?, Except.map, recovers_node.list _ _]

end Document

/-! ## Documents that make sense -/

theorem flatMap_zipIdx_eq_nil {α β : Type} {f : α → Nat → List β} {p : α → Prop}
    (h : ∀ x i, f x i = [] ↔ p x) (xs : List α) (start : Nat) :
    (xs.zipIdx start).flatMap (fun (x, i) => f x i) = [] ↔ ∀ x ∈ xs, p x := by
  induction xs generalizing start with
  | nil => simp
  | cons x xs ih => simp [h, ih]

theorem Link.violations_eq_nil_iff (l : Link) (node port : Nat) :
    l.violations node port = [] ↔ l.switchName ≠ "" ∧ l.portName ≠ "" := by
  simp [Link.violations]

theorem Node.violations_eq_nil_iff (n : Node) (node : Nat) :
    n.violations node = [] ↔ n.name ≠ "" ∧ n.ports ≠ [] ∧
      ∀ l ∈ n.ports, l.switchName ≠ "" ∧ l.portName ≠ "" := by
  rw [Node.violations, List.append_eq_nil_iff, List.append_eq_nil_iff,
    flatMap_zipIdx_eq_nil fun l port => Link.violations_eq_nil_iff l node port]
  simp [and_assoc]

namespace Document

/-- A document makes sense if nothing is wrong with it. -/
theorem violations_eq_nil_iff (d : Document) : d.violations = [] ↔ d.Valid := by
  have hparts : d.partViolations = [] ↔ ∀ n ∈ d.nodes, n.name ≠ "" ∧ n.ports ≠ [] ∧
      ∀ l ∈ n.ports, l.switchName ≠ "" ∧ l.portName ≠ "" :=
    flatMap_zipIdx_eq_nil Node.violations_eq_nil_iff d.nodes 0
  have hvalid : d.Valid ↔ d.partViolations = [] ∧ d.distinctNames = true := by
    rw [hparts, distinctNames, decide_eq_true_iff]
    constructor
    · intro h
      exact ⟨fun n hn => ⟨h.names n hn, h.ports n hn, h.links n hn⟩, h.distinct⟩
    · rintro ⟨hnodes, hdistinct⟩
      exact ⟨fun n hn => (hnodes n hn).1, fun n hn => (hnodes n hn).2.1,
        fun n hn => (hnodes n hn).2.2, hdistinct⟩
  rw [hvalid, violations]
  by_cases hnone : d.partViolations = []
  · cases d.distinctNames <;> simp [hnone]
  · simp [hnone]

/-- A document that makes sense reads back as itself. -/
theorem parse_render {d : Document} (h : d.Valid) : parse d.render = .ok d := by
  rw [parse, decode_render]
  simp only [(violations_eq_nil_iff d).mpr h]

/-- Texts that look like nothing, like numbers and truth values, and like YAML. -/
def lookalikes : Document where
  nodes :=
    [ ⟨"null", [⟨some "", "~", "- a: # \x22b\x22", some "null"⟩]⟩,
      ⟨"1e3", [⟨none, "yes", "\x00\r\n\t\x7f", none⟩,
        ⟨some " ", "\x7b\x7d", "---\nä\u2028", some "~"⟩]⟩ ]

theorem parse_render_lookalikes :
    lookalikes.Valid ∧ parse lookalikes.render = .ok lookalikes := by
  have hvalid : lookalikes.Valid :=
    ⟨by decide, by decide, by decide, by decide⟩
  exact ⟨hvalid, parse_render hvalid⟩

end Document

end VlanBinding.Topology
