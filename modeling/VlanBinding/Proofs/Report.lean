import VlanBinding.Proofs.Naming
import VlanBinding.Proofs.RoundTrip
import Mathlib.Data.List.Dedup

/-!
What is said of a document that makes no sense. Main statement: a text that writes a document is
accepted exactly if the document makes sense; otherwise each part that breaks a rule is named once,
by its path, and that names are shared is said only if no part breaks a rule.
-/

namespace VlanBinding.Topology

/-! ## What is wrong with the parts -/

/-- A part of the document breaks a rule of its own. -/
inductive Document.Breaks (d : Document) : Violation → Prop
  | emptyName {i : Nat} {n : Node} (hnode : d.nodes[i]? = some n) (hname : n.name = "") :
      Breaks d (.emptyName i)
  | noPorts {i : Nat} {n : Node} (hnode : d.nodes[i]? = some n) (hports : n.ports = []) :
      Breaks d (.noPorts i)
  | emptySwitch {i j : Nat} {n : Node} {l : Link} (hnode : d.nodes[i]? = some n)
      (hlink : n.ports[j]? = some l) (hswitch : l.switchName = "") : Breaks d (.emptySwitch i j)
  | emptyPortName {i j : Nat} {n : Node} {l : Link} (hnode : d.nodes[i]? = some n)
      (hlink : n.ports[j]? = some l) (hport : l.portName = "") : Breaks d (.emptyPortName i j)

/-- Two nodes share a name. -/
def Document.SharesName (d : Document) : Prop :=
  ∃ (i j : Nat) (n other : Node), i < j ∧ d.nodes[i]? = some n ∧ d.nodes[j]? = some other ∧
    n.name = other.name

/-- What is to be said of the document: what its parts break, or else that nodes share a name. -/
def Document.Reports (d : Document) (v : Violation) : Prop :=
  d.Breaks v ∨ v = .sharedName ∧ (∀ w, ¬ d.Breaks w) ∧ d.SharesName

/-- The node that a violation is in, if it is in one. -/
def Violation.node? : Violation → Option Nat
  | emptyName node | noPorts node | emptySwitch node _ | emptyPortName node _ => some node
  | sharedName => none

/-- The link that a violation is in, if it is in one. -/
def Violation.port? : Violation → Option Nat
  | emptySwitch _ port | emptyPortName _ port => some port
  | emptyName _ | noPorts _ | sharedName => none

/-! ## Reports on lists -/

section Lists

variable {α β : Type} {f : α → Nat → List β} {xs : List α}

theorem mem_flatMap_zipIdx_iff {b : β} :
    b ∈ xs.zipIdx.flatMap (fun (x, i) => f x i) ↔ ∃ i x, xs[i]? = some x ∧ b ∈ f x i := by
  simp only [List.mem_flatMap, Prod.exists, List.mk_mem_zipIdx_iff_getElem?]
  exact exists_comm

/-- What is said of an item tells which one, and so nothing is said twice. -/
theorem nodup_flatMap_zipIdx (hitem : ∀ x i, (f x i).Nodup) {index : β → Option Nat}
    (hindex : ∀ x i, ∀ b ∈ f x i, index b = some i) (xs : List α) :
    (xs.zipIdx.flatMap fun (x, i) => f x i).Nodup := by
  rw [List.nodup_flatMap]
  constructor
  · intro e _
    exact hitem e.1 e.2
  · have hindices : xs.zipIdx.Pairwise fun e e' => e.2 < e'.2 := by
      rw [← List.pairwise_map, List.zipIdx_map_snd]
      exact List.pairwise_lt_range'
    apply hindices.imp
    intro e e' hlt b hb hb'
    have hsame : some e.2 = some e'.2 :=
      (hindex e.1 e.2 b hb).symm.trans (hindex e'.1 e'.2 b hb')
    exact hlt.ne (Option.some.inj hsame)

end Lists

/-! ## Reports on documents -/

theorem Link.mem_violations_iff {l : Link} {node port : Nat} {v : Violation} :
    v ∈ l.violations node port ↔ l.switchName = "" ∧ v = .emptySwitch node port ∨
      l.portName = "" ∧ v = .emptyPortName node port := by
  rw [Link.violations, List.mem_append]
  split <;> split <;> simp_all

theorem Link.nodup_violations (l : Link) (node port : Nat) : (l.violations node port).Nodup := by
  rw [Link.violations]
  split <;> split <;> simp

theorem Link.indices_of_mem_violations {l : Link} {node port : Nat} {v : Violation}
    (hv : v ∈ l.violations node port) : v.node? = some node ∧ v.port? = some port := by
  rcases mem_violations_iff.mp hv with ⟨-, rfl⟩ | ⟨-, rfl⟩ <;> exact ⟨rfl, rfl⟩

namespace Node

variable {n : Node} {node : Nat} {v : Violation}

/-- What is wrong with a node besides its links. -/
def ownViolations (node : Nat) (n : Node) : List Violation :=
  (if n.name = "" then [.emptyName node] else []) ++ (if n.ports = [] then [.noPorts node] else [])

theorem violations_eq_append (n : Node) (node : Nat) :
    n.violations node =
      n.ownViolations node ++ n.ports.zipIdx.flatMap fun (l, port) => l.violations node port := rfl

theorem mem_ownViolations_iff :
    v ∈ n.ownViolations node ↔ n.name = "" ∧ v = .emptyName node ∨
      n.ports = [] ∧ v = .noPorts node := by
  rw [ownViolations, List.mem_append]
  split <;> split <;> simp_all

theorem mem_violations_iff :
    v ∈ n.violations node ↔ (n.name = "" ∧ v = .emptyName node ∨
        n.ports = [] ∧ v = .noPorts node) ∨
      ∃ (port : Nat) (l : Link), n.ports[port]? = some l ∧ v ∈ l.violations node port := by
  rw [violations_eq_append, List.mem_append, mem_ownViolations_iff,
    mem_flatMap_zipIdx_iff (f := fun (l : Link) port => l.violations node port)]

theorem node?_of_mem_violations (hv : v ∈ n.violations node) : v.node? = some node := by
  rcases mem_violations_iff.mp hv with (⟨-, rfl⟩ | ⟨-, rfl⟩) | ⟨port, l, -, hl⟩
  · rfl
  · rfl
  · exact (Link.indices_of_mem_violations hl).1

theorem nodup_violations (n : Node) (node : Nat) : (n.violations node).Nodup := by
  rw [violations_eq_append]
  apply List.Nodup.append
  · rw [ownViolations]
    split <;> split <;> simp
  · exact nodup_flatMap_zipIdx (fun l port => l.nodup_violations node port)
      (fun l port v hv => (Link.indices_of_mem_violations hv).2) n.ports
  · intro v hown hlink
    obtain ⟨port, l, -, hl⟩ :=
      (mem_flatMap_zipIdx_iff (f := fun (l : Link) port => l.violations node port)).mp hlink
    have hport := (Link.indices_of_mem_violations hl).2
    rcases mem_ownViolations_iff.mp hown with ⟨-, rfl⟩ | ⟨-, rfl⟩ <;> cases hport

end Node

namespace Document

variable {d : Document} {v : Violation}

theorem mem_partViolations_iff : v ∈ d.partViolations ↔ d.Breaks v := by
  rw [partViolations, mem_flatMap_zipIdx_iff (f := fun (n : Node) node => n.violations node)]
  constructor
  · rintro ⟨i, n, hnode, hv⟩
    rcases Node.mem_violations_iff.mp hv with (⟨hname, rfl⟩ | ⟨hports, rfl⟩) | ⟨j, l, hlink, hl⟩
    · exact .emptyName hnode hname
    · exact .noPorts hnode hports
    · rcases Link.mem_violations_iff.mp hl with ⟨hswitch, rfl⟩ | ⟨hport, rfl⟩
      · exact .emptySwitch hnode hlink hswitch
      · exact .emptyPortName hnode hlink hport
  · intro h
    cases h with
    | @emptyName i n hnode hname =>
        exact ⟨i, n, hnode, Node.mem_violations_iff.mpr (.inl (.inl ⟨hname, rfl⟩))⟩
    | @noPorts i n hnode hports =>
        exact ⟨i, n, hnode, Node.mem_violations_iff.mpr (.inl (.inr ⟨hports, rfl⟩))⟩
    | @emptySwitch i j n l hnode hlink hswitch =>
        refine ⟨i, n, hnode, Node.mem_violations_iff.mpr (.inr ⟨j, l, hlink, ?_⟩)⟩
        exact Link.mem_violations_iff.mpr (.inl ⟨hswitch, rfl⟩)
    | @emptyPortName i j n l hnode hlink hport =>
        refine ⟨i, n, hnode, Node.mem_violations_iff.mpr (.inr ⟨j, l, hlink, ?_⟩)⟩
        exact Link.mem_violations_iff.mpr (.inr ⟨hport, rfl⟩)

theorem nodup_partViolations (d : Document) : d.partViolations.Nodup :=
  nodup_flatMap_zipIdx (f := fun (n : Node) node => n.violations node)
    (fun n node => n.nodup_violations node) (fun _ _ _ hv => Node.node?_of_mem_violations hv)
    d.nodes

theorem distinctNames_eq_false_iff : d.distinctNames = false ↔ d.SharesName := by
  rw [distinctNames, decide_eq_false_iff_not, List.nodup_iff_getElem?_ne_getElem?]
  push Not
  simp only [List.getElem?_map, List.length_map]
  constructor
  · rintro ⟨i, j, hlt, hj, hsame⟩
    have hi : i < d.nodes.length := by omega
    rw [List.getElem?_eq_getElem hi, List.getElem?_eq_getElem hj] at hsame
    exact ⟨i, j, d.nodes[i], d.nodes[j], hlt, List.getElem?_eq_getElem hi,
      List.getElem?_eq_getElem hj, Option.some.inj hsame⟩
  · rintro ⟨i, j, n, other, hlt, hn, hother, hsame⟩
    obtain ⟨hj, -⟩ := List.getElem?_eq_some_iff.mp hother
    exact ⟨i, j, hlt, hj, by rw [hn, hother, Option.map_some, Option.map_some, hsame]⟩

theorem mem_violations_iff : v ∈ d.violations ↔ d.Reports v := by
  have hparts : d.partViolations = [] ↔ ∀ w, ¬ d.Breaks w := by
    simp only [List.eq_nil_iff_forall_not_mem, mem_partViolations_iff]
  rw [Reports, ← distinctNames_eq_false_iff, ← hparts, ← mem_partViolations_iff, violations]
  by_cases hnone : d.partViolations = []
  · cases d.distinctNames <;> simp [hnone]
  · simp [hnone]

theorem nodup_violations (d : Document) : d.violations.Nodup := by
  rw [violations]
  split
  · exact nodup_partViolations d
  · split <;> simp

end Document

/-! ## The texts of reports -/

namespace Violation

/-- An index ends with its bracket. -/
theorem index_append_inj {i j : Nat} {rest other : String} :
    toString i ++ ("]" ++ rest) = toString j ++ ("]" ++ other) ↔ i = j ∧ rest = other := by
  have hdigits (i : Nat) : ']' ∉ (toString i).toList := by
    intro hbracket
    rw [Nat.toString_eq_repr, Nat.toList_repr] at hbracket
    have hdigit := Nat.isDigit_of_mem_toDigits (by decide) (by decide) hbracket
    exact absurd hdigit (by decide)
  constructor
  · intro h
    have hlist := congrArg String.toList h
    simp only [String.toList_append] at hlist
    obtain ⟨hindex, hrest⟩ := Integration.split_at_separator (hdigits i) (hdigits j) hlist
    have hvalue := congrArg (fun digits => Nat.ofDigitChars 10 digits 0) hindex
    exact ⟨by simpa [Nat.toString_eq_ofList_toDigits] using hvalue, String.toList_inj.mp hrest⟩
  · rintro ⟨rfl, rfl⟩
    rfl

/-- A message tells what is wrong, and where. -/
theorem message_injective : Function.Injective message := by
  intro v w h
  -- equal messages have equal indices, and then the same text behind them
  cases v <;> cases w <;>
    simp only [message, portPath, nodePath, String.append_assoc, String.append_right_inj,
      index_append_inj] at h <;>
    simp_all [← String.toList_inj]

end Violation

/-- The lines of a report are the messages of its violations, each of them once. -/
theorem Refusal.exists_lines {vs : List Violation} (hvs : vs.Nodup) :
    ∃ lines : List String, (∀ w, (violations vs).message w = ", ".intercalate lines) ∧
      lines.Nodup ∧ ∀ line, line ∈ lines ↔ ∃ v ∈ vs, v.message = line := by
  refine ⟨_, fun w => rfl, ?_, fun line => ?_⟩
  · exact (List.mergeSort_perm _ _).nodup_iff.mpr (hvs.map Violation.message_injective)
  · rw [List.mem_mergeSort, List.mem_map]

namespace Document

theorem parse_of_decode {text : String} {d : Document} (hd : decode text = .ok d) :
    parse text =
      if d.violations = [] then .ok d else .error (.invalid (.violations d.violations)) := by
  simp only [parse, hd]
  cases d.violations <;> rfl

/-- A text that writes a document is accepted if the document makes sense. Otherwise it is refused
with all that is wrong: every part that breaks a rule is named, and nothing is said twice. -/
theorem parse_exact {text : String} {d : Document} (hd : decode text = .ok d) :
    (∀ read, parse text = .ok read ↔ read = d ∧ d.Valid) ∧
    (¬ d.Valid → ∃ vs, parse text = .error (.invalid (.violations vs)) ∧
      vs ≠ [] ∧ vs.Nodup ∧ (∀ v, v ∈ vs ↔ d.Reports v) ∧
      ∃ lines : List String,
        (∀ w, (DocumentError.invalid (.violations vs)).message w =
          "topology has invalid format: " ++ ", ".intercalate lines) ∧
        lines.Nodup ∧ ∀ line, line ∈ lines ↔ ∃ v, d.Reports v ∧ v.message = line) := by
  rw [parse_of_decode hd, ← violations_eq_nil_iff]
  constructor
  · intro read
    by_cases hvalid : d.violations = []
    · simp [hvalid, eq_comm]
    · simp [hvalid]
  · intro hvalid
    obtain ⟨lines, hmessage, hlines, hmem⟩ := Refusal.exists_lines (nodup_violations d)
    refine ⟨d.violations, if_neg hvalid, hvalid, nodup_violations d, fun v => mem_violations_iff,
      lines, fun w => ?_, hlines, fun line => ?_⟩
    · exact congrArg ("topology has invalid format: " ++ ·) (hmessage w)
    · simp only [hmem, mem_violations_iff]

/-- A document with all kinds of misprints. -/
def misprints : Document where
  nodes :=
    [⟨"", []⟩,
      ⟨"compute1", [{ switchName := "", portName := "xe-0/0/1" },
        { switchName := "leaf1", portName := "" }]⟩,
      ⟨"compute1", [{ switchName := "leaf1", portName := "xe-0/0/2" }]⟩]

example : misprints.violations.map Violation.message =
    ["nodes[0].name: length", "nodes[0].ports: length", "nodes[1].ports[0].switch_name: length",
      "nodes[1].ports[1].port_name: length"] := by decide +kernel

/-- The document is refused for its misprints, and its shared name is not spoken of. -/
theorem parse_misprints :
    decode misprints.render = .ok misprints ∧ ¬ misprints.Valid ∧
      ∃ vs, parse misprints.render = .error (.invalid (.violations vs)) ∧ vs.Nodup ∧
        .emptyName 0 ∈ vs ∧ .noPorts 0 ∈ vs ∧ .emptySwitch 1 0 ∈ vs ∧ .emptyPortName 1 1 ∈ vs ∧
        .sharedName ∉ vs := by
  have hvalid : ¬ misprints.Valid := fun h => absurd rfl (h.names ⟨"", []⟩ List.mem_cons_self)
  obtain ⟨vs, hparse, -, hnodup, hreports, -⟩ := (parse_exact (decode_render misprints)).2 hvalid
  have hname : misprints.Breaks (.emptyName 0) := .emptyName rfl rfl
  refine ⟨decode_render misprints, hvalid, vs, hparse, hnodup, ?_, ?_, ?_, ?_, ?_⟩
  · exact (hreports _).mpr (.inl hname)
  · exact (hreports _).mpr (.inl (.noPorts rfl rfl))
  · exact (hreports _).mpr (.inl (.emptySwitch rfl rfl rfl))
  · exact (hreports _).mpr (.inl (.emptyPortName rfl rfl rfl))
  · intro hshared
    rcases (hreports _).mp hshared with hbreaks | ⟨-, hnone, -⟩
    · cases hbreaks
    · exact hnone _ hname

end Document

end VlanBinding.Topology
