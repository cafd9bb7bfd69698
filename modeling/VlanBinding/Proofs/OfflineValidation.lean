import VlanBinding.Cli.Run
import VlanBinding.Proofs.Bytes
import VlanBinding.Proofs.KnownHosts
import VlanBinding.Proofs.Report

/-!
Validating a topology file without a service. Main statement: a file is accepted exactly if the
service starts with it, whatever bytes are in it; then every node of the document is told of, with
its own links, and the service resolves the host to these links.
-/

namespace VlanBinding

open VlanBinding.Integration VlanBinding.Topology

/-- The text of a file that holds a text. -/
theorem File.text?_ofText (path text : String) : (File.ofText path text).text? = some text := by
  rw [File.text?, File.ofText, Option.bind_some, Text.fromUTF8?_eq_some_iff]

namespace Topology.Document

variable {d : Document} {file : File}

theorem load_ofText (path text : String) : load (.ofText path text) = parse text := by
  simp only [load, File.text?_ofText]

/-- A document that was loaded makes sense. -/
theorem violations_of_load (h : load file = .ok d) : d.violations = [] := by
  rw [load] at h
  cases htext : file.text? with
  | none =>
      rw [htext] at h
      cases h
  | some text =>
      simp only [htext, parse] at h
      split at h
      · cases h
      · cases h
      · split at h
        · rename_i hvalid
          obtain rfl := Except.ok.inj h
          exact hvalid
        · cases h

/-- In a document that makes sense every node is found by its name, and no other in its stead. -/
theorem node?_name (hvalid : d.violations = []) {n : Topology.Node} (hn : n ∈ d.nodes) :
    d.node? n.name = some n := by
  have hfind := (find?_name_eq_some_iff (nodup_of_violations hvalid)).mpr ⟨hn, rfl⟩
  simpa [node?, beq_eq_decide] using hfind

theorem start_eq (file : File) : Integrator.start true (some file) =
    match load file with
    | .error e => .error (.topology e)
    | .ok d => .ok (.enabled (.ofDocument d)) := by
  change (LinkSource.load (some file)).map _ = _
  simp only [LinkSource.load]
  cases load file <;> rfl

end Topology.Document

namespace Cli

variable {w : Wording} {d : Document}

/-- What is said of nodes that the index finds by their names. -/
theorem describe_eq {index : Index} {nodes : List Topology.Node}
    (hfound : ∀ n ∈ nodes, index.node? n.name = some n) :
    describe w index (nodes.map (·.name)) = { lines := nodes.flatMap nodeLines } := by
  induction nodes with
  | nil => rfl
  | cons n rest ih =>
      obtain ⟨hn, hrest⟩ := List.forall_mem_cons.mp hfound
      rw [List.map_cons, describe, hn, ih hrest]
      rfl

theorem validateTopology_of_load {file : File} (hload : Document.load file = .ok d) :
    validateTopology w file =
      { lines := d.nodes.flatMap nodeLines ++ [.message .info
          (file.path ++ " is valid, " ++ toString d.nodes.length ++ " node(s)")] } := by
  have hvalid := Document.violations_of_load hload
  have hdescribed : describe w (.ofDocument d) (d.nodes.map (·.name)) =
      { lines := d.nodes.flatMap nodeLines } := by
    apply describe_eq
    intro n hn
    rw [Document.node?_ofDocument hvalid, Document.node?_name hvalid hn]
  simp only [validateTopology, hload, hdescribed, List.length_map]

theorem validateTopology_of_error {file : File} {e : DocumentError}
    (hload : Document.load file = .error e) :
    validateTopology w file = { result := .error (refusalChain w file.path e) } := by
  simp only [validateTopology, hload]

/-- A topology file is accepted exactly if the service starts with it. Then each node of its
document is told of in order, with its own links, and the service knows it as it is. Otherwise
nothing is told of it, and the reason is that for which the service does not start. -/
theorem validated_iff_service_starts (w : Wording) (file : File) :
    let report := validateTopology w file
    let started := Integrator.start true (some file)
    (report.result = .ok () ↔ ∃ i, started = .ok i) ∧
    (report.result = .ok () → ∃ d source,
      Document.load file = .ok d ∧ started = .ok (.enabled source) ∧
      report.lines = (d.nodes.flatMap fun n =>
          .message .info (n.name ++ ": " ++ toString n.ports.length ++ " port(s)") ::
            n.ports.map fun link =>
              .message .debug ("  " ++ link.switchName ++ " " ++ link.portName)) ++
        [.message .info (file.path ++ " is valid, " ++ toString d.nodes.length ++ " node(s)")] ∧
      ∀ n ∈ d.nodes, source.contains n.name = pure true ∧ source.resolve n.name = pure n) ∧
    ∀ chain, report.result = .error chain → report.lines = [] ∧
      ∃ e, Document.load file = .error e ∧ started = .error (.topology e) ∧
        chain = refusalChain w file.path e := by
  intro report started
  have hstarted : started = _ := Document.start_eq file
  cases hload : Document.load file with
  | error e =>
      have hreport : report = _ := validateTopology_of_error hload
      rw [hload] at hstarted
      rw [hreport, hstarted]
      simp
  | ok d =>
      have hvalid := Document.violations_of_load hload
      have hreport : report = _ := validateTopology_of_load hload
      rw [hload] at hstarted
      rw [hreport, hstarted]
      refine ⟨by simp, fun _ => ⟨d, .ofDocument d, rfl, rfl, rfl, fun n hn => ?_⟩, by simp⟩
      have hnode := Document.node?_name hvalid hn
      refine ⟨?_, Document.resolve_of_some hvalid hnode⟩
      rw [LinkSource.ofDocument, LinkSource.contains, Document.node?_ofDocument hvalid, hnode]
      rfl

end Cli

/-- A file with two hosts. -/
def Lab.twoHostsFile : File := .ofText "topology.yaml" twoHosts.render

theorem Lab.twoHosts_valid : twoHosts.violations = [] := by decide +kernel

theorem Lab.load_twoHostsFile : Document.load twoHostsFile = .ok twoHosts := by
  rw [twoHostsFile, Document.load_ofText, Document.parse_of_decode (Document.decode_render _),
    if_pos twoHosts_valid]

/-- Two hosts are told of, and the service that starts with them resolves the second to both its
links. -/
theorem Cli.two_hosts_validated :
    (validateTopology {} Lab.twoHostsFile).result = .ok () ∧
      (validateTopology {} Lab.twoHostsFile).lines =
        [.message .info "compute1: 1 port(s)", .message .debug "  leaf1 xe-0/0/1",
          .message .info "compute2: 2 port(s)", .message .debug "  leaf1 xe-0/0/1",
          .message .debug "  leaf2 xe-0/0/2",
          .message .info "topology.yaml is valid, 2 node(s)"] ∧
      ∃ source, Integrator.start true (some Lab.twoHostsFile) = .ok (.enabled source) ∧
        source.resolve "compute2" = pure Lab.dualNode := by
  obtain ⟨hiff, htold, -⟩ := validated_iff_service_starts {} Lab.twoHostsFile
  have hstarted : Integrator.start true (some Lab.twoHostsFile) =
      .ok (.enabled (.ofDocument Lab.twoHosts)) := by
    rw [Document.start_eq, Lab.load_twoHostsFile]
  have hok := hiff.mpr ⟨_, hstarted⟩
  obtain ⟨d, source, hd, hsource, hlines, hknown⟩ := htold hok
  obtain rfl : Lab.twoHosts = d := Except.ok.inj (Lab.load_twoHostsFile.symm.trans hd)
  have hnode : Lab.dualNode ∈ Lab.twoHosts.nodes := by decide +kernel
  refine ⟨hok, ?_, source, hsource, (hknown _ hnode).2⟩
  rw [hlines]
  decide +kernel

end VlanBinding
