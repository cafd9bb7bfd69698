import VlanBinding.Proofs.Cabling
import VlanBinding.Proofs.RoundTrip
import VlanBinding.Proofs.Selection

/-!
Hosts that a topology document knows. Its index finds exactly the nodes that the document has, and
each of them has a link. Main statement: with a document for the source of links, no handling of a
port ends for want of a node or of its links, whichever calls fail.
-/

namespace VlanBinding

open VlanBinding.Fabric VlanBinding.Integration VlanBinding.Topology

namespace Integration

/-! ## Errors that plans do not end with -/

namespace Plan

variable {α β σ : Type} {kind : Error → Prop}

/-- The plan ends with an error of the kind only if a call was answered with one. -/
def Avoids (kind : Error → Prop) : Plan α → Prop
  | done result => ∀ e, result = .error e → ¬ kind e
  | call _ next => ∀ answer, (∀ e, answer = .error e → ¬ kind e) → (next answer).Avoids kind

@[simp]
theorem avoids_pure (a : α) : (pure a : Plan α).Avoids kind := fun _ h => by cases h

@[simp]
theorem avoids_fail {e : Error} : (fail e : Plan α).Avoids kind ↔ ¬ kind e := by
  constructor
  · intro h
    exact h e rfl
  · rintro h _ ⟨⟩
    exact h

@[simp]
theorem avoids_ask (c : Call) : (ask c).Avoids kind := fun _ hanswer => hanswer

theorem Avoids.bind {p : Plan α} {f : α → Plan β} (hp : p.Avoids kind)
    (hf : ∀ a, (f a).Avoids kind) : (p >>= f).Avoids kind := by
  change (p.bind f).Avoids kind
  induction p with
  | done result =>
      cases result with
      | ok a => exact hf a
      | error e =>
          apply avoids_fail.mpr
          exact hp e rfl
  | call c next ih => exact fun answer hanswer => ih answer (hp answer hanswer)

/-- A plan that asks and then goes on with what it was told. -/
theorem Avoids.ask_bind {c : Call} {f : c.Answer → Plan α} (hf : ∀ a, (f a).Avoids kind) :
    (ask c >>= f).Avoids kind :=
  Avoids.bind (avoids_ask c) hf

theorem Avoids.result {p : Plan α} (hp : p.Avoids kind) {respond : Responder σ}
    (hcalls : ∀ c s e, (respond c s).1 = .error e → ¬ kind e) (s : σ) {e : Error}
    (he : (p.run respond s).result = .error e) : ¬ kind e := by
  induction p generalizing s with
  | done result => exact hp e he
  | call c next ih =>
      rw [run_call] at he
      exact ih _ (hp _ fun e => hcalls c s e) _ he

end Plan

/-- The error blames the node of a host: there is none, or its links are of no use. -/
def Error.BlamesNode : Error → Prop
  | nodeNotFound _ | invalidNode _ _ => True
  | _ => False

/-! ## A source in which every node has a link -/

namespace Profile

theorem informationOfAll_avoids (links : List Link) :
    (informationOfAll links).Avoids Error.BlamesNode := by
  induction links with
  | nil => exact Plan.avoids_pure _
  | cons link rest ih =>
      refine Plan.Avoids.bind ?_ fun first => ih.bind fun others => Plan.avoids_pure _
      apply Plan.Avoids.ask_bind
      intro found
      cases found <;> simp [Error.BlamesNode]

theorem findGroup_avoids (links : List (String × String)) (refs : List Reference) :
    (findGroup links refs).Avoids Error.BlamesNode := by
  induction refs with
  | nil => exact Plan.avoids_pure _
  | cons ref rest ih =>
      apply Plan.Avoids.ask_bind
      intro found
      cases found with
      | none => exact ih
      | some group =>
          simp only
          split
          · exact Plan.avoids_pure _
          · exact ih

theorem ofNode_avoids {node : Topology.Node} (hports : node.ports ≠ []) :
    (ofNode node).Avoids Error.BlamesNode := by
  obtain ⟨first, rest, hfirst⟩ := List.exists_cons_of_ne_nil hports
  apply (informationOfAll_avoids node.ports).bind
  intro links
  refine Plan.Avoids.bind ?_ fun group => Plan.avoids_pure _
  rw [reusableGroup, hfirst]
  apply Plan.Avoids.ask_bind
  intro found
  cases found with
  | none => simp [Error.BlamesNode]
  | some interface => exact findGroup_avoids _ _

end Profile

namespace Integrator

variable {index : Index}

theorem projectOf_avoids (port : Neutron.Port) :
    (projectOf port).Avoids Error.BlamesNode := by
  rw [projectOf]
  split
  · simp [Error.BlamesNode]
  · split
    · simp [Error.BlamesNode]
    · apply Plan.Avoids.ask_bind
      intro found
      cases found <;> simp [Error.BlamesNode]

/-- Whether a host is managed is a matter of the index: nothing is asked. -/
theorem managed?_document (index : Index) (port : Neutron.Port) :
    managed? (.document index) port =
      pure ((Attachment.ofPort? port).filter fun a => (index.node? a.host).isSome) := by
  rw [managed?]
  cases Attachment.ofPort? port with
  | none => rfl
  | some a =>
      rw [Option.filter_some]
      simp only [LinkSource.contains, pure_bind]
      split <;> rfl

theorem anyTagged_avoids (index : Index) (ports : List Neutron.Port) :
    ((enabled (.document index)).anyTagged ports).Avoids Error.BlamesNode := by
  induction ports with
  | nil => exact Plan.avoids_pure _
  | cons port rest ih =>
      rw [anyTagged, isTagged, managed?_document, pure_bind, pure_bind]
      split
      · exact Plan.avoids_pure _
      · exact ih

theorem neededByOther_avoids (index : Index) (port : Neutron.Port) (id : String) :
    ((enabled (.document index)).neededByOther port id).Avoids Error.BlamesNode := by
  rcases neededByOther_cases (enabled (.document index)) port id with
    hplan | ⟨network, host, hplan⟩
  · rw [hplan]
    exact Plan.avoids_pure _
  · rw [hplan]
    exact Plan.Avoids.ask_bind fun ports => anyTagged_avoids index _

theorem removeInterface_avoids (name : FqName) :
    (removeInterface name).Avoids Error.BlamesNode := by
  apply Plan.Avoids.ask_bind
  intro found
  cases found with
  | none => exact Plan.avoids_pure _
  | some vmi =>
      refine Plan.Avoids.bind ?_ fun _ => Plan.avoids_ask _
      rw [detach]
      split
      · exact Plan.avoids_pure _
      · apply Plan.Avoids.ask_bind
        intro found
        cases found with
        | none => exact Plan.avoids_pure _
        | some group => exact Plan.avoids_ask _

theorem remove_avoids (index : Index) (port : Neutron.Port) :
    ((enabled (.document index)).remove port).Avoids Error.BlamesNode := by
  rw [remove, managed?_document, pure_bind]
  split
  · exact Plan.avoids_pure _
  · exact (projectOf_avoids port).bind fun project => removeInterface_avoids _

variable (hlinked : ∀ host node, index.node? host = some node → node.ports ≠ [])
include hlinked

/-- A host that is known has a node, and this has a link. -/
theorem makeInterface_avoids {a : Attachment} (hknown : (index.node? a.host).isSome)
    (tag : UInt16) (project : Project) :
    (makeInterface (.document index) a tag project).Avoids Error.BlamesNode := by
  apply Plan.Avoids.ask_bind
  intro found
  cases found with
  | some vmi => exact Plan.avoids_pure _
  | none =>
      apply Plan.Avoids.ask_bind
      intro found
      cases found with
      | none => exact Plan.avoids_pure _
      | some network =>
          refine Plan.Avoids.bind ?_ fun profile => Plan.avoids_ask _
          obtain ⟨node, hnode⟩ := Option.isSome_iff_exists.mp hknown
          rw [Profile.ofHost, LinkSource.resolve, hnode]
          exact Profile.ofNode_avoids (hlinked a.host node hnode)

theorem create_avoids (port : Neutron.Port) :
    ((enabled (.document index)).create port).Avoids Error.BlamesNode := by
  rw [create, managed?_document, pure_bind]
  split
  · exact Plan.avoids_pure _
  · rename_i a ha
    apply Plan.Avoids.ask_bind
    intro network
    cases Neutron.Network.vlanTag network with
    | none => exact Plan.avoids_pure _
    | some tag =>
        apply (projectOf_avoids port).bind
        intro project
        exact makeInterface_avoids hlinked (Option.filter_eq_some_iff.mp ha).2 tag project

theorem sync_avoids (port previous : Neutron.Port) :
    ((enabled (.document index)).sync port previous).Avoids Error.BlamesNode := by
  rw [sync]
  split
  · exact Plan.avoids_pure _
  · split
    · exact create_avoids hlinked port
    · exact (remove_avoids index previous).bind fun _ => create_avoids hlinked port

theorem handle_avoids (n : Notification) :
    ((enabled (.document index)).handle n).Avoids Error.BlamesNode := by
  cases n with
  | created port => exact sync_avoids hlinked port _
  | updated port previous =>
      simp only [handle]
      split
      · exact Plan.avoids_pure _
      · split
        · exact sync_avoids hlinked port previous
        · apply (neededByOther_avoids index previous port.id).bind
          intro needed
          split
          · exact create_avoids hlinked port
          · exact sync_avoids hlinked port previous
  | deleted port =>
      simp only [handle]
      split
      · exact Plan.avoids_pure _
      · apply (neededByOther_avoids index port port.id).bind
        intro needed
        split
        · exact Plan.avoids_pure _
        · exact remove_avoids index port

end Integrator

end Integration

/-! ## Documents -/

namespace Topology.Document

variable {d : Document}

theorem isSome_node?_iff {host : String} :
    (d.node? host).isSome ↔ ∃ n ∈ d.nodes, n.name = host := by
  simp [node?]

/-- The node that a host resolves to, if it resolves to one, and its links. -/
theorem node?_spec (hvalid : d.violations = []) {host : String} {n : Topology.Node}
    (hnode : d.node? host = some n) : n ∈ d.nodes ∧ n.name = host ∧ n.ports ≠ [] := by
  have hmem : n ∈ d.nodes := List.mem_of_find?_eq_some hnode
  have hname : n.name = host := by simpa using List.find?_some hnode
  exact ⟨hmem, hname, ((violations_eq_nil_iff d).mp hvalid).ports n hmem⟩

theorem resolve_of_some (hvalid : d.violations = []) {host : String} {n : Topology.Node}
    (hnode : d.node? host = some n) : (LinkSource.ofDocument d).resolve host = pure n := by
  simp only [LinkSource.ofDocument, LinkSource.resolve, node?_ofDocument hvalid, hnode]

theorem resolve_of_none (hvalid : d.violations = []) {host : String}
    (hnode : d.node? host = none) :
    (LinkSource.ofDocument d).resolve host = Plan.fail (.nodeNotFound host) := by
  simp only [LinkSource.ofDocument, LinkSource.resolve, node?_ofDocument hvalid, hnode]

/-- The index agrees with the document: a host is known if some node has its name, and it resolves
to the node that the document has for it, with all its links in order, of which there is at least
one. So, unless a call fails with such an error, no handling of a port ends in one about nodes. -/
theorem known_hosts_resolve (hvalid : d.violations = []) :
    let source := LinkSource.ofDocument d
    (∀ host,
      source.contains host = pure (d.node? host).isSome ∧
      ((d.node? host).isSome ↔ ∃ n ∈ d.nodes, n.name = host) ∧
      (∀ n, d.node? host = some n →
        source.resolve host = pure n ∧ n ∈ d.nodes ∧ n.name = host ∧ n.ports ≠ []) ∧
      (d.node? host = none → source.resolve host = Plan.fail (.nodeNotFound host))) ∧
    ∀ {σ : Type} (respond : Responder σ),
      (∀ c s e, (respond c s).1 = .error e → ∃ cause, e = .fabric cause ∨ e = .corePlugin cause) →
      ∀ (port previous : Neutron.Port) (n : Notification) (s : σ),
        let i := Integrator.enabled source
        ∀ plan ∈ [i.sync port previous, i.create port, i.remove port, i.handle n],
          ∀ host fault, (plan.run respond s).result ≠ .error (.nodeNotFound host) ∧
            (plan.run respond s).result ≠ .error (.invalidNode host fault) := by
  intro source
  have hlinked : ∀ host node, (Index.ofDocument d).node? host = some node → node.ports ≠ [] := by
    intro host node hnode
    rw [node?_ofDocument hvalid] at hnode
    exact (node?_spec hvalid hnode).2.2
  constructor
  · intro host
    refine ⟨?_, isSome_node?_iff, fun n hn => ?_, resolve_of_none hvalid⟩
    · simp only [source, LinkSource.ofDocument, LinkSource.contains, node?_ofDocument hvalid]
    · exact ⟨resolve_of_some hvalid hn, node?_spec hvalid hn⟩
  · intro σ respond hcalls port previous n s i plan hplan host fault
    have hfails : ∀ c s e, (respond c s).1 = .error e → ¬ e.BlamesNode := by
      intro c s e he
      obtain ⟨cause, rfl | rfl⟩ := hcalls c s e he <;> simp [Error.BlamesNode]
    have havoids : plan.Avoids Error.BlamesNode := by
      simp only [List.mem_cons, List.not_mem_nil, or_false] at hplan
      rcases hplan with rfl | rfl | rfl | rfl
      · exact Integrator.sync_avoids hlinked port previous
      · exact Integrator.create_avoids hlinked port
      · exact Integrator.remove_avoids _ port
      · exact Integrator.handle_avoids hlinked n
    exact ⟨fun he => havoids.result hfails s he trivial,
      fun he => havoids.result hfails s he trivial⟩

end Topology.Document

/-- In a controller in memory the only thing that can be missing is a network of Neutron. -/
theorem Controller.answer_fails {c : Call} {m : Controller} {e : Integration.Error}
    (he : (answer c m).1 = .error e) : ∃ cause, e = .corePlugin cause := by
  cases c with
  | getNetwork id =>
      simp only [answer] at he
      split at he
      · cases he
      · exact ⟨_, (Except.error.inj he).symm⟩
  | _ => cases he

namespace Lab

/-- Two hosts, the second with two links. -/
def twoHosts : Document := ⟨document.nodes ++ [dualNode]⟩

theorem flaky_fails (c : Call) (s : List Bool × Controller) (e : Integration.Error)
    (he : (flaky c s).1 = .error e) : ∃ cause, e = .fabric cause ∨ e = .corePlugin cause := by
  rcases flaky_cases c s with ⟨hsame, -⟩ | ⟨hfailed, -⟩
  · exact (Controller.answer_fails (hsame.symm.trans he)).imp fun cause => Or.inr
  · obtain rfl : c.failure (.other "timeout") = e := Except.error.inj (hfailed.symm.trans he)
    rw [Call.failure]
    split
    · exact ⟨_, Or.inr rfl⟩
    · exact ⟨_, Or.inl rfl⟩

end Lab

/-- The second host resolves to both its links. A fabric that cannot be read ends the handling of a
port of the first host with the error of that call. -/
theorem Topology.Document.two_hosts_resolve :
    Lab.twoHosts.violations = [] ∧
      (LinkSource.ofDocument Lab.twoHosts).resolve "compute2" = pure Lab.dualNode ∧
      (LinkSource.ofDocument Lab.twoHosts).resolve "compute3" =
        Plan.fail (.nodeNotFound "compute3") ∧
      let run := ((Integrator.enabled (.ofDocument Lab.twoHosts)).handle
        (.created Lab.adminPort)).run Lab.flaky ([false, false, false, false, true], Lab.start)
      run.result = .error (.fabric (.other "timeout")) ∧
        ∀ host fault, run.result ≠ .error (.nodeNotFound host) ∧
          run.result ≠ .error (.invalidNode host fault) := by
  have hvalid : Lab.twoHosts.violations = [] := by decide +kernel
  obtain ⟨hhosts, hruns⟩ := known_hosts_resolve hvalid
  have hnode : Lab.twoHosts.node? "compute2" = some Lab.dualNode := by decide +kernel
  have hnone : Lab.twoHosts.node? "compute3" = none := by decide +kernel
  refine ⟨hvalid, ((hhosts "compute2").2.2.1 _ hnode).1, (hhosts "compute3").2.2.2 hnone, ?_, ?_⟩
  · decide +kernel
  · exact hruns Lab.flaky Lab.flaky_fails Lab.adminPort Lab.adminPort
      (.created Lab.adminPort) ([false, false, false, false, true], Lab.start) _ (by simp)

end VlanBinding
