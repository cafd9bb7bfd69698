import VlanBinding.Proofs.History
import VlanBinding.Service.Handler

/-!
A topology document and a controller that tell of the same cabling. Which of the two the links of a
host are taken from then makes no difference: notifications and requests come to the same, reply by
reply and store by store. Names of network cards and ids of switches may differ; only requests for
the topology itself, and for the status, can tell the two apart.
-/

namespace VlanBinding

open VlanBinding.Fabric VlanBinding.Integration VlanBinding.Topology

/-! ## One cabling, told twice -/

namespace Topology

theorem find?_name_eq_some_iff {nodes : List Topology.Node} {host : String}
    (hdistinct : (nodes.map (·.name)).Nodup) {node : Topology.Node} :
    nodes.find? (·.name = host) = some node ↔ node ∈ nodes ∧ node.name = host := by
  constructor
  · intro hfind
    exact ⟨List.mem_of_find?_eq_some hfind, by simpa using List.find?_some hfind⟩
  · rintro ⟨hmem, hname⟩
    have hsome : (nodes.find? (·.name = host)).isSome := by
      rw [List.find?_isSome]
      exact ⟨node, hmem, by simp [hname]⟩
    obtain ⟨first, hfind⟩ := Option.isSome_iff_exists.mp hsome
    have hfirst : first.name = host := by simpa using List.find?_some hfind
    rw [hfind, List.inj_on_of_nodup_map hdistinct (List.mem_of_find?_eq_some hfind) hmem
      (hfirst.trans hname.symm)]

namespace Document

variable {d : Document}

theorem nodup_of_violations (hvalid : d.violations = []) :
    (d.nodes.map (·.name)).Nodup := by
  rw [violations] at hvalid
  split at hvalid
  · contradiction
  · split at hvalid
    · rename_i hnames
      exact of_decide_eq_true hnames
    · cases hvalid

/-- In a document that makes sense the index finds what the document has. -/
theorem node?_ofDocument (hvalid : d.violations = []) (host : String) :
    (Index.ofDocument d).node? host = d.node? host := by
  have hdistinct := nodup_of_violations hvalid
  have hreverse : (d.nodes.reverse.map (·.name)).Nodup := by
    rw [List.map_reverse, List.nodup_reverse]
    exact hdistinct
  have hfirst : d.node? host = d.nodes.find? (·.name = host) := by
    simp [node?, beq_eq_decide]
  rw [Index.node?_ofDocument, hfirst]
  refine Option.ext fun node => ?_
  rw [find?_name_eq_some_iff hreverse, find?_name_eq_some_iff hdistinct, List.mem_reverse]

end Document

end Topology

/-- The document and the controller know the same hosts, and for each of them the same
links in the same order: to these switches, at these interfaces. -/
structure SameCabling (d : Document) (s : Controller) : Prop where
  hosts : ∀ host, (d.node? host).isSome = (Keyed.get? host s.nodes).isSome
  links : ∀ host node, d.node? host = some node →
    ∃ live, ((LinkSource.controller.resolve host).run Controller.answer s).result = .ok live ∧
      live.ports.map Link.endpoint = node.ports.map Link.endpoint

theorem SameCabling.of_inventory {d : Document} {s t : Controller} (hs : SameCabling d s)
    (hsame : t.inventory = s.inventory) : SameCabling d t := by
  constructor
  · intro host
    have hnodes : t.inventory.nodes = s.inventory.nodes :=
      congrArg Controller.nodes hsame
    change t.nodes = s.nodes at hnodes
    rw [hs.hosts host, hnodes]
  · intro host node hnode
    obtain ⟨live, hlive, hlinks⟩ := hs.links host node hnode
    obtain ⟨result, ht, hs⟩ := Controller.perform_of_inventory
      (LinkSource.resolve_strict (fun _ => trivial) (fun _ => trivial)
        .controller host).within hsame
    have hresult : result = .ok live := (congrArg Prod.fst hs).symm.trans hlive
    exact ⟨live, (congrArg Prod.fst ht).trans hresult, hlinks⟩

namespace Integration

/-! ## Plans that cannot tell -/

namespace Plan

variable {α β : Type} {d : Document} {p q : Plan α} {f g : α → Plan β}

/-- The plans come to the same on every controller of this cabling. -/
def Agree (d : Document) (p q : Plan α) : Prop :=
  ∀ s, SameCabling d s → p.perform Controller.answer s = q.perform Controller.answer s

theorem Agree.refl (d : Document) (p : Plan α) : Agree d p p := fun _ _ => rfl

theorem Agree.bind (hp : Agree d p q) (hf : ∀ a, Agree d (f a) (g a)) :
    Agree d (p >>= f) (q >>= g) := by
  intro s hs
  have hinventory : (q.perform Controller.answer s).2.inventory = s.inventory :=
    perform_invariant Controller.inventory Controller.answer_inventory q s
  rw [perform_bind, perform_bind, hp s hs]
  generalize q.perform Controller.answer s = after at hinventory
  obtain ⟨result, t⟩ := after
  cases result with
  | error e => rfl
  | ok a => exact hf a t (hs.of_inventory hinventory)

/-- Plans that start alike. -/
theorem Agree.bind_right (p : Plan α) (hf : ∀ a, Agree d (f a) (g a)) :
    Agree d (p >>= f) (p >>= g) :=
  (Agree.refl d p).bind hf

/-- Plans that end alike. -/
theorem Agree.bind_left (hp : Agree d p q) (f : α → Plan β) :
    Agree d (p >>= f) (q >>= f) :=
  hp.bind fun a => Agree.refl d (f a)

/-- Plans that branch alike. -/
theorem Agree.ite {c : Prop} [Decidable c] {r t : Plan α} (hp : Agree d p q)
    (hr : Agree d r t) : Agree d (if c then p else r) (if c then q else t) := by
  by_cases hc : c
  · rwa [if_pos hc, if_pos hc]
  · rwa [if_neg hc, if_neg hc]

theorem Agree.attempt (hp : Agree d p q) : Agree d p.attempt q.attempt := by
  intro s hs
  rw [perform_attempt, perform_attempt, hp s hs]

end Plan

/-! ## Links -/

variable {d : Document}

/-- The links as a document tells them. -/
def LinkSource.ofDocument (d : Document) : LinkSource := .document (.ofDocument d)

/-- What the controller tells of a host has a link. -/
theorem LinkSource.resolveLive_ok {σ : Type} {respond : Responder σ} {s : σ} {host : String}
    {live : Topology.Node}
    (hresult : ((LinkSource.controller.resolve host).run respond s).result = .ok live) :
    live.name = host ∧ live.ports ≠ [] := by
  obtain ⟨found, -, hfound, -⟩ := Plan.run_bind_eq_ok hresult
  cases found with
  | none => cases hfound
  | some node =>
      obtain ⟨links, -, hlinks, -⟩ := Plan.run_bind_eq_ok hfound
      cases links with
      | nil => cases hlinks
      | cons link rest =>
          obtain rfl := Except.ok.inj hlinks
          exact ⟨rfl, List.cons_ne_nil link rest⟩

theorem LinkSource.contains_agree (hvalid : d.violations = []) (host : String) :
    Plan.Agree d ((ofDocument d).contains host) (controller.contains host) := by
  intro s hs
  have hknows : s.knows (ofDocument d) host = s.knows controller host := by
    change ((Topology.Index.ofDocument d).node? host).isSome = _
    rw [Document.node?_ofDocument hvalid, hs.hosts host]
    rfl
  have hperform (source : LinkSource) := Controller.perform_contains [] source host s
  rw [Controller.respond_nil_eq] at hperform
  rw [hperform, hperform, hknows, Failures.sees_nil, Failures.sees_nil]

namespace Profile

theorem informationOf_congr {link other : Link} (hsame : link.endpoint = other.endpoint) :
    informationOf link = informationOf other := by
  cases link
  cases other
  simp only [Link.endpoint, Prod.mk.injEq] at hsame
  obtain ⟨rfl, rfl⟩ := hsame
  refine bind_congr fun found => ?_
  cases found <;> rfl

/-- Only the switches and the interfaces of links matter. -/
theorem informationOfAll_congr {links others : List Link}
    (hsame : links.map Link.endpoint = others.map Link.endpoint) :
    informationOfAll links = informationOfAll others := by
  induction links generalizing others with
  | nil =>
      obtain rfl : others = [] := List.map_eq_nil_iff.mp hsame.symm
      rfl
  | cons link rest ih =>
      cases others with
      | nil => cases hsame
      | cons other others =>
          obtain ⟨hfirst, hrest⟩ := List.cons.inj hsame
          rw [informationOfAll, informationOfAll, informationOf_congr hfirst, ih hrest]

theorem reusableGroup_congr {node other : Topology.Node}
    (hsame : node.ports.map Link.endpoint = other.ports.map Link.endpoint)
    (hports : node.ports ≠ []) : reusableGroup node = reusableGroup other := by
  obtain ⟨name, links⟩ := node
  obtain ⟨other, others⟩ := other
  cases links with
  | nil => contradiction
  | cons link rest =>
      cases others with
      | nil => cases hsame
      | cons first others =>
          have hlinks : (link :: rest).map Link.endpoint = (first :: others).map Link.endpoint :=
            hsame
          cases link
          cases first
          simp only [List.map_cons, Link.endpoint, List.cons.injEq, Prod.mk.injEq] at hsame
          obtain ⟨⟨rfl, rfl⟩, -⟩ := hsame
          refine bind_congr fun found => ?_
          cases found with
          | none => rfl
          | some interface => exact congrArg (findGroup · interface.portGroupBackRefs) hlinks

theorem ofNode_congr {node other : Topology.Node}
    (hsame : node.ports.map Link.endpoint = other.ports.map Link.endpoint)
    (hports : node.ports ≠ []) : ofNode node = ofNode other := by
  rw [ofNode, ofNode, informationOfAll_congr hsame, reusableGroup_congr hsame hports]

/-- Neither of the two has a node of the host, or both have one and its profile is the
same. -/
theorem ofHost_agree (hvalid : d.violations = []) (host : String) :
    Plan.Agree d (ofHost (.ofDocument d) host) (ofHost .controller host) := by
  intro s hs
  have hindex := Document.node?_ofDocument hvalid host
  cases hnode : d.node? host with
  | none =>
      have hdocument : (LinkSource.ofDocument d).resolve host =
          Plan.fail (.nodeNotFound host) := by
        simp [LinkSource.resolve, LinkSource.ofDocument, hindex, hnode]
      have hunknown : Keyed.get? host s.nodes = none := by
        have hhosts := hs.hosts host
        rw [hnode] at hhosts
        simpa using hhosts.symm
      have hread : (Plan.ask (.readNode host)).perform Controller.answer s =
          (.ok none, s) := by
        rw [← hunknown]
        rfl
      have hlive : (LinkSource.controller.resolve host).perform Controller.answer s =
          (.error (.nodeNotFound host), s) := Plan.perform_bind_ok hread
      rw [ofHost, ofHost, hdocument, Plan.perform_bind_error hlive]
      rfl
  | some node =>
      have hdocument : (LinkSource.ofDocument d).resolve host = pure node := by
        simp [LinkSource.resolve, LinkSource.ofDocument, hindex, hnode]
      obtain ⟨live, hresult, hlinks⟩ := hs.links host node hnode
      obtain ⟨result, hlive, -⟩ := Controller.perform_of_inventory (s := s)
        (LinkSource.resolve_strict (fun _ => trivial) (fun _ => trivial)
          .controller host).within rfl
      have hsame : result = .ok live := (congrArg Prod.fst hlive).symm.trans hresult
      rw [hsame] at hlive
      have hports := (LinkSource.resolveLive_ok hresult).2
      rw [ofHost, ofHost, hdocument, Plan.perform_bind_ok hlive, pure_bind,
        ofNode_congr hlinks hports]

end Profile

/-! ## Ports -/

namespace Integrator

theorem managed?_agree (hvalid : d.violations = []) (port : Neutron.Port) :
    Plan.Agree d (managed? (.ofDocument d) port) (managed? .controller port) := by
  rw [managed?, managed?]
  cases Attachment.ofPort? port with
  | none => exact Plan.Agree.refl d _
  | some a => exact (LinkSource.contains_agree hvalid a.host).bind_left _

theorem isTagged_agree (hvalid : d.violations = []) (port : Neutron.Port) :
    Plan.Agree d ((enabled (.ofDocument d)).isTagged port)
      ((enabled .controller).isTagged port) :=
  (managed?_agree hvalid port).bind_left _

theorem anyTagged_agree (hvalid : d.violations = []) (ports : List Neutron.Port) :
    Plan.Agree d ((enabled (.ofDocument d)).anyTagged ports)
      ((enabled .controller).anyTagged ports) := by
  induction ports with
  | nil => exact Plan.Agree.refl d _
  | cons port rest ih =>
      refine (isTagged_agree hvalid port).bind fun tagged => ?_
      cases tagged with
      | true => exact Plan.Agree.refl d _
      | false => exact ih

theorem neededByOther_agree (hvalid : d.violations = []) (port : Neutron.Port)
    (id : String) :
    Plan.Agree d ((enabled (.ofDocument d)).neededByOther port id)
      ((enabled .controller).neededByOther port id) := by
  simp only [neededByOther]
  split
  · split
    · exact Plan.Agree.refl d _
    · exact Plan.Agree.bind_right _ fun ports => anyTagged_agree hvalid _
  · exact Plan.Agree.refl d _

theorem makeInterface_agree (hvalid : d.violations = []) (a : Attachment) (tag : UInt16)
    (project : Project) :
    Plan.Agree d (makeInterface (.ofDocument d) a tag project)
      (makeInterface .controller a tag project) := by
  refine Plan.Agree.bind_right _ fun found => ?_
  cases found with
  | some vmi => exact Plan.Agree.refl d _
  | none =>
      refine Plan.Agree.bind_right _ fun found => ?_
      cases found with
      | none => exact Plan.Agree.refl d _
      | some network => exact (Profile.ofHost_agree hvalid a.host).bind_left _

theorem create_agree (hvalid : d.violations = []) (port : Neutron.Port) :
    Plan.Agree d ((enabled (.ofDocument d)).create port)
      ((enabled .controller).create port) := by
  refine (managed?_agree hvalid port).bind fun found => ?_
  cases found with
  | none => exact Plan.Agree.refl d _
  | some a =>
      refine Plan.Agree.bind_right _ fun network => ?_
      cases Neutron.Network.vlanTag network with
      | none => exact Plan.Agree.refl d _
      | some tag =>
          exact Plan.Agree.bind_right _ fun project =>
            makeInterface_agree hvalid a tag project

theorem remove_agree (hvalid : d.violations = []) (port : Neutron.Port) :
    Plan.Agree d ((enabled (.ofDocument d)).remove port)
      ((enabled .controller).remove port) :=
  (managed?_agree hvalid port).bind_left _

theorem sync_agree (hvalid : d.violations = []) (port previous : Neutron.Port) :
    Plan.Agree d ((enabled (.ofDocument d)).sync port previous)
      ((enabled .controller).sync port previous) := by
  refine Plan.Agree.ite (Plan.Agree.refl d _) (Plan.Agree.ite ?_ ?_)
  · exact create_agree hvalid port
  · exact (remove_agree hvalid previous).bind fun _ => create_agree hvalid port

theorem handle_agree (hvalid : d.violations = []) (n : Notification) :
    Plan.Agree d ((enabled (.ofDocument d)).handle n)
      ((enabled .controller).handle n) := by
  cases n with
  | created port => exact sync_agree hvalid port _
  | updated port previous =>
      simp only [handle]
      refine Plan.Agree.ite (Plan.Agree.refl d _) (Plan.Agree.ite ?_ ?_)
      · exact sync_agree hvalid port previous
      · refine (neededByOther_agree hvalid previous port.id).bind fun needed => ?_
        exact Plan.Agree.ite (create_agree hvalid port) (sync_agree hvalid port previous)
  | deleted port =>
      simp only [handle]
      refine Plan.Agree.ite (Plan.Agree.refl d _) ?_
      refine (neededByOther_agree hvalid port port.id).bind fun needed => ?_
      exact Plan.Agree.ite (Plan.Agree.refl d _) (remove_agree hvalid port)

end Integrator

end Integration

namespace Service

variable {d : Document}

/-! ## The service -/

/-- The service with a document, or else with the controller, for its source of links. -/
abbrev withSource (source : LinkSource) (startedAt : String) : Service :=
  ⟨.enabled source, startedAt⟩

variable (startedAt startedAt' : String)

theorem notify_agree (hvalid : d.violations = []) (n : Except Error Notification) :
    Plan.Agree d ((withSource (.ofDocument d) startedAt).notify n)
      ((withSource .controller startedAt').notify n) :=
  (Plan.Agree.bind_right (.ofExcept n) fun n =>
    Integrator.handle_agree hvalid n).attempt.bind_left _

theorem bindingsJson_agree (hvalid : d.violations = []) (host : String) :
    Plan.Agree d (bindingsJson (.ofDocument d) host) (bindingsJson .controller host) :=
  (Profile.ofHost_agree hvalid host).bind_left _

theorem inspect_bindings_agree (hvalid : d.violations = []) (host : List Char) (r : Request) :
    Plan.Agree d ((withSource (.ofDocument d) startedAt).inspect host r bindingsJson)
      ((withSource .controller startedAt').inspect host r bindingsJson) := by
  simp only [inspect]
  cases named host with
  | error reply => exact Plan.Agree.refl d _
  | ok name =>
      cases layoutOf r with
      | error reply => exact Plan.Agree.refl d _
      | ok layout => exact (bindingsJson_agree hvalid name).attempt.bind_left _

/-- The endpoint tells neither the links of a host nor the kind of their source. -/
def Endpoint.hidesSource : Endpoint → Bool
  | .status | .topology _ => false
  | _ => true

theorem serve_agree (hvalid : d.violations = []) {endpoint : Endpoint}
    (hhides : endpoint.hidesSource = true) (r : Request) :
    Plan.Agree d ((withSource (.ofDocument d) startedAt).serve endpoint r)
      ((withSource .controller startedAt').serve endpoint r) := by
  cases endpoint with
  | status => cases hhides
  | topology host => cases hhides
  | bindings host => exact inspect_bindings_agree startedAt startedAt' hvalid host r
  | ports =>
      simp only [serve]
      split
      · exact Plan.Agree.refl d _
      · exact notify_agree startedAt startedAt' hvalid _
  | port id =>
      simp only [serve]
      split
      · exact Plan.Agree.refl d _
      · exact notify_agree startedAt startedAt' hvalid _

/-- The request asks neither for the links of a host nor for the kind of their source. -/
def Request.hidesSource (r : Request) : Bool :=
  match Endpoint.ofPath? r.path with
  | some endpoint => endpoint.hidesSource
  | none => true

theorem respond_agree (hvalid : d.violations = []) {r : Request}
    (hhides : r.hidesSource = true) :
    Plan.Agree d ((withSource (.ofDocument d) startedAt).respond r)
      ((withSource .controller startedAt').respond r) := by
  rw [Request.hidesSource] at hhides
  simp only [respond]
  cases hpath : Endpoint.ofPath? r.path with
  | none => exact Plan.Agree.refl d _
  | some endpoint =>
      rw [hpath] at hhides
      have hserve := serve_agree startedAt startedAt' hvalid hhides r
      exact Plan.Agree.ite (Plan.Agree.refl d _)
        (Plan.Agree.ite (hserve.bind_left _) hserve)

/-! ## Step by step -/

/-- What comes in: a notification, handed over as it is, or a request. -/
inductive Incoming where
  | notification (n : Notification)
  | request (r : Request)

/-- What it comes to. -/
inductive Outgoing where
  | handled (result : Except Error Unit)
  | replied (result : Except Error Reply)

def Incoming.hidesSource : Incoming → Bool
  | notification _ => true
  | request r => r.hidesSource

/-- Something that comes in while Neutron lists these ports. -/
structure Step where
  incoming : Incoming
  ports : List Neutron.Port

/-- What comes in, taken in hand. -/
def receive (s : Service) (c : Controller) : Incoming → Outgoing × Controller
  | .notification n =>
      ((s.integrator.handle n).perform Controller.answer c).map .handled id
  | .request r => ((s.respond r).perform Controller.answer c).map .replied id

/-- What a step comes to, and the controller after it. -/
def take (s : Service) (step : Step) (c : Controller) : Outgoing × Controller :=
  s.receive (c.listing step.ports) step.incoming

/-- What each of the steps comes to, and the controller after it. -/
def trace (s : Service) : List Step → Controller → List (Outgoing × Controller)
  | [], _ => []
  | step :: rest, c => s.take step c :: s.trace rest (s.take step c).2

theorem take_inventory (s : Service) (step : Step) (c : Controller) :
    (s.take step c).2.inventory = c.inventory := by
  rw [take, ← Controller.listing_inventory step.ports c]
  cases step.incoming with
  | notification n =>
      exact Plan.perform_invariant Controller.inventory Controller.answer_inventory _ _
  | request r =>
      exact Plan.perform_invariant Controller.inventory Controller.answer_inventory _ _

theorem take_agree (hvalid : d.violations = []) {step : Step}
    (hhides : step.incoming.hidesSource = true) {c : Controller} (hc : SameCabling d c) :
    (withSource (.ofDocument d) startedAt).take step c =
      (withSource .controller startedAt').take step c := by
  have hlisting := hc.of_inventory (Controller.listing_inventory step.ports c)
  rw [take, take]
  cases hincoming : step.incoming with
  | notification n =>
      exact congrArg (Prod.map Outgoing.handled id) (Integrator.handle_agree hvalid n _ hlisting)
  | request r =>
      rw [hincoming] at hhides
      exact congrArg (Prod.map Outgoing.replied id)
        (respond_agree startedAt startedAt' hvalid hhides _ hlisting)

/-- A service that knows the links from a document and one that asks the controller for
them come to the same at every step, if both sources tell of the same cabling. -/
theorem trace_of_sameCabling (hvalid : d.violations = []) (steps : List Step)
    (hhides : ∀ step ∈ steps, step.incoming.hidesSource = true) (c : Controller)
    (hc : SameCabling d c) :
    (withSource (.ofDocument d) startedAt).trace steps c =
      (withSource .controller startedAt').trace steps c := by
  induction steps generalizing c with
  | nil => rfl
  | cons step rest ih =>
      have hstep := take_agree startedAt startedAt' hvalid
        (hhides step List.mem_cons_self) hc
      have hafter : SameCabling d ((withSource .controller startedAt').take step c).2 :=
        hc.of_inventory (take_inventory _ step c)
      rw [trace, trace, hstep]
      exact congrArg _ (ih (fun step hmem => hhides step (List.mem_cons_of_mem _ hmem)) _ hafter)

end Service

namespace Lab

/-- The cabling that the controller tells of, with another name for the card. -/
def document : Document where
  nodes :=
    [{ name := "compute1",
       ports := [{ link1 with name := some "ens1", switchId := some "02:00:00:00:00:01" }] }]

theorem sameCabling : SameCabling document live := by
  constructor
  · intro host
    by_cases hhost : "compute1" = host
    · subst hhost
      decide +kernel
    · have hnode : document.node? host = none := by
        simp [Document.node?, document, hhost]
      have hlive : Keyed.get? host live.nodes = none := by
        simp [Keyed.get?, live, hhost]
      rw [hnode, hlive]
      rfl
  · intro host node hnode
    have hmem : node ∈ document.nodes := List.mem_of_find?_eq_some hnode
    obtain rfl := List.mem_singleton.mp hmem
    have hhost : "compute1" = host := by simpa using List.find?_some hnode
    subst hhost
    refine ⟨⟨"compute1", [⟨some "eth0", "leaf1", "xe-0/0/1", none⟩]⟩, ?_, rfl⟩
    exact Plan.toOption_eq_some_iff.mp (by decide +kernel)

/-- A port comes, the bindings of its host are asked for, and the port goes. -/
def steps : List Service.Step :=
  [⟨.notification (.created adminPort), [adminPort]⟩,
    ⟨.request { path := "/api/bindings/compute1".toList }, [adminPort]⟩,
    ⟨.notification (.deleted adminPort), []⟩]

end Lab

/-- The sources differ in the name of the card; an interface comes and goes alike. -/
theorem Service.trace_of_cabled_lab :
    Lab.document.violations = [] ∧
      (withSource (.ofDocument Lab.document) "").trace Lab.steps Lab.live =
        (withSource .controller "").trace Lab.steps Lab.live ∧
      ((withSource .controller "").trace Lab.steps Lab.live).map
        (fun after => after.2.vmis.length) = [1, 1, 0] := by
  have hvalid : Lab.document.violations = [] := by decide +kernel
  have hsame := Service.trace_of_sameCabling "" "" hvalid Lab.steps (by decide +kernel)
    Lab.live Lab.sameCabling
  exact ⟨hvalid, hsame, by decide +kernel⟩

end VlanBinding
