import Mathlib.Data.List.Infix
import VlanBinding.Proofs.Selection

/-!
How the profile of a node comes about, whichever calls fail: as a whole or not at all. Main
statement: there is a profile exactly if the node has a link, every switch a fabric and the first
interface is known, and no call failed. It then tells every link in order and the name of the first
exact port group. Otherwise the error is that of the first step that did not go well, and no later
step is taken.
-/

namespace VlanBinding

open VlanBinding.Fabric (Reference VirtualPortGroup)
open VlanBinding.Integration VlanBinding.Topology

namespace Controller

open Integration.Profile

/-! ## What a profile needs -/

/-- The port groups that the interface of a link belongs to, as far as it tells. -/
def backRefs (m : Controller) (link : Link) : List Reference :=
  ((Keyed.get? link.endpoint m.interfaces).map (·.portGroupBackRefs)).getD []

/-- All that is ever asked for a node, in order: the fabric of each switch, the interface of the
first link, and the port groups of that interface. -/
def questions (m : Controller) (node : Node) : List Call :=
  node.ports.map (.readFabricName ·.switchName) ++
    node.ports.head?.toList.flatMap fun first =>
      .readInterface first.switchName first.portName ::
        (m.backRefs first).map (.getPortGroup ·.uuid)

/-- What is asked for is there, if no profile can do without it. -/
def Provides (m : Controller) : Call → Prop
  | .readFabricName switch => (Keyed.get? switch m.fabrics).isSome
  | .readInterface switch port => (Keyed.get? (switch, port) m.interfaces).isSome
  | _ => True

/-- All is there that the profile of a node needs. -/
structure Supports (m : Controller) (node : Node) : Prop where
  linked : node.ports ≠ []
  fabrics : ∀ link ∈ node.ports, (Keyed.get? link.switchName m.fabrics).isSome
  interface : ∀ first ∈ node.ports.head?, (Keyed.get? first.endpoint m.interfaces).isSome

/-- The error of a step that was answered and still ends the profile: the last call that was made
asks for what is not there, or the node has no link. -/
inductive Shortfall (m : Controller) (node : Node) : List Call → Error → Prop
  | unlinked (hports : node.ports = []) : Shortfall m node [] (.invalidNode node.name .noPorts)
  | fabric {earlier : List Call} {switch : String} (hmissing : Keyed.get? switch m.fabrics = none) :
      Shortfall m node (earlier ++ [.readFabricName switch]) (.fabricNotFound switch)
  | interface {earlier : List Call} {switch port : String}
      (hmissing : Keyed.get? (switch, port) m.interfaces = none) :
      Shortfall m node (earlier ++ [.readInterface switch port]) (.interfaceNotFound switch port)

/-- A link is told by its ends and the fabric of its switch. -/
structure Tells (m : Controller) (link : Link) (told : LinkInformation) : Prop where
  port : told.portId = link.portName
  switch : told.switchInfo = link.switchName
  fabric : Keyed.get? link.switchName m.fabrics = some told.fabric

/-- A profile tells all links of a node in order, and names the first exact port group of the first
interface, if that has a name. -/
structure Describes (m : Controller) (node : Node) (p : Profile) : Prop where
  links : List.Forall₂ m.Tells node.ports p.links
  vnicType : p.vnicType = "baremetal"
  group : ∀ name, p.portGroup = some name ↔
    ∃ first ∈ node.ports.head?, ∃ group, FirstExact m (m.backRefs first) node group ∧
      group.fqName.getLast? = some name

/-! ## Where no call fails -/

variable {m : Controller}

theorem run_informationOf {link : Link} {fabric : String}
    (hfabric : Keyed.get? link.switchName m.fabrics = some fabric) :
    (informationOf link).run answer m =
      ⟨.ok ⟨link.portName, link.switchName, fabric⟩,
        [⟨.readFabricName link.switchName, .ok (some fabric)⟩], m⟩ := by
  have hanswer : answer (.readFabricName link.switchName) m = (.ok (some fabric), m) := by
    simp only [answer, hfabric]
  rw [informationOf, Plan.run_bind_of_run (Plan.run_ask hanswer)]
  rfl

theorem run_informationOf_of_none {link : Link}
    (hfabric : Keyed.get? link.switchName m.fabrics = none) :
    (informationOf link).run answer m =
      ⟨.error (.fabricNotFound link.switchName),
        [⟨.readFabricName link.switchName, .ok none⟩], m⟩ := by
  have hanswer : answer (.readFabricName link.switchName) m = (.ok none, m) := by
    simp only [answer, hfabric]
  rw [informationOf, Plan.run_bind_of_run (Plan.run_ask hanswer)]
  rfl

/-- Links whose switches all have a fabric are told in order. -/
theorem run_informationOfAll {links : List Link}
    (hlinks : ∀ link ∈ links, (Keyed.get? link.switchName m.fabrics).isSome) :
    ∃ told log, (informationOfAll links).run answer m = ⟨.ok told, log, m⟩ ∧
      List.Forall₂ m.Tells links told ∧
      log.map (·.call) = links.map (.readFabricName ·.switchName) := by
  induction links with
  | nil => exact ⟨[], [], rfl, .nil, rfl⟩
  | cons link rest ih =>
      obtain ⟨hlink, hrest⟩ := List.forall_mem_cons.mp hlinks
      obtain ⟨fabric, hfabric⟩ := Option.isSome_iff_exists.mp hlink
      obtain ⟨told, log, hrun, htold, hlog⟩ := ih hrest
      refine ⟨⟨link.portName, link.switchName, fabric⟩ :: told,
        ⟨.readFabricName link.switchName, .ok (some fabric)⟩ :: log, ?_, ?_, ?_⟩
      · rw [informationOfAll, Plan.run_bind_of_run (run_informationOf hfabric),
          Plan.run_bind_of_run hrun]
        simp [pure]
      · exact .cons ⟨rfl, rfl, hfabric⟩ htold
      · rw [List.map_cons, hlog, List.map_cons]

/-- The first switch without a fabric ends the profile. -/
theorem run_informationOfAll_of_none {before : List Link} {link : Link}
    (hbefore : ∀ link ∈ before, (Keyed.get? link.switchName m.fabrics).isSome)
    (hlink : Keyed.get? link.switchName m.fabrics = none) (after : List Link) :
    ∃ log, (informationOfAll (before ++ link :: after)).run answer m =
        ⟨.error (.fabricNotFound link.switchName), log, m⟩ ∧
      log.map (·.call) = (before ++ [link]).map (.readFabricName ·.switchName) := by
  induction before with
  | nil =>
      refine ⟨[⟨.readFabricName link.switchName, .ok none⟩], ?_, rfl⟩
      rw [List.nil_append, informationOfAll,
        Plan.run_bind_of_run_error (run_informationOf_of_none hlink)]
  | cons first rest ih =>
      obtain ⟨hfirst, hrest⟩ := List.forall_mem_cons.mp hbefore
      obtain ⟨fabric, hfabric⟩ := Option.isSome_iff_exists.mp hfirst
      obtain ⟨log, hrun, hlog⟩ := ih hrest
      refine ⟨⟨.readFabricName first.switchName, .ok (some fabric)⟩ :: log, ?_, ?_⟩
      · rw [List.cons_append, informationOfAll,
          Plan.run_bind_of_run (run_informationOf hfabric), Plan.run_bind_of_run_error hrun]
        rfl
      · rw [List.map_cons, hlog, List.cons_append, List.map_cons]

/-- Links are told, or there is a first one whose switch has no fabric. -/
theorem fabrics_cases (m : Controller) (links : List Link) :
    (∀ link ∈ links, (Keyed.get? link.switchName m.fabrics).isSome) ∨
      ∃ before link after, links = before ++ link :: after ∧
        (∀ link ∈ before, (Keyed.get? link.switchName m.fabrics).isSome) ∧
        Keyed.get? link.switchName m.fabrics = none := by
  cases hfirst : links.find? fun link => (Keyed.get? link.switchName m.fabrics).isNone with
  | none =>
      have hall := List.find?_eq_none.mp hfirst
      exact Or.inl fun link hlink => by simpa [Option.isSome_iff_ne_none] using hall link hlink
  | some link =>
      obtain ⟨hnone, before, after, rfl, hbefore⟩ := List.find?_eq_some_iff_append.mp hfirst
      refine Or.inr ⟨before, link, after, rfl, fun link hlink => ?_, by simpa using hnone⟩
      simpa [Option.isSome_iff_ne_none] using hbefore link hlink

theorem run_reusableGroup {node : Node} {first : Link} {interface : Fabric.PhysicalInterface}
    (hfirst : node.ports.head? = some first)
    (hinterface : Keyed.get? first.endpoint m.interfaces = some interface) :
    ∃ log, (reusableGroup node).run answer m =
        ⟨.ok (exactGroup? m node interface.portGroupBackRefs),
          ⟨.readInterface first.switchName first.portName, .ok (some interface)⟩ :: log, m⟩ ∧
      log.map (·.call) <+: interface.portGroupBackRefs.map (.getPortGroup ·.uuid) := by
  obtain ⟨rest, hports⟩ := List.head?_eq_some_iff.mp hfirst
  obtain ⟨log, hrun, hlog⟩ := run_findGroup node interface.portGroupBackRefs m
  have hanswer : answer (.readInterface first.switchName first.portName) m =
      (.ok (some interface), m) := by
    simp only [answer, ← hinterface, Link.endpoint]
  refine ⟨log, ?_, hlog⟩
  rw [reusableGroup, hports]
  simp only
  rw [Plan.run_bind_of_run (Plan.run_ask hanswer), ← hports]
  simp only [hrun]
  rfl

theorem run_reusableGroup_of_none {node : Node} {first : Link}
    (hfirst : node.ports.head? = some first)
    (hinterface : Keyed.get? first.endpoint m.interfaces = none) :
    (reusableGroup node).run answer m =
      ⟨.error (.interfaceNotFound first.switchName first.portName),
        [⟨.readInterface first.switchName first.portName, .ok none⟩], m⟩ := by
  obtain ⟨rest, hports⟩ := List.head?_eq_some_iff.mp hfirst
  have hanswer : answer (.readInterface first.switchName first.portName) m = (.ok none, m) := by
    simp only [answer, ← hinterface, Link.endpoint]
  rw [reusableGroup, hports]
  simp only
  rw [Plan.run_bind_of_run (Plan.run_ask hanswer)]
  rfl

/-- The calls are the first of those that can be made for a node, and what any of them but the last
asks for is there. -/
def Proceeds (m : Controller) (node : Node) (calls : List Call) : Prop :=
  calls <+: m.questions node ∧ ∀ c ∈ calls.dropLast, m.Provides c

theorem questions_of_first {node : Node} {first : Link}
    (hfirst : node.ports.head? = some first) :
    m.questions node = node.ports.map (.readFabricName ·.switchName) ++
      .readInterface first.switchName first.portName ::
        (m.backRefs first).map (.getPortGroup ·.uuid) := by
  rw [questions, hfirst]
  simp

theorem provides_of_fabrics {links : List Link}
    (hlinks : ∀ link ∈ links, (Keyed.get? link.switchName m.fabrics).isSome) :
    ∀ c ∈ links.map (Call.readFabricName ·.switchName), m.Provides c := by
  rintro c hc
  obtain ⟨link, hlink, rfl⟩ := List.mem_map.mp hc
  exact hlinks link hlink

/-- Where all is there, the profile comes about. -/
theorem run_ofNode_of_supports {node : Node} (h : m.Supports node) :
    ∃ p log, (ofNode node).run answer m = ⟨.ok p, log, m⟩ ∧ m.Describes node p ∧
      m.Proceeds node (log.map (·.call)) := by
  obtain ⟨first, rest, hports⟩ := List.exists_cons_of_ne_nil h.linked
  have hfirst : node.ports.head? = some first := by rw [hports, List.head?_cons]
  obtain ⟨interface, hinterface⟩ := Option.isSome_iff_exists.mp (h.interface first hfirst)
  have hrefs : m.backRefs first = interface.portGroupBackRefs := by simp [backRefs, hinterface]
  obtain ⟨told, reads, hreads, htold, hfabrics⟩ := run_informationOfAll h.fabrics
  obtain ⟨asks, hgroup, hasks⟩ := run_reusableGroup hfirst hinterface
  let group := exactGroup? m node interface.portGroupBackRefs
  refine ⟨{ links := told, portGroup := group.bind (·.name) },
    reads ++ ⟨.readInterface first.switchName first.portName, .ok (some interface)⟩ :: asks,
    ?_, ⟨htold, rfl, fun name => ?_⟩, ?_, ?_⟩
  · rw [ofNode, Plan.run_bind_of_run hreads, Plan.run_bind_of_run hgroup]
    simp [pure, group]
  · simp only [group, hfirst, Option.mem_some_iff, hrefs, Option.bind_eq_some_iff,
      exactGroup?_eq_some_iff, exists_eq_left']
    rfl
  · rw [questions_of_first hfirst, hrefs, List.map_append, hfabrics]
    exact (List.prefix_append_right_inj _).mpr ((List.prefix_cons_inj _).mpr hasks)
  · intro c hc
    have hcall := List.mem_of_mem_dropLast hc
    rw [List.map_append, hfabrics, List.map_cons, List.mem_append, List.mem_cons] at hcall
    rcases hcall with hcall | rfl | hcall
    · exact provides_of_fabrics h.fabrics c hcall
    · exact h.interface first hfirst
    · obtain ⟨ref, -, rfl⟩ := List.mem_map.mp (hasks.subset hcall)
      trivial

theorem run_ofNode_of_unlinked {node : Node} (hports : node.ports = []) :
    (ofNode node).run answer m = ⟨.error (.invalidNode node.name .noPorts), [], m⟩ := by
  rw [ofNode, reusableGroup, hports]
  rfl

/-- A switch without a fabric ends the profile before any interface is read. -/
theorem run_ofNode_of_no_fabric {node : Node} {before after : List Link} {link : Link}
    (hports : node.ports = before ++ link :: after)
    (hbefore : ∀ link ∈ before, (Keyed.get? link.switchName m.fabrics).isSome)
    (hlink : Keyed.get? link.switchName m.fabrics = none) :
    ∃ log, (ofNode node).run answer m = ⟨.error (.fabricNotFound link.switchName), log, m⟩ ∧
      log.map (·.call) = before.map (.readFabricName ·.switchName) ++
        [.readFabricName link.switchName] ∧
      m.Proceeds node (log.map (·.call)) := by
  obtain ⟨log, hrun, hlog⟩ := run_informationOfAll_of_none hbefore hlink after
  rw [List.map_append, List.map_singleton] at hlog
  refine ⟨log, ?_, hlog, ?_, ?_⟩
  · rw [ofNode, hports, Plan.run_bind_of_run_error hrun]
  · rw [hlog, questions, hports, List.map_append, List.map_cons, List.append_assoc]
    exact (List.prefix_append_right_inj _).mpr (List.prefix_append [_] _)
  · rw [hlog, List.dropLast_concat]
    exact provides_of_fabrics hbefore

theorem run_ofNode_of_no_interface {node : Node} {first : Link}
    (hfirst : node.ports.head? = some first)
    (hfabrics : ∀ link ∈ node.ports, (Keyed.get? link.switchName m.fabrics).isSome)
    (hinterface : Keyed.get? first.endpoint m.interfaces = none) :
    ∃ log, (ofNode node).run answer m =
        ⟨.error (.interfaceNotFound first.switchName first.portName), log, m⟩ ∧
      log.map (·.call) = node.ports.map (.readFabricName ·.switchName) ++
        [.readInterface first.switchName first.portName] ∧
      m.Proceeds node (log.map (·.call)) := by
  obtain ⟨told, reads, hreads, -, hlog⟩ := run_informationOfAll hfabrics
  have hgroup := run_reusableGroup_of_none hfirst hinterface
  refine ⟨reads ++ [⟨.readInterface first.switchName first.portName, .ok none⟩], ?_, ?_, ?_, ?_⟩
  · rw [ofNode, Plan.run_bind_of_run hreads, Plan.run_bind_of_run_error hgroup]
  · rw [List.map_append, hlog]
    rfl
  · rw [List.map_append, hlog, questions_of_first hfirst]
    exact (List.prefix_append_right_inj _).mpr (List.prefix_append [_] _)
  · rw [List.map_append, hlog, List.map_singleton, List.dropLast_concat]
    exact provides_of_fabrics hfabrics

/-- Where something is missing, the profile ends at the first step that misses it. -/
theorem run_ofNode_of_not_supports {node : Node} (h : ¬ m.Supports node) :
    ∃ e log, (ofNode node).run answer m = ⟨.error e, log, m⟩ ∧
      m.Shortfall node (log.map (·.call)) e ∧ m.Proceeds node (log.map (·.call)) := by
  rcases m.fabrics_cases node.ports with hfabrics | ⟨before, link, after, hports, hbefore, hlink⟩
  · cases hfirst : node.ports.head? with
    | none =>
        have hports := List.head?_eq_none_iff.mp hfirst
        have hnothing : m.Proceeds node [] := ⟨List.nil_prefix, fun c hc => by cases hc⟩
        exact ⟨_, [], run_ofNode_of_unlinked hports, .unlinked hports, hnothing⟩
    | some first =>
        have hinterface : Keyed.get? first.endpoint m.interfaces = none := by
          by_contra hsome
          refine h ⟨fun hports => by simp [hports] at hfirst, hfabrics, fun link hlink => ?_⟩
          obtain rfl := Option.some.inj (hfirst.symm.trans hlink)
          exact Option.isSome_iff_ne_none.mpr hsome
        obtain ⟨log, hrun, hlog, hproceeds⟩ :=
          run_ofNode_of_no_interface hfirst hfabrics hinterface
        exact ⟨_, log, hrun, hlog ▸ .interface hinterface, hproceeds⟩
  · obtain ⟨log, hrun, hlog, hproceeds⟩ := run_ofNode_of_no_fabric hports hbefore hlink
    exact ⟨_, log, hrun, hlog ▸ .fabric hlink, hproceeds⟩

/-- Where no call fails, the profile comes about if nothing is missing. -/
theorem run_ofNode_cases (m : Controller) (node : Node) :
    let run := (ofNode node).run answer m
    let calls := run.exchanges.map (·.call)
    m.Proceeds node calls ∧
      (m.Supports node ∧ (∃ p, run.result = .ok p ∧ m.Describes node p) ∨
        ¬ m.Supports node ∧ ∃ e, run.result = .error e ∧ m.Shortfall node calls e) := by
  by_cases hsupports : m.Supports node
  · obtain ⟨p, log, hrun, hdescribes, hproceeds⟩ := run_ofNode_of_supports hsupports
    rw [hrun]
    exact ⟨hproceeds, Or.inl ⟨hsupports, p, rfl, hdescribes⟩⟩
  · obtain ⟨e, log, hrun, hshortfall, hproceeds⟩ := run_ofNode_of_not_supports hsupports
    rw [hrun]
    exact ⟨hproceeds, Or.inr ⟨hsupports, e, rfl, hshortfall⟩⟩

/-! ## Whichever calls fail -/

/-- Calls that stop early have gone well as far as they went. -/
theorem Proceeds.of_prefix {node : Node} {calls sound : List Call}
    (h : m.Proceeds node sound) (hcalls : calls <+: sound) : m.Proceeds node calls := by
  refine ⟨hcalls.trans h.1, fun c hc => h.2 c ?_⟩
  obtain ⟨later, rfl⟩ := hcalls
  cases later with
  | nil => rwa [List.append_nil]
  | cons next later =>
      rw [List.dropLast_append_of_ne_nil (List.cons_ne_nil _ _)]
      exact List.mem_append_left _ (List.mem_of_mem_dropLast hc)

variable {σ : Type} {respond : Responder σ} {memory : σ → Controller}

/-- There is a profile exactly if nothing is missing and no call failed, and it tells all links and
the first exact port group. Else the error is that of the call that failed or of what was missing,
and in both cases everything before had gone well. -/
theorem ofNode_all_or_nothing (h : FailsCleanly respond memory) (node : Node) (s : σ) :
    let run := (ofNode node).run respond s
    let calls := run.exchanges.map (·.call)
    let m := memory s
    m.Proceeds node calls ∧
      ((∃ p, run.result = .ok p) ↔ m.Supports node ∧ Unfailing run.exchanges) ∧
      (∀ p, run.result = .ok p → m.Describes node p) ∧
      ∀ e, run.result = .error e →
        (∃ earlier x, run.exchanges = earlier ++ [x] ∧ Unfailing earlier ∧ x.answer = .error e) ∨
          Unfailing run.exchanges ∧ m.Shortfall node calls e := by
  intro run calls m
  have hsound := unfailing_answer (ofNode_strict node) m
  obtain ⟨hproceeds, hcases⟩ := run_ofNode_cases m node
  rcases (h.run_strict (ofNode_strict node) s).ends with
    ⟨hresult, hlog⟩ | ⟨earlier, x, e, hlog, hearlier, hx, hresult, hcalls⟩
  · change run.result = _ at hresult
    change run.exchanges = _ at hlog
    simp only [calls, hresult, hlog]
    refine ⟨hproceeds, ?_⟩
    rcases hcases with ⟨hsupports, p, hp, hdescribes⟩ | ⟨hlacks, e, he, hshortfall⟩
    · rw [hp]
      refine ⟨⟨fun _ => ⟨hsupports, hsound⟩, fun _ => ⟨p, rfl⟩⟩, ?_, fun e he => nomatch he⟩
      rintro _ ⟨⟩
      exact hdescribes
    · rw [he]
      refine ⟨⟨fun ⟨_, hp⟩ => (nomatch hp), fun hboth => absurd hboth.1 hlacks⟩,
        fun p hp => (nomatch hp), ?_⟩
      rintro _ ⟨⟩
      exact Or.inr ⟨hsound, hshortfall⟩
  -- a call failed, so the run is an initial part of what it would have been
  · change run.result = _ at hresult
    change run.exchanges = _ at hlog
    have hfailed : ¬ Unfailing run.exchanges := by
      intro hunfailing
      have hlast := hunfailing x (by simp [hlog])
      simp [Exchange.failed, hx] at hlast
    rw [hresult]
    refine ⟨hproceeds.of_prefix hcalls,
      ⟨fun ⟨_, hp⟩ => (nomatch hp), fun hboth => absurd hboth.2 hfailed⟩,
      fun p hp => (nomatch hp), ?_⟩
    rintro _ ⟨⟩
    exact Or.inl ⟨earlier, x, hlog, hearlier, hx⟩

/-- Of the port groups of the first link the exact one is named, and there is no profile when the
second fabric cannot be read. -/
theorem dual_node_named_or_refused :
    FailsCleanly Lab.flaky Prod.snd ∧
      (∃ p, ((ofNode Lab.dualNode).run Lab.flaky ([], Lab.grouped)).result = .ok p ∧
        p.portGroup = some "vpg-both" ∧ Lab.grouped.Describes Lab.dualNode p) ∧
      ∃ earlier x e,
        ((ofNode Lab.dualNode).run Lab.flaky ([false, true], Lab.grouped)).exchanges =
            earlier ++ [x] ∧
          Unfailing earlier ∧ x.answer = .error e ∧
          ((ofNode Lab.dualNode).run Lab.flaky ([false, true], Lab.grouped)).result =
            .error e := by
  have hclean := Lab.flaky_failsCleanly
  refine ⟨hclean, ?_, ?_⟩
  · obtain ⟨-, -, hdescribes, -⟩ := ofNode_all_or_nothing hclean Lab.dualNode ([], Lab.grouped)
    exact ⟨_, rfl, rfl, hdescribes _ rfl⟩
  · obtain ⟨-, -, -, herror⟩ :=
      ofNode_all_or_nothing hclean Lab.dualNode ([false, true], Lab.grouped)
    rcases herror _ rfl with ⟨earlier, x, hlog, hearlier, hx⟩ | ⟨hunfailing, -⟩
    · exact ⟨earlier, x, _, hlog, hearlier, hx, rfl⟩
    · cases hunfailing _ (.tail _ (.head _))

end Controller

end VlanBinding
