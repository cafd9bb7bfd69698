import VlanBinding.Proofs.Assembly

/-!
When hosts share a port group. Main statement: where the references of port groups and interfaces
lead both ways, a profile names a group exactly if any stored group is exact, although the search
goes no further than the first link of the host. So the order and the number of its links decide
nothing.
-/

namespace VlanBinding

open VlanBinding.Integration VlanBinding.Topology

namespace Controller

open Integration.Profile

/-- Port groups are stored under their own uuids and have names, and an interface that a group
refers to, if it is stored, refers back to the group. -/
structure Consistent (s : Controller) : Prop where
  keyed : s.GroupsKeyed
  named : ∀ uuid group, Keyed.get? uuid s.groups = some group → group.fqName ≠ []
  back : ∀ uuid group, Keyed.get? uuid s.groups = some group →
    ∀ ref ∈ group.interfaceRefs, ∀ front switch port, ref.target = front ++ [switch, port] →
      ∀ interface, Keyed.get? (switch, port) s.interfaces = some interface →
        ∃ back ∈ interface.portGroupBackRefs, back.uuid = group.uuid

/-- The node has a link, and the switch and the interface of every link are known. -/
structure Cabled (s : Controller) (node : Node) : Prop where
  linked : node.ports ≠ []
  fabrics : ∀ link ∈ node.ports, (Keyed.get? link.switchName s.fabrics).isSome
  interfaces : ∀ link ∈ node.ports, (Keyed.get? link.endpoint s.interfaces).isSome

variable {s : Controller} {node other : Node}

theorem Cabled.supports (h : s.Cabled node) : s.Supports node where
  linked := h.linked
  fabrics := h.fabrics
  interface := fun first hfirst => h.interfaces first (List.mem_of_head? hfirst)

/-- It matters which links a node has, and not in what order and how often. -/
theorem Cabled.congr (h : s.Cabled node)
    (hsame : ∀ e, e ∈ other.ports.map Link.endpoint ↔ e ∈ node.ports.map Link.endpoint) :
    s.Cabled other := by
  have htwin (link : Link) (hlink : link ∈ other.ports) :
      ∃ twin ∈ node.ports, twin.endpoint = link.endpoint :=
    List.mem_map.mp ((hsame _).mp (List.mem_map_of_mem hlink))
  refine ⟨fun hnone => ?_, fun link hlink => ?_, fun link hlink => ?_⟩
  · obtain ⟨link, rest, hports⟩ := List.exists_cons_of_ne_nil h.linked
    have hlink := (hsame link.endpoint).mpr (List.mem_map_of_mem (by rw [hports]; simp))
    simp [hnone] at hlink
  · obtain ⟨twin, htwin, hends⟩ := htwin link hlink
    have hswitch : twin.switchName = link.switchName := congrArg Prod.fst hends
    exact hswitch ▸ h.fabrics twin htwin
  · obtain ⟨twin, htwin, hends⟩ := htwin link hlink
    exact hends ▸ h.interfaces twin htwin

/-- Whichever link of a node one looks at, its interface refers back to each exact group. -/
theorem Consistent.exists_backRef (hs : s.Consistent) {uuid : String}
    {group : Fabric.VirtualPortGroup} (hstored : Keyed.get? uuid s.groups = some group)
    (hexact : Exact group node) {link : Link} (hlink : link ∈ node.ports)
    (hinterface : (Keyed.get? link.endpoint s.interfaces).isSome) :
    ∃ back ∈ s.backRefs link, back.uuid = uuid := by
  obtain ⟨interface, hinterface⟩ := Option.isSome_iff_exists.mp hinterface
  obtain ⟨ref, href, front, htarget⟩ := hexact.exists_ref hlink
  obtain ⟨back, hback, huuid⟩ :=
    hs.back uuid group hstored ref href front _ _ htarget interface hinterface
  refine ⟨back, ?_, huuid.trans (hs.keyed uuid group hstored)⟩
  rw [backRefs, hinterface]
  exact hback

/-- So a profile names a group if and only if some stored group is exact. -/
theorem Consistent.portGroup_isSome_iff (hs : s.Consistent) {p : Profile}
    (hp : s.Describes node p) {first : Link} (hfirst : node.ports.head? = some first)
    (hinterface : (Keyed.get? first.endpoint s.interfaces).isSome) :
    p.portGroup.isSome ↔
      ∃ uuid group, Keyed.get? uuid s.groups = some group ∧ Exact group node := by
  rw [Option.isSome_iff_exists]
  constructor
  · rintro ⟨name, hname⟩
    obtain ⟨-, -, group, ⟨-, ref, -, -, hstored, hexact, -⟩, -⟩ := (hp.group name).mp hname
    exact ⟨ref.uuid, group, hstored, hexact⟩
  · rintro ⟨uuid, group, hstored, hexact⟩
    obtain ⟨back, hback, rfl⟩ :=
      hs.exists_backRef hstored hexact (List.mem_of_head? hfirst) hinterface
    have hsome := isSome_exactGroup?_iff.mpr ⟨back, hback, group, hstored, hexact⟩
    obtain ⟨found, hfound⟩ := Option.isSome_iff_exists.mp hsome
    have hselected := exactGroup?_eq_some_iff.mp hfound
    obtain ⟨-, ref, -, -, hstored, -⟩ := hselected
    have hname := List.getLast?_eq_some_getLast (hs.named _ _ hstored)
    exact ⟨_, (hp.group _).mpr ⟨first, hfirst, found, exactGroup?_eq_some_iff.mp hfound, hname⟩⟩

theorem Consistent.exists_profile (hs : s.Consistent) (h : s.Cabled node) :
    ∃ p, ((ofNode node).run answer s).result = .ok p ∧
      (p.portGroup.isSome ↔
        ∃ uuid group, Keyed.get? uuid s.groups = some group ∧ Exact group node) := by
  obtain ⟨p, log, hrun, hp, -⟩ := run_ofNode_of_supports h.supports
  obtain ⟨first, rest, hports⟩ := List.exists_cons_of_ne_nil h.linked
  have hfirst : node.ports.head? = some first := by rw [hports, List.head?_cons]
  have hinterface := h.interfaces first (List.mem_of_head? hfirst)
  exact ⟨p, by rw [hrun], hs.portGroup_isSome_iff hp hfirst hinterface⟩

/-- A node whose links are known has a profile, and it names a group if and only if some stored
group is exact. So it is for every node with the same links, in whatever order and number. -/
theorem group_named_iff_exact_stored (hs : s.Consistent) (h : s.Cabled node) :
    ∃ p, ((ofNode node).run answer s).result = .ok p ∧
      (p.portGroup.isSome ↔
        ∃ uuid group, Keyed.get? uuid s.groups = some group ∧ Exact group node) ∧
      ∀ other : Node,
        (∀ e, e ∈ other.ports.map Link.endpoint ↔ e ∈ node.ports.map Link.endpoint) →
          ∃ q, ((ofNode other).run answer s).result = .ok q ∧
            q.portGroup.isSome = p.portGroup.isSome := by
  obtain ⟨p, hok, hp⟩ := hs.exists_profile h
  refine ⟨p, hok, hp, fun other hsame => ?_⟩
  obtain ⟨q, hother, hq⟩ := hs.exists_profile (h.congr hsame)
  refine ⟨q, hother, Bool.eq_iff_iff.mpr ?_⟩
  simp only [hp, hq, Exact.congr hsame]

end Controller

namespace Lab

theorem dualNode_cabled : grouped.Cabled dualNode where
  linked := by decide
  fabrics := by decide
  interfaces := by decide

theorem grouped_consistent : grouped.Consistent := by
  have hstored {uuid : String} {group : Fabric.VirtualPortGroup}
      (h : Keyed.get? uuid grouped.groups = some group) : (uuid, group) ∈ grouped.groups :=
    Keyed.mem_of_get?_eq_some h
  refine ⟨fun uuid group h => ?_, fun uuid group h => ?_, ?_⟩
  · have hall : ∀ e ∈ grouped.groups, e.2.uuid = e.1 := by decide
    exact hall _ (hstored h)
  · have hall : ∀ e ∈ grouped.groups, e.2.fqName ≠ [] := by decide
    exact hall _ (hstored h)
  · intro uuid group h ref href front switch port htarget interface hinterface
    have hall : ∀ e ∈ grouped.groups, ∀ ref ∈ e.2.interfaceRefs, ∀ i ∈ grouped.interfaces,
        ref.parentAndName = some i.1 → ∃ back ∈ i.2.portGroupBackRefs, back.uuid = e.2.uuid := by
      decide
    have hends : ref.parentAndName = some (switch, port) :=
      Fabric.Reference.parentAndName_eq_some_iff.mpr ⟨front, htarget⟩
    exact hall _ (hstored h) ref href _ (Keyed.mem_of_get?_eq_some hinterface) hends

/-- The same host, its links in another order and one of them told twice. -/
def shuffledNode : Node where
  name := "compute2"
  ports := dualNode.ports.reverse ++ dualNode.ports.take 1

end Lab

namespace Controller

open Integration.Profile

/-- Told in either way, the host shares a group. -/
theorem shuffled_node_shares_group :
    Lab.grouped.Consistent ∧ Lab.grouped.Cabled Lab.dualNode ∧
      ∃ q, ((ofNode Lab.shuffledNode).run answer Lab.grouped).result = .ok q ∧
        q.portGroup.isSome = true := by
  refine ⟨Lab.grouped_consistent, Lab.dualNode_cabled, ?_⟩
  obtain ⟨p, hp, -, hother⟩ :=
    group_named_iff_exact_stored Lab.grouped_consistent Lab.dualNode_cabled
  obtain ⟨q, hq, hsome⟩ := hother Lab.shuffledNode fun e => by
    simp [Lab.shuffledNode, Lab.dualNode]
    tauto
  have hnamed : p.portGroup = some "vpg-both" := by
    cases hp
    rfl
  exact ⟨q, hq, by rw [hsome, hnamed]; rfl⟩

end Controller

end VlanBinding
