import VlanBinding.Proofs.Failing
import VlanBinding.Proofs.Profile

/-!
Which port group a profile names. A node shares a group that the controller made for exactly its
links. Main statements: the search through the back references of one interface comes to the first
of them whose group is exact; and where references lead both ways, looking at the first link of a
node is enough to tell whether any stored group is exact.
-/

namespace VlanBinding

open VlanBinding.Fabric (Reference VirtualPortGroup)
open VlanBinding.Integration VlanBinding.Topology

theorem Fabric.Reference.parentAndName_eq_some_iff {r : Reference} {parent name : String} :
    r.parentAndName = some (parent, name) ↔ ∃ front, r.target = front ++ [parent, name] := by
  rw [parentAndName]
  constructor
  · intro h
    split at h
    · rename_i last next front hreverse
      cases h
      exact ⟨front.reverse, by simpa using congrArg List.reverse hreverse⟩
    · cases h
  · rintro ⟨front, h⟩
    simp [h]

theorem Fabric.Reference.parentAndName_isSome_iff {r : Reference} :
    r.parentAndName.isSome ↔ 2 ≤ r.target.length := by
  rw [parentAndName, ← List.length_reverse]
  rcases r.target.reverse with _ | ⟨name, _ | ⟨parent, front⟩⟩ <;> simp

namespace Integration.Profile

/-! ## Exact groups -/

/-- The controller made the port group, and for exactly the links of the node: its references all
name a switch and an interface, and these are the ends of the links. -/
structure Exact (group : VirtualPortGroup) (node : Node) : Prop where
  automatic : group.userCreated = false
  wellFormed : ∀ ref ∈ group.interfaceRefs, 2 ≤ ref.target.length
  covers : ∀ switch port,
    (∃ ref ∈ group.interfaceRefs, ∃ front, ref.target = front ++ [switch, port]) ↔
      ∃ link ∈ node.ports, link.switchName = switch ∧ link.portName = port

theorem sameElements_iff {xs ys : List (String × String)} :
    sameElements xs ys = true ↔ ∀ x, x ∈ xs ↔ x ∈ ys := by
  simp only [sameElements, Bool.and_eq_true, List.all_eq_true, List.contains_iff_mem]
  exact ⟨fun h x => ⟨h.1 x, h.2 x⟩, fun h => ⟨fun x => (h x).mp, fun x => (h x).mpr⟩⟩

/-- The references of a group are read all or none. -/
theorem mapM_parentAndName_eq_some_iff {refs : List Reference} {joined : List (String × String)} :
    refs.mapM Reference.parentAndName = some joined ↔
      List.Forall₂ (fun ref e => ref.parentAndName = some e) refs joined := by
  induction refs generalizing joined with
  | nil => simp [eq_comm]
  | cons ref rest ih =>
      rw [List.mapM_cons, List.forall₂_cons_left_iff]
      simp only [Option.bind_eq_bind, Option.bind_eq_some_iff, Option.pure_def,
        Option.some.injEq, ih]
      constructor
      · rintro ⟨e, he, others, hothers, rfl⟩
        exact ⟨e, others, he, hothers, rfl⟩
      · rintro ⟨e, others, he, hothers, rfl⟩
        exact ⟨e, he, others, hothers, rfl⟩

theorem mem_of_forall₂_parentAndName {refs : List Reference} {joined : List (String × String)}
    (h : List.Forall₂ (fun ref e => ref.parentAndName = some e) refs joined)
    (e : String × String) : e ∈ joined ↔ ∃ ref ∈ refs, ref.parentAndName = some e := by
  induction h with
  | nil => simp
  | cons hfirst _ ih => simp [ih, hfirst, eq_comm]

/-- All references can be read exactly if each has the name of a switch and of an interface. -/
theorem exists_mapM_parentAndName_iff {refs : List Reference} :
    (∃ joined, refs.mapM Reference.parentAndName = some joined) ↔
      ∀ ref ∈ refs, 2 ≤ ref.target.length := by
  simp only [mapM_parentAndName_eq_some_iff]
  induction refs with
  | nil => simp
  | cons ref rest ih =>
      rw [List.forall_mem_cons, ← ih, ← Reference.parentAndName_isSome_iff,
        Option.isSome_iff_exists]
      simp only [List.forall₂_cons_left_iff]
      constructor
      · rintro ⟨_, e, others, he, hothers, rfl⟩
        exact ⟨⟨e, he⟩, others, hothers⟩
      · rintro ⟨⟨e, he⟩, others, hothers⟩
        exact ⟨e :: others, e, others, he, hothers, rfl⟩

theorem mem_endpoints_iff {node : Node} {e : String × String} :
    e ∈ node.ports.map Link.endpoint ↔
      ∃ link ∈ node.ports, link.switchName = e.1 ∧ link.portName = e.2 := by
  simp [Link.endpoint, Prod.ext_iff]

/-- The program's test is for exact groups. -/
theorem joins_iff {group : VirtualPortGroup} {node : Node} :
    joins group (node.ports.map Link.endpoint) = true ↔ Exact group node := by
  have hmem (joined : List (String × String))
      (h : group.interfaceRefs.mapM Reference.parentAndName = some joined) :
      sameElements joined (node.ports.map Link.endpoint) = true ↔
        ∀ switch port,
          (∃ ref ∈ group.interfaceRefs, ∃ front, ref.target = front ++ [switch, port]) ↔
            ∃ link ∈ node.ports, link.switchName = switch ∧ link.portName = port := by
    rw [sameElements_iff, Prod.forall]
    refine forall₂_congr fun switch port => ?_
    rw [mem_of_forall₂_parentAndName (mapM_parentAndName_eq_some_iff.mp h), mem_endpoints_iff]
    simp only [Reference.parentAndName_eq_some_iff]
  rw [joins, Bool.and_eq_true, Bool.not_eq_true']
  constructor
  · rintro ⟨hautomatic, hjoined⟩
    split at hjoined
    · rename_i joined h
      exact ⟨hautomatic, exists_mapM_parentAndName_iff.mp ⟨joined, h⟩,
        (hmem joined h).mp hjoined⟩
    · cases hjoined
  · intro h
    obtain ⟨joined, hjoined⟩ := exists_mapM_parentAndName_iff.mpr h.wellFormed
    rw [hjoined]
    exact ⟨h.automatic, (hmem joined hjoined).mpr h.covers⟩

/-- Whether a group is exact depends on no more than the set of links. -/
theorem Exact.congr {group : VirtualPortGroup} {node other : Node}
    (hsame : ∀ e, e ∈ other.ports.map Link.endpoint ↔ e ∈ node.ports.map Link.endpoint) :
    Exact group other ↔ Exact group node := by
  have hlinks (switch port : String) :
      (∃ link ∈ other.ports, link.switchName = switch ∧ link.portName = port) ↔
        ∃ link ∈ node.ports, link.switchName = switch ∧ link.portName = port := by
    have h := hsame (switch, port)
    rwa [mem_endpoints_iff, mem_endpoints_iff] at h
  constructor <;> rintro ⟨hautomatic, hwellFormed, hcovers⟩
  · exact ⟨hautomatic, hwellFormed, fun switch port =>
      (hcovers switch port).trans (hlinks switch port)⟩
  · exact ⟨hautomatic, hwellFormed, fun switch port =>
      (hcovers switch port).trans (hlinks switch port).symm⟩

/-- An exact group is referred to by a link of each of its nodes. -/
theorem Exact.exists_ref {group : VirtualPortGroup} {node : Node} (h : Exact group node)
    {link : Link} (hlink : link ∈ node.ports) :
    ∃ ref ∈ group.interfaceRefs, ∃ front,
      ref.target = front ++ [link.switchName, link.portName] :=
  (h.covers _ _).mpr ⟨link, hlink, rfl, rfl⟩

/-! ## The search -/

/-- The group is that of the first reference whose group is stored and exact. -/
def FirstExact (s : Controller) (refs : List Reference) (node : Node) (group : VirtualPortGroup) :
    Prop :=
  ∃ before ref after, refs = before ++ ref :: after ∧
    Keyed.get? ref.uuid s.groups = some group ∧ Exact group node ∧
    ∀ earlier ∈ before, ∀ other, Keyed.get? earlier.uuid s.groups = some other →
      ¬ Exact other node

/-- What the search finds. -/
def exactGroup? (s : Controller) (node : Node) (refs : List Reference) : Option VirtualPortGroup :=
  refs.findSome? fun ref =>
    (Keyed.get? ref.uuid s.groups).filter (joins · (node.ports.map Link.endpoint))

theorem filter_joins_eq_some_iff {stored : Option VirtualPortGroup} {node : Node}
    {group : VirtualPortGroup} :
    stored.filter (joins · (node.ports.map Link.endpoint)) = some group ↔
      stored = some group ∧ Exact group node := by
  rw [Option.filter_eq_some_iff, joins_iff]

theorem filter_joins_eq_none_iff {stored : Option VirtualPortGroup} {node : Node} :
    stored.filter (joins · (node.ports.map Link.endpoint)) = none ↔
      ∀ group, stored = some group → ¬ Exact group node := by
  simp only [Option.filter_eq_none_iff, joins_iff]

theorem exactGroup?_eq_some_iff {s : Controller} {node : Node} {refs : List Reference}
    {group : VirtualPortGroup} :
    exactGroup? s node refs = some group ↔ FirstExact s refs node group := by
  simp only [exactGroup?, FirstExact, List.findSome?_eq_some_iff, filter_joins_eq_some_iff,
    filter_joins_eq_none_iff, and_assoc]

/-- A group is found exactly if some reference leads to an exact one. -/
theorem isSome_exactGroup?_iff {s : Controller} {node : Node} {refs : List Reference} :
    (exactGroup? s node refs).isSome ↔
      ∃ ref ∈ refs, ∃ group, Keyed.get? ref.uuid s.groups = some group ∧ Exact group node := by
  rw [exactGroup?, List.findSome?_isSome_iff]
  simp only [Option.isSome_iff_exists, filter_joins_eq_some_iff]

end Integration.Profile

namespace Controller

open Integration.Profile

/-- The search asks for groups in the order of the references, as far as it has to. -/
theorem run_findGroup (node : Node) (refs : List Reference) (s : Controller) :
    ∃ log, (findGroup (node.ports.map Link.endpoint) refs).run answer s =
        ⟨.ok (exactGroup? s node refs), log, s⟩ ∧
      log.map (·.call) <+: refs.map (.getPortGroup ·.uuid) := by
  induction refs with
  | nil => exact ⟨[], rfl, List.prefix_refl _⟩
  | cons ref rest ih =>
      obtain ⟨log, hrest, hlog⟩ := ih
      have hanswer : answer (.getPortGroup ref.uuid) s = (.ok (Keyed.get? ref.uuid s.groups), s) :=
        rfl
      rw [findGroup, Plan.run_bind_of_run (Plan.run_ask hanswer), exactGroup?,
        List.findSome?_cons, ← exactGroup?]
      have hgoes : Call.getPortGroup ref.uuid :: log.map (·.call) <+:
          (ref :: rest).map (.getPortGroup ·.uuid) :=
        (List.prefix_cons_inj _).mpr hlog
      cases Keyed.get? ref.uuid s.groups with
      | none =>
          simp only [hrest, Option.filter_none]
          exact ⟨_, rfl, hgoes⟩
      | some group =>
          rw [Option.filter_some]
          simp only
          split
          · exact ⟨_, rfl, List.prefix_append [_] _⟩
          · simp only [hrest]
            exact ⟨_, rfl, hgoes⟩

end Controller

namespace Lab

/-- A host that is cabled to two switches. -/
def dualNode : Node where
  name := "compute2"
  ports := [link1, { switchName := "leaf2", portName := "xe-0/0/2" }]

def cable2 : Reference :=
  { target := ["default-global-system-config", "leaf2", "xe-0/0/2"], uuid := "pi-2" }

/-- Port groups of its first link: one made by a user, one that is gone, one that lacks a link, and
an exact one. -/
def grouped : Controller :=
  { start with
    interfaces :=
      [(("leaf1", "xe-0/0/1"), interfaceOf cable1 ["vpg-user", "vpg-gone", "vpg-part", "vpg-both"]),
        (("leaf2", "xe-0/0/2"), interfaceOf cable2 ["vpg-both", "vpg-user"])]
    fabrics := [("leaf1", "fabric-1"), ("leaf2", "fabric-2")]
    groups :=
      [("vpg-user",
          { groupOf "vpg-user" with interfaceRefs := [cable1, cable2], userCreated := true }),
        ("vpg-part", { groupOf "vpg-part" with interfaceRefs := [cable1] }),
        ("vpg-both", { groupOf "vpg-both" with interfaceRefs := [cable2, cable1, cable2] })] }

end Lab

end VlanBinding
