import VlanBinding.Integration.Binding
import VlanBinding.Proofs.Controller

/-!
What building the profile of a host depends on. It only reads, it fails with the first call that
fails, and whether there is a profile is a matter of the inventory: port groups decide no more than
which of them is named.
-/

namespace VlanBinding.Integration

open VlanBinding.Topology

/-- Calls about links: the fabric's part of the inventory, and the port groups. -/
def Call.asksLinks : Call → Prop
  | readInterface _ _ | readFabricName _ | readNode _ | getPort _ | getPortGroup _ => True
  | _ => False

theorem Call.isWrite_of_asksLinks {c : Call} (hc : c.asksLinks) :
    c.isWrite = false := by
  cases c <;> first | rfl | exact hc.elim

variable {allowed : Call → Prop}

theorem LinkSource.collectLinks_strict (hport : ∀ uuid, allowed (.getPort uuid))
    (host : String) (refs : List Fabric.Reference) :
    (LinkSource.collectLinks host refs).Strict allowed := by
  induction refs with
  | nil => exact Plan.strict_pure _
  | cons ref rest ih =>
      refine Plan.Strict.ask_bind (hport _) fun found => ?_
      cases found with
      | none => exact Plan.strict_fail _
      | some port =>
          refine Plan.Strict.bind (Plan.strict_ofExcept _) fun link => ?_
          exact ih.bind fun links => Plan.strict_pure _

theorem LinkSource.resolve_strict (hnode : ∀ host, allowed (.readNode host))
    (hport : ∀ uuid, allowed (.getPort uuid)) (source : LinkSource) (host : String) :
    (source.resolve host).Strict allowed := by
  cases source with
  | document index =>
      simp only [LinkSource.resolve]
      split <;> trivial
  | controller =>
      refine Plan.Strict.ask_bind (hnode host) fun found => ?_
      cases found with
      | none => exact Plan.strict_fail _
      | some node =>
          refine (collectLinks_strict hport host node.ports).bind fun links => ?_
          cases links <;> trivial

/-- The links of a host are a matter of the inventory. -/
theorem LinkSource.resolve_inventory (source : LinkSource) (host : String) :
    (source.resolve host).Within Call.asksInventory :=
  (resolve_strict (fun _ => trivial) (fun _ => trivial) source host).within

namespace Profile

theorem informationOfAll_strict
    (hfabric : ∀ switch, allowed (.readFabricName switch)) (links : List Link) :
    (informationOfAll links).Strict allowed := by
  induction links with
  | nil => exact Plan.strict_pure _
  | cons link rest ih =>
      refine Plan.Strict.bind ?_ fun first => ih.bind fun others => Plan.strict_pure _
      refine Plan.Strict.ask_bind (hfabric _) fun found => ?_
      cases found <;> trivial

/-- So are the fabrics of their switches. -/
theorem informationOfAll_inventory (links : List Link) :
    (informationOfAll links).Within Call.asksInventory :=
  (informationOfAll_strict (fun _ => trivial) links).within

theorem findGroup_strict (hgroup : ∀ uuid, allowed (.getPortGroup uuid))
    (links : List (String × String)) (refs : List Fabric.Reference) :
    (findGroup links refs).Strict allowed := by
  induction refs with
  | nil => exact Plan.strict_pure _
  | cons ref rest ih =>
      refine Plan.Strict.ask_bind (hgroup _) fun found => ?_
      cases found with
      | none => exact ih
      | some group =>
          simp only
          split
          · exact Plan.strict_pure _
          · exact ih

theorem reusableGroup_strict (node : Node) :
    (reusableGroup node).Strict Call.asksLinks := by
  simp only [reusableGroup]
  split
  · exact Plan.strict_fail _
  · refine Plan.Strict.ask_bind trivial fun found => ?_
    cases found with
    | none => exact Plan.strict_fail _
    | some interface => exact findGroup_strict (fun _ => trivial) _ _

theorem ofNode_strict (node : Node) : (ofNode node).Strict Call.asksLinks := by
  refine (informationOfAll_strict (fun _ => trivial) node.ports).bind fun links => ?_
  exact (reusableGroup_strict node).bind fun group => Plan.strict_pure _

theorem ofHost_strict (source : LinkSource) (host : String) :
    (ofHost source host).Strict Call.asksLinks :=
  (LinkSource.resolve_strict (fun _ => trivial) (fun _ => trivial)
    source host).bind ofNode_strict

end Profile

end VlanBinding.Integration

namespace VlanBinding.Controller

open VlanBinding.Integration VlanBinding.Topology

variable {s t : Controller}

/-- Controllers with one inventory and the same port groups give a host the same
profile. -/
theorem perform_ofHost_of_groups (hsame : s.inventory = t.inventory)
    (hgroups : s.groups = t.groups) (source : LinkSource) (host : String) :
    ∃ result, (Profile.ofHost source host).perform answer s = (result, s) ∧
      (Profile.ofHost source host).perform answer t = (result, t) := by
  have hwithin := (Profile.ofHost_strict source host).within
  have hread : ∀ c s, c.asksLinks → (answer c s).2 = s := fun c s hc =>
    answer_state_of_read c s (Call.isWrite_of_asksLinks hc)
  have hanswer : ∀ c, c.asksLinks → (answer c s).1 = (answer c t).1 := by
    intro c hc
    cases c with
    | getPortGroup uuid => simp only [answer, hgroups]
    | readInterface | readFabricName | readNode | getPort =>
        exact answer_result_of_inventory hsame trivial
    | _ => exact hc.elim
  refine ⟨((Profile.ofHost source host).perform answer s).1, ?_, ?_⟩
  · exact Prod.ext rfl (hwithin.perform_state hread s)
  · exact Prod.ext (hwithin.perform_result hread hanswer).symm
      (hwithin.perform_state hread t)

theorem perform_findGroup_ok (links : List (String × String))
    (refs : List Fabric.Reference) (s : Controller) :
    ∃ group, (Profile.findGroup links refs).perform answer s = (.ok group, s) := by
  induction refs with
  | nil => exact ⟨none, rfl⟩
  | cons ref rest ih =>
      have hread : (Plan.ask (.getPortGroup ref.uuid)).perform answer s =
          (.ok (Keyed.get? ref.uuid s.groups), s) := rfl
      rw [Profile.findGroup, Plan.perform_bind_ok hread]
      cases Keyed.get? ref.uuid s.groups with
      | none => exact ih
      | some group =>
          simp only
          split
          · exact ⟨some group, rfl⟩
          · exact ih

/-- The port group to reuse is missed when the first interface is unknown, and
not for any other reason. -/
theorem reusableGroup_isSome_of_inventory (hsame : s.inventory = t.inventory)
    (node : Node) (links : List LinkInformation) :
    ((Profile.reusableGroup node >>= fun group =>
        (pure { links, portGroup := group.bind (·.name) } : Plan Profile)).perform
          answer s).1.toOption.isSome =
      ((Profile.reusableGroup node >>= fun group =>
        (pure { links, portGroup := group.bind (·.name) } : Plan Profile)).perform
          answer t).1.toOption.isSome := by
  cases hports : node.ports with
  | nil => simp only [Profile.reusableGroup, hports, Plan.perform_bind, Plan.perform_fail]
  | cons first rest =>
      obtain ⟨interface, hs, ht⟩ := perform_of_inventory
        ((Plan.within_ask (.readInterface first.switchName first.portName)).mpr
          trivial) hsame
      simp only [Profile.reusableGroup, hports, Plan.perform_bind, hs, ht]
      cases interface with
      | error e => rfl
      | ok found =>
          cases found with
          | none => rfl
          | some interface =>
              obtain ⟨group, hs⟩ := perform_findGroup_ok
                (List.map Link.endpoint (first :: rest))
                interface.portGroupBackRefs s
              obtain ⟨other, ht⟩ := perform_findGroup_ok
                (List.map Link.endpoint (first :: rest))
                interface.portGroupBackRefs t
              simp only [hs, ht]
              rfl

/-- Whether a host has a profile does not depend on the port groups. -/
theorem profile_isSome_of_inventory (hsame : s.inventory = t.inventory)
    (source : LinkSource) (host : String) :
    ((Profile.ofHost source host).perform answer s).1.toOption.isSome =
      ((Profile.ofHost source host).perform answer t).1.toOption.isSome := by
  obtain ⟨resolved, hs, ht⟩ := perform_of_inventory
    (LinkSource.resolve_strict (fun _ => trivial) (fun _ => trivial)
      source host).within hsame
  cases resolved with
  | error e =>
      rw [Profile.ofHost, Plan.perform_bind_error hs, Plan.perform_bind_error ht]
  | ok node =>
      rw [Profile.ofHost, Plan.perform_bind_ok hs, Plan.perform_bind_ok ht]
      obtain ⟨links, hs, ht⟩ := perform_of_inventory
        (Profile.informationOfAll_strict (fun _ => trivial) node.ports).within hsame
      cases links with
      | error e =>
          rw [Profile.ofNode, Plan.perform_bind_error hs,
            Plan.perform_bind_error ht]
      | ok links =>
          rw [Profile.ofNode, Plan.perform_bind_ok hs, Plan.perform_bind_ok ht]
          exact reusableGroup_isSome_of_inventory hsame node links

end VlanBinding.Controller
