import VlanBinding.Controller.Basic
import VlanBinding.Proofs.Keyed
import VlanBinding.Proofs.Plan

/-!
How calls act on a controller in memory: what none of them changes, and what detaching, removing
and creating an interface leave behind. Removing is settled once done, and undoes a creation.
-/

namespace VlanBinding

open VlanBinding.Fabric VlanBinding.Integration

/-- Calls about what the operators of the fabric and of Neutron set up. -/
def Integration.Call.asksInventory : Call → Prop
  | getVmi _ | createVmi _ | deleteVmi _ | getPortGroup _ | updatePortGroup _
  | getPorts _ _ => False
  | _ => True

namespace Controller

variable {s t : Controller} {failures : Failures}

/-- The controller without the interfaces, the port groups and Neutron's ports. -/
def inventory (s : Controller) : Controller :=
  { s with vmis := [], groups := [], corePorts := [] }

theorem answer_inventory (c : Call) (s : Controller) :
    (answer c s).2.inventory = s.inventory := by
  cases c with
  | createVmi vmi =>
      simp only [answer, createVmi]
      split <;> rfl
  | updatePortGroup group =>
      simp only [answer, updateGroup]
      split <;> rfl
  | getNetwork id =>
      simp only [answer]
      split <;> rfl
  | _ => rfl

theorem answer_corePorts (c : Call) (s : Controller) :
    (answer c s).2.corePorts = s.corePorts := by
  cases c with
  | createVmi vmi =>
      simp only [answer, createVmi]
      split <;> rfl
  | updatePortGroup group =>
      simp only [answer, updateGroup]
      split <;> rfl
  | getNetwork id =>
      simp only [answer]
      split <;> rfl
  | _ => rfl

/-- A call fails and changes nothing, or is answered. -/
theorem respond_cases (failures : Failures) (c : Call) (s : Controller) :
    (∃ text, failures.text? c = some text ∧
      respond failures c s = (.error (c.failure (.other text)), s)) ∨
    (failures.text? c = none ∧ respond failures c s = answer c s) := by
  cases htext : failures.text? c with
  | some text => exact Or.inl ⟨text, rfl, by simp [respond, htext]⟩
  | none => exact Or.inr ⟨rfl, by simp [respond, htext]⟩

theorem respond_inventory (c : Call) (s : Controller) :
    (respond failures c s).2.inventory = s.inventory := by
  rcases respond_cases failures c s with ⟨text, -, h⟩ | ⟨-, h⟩
  · rw [h]
  · rw [h, answer_inventory]

theorem respond_corePorts (c : Call) (s : Controller) :
    (respond failures c s).2.corePorts = s.corePorts := by
  rcases respond_cases failures c s with ⟨text, -, h⟩ | ⟨-, h⟩
  · rw [h]
  · rw [h, answer_corePorts]

theorem isWrite_of_asksInventory {c : Call} (hc : c.asksInventory) :
    c.isWrite = false := by
  cases c <;> first | rfl | exact hc.elim

theorem answer_inventory_result {c : Call} (hc : c.asksInventory) (s : Controller) :
    (answer c s.inventory).1 = (answer c s).1 := by
  cases c with
  | getNetwork id =>
      simp only [answer, inventory]
      split <;> rfl
  | getVmi | createVmi | deleteVmi | getPortGroup | updatePortGroup | getPorts =>
      exact hc.elim
  | _ => rfl

/-- Controllers with one inventory answer alike what is asked about it. -/
theorem answer_result_of_inventory (hsame : s.inventory = t.inventory) {c : Call}
    (hc : c.asksInventory) : (answer c s).1 = (answer c t).1 := by
  rw [← answer_inventory_result hc s, hsame, answer_inventory_result hc t]

theorem answer_state_of_asksInventory (c : Call) (s : Controller)
    (hc : c.asksInventory) : (answer c s).2 = s :=
  answer_state_of_read c s (isWrite_of_asksInventory hc)

/-- What is asked about the inventory comes to the same in every controller with
that inventory, and changes neither. -/
theorem perform_of_inventory {α : Type} {p : Plan α}
    (hp : p.Within Call.asksInventory) (hsame : s.inventory = t.inventory) :
    ∃ result, p.perform answer s = (result, s) ∧
      p.perform answer t = (result, t) := by
  refine ⟨(p.perform answer s).1, ?_, ?_⟩
  · exact Prod.ext rfl (hp.perform_state answer_state_of_asksInventory s)
  · refine Prod.ext ?_ (hp.perform_state answer_state_of_asksInventory t)
    exact (hp.perform_result answer_state_of_asksInventory
      fun c hc => answer_result_of_inventory hsame hc).symm

/-! ## Detaching and removing -/

/-- What detaching an interface leaves: the first port group that it is known to be in does
without it. -/
def detached (vmi : VirtualMachineInterface) (s : Controller) : Controller :=
  match vmi.portGroupBackRefs with
  | [] => s
  | ref :: _ =>
    match Keyed.get? ref.uuid s.groups with
    | none => s
    | some group => s.updateGroup (group.detach vmi)

/-- What removing the interface of a name leaves. -/
def removed (fqName : FqName) (s : Controller) : Controller :=
  match Keyed.get? fqName s.vmis with
  | none => s
  | some vmi => (s.detached vmi).deleteVmi fqName

theorem detach_detach (group : VirtualPortGroup) (vmi : VirtualMachineInterface) :
    (group.detach vmi).detach vmi = group.detach vmi := by
  simp [VirtualPortGroup.detach, List.filter_filter]

@[simp]
theorem updateGroup_vmis (group : VirtualPortGroup) (s : Controller) :
    (s.updateGroup group).vmis = s.vmis := by
  simp only [updateGroup]
  split <;> rfl

theorem updateGroup_updateGroup (group : VirtualPortGroup) (s : Controller) :
    (s.updateGroup group).updateGroup group = s.updateGroup group := by
  by_cases hgroup : Keyed.contains group.uuid s.groups = true
  · have hagain : Keyed.contains group.uuid
        (Keyed.put group.uuid group s.groups) = true := by
      simp [Keyed.contains, Keyed.get?_put]
    simp [updateGroup, hgroup, hagain, Keyed.put_put]
  · simp [updateGroup, hgroup]

theorem get?_updateGroup (uuid : String) (group : VirtualPortGroup)
    (s : Controller) (hgroup : Keyed.contains group.uuid s.groups = true) :
    Keyed.get? uuid (s.updateGroup group).groups =
      if group.uuid = uuid then some group else Keyed.get? uuid s.groups := by
  simp only [updateGroup, hgroup, ↓reduceIte]
  exact Keyed.get?_put uuid group.uuid group s.groups

@[simp]
theorem detached_vmis (vmi : VirtualMachineInterface) (s : Controller) :
    (s.detached vmi).vmis = s.vmis := by
  simp only [detached]
  split
  · rfl
  · split
    · rfl
    · exact updateGroup_vmis _ s

theorem detached_detached (vmi : VirtualMachineInterface) (s : Controller) :
    (s.detached vmi).detached vmi = s.detached vmi := by
  cases hrefs : vmi.portGroupBackRefs with
  | nil => simp [detached, hrefs]
  | cons ref rest =>
      cases hgroup : Keyed.get? ref.uuid s.groups with
      | none => simp [detached, hrefs, hgroup]
      | some group =>
          have honce : s.detached vmi = s.updateGroup (group.detach vmi) := by
            simp [detached, hrefs, hgroup]
          by_cases hstored : Keyed.contains (group.detach vmi).uuid s.groups
          · have hread := get?_updateGroup ref.uuid (group.detach vmi) s hstored
            rw [honce]
            by_cases hown : (group.detach vmi).uuid = ref.uuid
            · simp only [hown, ↓reduceIte] at hread
              simp only [detached, hrefs, hread, detach_detach]
              exact updateGroup_updateGroup _ s
            · simp only [hown, ↓reduceIte, hgroup] at hread
              simp only [detached, hrefs, hread]
              exact updateGroup_updateGroup _ s
          · have hsame : s.detached vmi = s := by
              rw [honce]
              simp [updateGroup, hstored]
            rw [hsame, hsame]

theorem removed_of_none {fqName : FqName} (hnone : Keyed.get? fqName s.vmis = none) :
    s.removed fqName = s := by
  simp [removed, hnone]

/-- An interface in no port group is only deleted. -/
theorem removed_of_unattached {fqName : FqName}
    (hrefs : ∀ vmi, Keyed.get? fqName s.vmis = some vmi → vmi.portGroupBackRefs = []) :
    s.removed fqName = s.deleteVmi fqName := by
  cases hvmi : Keyed.get? fqName s.vmis with
  | none =>
      rw [removed_of_none hvmi, deleteVmi, Keyed.erase_of_get?_eq_none hvmi]
  | some vmi => simp [removed, hvmi, detached, hrefs vmi hvmi]

theorem get?_removed (key fqName : FqName) (s : Controller) :
    Keyed.get? key (s.removed fqName).vmis =
      if fqName = key then none else Keyed.get? key s.vmis := by
  cases hvmi : Keyed.get? fqName s.vmis with
  | none =>
      rw [removed_of_none hvmi]
      by_cases hkey : fqName = key
      · simp [hkey, ← hvmi]
      · simp [hkey]
  | some vmi =>
      simp only [removed, hvmi, deleteVmi, detached_vmis]
      exact Keyed.get?_erase key fqName s.vmis

theorem removed_removed (fqName : FqName) (s : Controller) :
    (s.removed fqName).removed fqName = s.removed fqName := by
  apply removed_of_none
  simp [get?_removed]

/-- Removing goes on from where it was left after detaching. -/
theorem removed_detached {fqName : FqName} {vmi : VirtualMachineInterface}
    (hvmi : Keyed.get? fqName s.vmis = some vmi) :
    (s.detached vmi).removed fqName = s.removed fqName := by
  simp [removed, hvmi, detached_detached]

/-! ## Creating -/

theorem createVmi_inventory (vmi : VirtualMachineInterface) (s : Controller) :
    (s.createVmi vmi).inventory = s.inventory :=
  answer_inventory (.createVmi vmi) s

theorem createVmi_groups (vmi : VirtualMachineInterface) (s : Controller) :
    (s.createVmi vmi).groups = s.groups := by
  simp only [createVmi]
  split <;> rfl

theorem createVmi_of_some {vmi old : VirtualMachineInterface}
    (hold : Keyed.get? vmi.fqName s.vmis = some old) : s.createVmi vmi = s := by
  simp [createVmi, Keyed.contains, hold]

theorem createVmi_of_none {vmi : VirtualMachineInterface}
    (hnone : Keyed.get? vmi.fqName s.vmis = none) :
    s.createVmi vmi =
      { s with vmis := Keyed.put vmi.fqName (stored vmi) s.vmis } := by
  simp [createVmi, Keyed.contains, hnone]

theorem get?_createVmi (key : FqName) (vmi : VirtualMachineInterface)
    (s : Controller) :
    Keyed.get? key (s.createVmi vmi).vmis =
      (Keyed.get? key s.vmis).or
        (if vmi.fqName = key then some (stored vmi) else none) := by
  cases hold : Keyed.get? vmi.fqName s.vmis with
  | some old =>
      rw [createVmi_of_some hold]
      by_cases hkey : vmi.fqName = key
      · simp [← hkey, hold]
      · simp [hkey]
  | none =>
      rw [createVmi_of_none hold, Keyed.get?_put]
      by_cases hkey : vmi.fqName = key
      · simp [← hkey, hold]
      · simp [hkey]

/-- An interface in no port group that was just created goes without a trace. -/
theorem removed_createVmi {vmi : VirtualMachineInterface}
    (hrefs : vmi.portGroupBackRefs = [])
    (hnone : Keyed.get? vmi.fqName s.vmis = none) :
    (s.createVmi vmi).removed vmi.fqName = s := by
  have hunattached : ∀ found,
      Keyed.get? vmi.fqName (s.createVmi vmi).vmis = some found →
        found.portGroupBackRefs = [] := by
    intro found hfound
    simp only [get?_createVmi, hnone, ↓reduceIte, Option.none_or,
      Option.some.injEq] at hfound
    rw [← hfound]
    exact hrefs
  rw [removed_of_unattached hunattached, createVmi_of_none hnone, deleteVmi,
    Keyed.erase_put_of_get?_eq_none _ hnone]

end Controller

end VlanBinding
