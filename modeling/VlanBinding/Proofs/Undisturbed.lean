import VlanBinding.Proofs.Footprint
import VlanBinding.Proofs.Interleaving

/-!
What the handling of a notification gets to while somebody else may change interfaces, port groups
and Neutron's list. Two ports that need one interface are followed to the calls that are about this
interface: a port that goes asks for the list, looks for the interface and has it deleted, and a
port that comes looks for it and has it created.
-/

namespace VlanBinding

open VlanBinding.Fabric VlanBinding.Integration

/-- Calls that are about neither interfaces nor Neutron's ports. -/
def Integration.Call.Aside : Call → Prop
  | getVmi _ | createVmi _ | deleteVmi _ | getPorts _ _ => False
  | _ => True

theorem Integration.Call.aside_of_asksInventory (c : Call) (hc : c.asksInventory) :
    c.Aside := by
  cases c <;> first | exact hc.elim | trivial

theorem Controller.answer_vmis_of_aside {c : Call} (hc : c.Aside) (s : Controller) :
    (answer c s).2.vmis = s.vmis := by
  cases c with
  | updatePortGroup group => exact updateGroup_vmis group s
  | getNetwork id => rw [answer_state_of_read _ s rfl]
  | getVmi | createVmi | deleteVmi | getPorts => exact hc.elim
  | _ => rfl

namespace Integration

variable {source : LinkSource} {start : Controller} {target : Plan Unit → Prop} {c : Call}

theorem Call.Aside.ne {d : Call} (hc : c.Aside) (hd : ¬ d.Aside) : c ≠ d := by
  rintro rfl
  exact hd hc

theorem Profile.findGroup_until {f : Option VirtualPortGroup → Plan Unit}
    (hf : ∀ group, (f group).Until start Call.Aside target) (links : List (String × String))
    (refs : List Reference) :
    (findGroup links refs >>= f).Until start Call.Aside target := by
  induction refs with
  | nil => exact hf none
  | cons ref rest ih =>
      rw [findGroup, bind_assoc]
      refine Plan.Until.ask_bind trivial fun s _ => ⟨Keyed.get? ref.uuid s.groups, rfl, ?_⟩
      cases Keyed.get? ref.uuid s.groups with
      | none => exact ih
      | some group =>
          simp only
          split
          · exact hf (some group)
          · exact ih

theorem Profile.reusableGroup_until {node : Topology.Node} {links : List LinkInformation}
    {profile : Profile}
    (hprofile : ((reusableGroup node >>= fun group =>
      (pure { links, portGroup := group.bind (·.name) } : Plan Profile)).perform
        Controller.answer start).1 = .ok profile)
    {f : Option VirtualPortGroup → Plan Unit}
    (hf : ∀ group, (f group).Until start Call.Aside target) :
    (reusableGroup node >>= f).Until start Call.Aside target := by
  cases hports : node.ports with
  | nil =>
      simp only [reusableGroup, hports] at hprofile
      cases hprofile
  | cons first rest =>
      simp only [reusableGroup, hports, bind_assoc] at hprofile ⊢
      have hask := (Plan.within_ask (.readInterface first.switchName first.portName)).mpr
        (show Call.asksInventory _ from trivial)
      have hread : (Plan.ask (.readInterface first.switchName first.portName)).perform
          Controller.answer start =
          (.ok (Keyed.get? (first.switchName, first.portName) start.interfaces), start) := rfl
      refine Plan.Until.inventory_bind hask Call.aside_of_asksInventory
        (congrArg Prod.fst hread) ?_
      rw [Plan.perform_bind_ok hread] at hprofile
      cases hfound : Keyed.get? (first.switchName, first.portName) start.interfaces with
      | none =>
          rw [hfound] at hprofile
          cases hprofile
      | some interface => exact findGroup_until hf _ _

/-- A host that has a profile keeps one, whatever becomes of port groups. -/
theorem Profile.ofHost_until {host : String} {profile : Profile}
    (hprofile : ((ofHost source host).perform Controller.answer start).1 = .ok profile)
    {f : Profile → Plan Unit} (hf : ∀ profile, (f profile).Until start Call.Aside target) :
    (ofHost source host >>= f).Until start Call.Aside target := by
  have hresolve := source.resolve_inventory host
  obtain ⟨resolved, hnode, -⟩ := Controller.perform_of_inventory (s := start) hresolve rfl
  cases resolved with
  | error e =>
      rw [ofHost, Plan.perform_bind_error hnode] at hprofile
      cases hprofile
  | ok node =>
      rw [ofHost, Plan.perform_bind_ok hnode, ofNode] at hprofile
      rw [ofHost, bind_assoc]
      refine Plan.Until.inventory_bind hresolve Call.aside_of_asksInventory
        (congrArg Prod.fst hnode) ?_
      have hwithin := informationOfAll_inventory node.ports
      obtain ⟨found, hlinks, -⟩ := Controller.perform_of_inventory (s := start) hwithin rfl
      cases found with
      | error e =>
          rw [Plan.perform_bind_error hlinks] at hprofile
          cases hprofile
      | ok links =>
          rw [Plan.perform_bind_ok hlinks] at hprofile
          rw [ofNode, bind_assoc]
          refine Plan.Until.inventory_bind hwithin Call.aside_of_asksInventory
            (congrArg Prod.fst hlinks) ?_
          rw [bind_assoc]
          exact reusableGroup_until hprofile fun group => hf _

namespace Integrator

theorem detach_until (vmi : VirtualMachineInterface) {f : Unit → Plan Unit}
    (hf : (f ()).Until start Call.Aside target) :
    (detach vmi >>= f).Until start Call.Aside target := by
  rw [detach]
  cases vmi.portGroupBackRefs with
  | nil => exact hf
  | cons ref rest =>
      simp only
      rw [bind_assoc]
      refine Plan.Until.ask_bind trivial fun s _ => ⟨Keyed.get? ref.uuid s.groups, rfl, ?_⟩
      cases Keyed.get? ref.uuid s.groups with
      | none => exact hf
      | some group => exact Plan.Until.ask_bind trivial fun t _ => ⟨(), rfl, hf⟩

/-- An interface that is found is deleted in the end. -/
theorem removeInterface_cases (start : Controller) (key : FqName) :
    ∃ next, removeInterface key = .call (.getVmi key) next ∧ next (.ok none) = pure () ∧
      ∀ vmi, (next (.ok (some vmi))).Until start Call.Aside fun q =>
        q = Plan.ask (.deleteVmi key) :=
  ⟨_, rfl, rfl, fun vmi => detach_until vmi (.here rfl)⟩

end Integrator

/-- One port goes while another one comes that needs the same interface, and this one can be
made. -/
structure Handover (source : LinkSource) (start : Controller) (gone fresh : Neutron.Port)
    (a : Attachment) (project : Project) : Prop where
  goneNeeds : start.attachment? source gone = some a
  freshNeeds : start.attachment? source fresh = some a
  goneProject : ((Integrator.projectOf gone).run Controller.answer start).result = .ok project
  freshProject : ((Integrator.projectOf fresh).run Controller.answer start).result = .ok project
  tagged : ∃ core, Keyed.get? a.network start.coreNetworks = some core ∧
    core.vlanTag.isSome = true
  virtual : (Keyed.get? a.network start.networks).isSome = true
  profile : ∃ profile, ((Profile.ofHost source a.host).run Controller.answer start).result =
    .ok profile

namespace Handover

variable {gone fresh : Neutron.Port} {a : Attachment} {project : Project} {key : FqName}
variable (h : Handover source start gone fresh a project)
variable (hkey : key = project.fqName ++ [a.interfaceName])

theorem managed_bind {port : Neutron.Port} (hport : start.attachment? source port = some a)
    {f : Option Attachment → Plan Unit} (hf : (f (some a)).Until start Call.Aside target) :
    (Integrator.managed? source port >>= f).Until start Call.Aside target := by
  have hwithin : (Integrator.managed? source port).Within Call.asksInventory :=
    Integrator.managed?_within (fun _ => trivial) source port
  have hresult := congrArg Prod.fst (Controller.answer_managed? source port start)
  rw [hport] at hresult
  exact Plan.Until.inventory_bind hwithin Call.aside_of_asksInventory hresult hf

include h hkey

theorem remove_until :
    ((Integrator.enabled source).remove gone).Until start Call.Aside fun q =>
      q = Integrator.removeInterface key := by
  refine managed_bind h.goneNeeds ?_
  refine Plan.Until.inventory_bind (Controller.projectOf_strict gone).within
    Call.aside_of_asksInventory h.goneProject (.here ?_)
  rw [hkey]

omit hkey in
theorem create_until :
    ∃ tag, ((Integrator.enabled source).handle (.created fresh)).Until start Call.Aside fun q =>
      q = Integrator.makeInterface source a tag project := by
  obtain ⟨core, hcore, htag⟩ := h.tagged
  obtain ⟨tag, htag⟩ := Option.isSome_iff_exists.mp htag
  refine ⟨tag, ?_⟩
  rw [Integrator.handle_created]
  refine managed_bind h.freshNeeds ?_
  have hask := (Plan.within_ask (.getNetwork a.network)).mpr
    (show Call.asksInventory _ from trivial)
  have hread : ((Plan.ask (.getNetwork a.network)).perform Controller.answer start).1 =
      .ok core := by
    rw [Plan.perform_ask]
    simp only [Controller.answer, hcore]
  refine Plan.Until.inventory_bind hask Call.aside_of_asksInventory hread ?_
  rw [htag]
  exact Plan.Until.inventory_bind (Controller.projectOf_strict fresh).within
    Call.aside_of_asksInventory h.freshProject (.here rfl)

/-- An interface that is not found is created in the end. -/
theorem makeInterface_cases (tag : UInt16) :
    ∃ next, Integrator.makeInterface source a tag project = .call (.getVmi key) next ∧
      (∀ vmi, next (.ok (some vmi)) = pure ()) ∧
      (next (.ok none)).Until start Call.Aside fun q =>
        ∃ vmi : VirtualMachineInterface, vmi.fqName = key ∧ q = Plan.ask (.createVmi vmi) := by
  subst hkey
  refine ⟨_, rfl, fun _ => rfl, ?_⟩
  obtain ⟨network, hnetwork⟩ := Option.isSome_iff_exists.mp h.virtual
  obtain ⟨profile, hprofile⟩ := h.profile
  have hask := (Plan.within_ask (.getVirtualNetwork a.network)).mpr
    (show Call.asksInventory _ from trivial)
  have hread : ((Plan.ask (.getVirtualNetwork a.network)).perform Controller.answer start).1 =
      .ok (some network) := by
    rw [← hnetwork]
    rfl
  change (Plan.ask (.getVirtualNetwork a.network) >>= _).Until _ _ _
  refine Plan.Until.inventory_bind hask Call.aside_of_asksInventory hread ?_
  exact Profile.ofHost_until hprofile fun profile => .here ⟨_, rfl, rfl⟩

/-- The guard lets the interface be taken away, unless the other port is listed. -/
theorem guard_until (ports : List Neutron.Port) :
    let plan := (Integrator.enabled source).anyTagged
      (ports.filter fun other => other.id ≠ gone.id) >>= fun needed =>
        if needed = true then pure () else (Integrator.enabled source).remove gone
    (plan.Until start Call.Aside fun q => q = pure () ∨ q = Integrator.removeInterface key) ∧
      (fresh ∈ ports → fresh.id ≠ gone.id → plan.Until start Call.Aside fun q => q = pure ()) := by
  intro plan
  have hwithin : ((Integrator.enabled source).anyTagged
      (ports.filter fun other => other.id ≠ gone.id)).Within Call.asksInventory :=
    Integrator.anyTagged_within (fun _ => trivial) _ _
  have hresult := congrArg Prod.fst (Controller.perform_anyTagged [] source
    (ports.filter fun other => other.id ≠ gone.id) start)
  rw [Controller.respond_nil_eq, Failures.sees_nil, Bool.true_and] at hresult
  constructor
  · refine Plan.Until.inventory_bind hwithin Call.aside_of_asksInventory hresult ?_
    split
    · exact .here (Or.inl rfl)
    · exact (h.remove_until hkey).mono fun _ => Or.inr
  · intro hlisted hid
    refine Plan.Until.inventory_bind hwithin Call.aside_of_asksInventory hresult ?_
    have hany : ((ports.filter fun other => other.id ≠ gone.id).any fun port =>
        (start.attachment? source port).isSome) = true := by
      refine List.any_eq_true.mpr ⟨fresh, ?_, by simp [h.freshNeeds]⟩
      exact List.mem_filter.mpr ⟨hlisted, by simpa using hid⟩
    rw [if_pos hany]
    exact .here rfl

/-- Either the guard asks for the list of ports, or no port can need the interface. -/
theorem handle_deleted_cases :
    (((Integrator.enabled source).handle (.deleted gone)).Until start Call.Aside fun q =>
      q = Integrator.removeInterface key) ∨
    ∃ next, (Integrator.enabled source).handle (.deleted gone) =
        .call (.getPorts a.network a.host) next ∧
      ∀ ports, ((next (.ok ports)).Until start Call.Aside fun q =>
          q = pure () ∨ q = Integrator.removeInterface key) ∧
        (fresh ∈ ports → fresh.id ≠ gone.id →
          (next (.ok ports)).Until start Call.Aside fun q => q = pure ()) := by
  obtain ⟨hnetwork, hhost, hne⟩ :=
    Attachment.fields_of_ofPort? (Controller.ofPort?_of_attachment? h.goneNeeds)
  simp only [Integrator.handle, Integrator.isEnabled, Integrator.neededByOther, hnetwork, hhost,
    hne, or_false, Bool.not_true, Bool.false_eq_true, ↓reduceIte]
  by_cases hempty : a.network = ""
  · rw [if_pos hempty]
    exact Or.inl (h.remove_until hkey)
  · rw [if_neg hempty]
    exact Or.inr ⟨_, rfl, h.guard_until hkey⟩

end Handover

end Integration

end VlanBinding
