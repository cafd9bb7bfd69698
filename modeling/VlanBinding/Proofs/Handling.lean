import VlanBinding.Proofs.Integrator
import VlanBinding.Proofs.Naming
import VlanBinding.Proofs.Profile

/-!
What a notification does to a controller in memory that answers every call. A port that comes has
the interface that it needs made, if it can be made; a port that goes takes its interface along,
unless Neutron lists another port at the same attachment.
-/

namespace VlanBinding

open VlanBinding.Fabric VlanBinding.Integration

namespace Controller

variable {source : LinkSource} {s t : Controller}

/-- What a port needs, if its host is managed and its project known. -/
def need? (source : LinkSource) (port : Neutron.Port) (s : Controller) :
    Option Need :=
  match s.attachment? source port, s.projectOf? port with
  | some a, some project => some ⟨project.fqName, a⟩
  | _, _ => none

theorem need?_of_inventory (hsame : s.inventory = t.inventory)
    (port : Neutron.Port) : s.need? source port = t.need? source port := by
  rw [need?, need?, attachment?_of_inventory hsame, projectOf?_of_inventory hsame]

theorem need?_eq_some_iff {port : Neutron.Port} {x : Need} :
    s.need? source port = some x ↔
      s.attachment? source port = some x.attachment ∧
        ∃ project, s.projectOf? port = some project ∧
          project.fqName = x.owner := by
  obtain ⟨owner, a⟩ := x
  rw [need?]
  cases s.attachment? source port <;> cases s.projectOf? port <;>
    simp [and_comm]

/-- The interface that is made for a need, if one can be made: the network has
a tag and is known to the fabric, and the host has a profile. -/
def interfaceOf? (source : LinkSource) (x : Need) (s : Controller) :
    Option VirtualMachineInterface := do
  let core ← Keyed.get? x.attachment.network s.coreNetworks
  let tag ← core.vlanTag
  let network ← Keyed.get? x.attachment.network s.networks
  let profile ←
    ((Profile.ofHost source x.attachment.host).perform answer s).1.toOption
  some (.make x.attachment.interfaceName network ⟨some tag⟩ profile.pairs
    ⟨"", x.owner⟩)

theorem interfaceOf?_eq_some_iff {x : Need} {vmi : VirtualMachineInterface} :
    s.interfaceOf? source x = some vmi ↔
      ∃ core tag network profile,
        Keyed.get? x.attachment.network s.coreNetworks = some core ∧
        core.vlanTag = some tag ∧
        Keyed.get? x.attachment.network s.networks = some network ∧
        ((Profile.ofHost source x.attachment.host).perform answer s).1 =
          .ok profile ∧
        vmi = .make x.attachment.interfaceName network ⟨some tag⟩ profile.pairs
          ⟨"", x.owner⟩ := by
  simp only [interfaceOf?, Option.bind_eq_bind, Option.bind_eq_some_iff,
    Plan.toOption_eq_some_iff, Option.some.injEq]
  constructor
  · rintro ⟨core, hcore, tag, htag, network, hnetwork, profile, hprofile, rfl⟩
    exact ⟨core, tag, network, profile, hcore, htag, hnetwork, hprofile, rfl⟩
  · rintro ⟨core, tag, network, profile, hcore, htag, hnetwork, hprofile, rfl⟩
    exact ⟨core, hcore, tag, htag, network, hnetwork, profile, hprofile, rfl⟩

theorem fqName_of_interfaceOf? {x : Need} {vmi : VirtualMachineInterface}
    (hvmi : s.interfaceOf? source x = some vmi) : vmi.fqName = x.fqName := by
  obtain ⟨_, _, _, _, _, _, _, _, rfl⟩ := interfaceOf?_eq_some_iff.mp hvmi
  rfl

/-- A new interface is in no port group. -/
theorem portGroupBackRefs_of_interfaceOf? {x : Need} {vmi : VirtualMachineInterface}
    (hvmi : s.interfaceOf? source x = some vmi) : vmi.portGroupBackRefs = [] := by
  obtain ⟨_, _, _, _, _, _, _, _, rfl⟩ := interfaceOf?_eq_some_iff.mp hvmi
  rfl

theorem coreNetworks_of_inventory (hsame : s.inventory = t.inventory) :
    s.coreNetworks = t.coreNetworks := by
  change s.inventory.coreNetworks = t.inventory.coreNetworks
  rw [hsame]

theorem networks_of_inventory (hsame : s.inventory = t.inventory) :
    s.networks = t.networks := by
  change s.inventory.networks = t.inventory.networks
  rw [hsame]

theorem interfaceOf?_of_groups (hsame : s.inventory = t.inventory)
    (hgroups : s.groups = t.groups) (x : Need) :
    s.interfaceOf? source x = t.interfaceOf? source x := by
  obtain ⟨result, hs, ht⟩ :=
    perform_ofHost_of_groups hsame hgroups source x.attachment.host
  simp only [interfaceOf?, hs, ht, coreNetworks_of_inventory hsame,
    networks_of_inventory hsame]

theorem interfaceOf?_isSome_iff {x : Need} :
    (s.interfaceOf? source x).isSome = true ↔
      (∃ core, Keyed.get? x.attachment.network s.coreNetworks = some core ∧
        core.vlanTag.isSome = true) ∧
      (Keyed.get? x.attachment.network s.networks).isSome = true ∧
      ((Profile.ofHost source x.attachment.host).perform answer
        s).1.toOption.isSome = true := by
  simp only [interfaceOf?, Option.bind_eq_bind, Option.isSome_iff_exists,
    Option.bind_eq_some_iff]
  constructor
  · rintro ⟨_, core, hcore, tag, htag, network, hnetwork, profile, hprofile, -⟩
    exact ⟨⟨core, hcore, tag, htag⟩, ⟨network, hnetwork⟩, ⟨profile, hprofile⟩⟩
  · rintro ⟨⟨core, hcore, tag, htag⟩, ⟨network, hnetwork⟩, ⟨profile, hprofile⟩⟩
    exact ⟨_, core, hcore, tag, htag, network, hnetwork, profile, hprofile, rfl⟩

/-- Whether an interface can be made does not depend on the port groups. -/
theorem interfaceOf?_isSome_of_inventory (hsame : s.inventory = t.inventory)
    (x : Need) :
    (s.interfaceOf? source x).isSome = (t.interfaceOf? source x).isSome := by
  rw [Bool.eq_iff_iff, interfaceOf?_isSome_iff, interfaceOf?_isSome_iff,
    profile_isSome_of_inventory hsame, coreNetworks_of_inventory hsame,
    networks_of_inventory hsame]

/-- The controller once a need is met, as far as it can be. -/
def met (source : LinkSource) (x : Need) (s : Controller) : Controller :=
  match s.interfaceOf? source x with
  | none => s
  | some vmi => s.createVmi vmi

/-- The controller once a port has come. -/
def arrived (source : LinkSource) (port : Neutron.Port) (s : Controller) :
    Controller :=
  match s.need? source port with
  | none => s
  | some x => s.met source x

/-- The controller once a port has gone, while Neutron lists what other ports
there are. -/
def departed (source : LinkSource) (port : Neutron.Port) (id : String)
    (s : Controller) : Controller :=
  match s.need? source port with
  | none => s
  | some x =>
    if s.occupied source x.attachment id then s else s.removed x.fqName

/-! ## Making and taking away -/

theorem perform_detach (vmi : VirtualMachineInterface) (s : Controller) :
    (Integrator.detach vmi).perform answer s = (.ok (), s.detached vmi) := by
  simp only [Integrator.detach, detached]
  cases vmi.portGroupBackRefs with
  | nil => rfl
  | cons ref rest =>
      have hread : (Plan.ask (.getPortGroup ref.uuid)).perform answer s =
          (.ok (Keyed.get? ref.uuid s.groups), s) := rfl
      simp only
      rw [Plan.perform_bind_ok hread]
      cases Keyed.get? ref.uuid s.groups <;> rfl

theorem perform_removeInterface (fqName : FqName) (s : Controller) :
    (Integrator.removeInterface fqName).perform answer s =
      (.ok (), s.removed fqName) := by
  have hread : (Plan.ask (.getVmi fqName)).perform answer s =
      (.ok (Keyed.get? fqName s.vmis), s) := rfl
  rw [Integrator.removeInterface, Plan.perform_bind_ok hread, removed]
  cases Keyed.get? fqName s.vmis with
  | none => rfl
  | some vmi =>
      simp only
      rw [Plan.perform_bind_ok (perform_detach vmi s)]
      rfl

theorem removed_inventory (fqName : FqName) (s : Controller) :
    (s.removed fqName).inventory = s.inventory := by
  have h := Plan.perform_invariant inventory answer_inventory
    (Integrator.removeInterface fqName) s
  rwa [perform_removeInterface] at h

theorem perform_remove_of_need {port : Neutron.Port} {x : Need}
    (hneed : s.need? source port = some x) :
    ((Integrator.enabled source).remove port).perform answer s =
      (.ok (), s.removed x.fqName) := by
  obtain ⟨ha, project, hfound, howner⟩ := need?_eq_some_iff.mp hneed
  rw [Integrator.remove, Plan.perform_bind_ok (answer_managed? source port s), ha]
  simp only
  rw [Plan.perform_bind_ok (perform_projectOf_of_some hfound), howner]
  exact perform_removeInterface x.fqName s

theorem perform_remove_of_unattached {port : Neutron.Port}
    (hnone : s.attachment? source port = none) :
    ((Integrator.enabled source).remove port).perform answer s = (.ok (), s) := by
  rw [Integrator.remove, Plan.perform_bind_ok (answer_managed? source port s),
    hnone]
  rfl

/-- Taking the interface of a port away leaves nothing of it behind, unless its
project is not known. -/
theorem perform_remove (source : LinkSource) (port : Neutron.Port)
    (s : Controller) :
    let plan := (Integrator.enabled source).remove port
    (s.attachment? source port = none ∧ plan.perform answer s = (.ok (), s)) ∨
    (∃ x, s.need? source port = some x ∧
      plan.perform answer s = (.ok (), s.removed x.fqName)) ∨
    (s.attachment? source port ≠ none ∧ s.projectOf? port = none ∧
      ∃ e, plan.perform answer s = (.error e, s)) := by
  intro plan
  have hplan : plan.perform answer s = _ :=
    Plan.perform_bind_ok (answer_managed? source port s)
  cases ha : s.attachment? source port with
  | none => exact Or.inl ⟨rfl, perform_remove_of_unattached ha⟩
  | some a =>
      refine Or.inr ?_
      rw [ha] at hplan
      rcases perform_projectOf port s with ⟨project, hfound, -⟩ | ⟨e, hnone, h⟩
      · have hneed : s.need? source port = some ⟨project.fqName, a⟩ := by
          simp [need?, ha, hfound]
        exact Or.inl ⟨_, hneed, perform_remove_of_need hneed⟩
      · exact Or.inr ⟨by simp, hnone, e, hplan.trans (Plan.perform_bind_error h)⟩

/-- An interface that the project has is not made again. -/
theorem perform_makeInterface_of_stored {a : Attachment} {project : Project}
    {old : VirtualMachineInterface}
    (hold : Keyed.get? (Need.fqName ⟨project.fqName, a⟩) s.vmis = some old)
    (source : LinkSource) (tag : UInt16) :
    (Integrator.makeInterface source a tag project).perform answer s =
      (.ok (), s) := by
  have hread : (Plan.ask (.getVmi (Need.fqName ⟨project.fqName, a⟩))).perform
      answer s = (.ok (some old), s) := by
    rw [← hold]
    rfl
  exact Plan.perform_bind_ok hread

/-- An interface that the project does not have is made if it can be. -/
theorem perform_makeInterface_of_fresh (source : LinkSource) {a : Attachment}
    {project : Project} {tag : UInt16} {core : Neutron.Network}
    (hfresh : Keyed.get? (Need.fqName ⟨project.fqName, a⟩) s.vmis = none)
    (hcore : Keyed.get? a.network s.coreNetworks = some core)
    (htag : core.vlanTag = some tag) :
    let plan := Integrator.makeInterface source a tag project
    (s.interfaceOf? source ⟨project.fqName, a⟩ = none ∧
      ∃ result, plan.perform answer s = (result, s)) ∨
    ∃ vmi, s.interfaceOf? source ⟨project.fqName, a⟩ = some vmi ∧
      plan.perform answer s = (.ok (), s.createVmi vmi) := by
  intro plan
  have hread : (Plan.ask (.getVmi (Need.fqName ⟨project.fqName, a⟩))).perform
      answer s = (.ok none, s) := by
    rw [← hfresh]
    rfl
  have hlook : (Plan.ask (.getVirtualNetwork a.network)).perform answer s =
      (.ok (Keyed.get? a.network s.networks), s) := rfl
  have hplan : plan.perform answer s = _ := Plan.perform_bind_ok hread
  simp only at hplan
  rw [Plan.perform_bind_ok hlook] at hplan
  cases hnetwork : Keyed.get? a.network s.networks with
  | none =>
      rw [hnetwork] at hplan
      refine Or.inl ⟨?_, .ok (), hplan⟩
      simp [interfaceOf?, hcore, hnetwork]
  | some network =>
      rw [hnetwork] at hplan
      simp only at hplan
      obtain ⟨result, hresult, -⟩ :=
        perform_ofHost_of_groups (s := s) rfl rfl source a.host
      cases result with
      | error e =>
          rw [Plan.perform_bind_error hresult] at hplan
          refine Or.inl ⟨?_, .error e, hplan⟩
          simp [interfaceOf?, hcore, hnetwork, hresult, Except.toOption]
      | ok profile =>
          rw [Plan.perform_bind_ok hresult] at hplan
          refine Or.inr ⟨_, ?_, hplan⟩
          exact interfaceOf?_eq_some_iff.mpr ⟨core, tag, network, profile, hcore,
            htag, hnetwork, by rw [hresult], rfl⟩

/-- Where the network has no tag, or is not known to Neutron, nothing can be made. -/
theorem interfaceOf?_of_untagged {x : Need}
    (huntagged : ∀ core, Keyed.get? x.attachment.network s.coreNetworks = some core →
      core.vlanTag = none) : s.interfaceOf? source x = none := by
  cases hcore : Keyed.get? x.attachment.network s.coreNetworks with
  | none => simp [interfaceOf?, hcore]
  | some core => simp [interfaceOf?, hcore, huntagged core hcore]

theorem met_of_interfaceOf?_eq_none {x : Need}
    (hnone : s.interfaceOf? source x = none) : s.met source x = s := by
  simp [met, hnone]

/-- A need is met where an interface of its name is stored. -/
theorem met_of_stored {x : Need} {old : VirtualMachineInterface}
    (hold : Keyed.get? x.fqName s.vmis = some old) : s.met source x = s := by
  cases hvmi : s.interfaceOf? source x with
  | none => exact met_of_interfaceOf?_eq_none hvmi
  | some vmi =>
      rw [met, hvmi]
      rw [← fqName_of_interfaceOf? hvmi] at hold
      exact createVmi_of_some hold

/-- Neutron tells of a network that it knows, and fails for any other. -/
theorem perform_getNetwork (id : String) (s : Controller) :
    (∃ core, Keyed.get? id s.coreNetworks = some core ∧
      (Plan.ask (.getNetwork id)).perform answer s = (.ok core, s)) ∨
    (∃ e, Keyed.get? id s.coreNetworks = none ∧
      (Plan.ask (.getNetwork id)).perform answer s = (.error e, s)) := by
  change (∃ core, _ ∧ answer (.getNetwork id) s = _) ∨
    (∃ e, _ ∧ answer (.getNetwork id) s = _)
  cases hcore : Keyed.get? id s.coreNetworks with
  | none =>
      exact Or.inr ⟨.corePlugin (.other ("network " ++ id ++ " not found")), rfl,
        by simp only [answer, hcore]⟩
  | some core => exact Or.inl ⟨core, rfl, by simp only [answer, hcore]⟩

/-- For a port that needs an interface on a tagged network, creating comes down
to making the interface. -/
theorem perform_create_of_tagged {port : Neutron.Port} {x : Need}
    {core : Neutron.Network} {tag : UInt16}
    (hneed : s.need? source port = some x)
    (hcore : Keyed.get? x.attachment.network s.coreNetworks = some core)
    (htag : core.vlanTag = some tag) :
    ∃ project : Project, project.fqName = x.owner ∧
      ((Integrator.enabled source).create port).perform answer s =
        (Integrator.makeInterface source x.attachment tag project).perform
          answer s := by
  obtain ⟨ha, project, hfound, howner⟩ := need?_eq_some_iff.mp hneed
  have hmanaged := answer_managed? source port s
  rw [ha] at hmanaged
  have hask : (Plan.ask (.getNetwork x.attachment.network)).perform answer s =
      (.ok core, s) := by
    rcases perform_getNetwork x.attachment.network s with
      ⟨other, hother, h⟩ | ⟨_, hnone, -⟩
    · rw [h, Option.some.inj (hcore.symm.trans hother)]
    · rw [hcore] at hnone
      cases hnone
  refine ⟨project, howner, ?_⟩
  rw [Integrator.create, Plan.perform_bind_ok hmanaged]
  simp only
  rw [Plan.perform_bind_ok hask, htag]
  exact Plan.perform_bind_ok (perform_projectOf_of_some hfound)

/-- For any other port, creating changes nothing. -/
theorem perform_create_of_untagged {port : Neutron.Port}
    (huntagged : ∀ x core, s.need? source port = some x →
      Keyed.get? x.attachment.network s.coreNetworks = some core →
      core.vlanTag = none) :
    ∃ result, ((Integrator.enabled source).create port).perform answer s =
      (result, s) := by
  have hmanaged := answer_managed? source port s
  rw [Integrator.create, Plan.perform_bind_ok hmanaged]
  cases ha : s.attachment? source port with
  | none => exact ⟨_, rfl⟩
  | some a =>
      simp only
      rcases perform_getNetwork a.network s with
        ⟨core, hcore, hask⟩ | ⟨e, -, hask⟩
      · rw [Plan.perform_bind_ok hask]
        cases htag : core.vlanTag with
        | none => exact ⟨_, rfl⟩
        | some tag =>
            simp only
            rcases perform_projectOf port s with
              ⟨project, hfound, -⟩ | ⟨e, -, hproject⟩
            · have hneed : s.need? source port = some ⟨project.fqName, a⟩ := by
                simp [need?, ha, hfound]
              rw [huntagged _ core hneed hcore] at htag
              cases htag
            · exact ⟨_, Plan.perform_bind_error hproject⟩
      · exact ⟨_, Plan.perform_bind_error hask⟩

/-- Creating for a port changes nothing, or adds the interface that it needs. -/
theorem perform_create (source : LinkSource) (port : Neutron.Port)
    (s : Controller) :
    let plan := (Integrator.enabled source).create port
    (s.arrived source port = s ∧ ∃ result, plan.perform answer s = (result, s)) ∨
    ∃ x vmi, s.need? source port = some x ∧
      Keyed.get? x.fqName s.vmis = none ∧ s.interfaceOf? source x = some vmi ∧
      plan.perform answer s = (.ok (), s.createVmi vmi) := by
  intro plan
  by_cases htagged : ∃ x core tag, s.need? source port = some x ∧
      Keyed.get? x.attachment.network s.coreNetworks = some core ∧
      core.vlanTag = some tag
  · obtain ⟨x, core, tag, hneed, hcore, htag⟩ := htagged
    have harrived : s.arrived source port = s.met source x := by
      simp [arrived, hneed]
    obtain ⟨project, howner, hplan⟩ := perform_create_of_tagged hneed hcore htag
    obtain ⟨_, a⟩ := x
    subst howner
    cases hvmi : Keyed.get? (Need.fqName ⟨project.fqName, a⟩) s.vmis with
    | some old =>
        exact Or.inl ⟨harrived.trans (met_of_stored hvmi), _,
          hplan.trans (perform_makeInterface_of_stored hvmi source tag)⟩
    | none =>
        rcases perform_makeInterface_of_fresh source hvmi hcore htag with
          ⟨hnone, result, hmade⟩ | ⟨vmi, hsome, hmade⟩
        · exact Or.inl ⟨harrived.trans (met_of_interfaceOf?_eq_none hnone), _,
            hplan.trans hmade⟩
        · exact Or.inr ⟨_, vmi, hneed, hvmi, hsome, hplan.trans hmade⟩
  · have huntagged : ∀ x core, s.need? source port = some x →
        Keyed.get? x.attachment.network s.coreNetworks = some core →
        core.vlanTag = none := by
      intro x core hneed hcore
      cases htag : core.vlanTag with
      | none => rfl
      | some tag => exact absurd ⟨x, core, tag, hneed, hcore, htag⟩ htagged
    refine Or.inl ⟨?_, perform_create_of_untagged huntagged⟩
    rw [arrived]
    cases hneed : s.need? source port with
    | none => rfl
    | some x =>
        exact met_of_interfaceOf?_eq_none
          (interfaceOf?_of_untagged fun core => huntagged x core hneed)

/-- Where the interface that a port needs is stored, creating it succeeds at
once. -/
theorem perform_create_of_stored {port : Neutron.Port} {x : Need}
    {vmi old : VirtualMachineInterface} (hneed : s.need? source port = some x)
    (hvmi : s.interfaceOf? source x = some vmi)
    (hold : Keyed.get? x.fqName s.vmis = some old) :
    ((Integrator.enabled source).create port).perform answer s = (.ok (), s) := by
  obtain ⟨core, tag, _, _, hcore, htag, -⟩ := interfaceOf?_eq_some_iff.mp hvmi
  obtain ⟨project, howner, hplan⟩ := perform_create_of_tagged hneed hcore htag
  obtain ⟨_, a⟩ := x
  subst howner
  exact hplan.trans (perform_makeInterface_of_stored hold source tag)

/-- Whatever it ends in, creating for a port leaves the controller as it is once
the port has come. -/
theorem perform_create_state (source : LinkSource) (port : Neutron.Port)
    (s : Controller) :
    (((Integrator.enabled source).create port).perform answer s).2 =
      s.arrived source port := by
  rcases perform_create source port s with
    ⟨hsame, result, hperform⟩ | ⟨x, vmi, hneed, -, hmade, hperform⟩
  · rw [hperform, hsame]
  · simp [hperform, arrived, hneed, met, hmade]

/-! ## Notifications -/

theorem attachment?_unbound (source : LinkSource) (id : String) (s : Controller) :
    s.attachment? source (.unbound id) = none := by
  simp [attachment?, Attachment.ofPort?, Neutron.Port.unbound]

/-- After a port was created. -/
theorem perform_created_state (source : LinkSource) (port : Neutron.Port)
    (s : Controller) :
    (((Integrator.enabled source).handle (.created port)).perform answer s).2 =
      s.arrived source port := by
  have hremove :=
    perform_remove_of_unattached (attachment?_unbound source port.id s)
  simp only [Integrator.handle, Integrator.sync, Integrator.isEnabled]
  by_cases hfields : port.bindingFields = (Neutron.Port.unbound port.id).bindingFields
  · simp only [hfields, Bool.not_true, Bool.false_eq_true, ↓reduceIte]
    exact perform_create_state source port s
  · simp only [hfields, Bool.not_true, Bool.false_eq_true, ↓reduceIte]
    rw [Plan.perform_bind_ok hremove]
    exact perform_create_state source port s

variable {port previous : Neutron.Port}

/-- The guard and the removal behind it, in a controller where both come to an
end: the port has gone when the one lets the other happen. -/
theorem perform_guard
    (hproject : s.attachment? source port ≠ none → s.projectOf? port ≠ none)
    (hnetwork : ∀ a, s.attachment? source port = some a → a.network ≠ "")
    (id : String) :
    ∃ needed t,
      ((Integrator.enabled source).neededByOther port id).perform answer s =
        (.ok needed, s) ∧
      ((Integrator.enabled source).remove port).perform answer s = (.ok (), t) ∧
      s.departed source port id = if needed then s else t := by
  have hneeded := answer_neededByOther source port id s
  rcases perform_remove source port s with
    ⟨ha, hremove⟩ | ⟨x, hneed, hremove⟩ | ⟨ha, hnone, -⟩
  · have hneed : s.need? source port = none := by simp [need?, ha]
    refine ⟨_, _, hneeded, hremove, ?_⟩
    simp [departed, hneed]
  · have ha := (need?_eq_some_iff.mp hneed).1
    refine ⟨_, _, hneeded, hremove, ?_⟩
    simp [departed, hneed, needed_eq_occupied ha (hnetwork _ ha) id]
  · exact absurd hnone (hproject ha)

/-- After a port was updated that is bound to what it was bound to. -/
theorem perform_rebound_state (source : LinkSource) (s : Controller)
    (hfields : port.bindingFields = previous.bindingFields) :
    (((Integrator.enabled source).handle (.updated port previous)).perform
      answer s).2 = s.arrived source port := by
  simp only [Integrator.handle, Integrator.sync, Integrator.isEnabled, hfields,
    Bool.not_true, Bool.false_eq_true, ↓reduceIte]
  exact perform_create_state source port s

/-- After a port was updated that is bound to something else: it has gone as it
was before it comes as it is. -/
theorem perform_moved_state
    (hproject : s.attachment? source previous ≠ none → s.projectOf? previous ≠ none)
    (hnetwork : ∀ a, s.attachment? source previous = some a → a.network ≠ "")
    (hfields : port.bindingFields ≠ previous.bindingFields) :
    (((Integrator.enabled source).handle (.updated port previous)).perform
        answer s).2 =
      (s.departed source previous port.id).arrived source port := by
  obtain ⟨needed, t, hneeded, hremove, hdeparted⟩ :=
    perform_guard hproject hnetwork port.id
  simp only [Integrator.handle, Integrator.sync, Integrator.isEnabled, hfields,
    Bool.not_true, Bool.false_eq_true, ↓reduceIte]
  rw [Plan.perform_bind_ok hneeded, hdeparted]
  cases needed with
  | true => exact perform_create_state source port s
  | false =>
      simp only [Bool.false_eq_true, ↓reduceIte]
      rw [Plan.perform_bind_ok hremove]
      exact perform_create_state source port t

/-- After a port was deleted. -/
theorem perform_deleted_state
    (hproject : s.attachment? source port ≠ none → s.projectOf? port ≠ none)
    (hnetwork : ∀ a, s.attachment? source port = some a → a.network ≠ "") :
    (((Integrator.enabled source).handle (.deleted port)).perform answer s).2 =
      s.departed source port port.id := by
  obtain ⟨needed, t, hneeded, hremove, hdeparted⟩ :=
    perform_guard hproject hnetwork port.id
  simp only [Integrator.handle, Integrator.isEnabled, Bool.not_true,
    Bool.false_eq_true, ↓reduceIte]
  rw [Plan.perform_bind_ok hneeded, hdeparted]
  cases needed with
  | true => rfl
  | false =>
      simp only [Bool.false_eq_true, ↓reduceIte]
      rw [hremove]

end Controller

end VlanBinding
