import VlanBinding.Proofs.Integrator
import VlanBinding.Proofs.Profile

/-!
Which calls the parts of a notification's handling make, whatever they are answered: whether the
interface is needed by another port is found out from Neutron's list and from nodes, only taking an
interface away removes anything, and only making one asks for the virtual network. Errors are passed
on by all of it but the question whether a host is managed.
-/

namespace VlanBinding.Integration

open VlanBinding.Fabric

namespace Call

/-- Does the call look a node up by its host? -/
def looksUpNode : Call → Bool
  | readNode _ => true
  | _ => false

/-- Does the call list Neutron's ports? -/
def listsPorts : Call → Bool
  | getPorts _ _ => true
  | _ => false

/-- Does the call ask for a virtual network? -/
def asksNetwork : Call → Bool
  | getVirtualNetwork _ => true
  | _ => false

/-- Does the call take an interface away, or out of a port group? -/
def isRemoval : Call → Bool
  | deleteVmi _ | updatePortGroup _ => true
  | _ => false

/-- Calls that taking an interface away may make. -/
def Removes (c : Call) : Prop := c.asksNetwork = false ∧ c.listsPorts = false

/-- Calls that making an interface may make. -/
def Makes (c : Call) : Prop := c.isRemoval = false ∧ c.listsPorts = false

theorem makes_of_asksLinks {c : Call} (hc : c.asksLinks) : c.Makes := by
  cases c <;> first | exact ⟨rfl, rfl⟩ | exact hc.elim

end Call

theorem LinkSource.contains_within (host : String) (source : LinkSource) :
    (source.contains host).Within fun c => c = .readNode host := by
  cases source with
  | document index => trivial
  | controller =>
      refine ⟨rfl, fun answer => ?_⟩
      cases answer <;> trivial

namespace Integrator

variable {allowed : Call → Prop}

theorem managed?_within (hnode : ∀ host, allowed (.readNode host)) (source : LinkSource)
    (port : Neutron.Port) : (managed? source port).Within allowed := by
  rw [managed?]
  cases Attachment.ofPort? port with
  | none => trivial
  | some a =>
      refine Plan.Within.bind ((source.contains_within a.host).mono ?_) fun known => ?_
      · rintro c rfl
        exact hnode a.host
      · cases known <;> trivial

theorem isTagged_within (hnode : ∀ host, allowed (.readNode host)) (i : Integrator)
    (port : Neutron.Port) : (i.isTagged port).Within allowed := by
  cases i with
  | disabled => trivial
  | enabled source =>
      exact (managed?_within hnode source port).bind fun a => trivial

theorem anyTagged_within (hnode : ∀ host, allowed (.readNode host)) (i : Integrator)
    (ports : List Neutron.Port) : (i.anyTagged ports).Within allowed := by
  induction ports with
  | nil => trivial
  | cons port rest ih =>
      refine (isTagged_within hnode i port).bind fun tagged => ?_
      cases tagged with
      | true => trivial
      | false => exact ih

/-- Either nobody can need the interface, or Neutron's list tells. -/
theorem neededByOther_cases (i : Integrator) (port : Neutron.Port) (id : String) :
    i.neededByOther port id = pure false ∨
      ∃ network host, i.neededByOther port id = (do
        let ports ← Plan.ask (.getPorts network host)
        i.anyTagged (List.filter (fun other : Neutron.Port => other.id ≠ id) ports)) := by
  simp only [neededByOther]
  split
  · rename_i network host _ _
    split
    · exact Or.inl rfl
    · exact Or.inr ⟨network, host, rfl⟩
  · exact Or.inl rfl

theorem neededByOther_within (hnode : ∀ host, allowed (.readNode host))
    (hports : ∀ network host, allowed (.getPorts network host)) (i : Integrator)
    (port : Neutron.Port) (id : String) : (i.neededByOther port id).Within allowed := by
  rcases neededByOther_cases i port id with hplan | ⟨network, host, hplan⟩
  · rw [hplan]
    trivial
  · rw [hplan]
    exact Plan.Within.bind ((Plan.within_ask _).mpr (hports network host))
      fun ports => anyTagged_within hnode i _

theorem makeInterface_strict (source : LinkSource) (a : Attachment) (tag : UInt16)
    (project : Project) : (makeInterface source a tag project).Strict Call.Makes := by
  refine Plan.Strict.ask_bind ⟨rfl, rfl⟩ fun found => ?_
  cases found with
  | some vmi => trivial
  | none =>
      refine Plan.Strict.ask_bind ⟨rfl, rfl⟩ fun found => ?_
      cases found with
      | none => trivial
      | some network =>
          have hprofile := (Profile.ofHost_strict source a.host).mono
            fun c hc => Call.makes_of_asksLinks hc
          exact hprofile.bind fun profile => (Plan.strict_ask _).mpr ⟨rfl, rfl⟩

/-- What follows once the host of a port is found to be managed. -/
theorem create_strict (source : LinkSource) (port : Neutron.Port) (a : Attachment) :
    (do
      let network ← Plan.ask (.getNetwork a.network)
      match Neutron.Network.vlanTag network with
      | none => pure ()
      | some tag => makeInterface source a tag (← projectOf port) :
      Plan Unit).Strict Call.Makes := by
  refine Plan.Strict.ask_bind ⟨rfl, rfl⟩ fun network => ?_
  cases Neutron.Network.vlanTag network with
  | none => trivial
  | some tag =>
      have hproject : (projectOf port).Strict Call.Makes :=
        Controller.projectOf_strict_of (fun _ => ⟨rfl, rfl⟩) port
      exact hproject.bind fun project => makeInterface_strict source a tag project

theorem create_within (i : Integrator) (port : Neutron.Port) :
    (i.create port).Within Call.Makes := by
  cases i with
  | disabled => trivial
  | enabled source =>
      refine (managed?_within (fun _ => ⟨rfl, rfl⟩) source port).bind fun found => ?_
      cases found with
      | none => trivial
      | some a => exact (create_strict source port a).within

theorem detach_strict (vmi : VirtualMachineInterface) :
    (detach vmi).Strict Call.Removes := by
  rw [detach]
  cases vmi.portGroupBackRefs with
  | nil => trivial
  | cons ref rest =>
      refine Plan.Strict.ask_bind ⟨rfl, rfl⟩ fun found => ?_
      cases found with
      | none => trivial
      | some group => exact (Plan.strict_ask _).mpr ⟨rfl, rfl⟩

theorem removeInterface_strict (fqName : FqName) :
    (removeInterface fqName).Strict Call.Removes := by
  refine Plan.Strict.ask_bind ⟨rfl, rfl⟩ fun found => ?_
  cases found with
  | none => trivial
  | some vmi =>
      exact (detach_strict vmi).bind fun _ => (Plan.strict_ask _).mpr ⟨rfl, rfl⟩

/-- What follows once the host of a port that goes is found to be managed. -/
theorem remove_strict (port : Neutron.Port) (a : Attachment) :
    (do
      let project ← projectOf port
      removeInterface (project.fqName ++ [a.interfaceName]) :
      Plan Unit).Strict Call.Removes := by
  have hproject : (projectOf port).Strict Call.Removes :=
    Controller.projectOf_strict_of (fun _ => ⟨rfl, rfl⟩) port
  exact hproject.bind fun project => removeInterface_strict _

theorem remove_within (i : Integrator) (port : Neutron.Port) :
    (i.remove port).Within Call.Removes := by
  cases i with
  | disabled => trivial
  | enabled source =>
      refine (managed?_within (fun _ => ⟨rfl, rfl⟩) source port).bind fun found => ?_
      cases found with
      | none => trivial
      | some a => exact (remove_strict port a).within

end Integrator

end VlanBinding.Integration
