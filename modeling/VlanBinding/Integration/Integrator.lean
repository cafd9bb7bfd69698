import VlanBinding.Integration.Attachment
import VlanBinding.Integration.Binding

/-!
Keeps the interfaces on the controller in step with the ports: makes the interface that a port
needs, takes away the one that it no longer needs.
-/

namespace VlanBinding.Integration

open VlanBinding.Fabric

/-- The integration: switched off, or with a source of links. -/
inductive Integrator where
  | disabled
  | enabled (source : LinkSource)
deriving Repr

namespace Integrator

/-- The integration that settings ask for. `topology` is the topology file, if one is set. -/
def start (on : Bool) (topology : Option File) : Except Error Integrator :=
  if !on then .ok disabled
  else
    match topology with
    | none => .ok (enabled .controller)
    | some file => (LinkSource.load (some file)).map fun index => enabled (.document index)

def isEnabled : Integrator → Bool
  | disabled => false
  | enabled _ => true

def source? : Integrator → Option LinkSource
  | disabled => none
  | enabled source => some source

/-- The project that owns a port. -/
def projectOf (port : Neutron.Port) : Plan Project :=
  match port.tenant with
  | none => Plan.fail (.invalidPort port.id .noTenant)
  | some tenant =>
    match Uuid.parse? tenant with
    | none => Plan.fail (.invalidPort port.id (.malformedTenant tenant))
    | some uuid => do
      match ← Plan.ask (.getProject uuid.render) with
      | none => Plan.fail (.projectNotFound uuid.render)
      | some project => pure project

/-- The attachment of a port, if its host is managed. -/
def managed? (source : LinkSource) (port : Neutron.Port) : Plan (Option Attachment) :=
  match Attachment.ofPort? port with
  | none => pure none
  | some a => do
    if ← source.contains a.host then pure (some a) else pure none

/-- Is the port one whose machine is on a managed host? -/
def isTagged (port : Neutron.Port) : Integrator → Plan Bool
  | disabled => pure false
  | enabled source => do pure (← managed? source port).isSome

/-- Makes the interface of an attachment, unless the project has it. -/
def makeInterface (source : LinkSource) (a : Attachment) (tag : UInt16) (project : Project) :
    Plan Unit := do
  match ← Plan.ask (.getVmi (project.fqName ++ [a.interfaceName])) with
  | some _ => pure ()
  | none =>
    match ← Plan.ask (.getVirtualNetwork a.network) with
    | none => pure ()
    | some network =>
      let profile ← Profile.ofHost source a.host
      Plan.ask (.createVmi (.make a.interfaceName network ⟨some tag⟩ profile.pairs project))

/-- Makes the interface that a port needs, if it needs one. -/
def create (port : Neutron.Port) : Integrator → Plan Unit
  | disabled => pure ()
  | enabled source => do
    match ← managed? source port with
    | none => pure ()
    | some a =>
      let network ← Plan.ask (.getNetwork a.network)
      match Neutron.Network.vlanTag network with
      | none => pure ()
      | some tag => makeInterface source a tag (← projectOf port)

/-- Takes an interface out of the first port group that it is known to be in. -/
def detach (vmi : VirtualMachineInterface) : Plan Unit :=
  match vmi.portGroupBackRefs with
  | [] => pure ()
  | ref :: _ => do
    match ← Plan.ask (.getPortGroup ref.uuid) with
    | none => pure ()
    | some group => Plan.ask (.updatePortGroup (group.detach vmi))

/-- Detaches and deletes an interface, if there is one of this name. -/
def removeInterface (fqName : FqName) : Plan Unit := do
  match ← Plan.ask (.getVmi fqName) with
  | none => pure ()
  | some vmi =>
    detach vmi
    Plan.ask (.deleteVmi fqName)

/-- Takes away the interface of a port, whoever else may need it. -/
def remove (port : Neutron.Port) : Integrator → Plan Unit
  | disabled => pure ()
  | enabled source => do
    match ← managed? source port with
    | none => pure ()
    | some a =>
      let project ← projectOf port
      removeInterface (project.fqName ++ [a.interfaceName])

/-- Replaces the interface of a port as it was by the one that it needs now. -/
def sync (port previous : Neutron.Port) (i : Integrator) : Plan Unit :=
  if !i.isEnabled then pure ()
  else if port.bindingFields = previous.bindingFields then i.create port
  else do
    i.remove previous
    i.create port

end Integrator

end VlanBinding.Integration
