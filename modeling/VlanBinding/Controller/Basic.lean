import VlanBinding.Integration.Plan
import VlanBinding.Keyed

/-!
The fabric controller and Neutron in memory: objects under their keys, and calls answered from
them. Calls can be made to fail. Main statement: a call that only reads changes nothing.
-/

namespace VlanBinding

open VlanBinding.Fabric VlanBinding.Integration

structure Controller where
  /-- by uuid -/
  projects : Keyed String Project := []
  /-- by uuid -/
  networks : Keyed String VirtualNetwork := []
  /-- by host name -/
  nodes : Keyed String Node := []
  /-- by uuid -/
  ports : Keyed String Port := []
  /-- by uuid -/
  groups : Keyed String VirtualPortGroup := []
  /-- by name -/
  vmis : Keyed FqName VirtualMachineInterface := []
  /-- by switch and name -/
  interfaces : Keyed (String × String) PhysicalInterface := []
  /-- names of fabrics by switch -/
  fabrics : Keyed String String := []
  /-- by id -/
  coreNetworks : Keyed String Neutron.Network := []
  corePorts : List Neutron.Port := []
deriving Repr, Inhabited

namespace Controller

/-- An interface as it is stored: with a uuid made from its name. -/
def stored (vmi : VirtualMachineInterface) : VirtualMachineInterface :=
  { vmi with uuid := some ("uuid-" ++ ":".intercalate vmi.fqName) }

/-- Stores an interface, unless there is one of its name. -/
def createVmi (vmi : VirtualMachineInterface) (s : Controller) : Controller :=
  if Keyed.contains vmi.fqName s.vmis then s
  else { s with vmis := Keyed.put vmi.fqName (stored vmi) s.vmis }

def deleteVmi (fqName : FqName) (s : Controller) : Controller :=
  { s with vmis := Keyed.erase fqName s.vmis }

/-- Replaces the port group of the same uuid, if there is one. -/
def updateGroup (group : VirtualPortGroup) (s : Controller) : Controller :=
  if Keyed.contains group.uuid s.groups then
    { s with groups := Keyed.put group.uuid group s.groups }
  else s

/-- The ports of a network that are bound to a host. -/
def portsOf (network host : String) (s : Controller) : List Neutron.Port :=
  s.corePorts.filter fun p => p.networkId = some network ∧ p.hostId = some host

/-- Answers a call. -/
def answer : Responder Controller
  | .getProject id, s => (.ok (Keyed.get? id s.projects), s)
  | .getVirtualNetwork id, s => (.ok (Keyed.get? id s.networks), s)
  | .getVmi fqName, s => (.ok (Keyed.get? fqName s.vmis), s)
  | .createVmi vmi, s => (.ok (), s.createVmi vmi)
  | .deleteVmi fqName, s => (.ok (), s.deleteVmi fqName)
  | .getPortGroup uuid, s => (.ok (Keyed.get? uuid s.groups), s)
  | .updatePortGroup group, s => (.ok (), s.updateGroup group)
  | .readInterface switch port, s => (.ok (Keyed.get? (switch, port) s.interfaces), s)
  | .readFabricName switch, s => (.ok (Keyed.get? switch s.fabrics), s)
  | .readNode hostname, s => (.ok (Keyed.get? hostname s.nodes), s)
  | .getPort uuid, s => (.ok (Keyed.get? uuid s.ports), s)
  | .getNetwork id, s =>
    match Keyed.get? id s.coreNetworks with
    | some network => (.ok network, s)
    | none => (.error (.corePlugin (.other ("network " ++ id ++ " not found"))), s)
  | .getPorts network host, s => (.ok (s.portsOf network host), s)

/-- A call that only reads changes nothing. -/
theorem answer_state_of_read (c : Call) (s : Controller) (h : c.isWrite = false) :
    (answer c s).2 = s := by
  cases c with
  | createVmi | deleteVmi | updatePortGroup => simp [Call.isWrite] at h
  | getNetwork id => simp only [answer]; split <;> rfl
  | _ => rfl

end Controller

/-! ## Failures -/

/-- Texts of failures, by the operation that fails or under the name of all operations. -/
abbrev Failures := Keyed String String

namespace Failures

/-- The name that stands for every operation. -/
def every : String := "*"

/-- Why a call fails, if it does. The text of the operation goes before that of all. -/
def text? (failures : Failures) (c : Call) : Option String :=
  (Keyed.get? c.name failures).or (Keyed.get? every failures)

/-- The operation that fails, with a chain of reasons from the outermost on. -/
def arm (operation : String) (chain : List String) (failures : Failures) : Failures :=
  Keyed.put operation (": ".intercalate chain) failures

end Failures

namespace Controller

/-- Answers a call, unless it is made to fail. -/
def respond (failures : Failures) : Responder Controller := fun c s =>
  match failures.text? c with
  | some text => (.error (c.failure (.other text)), s)
  | none => answer c s

theorem respond_state_of_read (failures : Failures) (c : Call) (s : Controller)
    (h : c.isWrite = false) : (respond failures c s).2 = s := by
  unfold respond
  split
  · rfl
  · exact answer_state_of_read c s h

/-! ## What is stored -/

/-- The interfaces and port groups as they are written, sorted by name and by uuid. -/
def snapshot (s : Controller) : Json :=
  let vmis := s.vmis.mergeSort fun a b => !FqName.precedes b.1 a.1
  let groups := s.groups.mergeSort fun a b => decide (a.1 ≤ b.1)
  .obj [("vmis", .arr (vmis.map fun e => IsObject.toJson e.2)),
    ("vpgs", .arr (groups.map fun e => IsObject.toJson e.2))]

end Controller

end VlanBinding
