import VlanBinding.Neutron.Port
import VlanBinding.Uuid

/-!
What a port attaches: a virtual machine on a host to a network. All machines of one network on one
host share one interface.
-/

namespace VlanBinding.Integration

/-- A network and a host with a virtual machine on it. -/
structure Attachment where
  network : String
  host : String
deriving DecidableEq, Repr

namespace Attachment

/-- Devices of these owners are virtual machines. -/
def computeOwner : String := "compute:"

/-- The attachment that a port makes; a port that is not fully bound, or not bound to a virtual
machine, makes none. -/
def ofPort? (port : Neutron.Port) : Option Attachment :=
  match port.hostId, port.deviceId, port.deviceOwner, port.networkId with
  | some host, some device, some owner, some network =>
      if host ≠ "" ∧ device ≠ "" ∧ computeOwner.isPrefixOf owner then some ⟨network, host⟩
      else none
  | _, _, _, _ => none

/-- The own name of the shared interface. -/
def interfaceName (a : Attachment) : String :=
  "_vlan_tag_for_vn_" ++ a.network ++ "_compute_" ++ a.host

end Attachment

end VlanBinding.Integration
