import VlanBinding.Integration.Integrator

/-!
What Neutron tells of its ports, and how each notification is handled. An interface is kept as long
as another port needs it.
-/

namespace VlanBinding.Integration

inductive Notification where
  | created (port : Neutron.Port)
  | updated (port previous : Neutron.Port)
  | deleted (port : Neutron.Port)
deriving DecidableEq, Repr

namespace Integrator

/-- Is any of the ports one whose machine is on a managed host? -/
def anyTagged (i : Integrator) : List Neutron.Port → Plan Bool
  | [] => pure false
  | port :: rest => do
    if ← i.isTagged port then pure true else anyTagged i rest

/-- Does a port other than the one of this id need the same interface? -/
def neededByOther (i : Integrator) (port : Neutron.Port) (id : String) : Plan Bool :=
  match port.networkId, port.hostId with
  | some network, some host =>
    if network = "" ∨ host = "" then pure false
    else do
      let ports ← Plan.ask (.getPorts network host)
      anyTagged i (List.filter (fun other : Neutron.Port => other.id ≠ id) ports)
  | _, _ => pure false

/-- Handles a notification. -/
def handle (i : Integrator) : Notification → Plan Unit
  | .created port => i.sync port (.unbound port.id)
  | .updated port previous => do
    if !i.isEnabled then pure ()
    else if port.bindingFields = previous.bindingFields then i.sync port previous
    else if ← i.neededByOther previous port.id then i.create port
    else i.sync port previous
  | .deleted port => do
    if !i.isEnabled then pure ()
    else if ← i.neededByOther port port.id then pure ()
    else i.remove port

end Integrator

end VlanBinding.Integration
