import VlanBinding.Rest.Error
import VlanBinding.Text.Quoted
import VlanBinding.Topology.Validation

/-!
Why a port cannot be bound. Some of it is wrong with the data, which whoever keeps them can mend;
the rest is a service that fails.
-/

namespace VlanBinding.Integration

open VlanBinding.Text

/-- Why the controller's data about a node give no links. -/
inductive NodeFault where
  | portUnreadable (uuid : String)
  | malformedReference (target : List String)
  | unnamedPort (uuid : String)
  | noLink
  | noPorts
deriving DecidableEq, Repr

def NodeFault.message : NodeFault → String
  | portUnreadable uuid => "port " ++ uuid ++ " cannot be read"
  | malformedReference target => "malformed physical interface reference " ++ showTexts target
  | unnamedPort uuid => "port " ++ uuid ++ " has an empty fq_name"
  | noLink => "no port connected to a physical interface"
  | noPorts => "node has no ports"

/-- What is wrong with a port. -/
inductive PortFault where
  | noTenant
  | malformedTenant (tenant : String)
  /-- the notification speaks of another port -/
  | otherPort (id : String)
deriving DecidableEq, Repr

def PortFault.message (w : Wording) : PortFault → String
  | noTenant => "no tenant"
  | malformedTenant tenant => "tenant id " ++ tenant ++ ": " ++ w.uuid
  | otherPort id => "body is for port " ++ id

/-- Why a service failed. -/
inductive Cause where
  | rest (error : Rest.Error)
  | other (text : String)
deriving DecidableEq, Repr

def Cause.message (w : Wording) : Cause → String
  | rest error => error.message w
  | other text => text

inductive Error where
  | topology (error : Topology.DocumentError)
  | noTopologyFile
  | nodeNotFound (host : String)
  | invalidNode (host : String) (fault : NodeFault)
  | fabricNotFound (switch : String)
  | interfaceNotFound (switch port : String)
  | projectNotFound (id : String)
  | invalidPort (id : String) (fault : PortFault)
  | fabric (cause : Cause)
  | corePlugin (cause : Cause)
deriving DecidableEq, Repr

namespace Error

def message (w : Wording) : Error → String
  | topology error => error.message w
  | noTopologyFile => "no topology file configured"
  | nodeNotFound host => "node " ++ host ++ " not found in topology"
  | invalidNode host fault => "node " ++ host ++ " has no usable physical links: " ++ fault.message
  | fabricNotFound switch => "cannot find fabric name for switch " ++ switch
  | interfaceNotFound switch port =>
      "physical interface " ++ port ++ " on switch " ++ switch ++ " not found"
  | projectNotFound id => "project " ++ id ++ " not found in fabric controller"
  | invalidPort id fault => "port " ++ id ++ " cannot be bound: " ++ fault.message w
  | fabric cause => "fabric controller request failed: " ++ cause.message w
  | corePlugin cause => "core plugin request failed: " ++ cause.message w

/-- Is it the data that are wrong, rather than a service that fails? -/
def isPrecondition : Error → Bool
  | invalidNode .. | fabricNotFound _ | interfaceNotFound .. | projectNotFound _
  | invalidPort .. => true
  | _ => false

end Error

end VlanBinding.Integration
