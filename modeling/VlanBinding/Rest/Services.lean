import VlanBinding.Integration.Plan
import VlanBinding.Rest.FabricClient
import VlanBinding.Rest.NeutronClient

/-!
Calls answered over REST. What a call asks for may be there already, or be gone already; then
there is nothing left to do and the call succeeds.
-/

namespace VlanBinding.Rest

open VlanBinding.Fabric VlanBinding.Integration

/-- Something that fails because it is done already. -/
def unlessDone (isDone : Error → Bool) (action : Action Unit) : Action Unit :=
  tryCatch action fun e => if isDone e then pure () else throw e

namespace FabricClient

/-- The ancestor of all switches. -/
def globalConfig : String := "default-global-system-config"

def switchName (switch : String) : FqName := [globalConfig, switch]

def createVmi (c : FabricClient) (vmi : VirtualMachineInterface) : Action Unit :=
  unlessDone Error.isConflict do
    let _ ← c.create vmi

def deleteVmi (c : FabricClient) (fqName : FqName) : Action Unit :=
  unlessDone Error.isNotFound (c.deleteByName .virtualMachineInterface fqName)

def updateGroup (c : FabricClient) (group : VirtualPortGroup) : Action Unit :=
  unlessDone Error.isNotFound (c.update group)

/-- The name of the first fabric that a switch belongs to. -/
def fabricName (c : FabricClient) (switch : String) : Action (Option String) := do
  let router ← c.readByName PhysicalRouter (switchName switch)
  pure (router.bind fun router => router.fabricRefs.head?.bind Reference.name)

/-- The node of exactly this host name, whatever else the controller lists. -/
def nodeOf (c : FabricClient) (hostname : String) : Action (Option Node) := do
  let nodes ← c.list Node "node_hostname" hostname
  pure (nodes.find? fun node => node.hostname == some hostname)

end FabricClient

/-- The clients of both services. -/
structure Services where
  fabric : FabricClient
  neutron : NeutronClient
deriving Repr

namespace Services

/-- The clients that settings describe; both share one Keystone session. -/
def ofSettings (s : Settings) (certificates : String → CertificateFile) : Services where
  fabric :=
    { baseUrl := s.apiServer.baseUrl
      credentials := .ofSettings s.apiServer.authToken s.keystone
      certificates := s.apiServer.caFile.map certificates }
  neutron :=
    { url := s.neutron.url
      credentials := .ofSettings s.neutron.authToken s.keystone }

/-- The requests that a call makes. -/
def perform (c : Services) : (call : Call) → Action call.Answer
  | .getProject id => c.fabric.read Project id
  | .getVirtualNetwork id => c.fabric.read VirtualNetwork id
  | .getVmi fqName => c.fabric.readByName VirtualMachineInterface fqName
  | .createVmi vmi => c.fabric.createVmi vmi
  | .deleteVmi fqName => c.fabric.deleteVmi fqName
  | .getPortGroup uuid => c.fabric.read VirtualPortGroup uuid
  | .updatePortGroup group => c.fabric.updateGroup group
  | .readInterface switch port =>
      c.fabric.readByName PhysicalInterface (FabricClient.switchName switch ++ [port])
  | .readFabricName switch => c.fabric.fabricName switch
  | .readNode hostname => c.fabric.nodeOf hostname
  | .getPort uuid => c.fabric.read Port uuid
  | .getNetwork id => c.neutron.network id
  | .getPorts network host => c.neutron.ports network host

/-- Answers a call over REST. -/
def respond (c : Services) : Responder Session := fun call s =>
  let (result, s) := (c.perform call).run.run s
  (result.mapError fun e => call.failure (.rest e), s)

end Services

end VlanBinding.Rest
