import VlanBinding.Fabric.Object
import VlanBinding.Integration.Error
import VlanBinding.Neutron.Body

/-!
What binding a port asks of the fabric controller and of Neutron, and plans: sequences of such
calls in which each call may depend on the answers before it. A plan does nothing by itself. It is
run against anything that answers calls, and the run keeps every exchange.

Main statements: plans form a lawful monad, and running a sequence of two plans runs one after the
other.
-/

namespace VlanBinding.Integration

open VlanBinding.Fabric

/-- A single question or request. -/
inductive Call where
  | getProject (id : String)
  | getVirtualNetwork (id : String)
  | getVmi (fqName : FqName)
  | createVmi (vmi : VirtualMachineInterface)
  | deleteVmi (fqName : FqName)
  | getPortGroup (uuid : String)
  | updatePortGroup (group : VirtualPortGroup)
  | readInterface (switch port : String)
  | readFabricName (switch : String)
  | readNode (hostname : String)
  | getPort (uuid : String)
  | getNetwork (id : String)
  | getPorts (network host : String)
deriving Repr

/-- What a call is answered with, unless it fails. -/
abbrev Call.Answer : Call → Type
  | getProject _ => Option Project
  | getVirtualNetwork _ => Option VirtualNetwork
  | getVmi _ => Option VirtualMachineInterface
  | createVmi _ => Unit
  | deleteVmi _ => Unit
  | getPortGroup _ => Option VirtualPortGroup
  | updatePortGroup _ => Unit
  | readInterface _ _ => Option PhysicalInterface
  | readFabricName _ => Option String
  | readNode _ => Option Node
  | getPort _ => Option Port
  | getNetwork _ => Neutron.Network
  | getPorts _ _ => List Neutron.Port

/-- The name of the operation that a call asks for. -/
def Call.name : Call → String
  | getProject _ => "get_project"
  | getVirtualNetwork _ => "get_virtual_network"
  | getVmi _ => "get_virtual_machine_interface"
  | createVmi _ => "create_virtual_machine_interface"
  | deleteVmi _ => "delete_virtual_machine_interface"
  | getPortGroup _ => "get_virtual_port_group"
  | updatePortGroup _ => "update_virtual_port_group"
  | readInterface _ _ => "read_pi_from_switch"
  | readFabricName _ => "read_fabric_name_from_switch"
  | readNode _ => "read_node_by_hostname"
  | getPort _ => "get_port"
  | getNetwork _ => "get_network"
  | getPorts _ _ => "get_ports"

/-- What an operation is asked about. -/
def Call.arguments : Call → List Json
  | getProject id | getVirtualNetwork id | getNetwork id => [.str id]
  | getVmi fqName | deleteVmi fqName => [.strings fqName]
  | createVmi vmi => [IsObject.toJson vmi]
  | updatePortGroup group => [IsObject.toJson group]
  | getPortGroup uuid | getPort uuid => [.str uuid]
  | readInterface switch port => [.str switch, .str port]
  | readFabricName switch => [.str switch]
  | readNode hostname => [.str hostname]
  | getPorts network host => [.str network, .str host]

/-- Does the call go to Neutron, rather than to the fabric controller? -/
def Call.isCore : Call → Bool
  | getNetwork _ | getPorts _ _ => true
  | _ => false

/-- Does the call change anything? -/
def Call.isWrite : Call → Bool
  | createVmi _ | deleteVmi _ | updatePortGroup _ => true
  | _ => false

/-- The error of a call that its service did not answer. -/
def Call.failure (c : Call) (cause : Cause) : Error :=
  if c.isCore then .corePlugin cause else .fabric cause

/-- Calls to make, ending in a value or an error. -/
inductive Plan (α : Type) where
  | done (result : Except Error α)
  | call (c : Call) (next : Except Error c.Answer → Plan α)

namespace Plan

variable {α β γ σ : Type}

/-- Goes on with the value of a plan; an error ends both. -/
def bind : Plan α → (α → Plan β) → Plan β
  | done (.ok a), f => f a
  | done (.error e), _ => done (.error e)
  | call c next, f => call c fun answer => (next answer).bind f

instance : Monad Plan where
  pure a := done (.ok a)
  bind := bind

def fail (e : Error) : Plan α := done (.error e)

/-- Makes one call; if it fails, so does the plan. -/
def ask (c : Call) : Plan c.Answer := call c done

/-- Never fails: an error becomes part of the value. -/
def attempt : Plan α → Plan (Except Error α)
  | done result => done (.ok result)
  | call c next => call c fun answer => (next answer).attempt

def ofExcept (result : Except Error α) : Plan α := done result

@[simp] theorem bind_call (c : Call) (next : Except Error c.Answer → Plan α) (f : α → Plan β) :
    (call c next).bind f = call c fun answer => (next answer).bind f := rfl

theorem bind_pure_self (p : Plan α) : p.bind (fun a => done (.ok a)) = p := by
  induction p with
  | done r => cases r <;> rfl
  | call c next ih => simp [ih]

theorem bind_bind (p : Plan α) (f : α → Plan β) (g : β → Plan γ) :
    (p.bind f).bind g = p.bind fun a => (f a).bind g := by
  induction p with
  | done r => cases r <;> rfl
  | call c next ih => simp [ih]

instance : LawfulMonad Plan :=
  LawfulMonad.mk' Plan (fun p => bind_pure_self p) (fun _ _ => rfl)
    (fun p f g => bind_bind p f g)

end Plan

/-! ## Running -/

/-- A call that was made, and how it was answered. -/
structure Exchange where
  call : Call
  answer : Except Error call.Answer

/-- Did the service fail to answer? -/
def Exchange.failed (x : Exchange) : Bool :=
  match x.answer with
  | .ok _ => false
  | .error _ => true

/-- Whatever answers calls, and may change as it does. -/
abbrev Responder (σ : Type) := (c : Call) → σ → Except Error c.Answer × σ

/-- How a run of a plan went. -/
structure Outcome (α σ : Type) where
  result : Except Error α
  /-- in the order in which they were made -/
  exchanges : List Exchange
  state : σ

namespace Plan

variable {α β σ : Type}

def run (respond : Responder σ) : Plan α → σ → Outcome α σ
  | done result, s => ⟨result, [], s⟩
  | call c next, s =>
    let (answer, s) := respond c s
    let rest := (next answer).run respond s
    ⟨rest.result, ⟨c, answer⟩ :: rest.exchanges, rest.state⟩

@[simp] theorem run_done (respond : Responder σ) (r : Except Error α) (s : σ) :
    (done r).run respond s = ⟨r, [], s⟩ := rfl

theorem run_call (respond : Responder σ) (c : Call) (next : Except Error c.Answer → Plan α)
    (s : σ) :
    (call c next).run respond s =
      let after := (next (respond c s).1).run respond (respond c s).2
      ⟨after.result, ⟨c, (respond c s).1⟩ :: after.exchanges, after.state⟩ := rfl

/-- A sequence runs one plan after the other, and stops at the first error. -/
theorem run_bind (respond : Responder σ) (p : Plan α) (f : α → Plan β) (s : σ) :
    (p.bind f).run respond s =
      let first := p.run respond s
      match first.result with
      | .ok a =>
        let second := (f a).run respond first.state
        ⟨second.result, first.exchanges ++ second.exchanges, second.state⟩
      | .error e => ⟨.error e, first.exchanges, first.state⟩ := by
  induction p generalizing s with
  | done r => cases r <;> rfl
  | call c next ih =>
    rw [bind_call, run_call, ih, run_call]
    generalize (next (respond c s).1).run respond (respond c s).2 = first
    cases h : first.result <;> simp [h]

end Plan

end VlanBinding.Integration
