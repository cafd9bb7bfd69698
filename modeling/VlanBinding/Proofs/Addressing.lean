import VlanBinding.Proofs.Tenant

/-!
The key of an interface. Its name tells the project, the network and the host that it is for.
Main statement: names of interfaces are equal for equal bindings only, and whatever is looked up,
made or deleted for a port goes by the one name that its project and its attachment have.
-/

namespace VlanBinding.Integration

open VlanBinding.Fabric

/-- If the call is about an interface, then about the one of this name. -/
def Call.GoesBy (name : FqName) (c : Call) : Prop :=
  ∀ other, c.interfaceName? = some other → other = name

theorem Call.goesBy_of_none {c : Call} (hc : c.interfaceName? = none) (name : FqName) :
    c.GoesBy name := by
  intro other hother
  rw [hc] at hother
  cases hother

/-- No interface is asked about, made or deleted, or it is the one at the attachment of the port,
in the project that was found for it. -/
def KeepsTo (port : Neutron.Port) (log : List Exchange) : Prop :=
  (∀ x ∈ log, x.call.interfaceName? = none) ∨
    ∃ a project id, Attachment.ofPort? port = some a ∧
      ⟨.getProject id, .ok (some project)⟩ ∈ log ∧
      ∀ x ∈ log, x.call.GoesBy (project.fqName ++ [a.interfaceName])

theorem keepsTo_nil (port : Neutron.Port) : KeepsTo port [] := Or.inl fun x hx => by cases hx

namespace Integrator

variable {α σ : Type} {respond : Responder σ} {port : Neutron.Port} {s : σ}

/-- What is asked before is not about interfaces. -/
theorem keepsTo_bind {p : Plan α} {f : α → Plan Unit}
    (hp : p.Within fun c => c.interfaceName? = none)
    (hf : ∀ a, (p.run respond s).result = .ok a →
      KeepsTo port ((f a).run respond (p.run respond s).state).exchanges) :
    KeepsTo port ((p >>= f).run respond s).exchanges := by
  have hbefore : ∀ x ∈ (p.run respond s).exchanges, x.call.interfaceName? = none :=
    fun x hx => hp.of_mem_exchanges hx
  rcases p.exchanges_bind f s with ⟨e, -, hlog⟩ | ⟨a, hok, -, hlog⟩
  · rw [hlog]
    exact Or.inl hbefore
  · rw [hlog]
    rcases hf a hok with hnone | ⟨b, project, id, hb, hproject, hnames⟩
    · exact Or.inl (List.forall_mem_append.mpr ⟨hbefore, hnone⟩)
    · have hall := List.forall_mem_append.mpr
        ⟨fun x hx => Call.goesBy_of_none (hbefore x hx) _, hnames⟩
      exact Or.inr ⟨b, project, id, hb, List.mem_append_right _ hproject, hall⟩

/-- A project that was found was told by the controller. -/
theorem projectOf_told {project : Project}
    (hok : ((projectOf port).run respond s).result = .ok project) :
    ∃ id, ⟨.getProject id, .ok (some project)⟩ ∈ ((projectOf port).run respond s).exchanges := by
  rw [projectOf] at hok ⊢
  split at hok
  · cases hok
  · split at hok
    · cases hok
    · rename_i uuid _
      obtain ⟨found, hfound, hrest, hlog⟩ := Plan.run_bind_eq_ok hok
      rw [hlog]
      cases found with
      | none => cases hrest
      | some told =>
          obtain rfl : told = project := Except.ok.inj hrest
          have hanswer : (respond (.getProject uuid.render) s).1 = .ok (some told) := hfound
          refine ⟨uuid.render, List.mem_append_left _ ?_⟩
          rw [Plan.ask, Plan.run_call, hanswer]
          exact List.mem_cons_self

/-- Once the project is found, all that follows is about its interface. -/
theorem keepsTo_projectOf {a : Attachment} (ha : Attachment.ofPort? port = some a)
    {f : Project → Plan Unit}
    (hf : ∀ project, (f project).Within (Call.Serves (project.fqName ++ [a.interfaceName]))) :
    KeepsTo port ((projectOf port >>= f).run respond s).exchanges := by
  have hlookup : (projectOf port).Within fun c => c.interfaceName? = none :=
    (Controller.projectOf_strict_of (fun _ => rfl) port).within
  have hbefore : ∀ x ∈ ((projectOf port).run respond s).exchanges, x.call.interfaceName? = none :=
    fun x hx => hlookup.of_mem_exchanges hx
  rcases (projectOf port).exchanges_bind f s with ⟨e, -, hlog⟩ | ⟨project, hok, -, hlog⟩
  · rw [hlog]
    exact Or.inl hbefore
  · obtain ⟨id, htold⟩ := projectOf_told hok
    have hnames : ∀ x ∈ ((f project).run respond ((projectOf port).run respond s).state).exchanges,
        x.call.GoesBy (project.fqName ++ [a.interfaceName]) :=
      fun x hx => ((hf project).of_mem_exchanges hx).1
    have hall := List.forall_mem_append.mpr
      ⟨fun x hx => Call.goesBy_of_none (hbefore x hx) _, hnames⟩
    rw [hlog]
    exact Or.inr ⟨a, project, id, ha, List.mem_append_left _ htold, hall⟩

/-- What follows once the host of the port is found to be managed, or not. -/
theorem keepsTo_managed? {source : LinkSource} {f : Option Attachment → Plan Unit}
    (hnone : f none = pure ())
    (hsome : ∀ a t, Attachment.ofPort? port = some a →
      KeepsTo port ((f (some a)).run respond t).exchanges) :
    KeepsTo port ((managed? source port >>= f).run respond s).exchanges := by
  apply keepsTo_bind (managed?_within (fun _ => rfl) source port)
  intro found hfound
  cases found with
  | none =>
      rw [hnone]
      exact keepsTo_nil port
  | some a => exact hsome a _ (ofPort?_of_managed? hfound)

theorem keepsTo_create (i : Integrator) (port : Neutron.Port) (s : σ) :
    KeepsTo port ((i.create port).run respond s).exchanges := by
  cases i with
  | disabled => exact keepsTo_nil port
  | enabled source =>
      apply keepsTo_managed? rfl
      intro a t ha
      apply keepsTo_bind ((Plan.within_ask _).mpr rfl)
      intro network _
      cases Neutron.Network.vlanTag network with
      | none => exact keepsTo_nil port
      | some tag =>
          exact keepsTo_projectOf ha fun project => makeInterface_serves source a tag project

theorem keepsTo_remove (i : Integrator) (port : Neutron.Port) (s : σ) :
    KeepsTo port ((i.remove port).run respond s).exchanges := by
  cases i with
  | disabled => exact keepsTo_nil port
  | enabled source =>
      apply keepsTo_managed? rfl
      intro a t ha
      exact keepsTo_projectOf ha fun project => removeInterface_serves _

/-- The name of an interface tells its project, its network and its host, if the ids of networks
have no underscore. A new interface has this name, and it is the one name by which an interface is
looked up, made or deleted for a port. -/
theorem interface_name_tells_binding (owner owner' : FqName) {network network' : String}
    (hnetwork : '_' ∉ network.toList) (hnetwork' : '_' ∉ network'.toList) (host host' : String) :
    (owner ++ [Attachment.interfaceName ⟨network, host⟩] =
        owner' ++ [Attachment.interfaceName ⟨network', host'⟩] ↔
      owner = owner' ∧ network = network' ∧ host = host') ∧
    (∀ (a : Attachment) (vn : VirtualNetwork) (properties : InterfaceProperties)
      (bindings : KeyValuePairs) (project : Project),
      (VirtualMachineInterface.make a.interfaceName vn properties bindings project).fqName =
        project.fqName ++ [a.interfaceName]) ∧
    ∀ {σ : Type} (respond : Responder σ) (i : Integrator) (port : Neutron.Port) (s : σ),
      ∀ plan ∈ [i.create port, i.remove port], KeepsTo port (plan.run respond s).exchanges := by
  refine ⟨⟨fun hname => ?_, ?_⟩, fun a vn properties bindings project => rfl, ?_⟩
  · have hneed : (⟨owner, ⟨network, host⟩⟩ : Need) = ⟨owner', ⟨network', host'⟩⟩ :=
      Need.fqName_injective hnetwork hnetwork' hname
    simpa using hneed
  · rintro ⟨rfl, rfl, rfl⟩
    rfl
  · intro σ respond i port s plan hplan
    simp only [List.mem_cons, List.not_mem_nil, or_false] at hplan
    rcases hplan with rfl | rfl
    · exact keepsTo_create i port s
    · exact keepsTo_remove i port s

/-- An interface is made and deleted by its one name, which is not that of the like-named hosts. -/
theorem made_and_deleted_by_one_name :
    let owner := ["default-domain", "admin"]
    let made := ((enabled Lab.source).create Lab.adminPort).run Controller.answer Lab.start
    let gone := ((enabled Lab.source).remove Lab.adminPort).run Controller.answer made.state
    '_' ∉ "net-1".toList ∧
      owner ++ [Attachment.interfaceName ⟨"net-1", "compute1"⟩] ≠
        owner ++ [Attachment.interfaceName ⟨"net-1", "1_compute_compute1"⟩] ∧
      (KeepsTo Lab.adminPort made.exchanges ∧ KeepsTo Lab.adminPort gone.exchanges) ∧
      made.exchanges.filterMap (·.call.interfaceName?) = [Lab.adminName, Lab.adminName] ∧
      gone.exchanges.filterMap (·.call.interfaceName?) = [Lab.adminName, Lab.adminName] := by
  intro owner made gone
  have hnetwork : '_' ∉ "net-1".toList := by decide
  obtain ⟨hnames, -, hkeeps⟩ := interface_name_tells_binding owner owner hnetwork hnetwork
    "compute1" "1_compute_compute1"
  refine ⟨hnetwork, fun hname => ?_, ⟨?_, ?_⟩, by decide +kernel, by decide +kernel⟩
  · exact absurd (hnames.mp hname).2.2 (by decide)
  · exact hkeeps Controller.answer _ Lab.adminPort Lab.start _ List.mem_cons_self
  · exact hkeeps Controller.answer _ Lab.adminPort made.state _
      (List.mem_cons_of_mem _ List.mem_cons_self)

/-- Where a network has an underscore, the separator may be found in two places. -/
example : Attachment.interfaceName ⟨"a_compute_b", "c"⟩ =
    Attachment.interfaceName ⟨"a", "b_compute_c"⟩ := by decide

end Integrator

end VlanBinding.Integration
