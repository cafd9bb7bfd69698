import VlanBinding.Proofs.Footprint

/-!
Ports on networks without a VLAN tag, which have no interface and get none. A port that comes is
passed over before its project is looked for. For a port that goes the interface is looked for
whatever its network is, and for that its project has to be known. Main statement: such ports are
handled without a write, and in failure only where the project of a port that goes is not found.
-/

namespace VlanBinding

open VlanBinding.Fabric VlanBinding.Integration

namespace Integration.Plan

variable {α β : Type} {p : Plan α} {f : α → Plan β} {s : Controller}

/-- Run against the controller, the plan comes to the result and makes no write. -/
structure Reads (p : Plan α) (s : Controller) (result : Except Error α) : Prop where
  perform : p.perform Controller.answer s = (result, s)
  quiet : ∀ x ∈ (p.run Controller.answer s).exchanges, x.call.isWrite = false

theorem Reads.of_within (hp : p.Within fun c => c.isWrite = false) (s : Controller) :
    p.Reads s (p.perform Controller.answer s).1 where
  perform := Prod.ext rfl (hp.perform_state Controller.answer_state_of_read s)
  quiet := fun _ hx => hp.of_mem_exchanges hx

/-- One question. -/
theorem Reads.ask {c : Call} (hc : c.isWrite = false) (s : Controller) :
    (Plan.ask c).Reads s (Controller.answer c s).1 :=
  Reads.of_within ((within_ask c).mpr hc) s

theorem Reads.bind_ok {a : α} {result : Except Error β} (hp : p.Reads s (.ok a))
    (hf : (f a).Reads s result) : (p >>= f).Reads s result := by
  have hresult : (p.run Controller.answer s).result = .ok a := congrArg Prod.fst hp.perform
  have hstate : (p.run Controller.answer s).state = s := congrArg Prod.snd hp.perform
  constructor
  · rw [perform_bind_ok hp.perform, hf.perform]
  · intro x hx
    rcases exchanges_bind p f s with ⟨e, herror, -⟩ | ⟨b, hok, -, hexchanges⟩
    · rw [hresult] at herror
      cases herror
    · rw [hresult] at hok
      cases hok
      rw [hexchanges, hstate] at hx
      rcases List.mem_append.mp hx with hfirst | hsecond
      · exact hp.quiet x hfirst
      · exact hf.quiet x hsecond

theorem Reads.bind_error {e : Error} (hp : p.Reads s (.error e)) :
    (p >>= f).Reads s (.error e) := by
  have hresult : (p.run Controller.answer s).result = .error e := congrArg Prod.fst hp.perform
  constructor
  · exact perform_bind_error hp.perform
  · intro x hx
    rcases exchanges_bind p f s with ⟨e', -, hexchanges⟩ | ⟨b, hok, -⟩
    · rw [hexchanges] at hx
      exact hp.quiet x hx
    · rw [hresult] at hok
      cases hok

theorem reads_pure (a : α) (s : Controller) : (pure a : Plan α).Reads s (.ok a) :=
  ⟨rfl, fun _ hx => absurd hx List.not_mem_nil⟩

end Integration.Plan

namespace Controller

variable {source : LinkSource} {s : Controller} {port : Neutron.Port}

/-- Neutron knows the network of the port, and it has no tag. -/
def Untagged (port : Neutron.Port) (s : Controller) : Prop :=
  ∃ network core, port.networkId = some network ∧
    Keyed.get? network s.coreNetworks = some core ∧ core.vlanTag = none

/-- The fabric has no interface that is the port's. -/
def Unserved (source : LinkSource) (port : Neutron.Port) (s : Controller) : Prop :=
  ∀ x, s.need? source port = some x → Keyed.get? x.fqName s.vmis = none

/-- The port that a notification lets go: its host is managed, and no other port that Neutron
lists needs its interface. -/
def released? (source : LinkSource) (n : Notification) (s : Controller) :
    Option Neutron.Port :=
  n.goes?.filter fun port =>
    (s.attachment? source port).isSome && !s.needed source port n.port.id

theorem managed?_reads (source : LinkSource) (port : Neutron.Port) (s : Controller) :
    (Integrator.managed? source port).Reads s (.ok (s.attachment? source port)) := by
  have hwithin : (Integrator.managed? source port).Within fun c => c.isWrite = false :=
    Integrator.managed?_within (fun _ => rfl) source port
  have hreads := Plan.Reads.of_within hwithin s
  rwa [answer_managed?] at hreads

theorem neededByOther_reads (source : LinkSource) (port : Neutron.Port) (id : String)
    (s : Controller) :
    ((Integrator.enabled source).neededByOther port id).Reads s
      (.ok (s.needed source port id)) := by
  have hwithin : ((Integrator.enabled source).neededByOther port id).Within
      fun c => c.isWrite = false :=
    Integrator.neededByOther_within (fun _ => rfl) (fun _ _ => rfl) (.enabled source) port id
  have hreads := Plan.Reads.of_within hwithin s
  rwa [answer_neededByOther] at hreads

theorem projectOf_reads (port : Neutron.Port) (s : Controller) :
    (Integrator.projectOf port).Reads s
      ((Integrator.projectOf port).perform answer s).1 :=
  Plan.Reads.of_within
    ((projectOf_strict port).within.mono fun _ hc => isWrite_of_asksInventory hc) s

/-- A port that comes is passed over. -/
theorem create_reads (huntagged : s.Untagged port) :
    ((Integrator.enabled source).create port).Reads s (.ok ()) := by
  apply Plan.Reads.bind_ok (managed?_reads source port s)
  cases ha : s.attachment? source port with
  | none => exact Plan.reads_pure () s
  | some a =>
      obtain ⟨network, core, hnetwork, hcore, htag⟩ := huntagged
      obtain ⟨hfield, -⟩ := Attachment.fields_of_ofPort? (ofPort?_of_attachment? ha)
      obtain rfl : network = a.network := Option.some.inj (hnetwork.symm.trans hfield)
      have hread : (Plan.ask (.getNetwork a.network)).Reads s (.ok core) := by
        have hask := Plan.Reads.ask (c := .getNetwork a.network) rfl s
        simpa only [answer, hcore] using hask
      apply Plan.Reads.bind_ok hread
      rw [htag]
      exact Plan.reads_pure () s

/-- There is nothing to take away for a port that goes, but its project has to be known if its
host is managed. -/
theorem remove_reads (hunserved : s.Unserved source port) :
    ((Integrator.enabled source).remove port).Reads s
      (if (s.attachment? source port).isSome
        then ((Integrator.projectOf port).perform answer s).1.map fun _ => ()
        else .ok ()) := by
  apply Plan.Reads.bind_ok (managed?_reads source port s)
  cases ha : s.attachment? source port with
  | none => exact Plan.reads_pure () s
  | some a =>
      have hproject := projectOf_reads port s
      rcases perform_projectOf port s with ⟨project, hfound, hperform⟩ | ⟨e, -, hperform⟩
      · rw [hperform] at hproject ⊢
        apply Plan.Reads.bind_ok hproject
        have hnone : Keyed.get? (project.fqName ++ [a.interfaceName]) s.vmis = none :=
          hunserved ⟨project.fqName, a⟩ (by simp [need?, ha, hfound])
        have hread : (Plan.ask (.getVmi (project.fqName ++ [a.interfaceName]))).Reads s
            (.ok none) := by
          rw [← hnone]
          exact Plan.Reads.ask rfl s
        apply Plan.Reads.bind_ok hread
        exact Plan.reads_pure () s
      · rw [hperform] at hproject ⊢
        exact Plan.Reads.bind_error hproject

/-- Where a port goes, its project has to be known if it is let go. -/
theorem guarded_reads (hunserved : s.Unserved source port) (id : String)
    {kept gone : Plan Unit} (hkept : kept.Reads s (.ok ()))
    (hgone : ∀ result : Except Error Unit,
      ((Integrator.enabled source).remove port).Reads s result → gone.Reads s result) :
    ((Integrator.enabled source).neededByOther port id >>= fun needed =>
      if needed = true then kept else gone).Reads s
      (if (s.attachment? source port).isSome && !s.needed source port id
        then ((Integrator.projectOf port).perform answer s).1.map fun _ => ()
        else .ok ()) := by
  apply Plan.Reads.bind_ok (neededByOther_reads source port id s)
  cases s.needed source port id with
  | true => simpa using hkept
  | false => simpa using hgone _ (remove_reads hunserved)

/-- Replacing an interface that is not there by one that cannot be made. -/
theorem sync_reads {previous : Neutron.Port} (huntagged : s.Untagged port)
    (hfields : port.bindingFields ≠ previous.bindingFields) {result : Except Error Unit}
    (hremove : ((Integrator.enabled source).remove previous).Reads s result) :
    ((Integrator.enabled source).sync port previous).Reads s result := by
  simp only [Integrator.sync, Integrator.isEnabled, hfields, Bool.not_true, Bool.false_eq_true,
    ↓reduceIte]
  cases result with
  | ok _ => exact hremove.bind_ok (create_reads huntagged)
  | error e => exact hremove.bind_error

/-- What handling a notification comes to, where no port has a tag or an interface. -/
def verdict (source : LinkSource) (n : Notification) (s : Controller) : Except Error Unit :=
  match s.released? source n with
  | none => .ok ()
  | some port => ((Integrator.projectOf port).run answer s).result.map fun _ => ()

theorem verdict_of_goes? {n : Notification} (hgoes : n.goes? = some port) :
    s.verdict source n =
      if (s.attachment? source port).isSome && !s.needed source port n.port.id
        then ((Integrator.projectOf port).perform answer s).1.map fun _ => ()
        else .ok () := by
  rw [verdict, released?, hgoes, Option.filter_some]
  cases (s.attachment? source port).isSome && !s.needed source port n.port.id <;> rfl

theorem handle_reads (source : LinkSource) {n : Notification}
    (huntagged : ∀ port ∈ n.ports, s.Untagged port)
    (hunserved : ∀ port ∈ n.ports, s.Unserved source port) :
    ((Integrator.enabled source).handle n).Reads s (s.verdict source n) := by
  cases n with
  | created port =>
      rw [Integrator.handle_created]
      exact create_reads (huntagged port (by simp [Notification.ports]))
  | updated port previous =>
      have hport := huntagged port (by simp [Notification.ports])
      have hprevious := hunserved previous (by simp [Notification.ports])
      by_cases hfields : port.bindingFields = previous.bindingFields
      · have hstays : s.verdict source (.updated port previous) = .ok () := by
          simp [verdict, released?, Notification.goes?, hfields]
        rw [hstays]
        simp only [Integrator.handle, Integrator.sync, Integrator.isEnabled, hfields,
          Bool.not_true, Bool.false_eq_true, ↓reduceIte]
        exact create_reads hport
      · have hgoes : (Notification.updated port previous).goes? = some previous := by
          simp [Notification.goes?, hfields]
        rw [verdict_of_goes? hgoes]
        simp only [Integrator.handle, Integrator.isEnabled, hfields, Bool.not_true,
          Bool.false_eq_true, ↓reduceIte]
        exact guarded_reads hprevious port.id (create_reads hport)
          fun result => sync_reads hport hfields
  | deleted port =>
      have hport := hunserved port (by simp [Notification.ports])
      rw [verdict_of_goes? rfl]
      exact guarded_reads hport port.id (Plan.reads_pure () s) fun result => id

/-- A notification about ports without a tag and without an interface is handled without a write.
It succeeds, unless it lets a port go whose project is not found. -/
theorem untagged_handled_without_write (source : LinkSource) (n : Notification) (s : Controller)
    (huntagged : ∀ port ∈ n.ports, s.Untagged port)
    (hunserved : ∀ port ∈ n.ports, s.Unserved source port) :
    let run := ((Integrator.enabled source).handle n).run answer s
    (∀ x ∈ run.exchanges, x.call.isWrite = false) ∧ run.state = s ∧
      run.result =
        match s.released? source n with
        | none => .ok ()
        | some port => ((Integrator.projectOf port).run answer s).result.map fun _ => () := by
  intro run
  have hreads := handle_reads source huntagged hunserved
  exact ⟨hreads.quiet, congrArg Prod.snd hreads.perform, congrArg Prod.fst hreads.perform⟩

end Controller

/-! ## A network that is no VLAN -/

namespace Lab

/-- The fabric with a flat network beside the tagged one. -/
def flat : Controller :=
  { start with
    coreNetworks := ("net-2", { id := "net-2", networkType := some "flat" }) ::
      start.coreNetworks }

/-- A port of a machine on the host, bound to the flat network. -/
def flatPort (tenant : Option String) : Neutron.Port :=
  { adminPort with networkId := some "net-2", tenantId := tenant }

theorem flatPort_untagged (tenant : Option String) : flat.Untagged (flatPort tenant) :=
  ⟨"net-2", _, rfl, rfl, rfl⟩

theorem flatPort_unserved (tenant : Option String) :
    flat.Unserved source (flatPort tenant) :=
  fun _ _ => rfl

end Lab

namespace Controller

/-- A port of a known project leaves the flat network without a trace. -/
theorem flat_port_let_go :
    let n := Notification.deleted (Lab.flatPort Lab.adminPort.tenantId)
    let run := ((Integrator.enabled Lab.source).handle n).run answer Lab.flat
    Lab.flat.released? Lab.source n = some (Lab.flatPort Lab.adminPort.tenantId) ∧
      (∀ x ∈ run.exchanges, x.call.isWrite = false) ∧ run.state = Lab.flat ∧
      run.result = .ok () := by
  intro n run
  have huntagged : ∀ port ∈ n.ports, Lab.flat.Untagged port := by
    intro port hport
    obtain rfl := List.mem_singleton.mp hport
    exact Lab.flatPort_untagged _
  have hunserved : ∀ port ∈ n.ports, Lab.flat.Unserved Lab.source port := by
    intro port hport
    obtain rfl := List.mem_singleton.mp hport
    exact Lab.flatPort_unserved _
  obtain ⟨hquiet, hstate, hresult⟩ :=
    untagged_handled_without_write Lab.source n Lab.flat huntagged hunserved
  exact ⟨by decide +kernel, hquiet, hstate, hresult.trans (by decide +kernel)⟩

/-- A port without a tenant may come to the flat network, but it may not leave it. -/
theorem flat_port_without_tenant_refused :
    ¬ ∀ (source : LinkSource) (n : Notification) (s : Controller),
      (∀ port ∈ n.ports, s.Untagged port) → (∀ port ∈ n.ports, s.Unserved source port) →
      (((Integrator.enabled source).handle n).run answer s).result = .ok () := by
  intro hclaim
  have hok := hclaim Lab.source (.deleted (Lab.flatPort none)) Lab.flat
    (by
      intro port hport
      obtain rfl := List.mem_singleton.mp hport
      exact Lab.flatPort_untagged none)
    (by
      intro port hport
      obtain rfl := List.mem_singleton.mp hport
      exact Lab.flatPort_unserved none)
  have hrefused : (((Integrator.enabled Lab.source).handle
      (.deleted (Lab.flatPort none))).run answer Lab.flat).result =
      .error (.invalidPort "port-1" .noTenant) := by decide +kernel
  rw [hrefused] at hok
  cases hok

end Controller

end VlanBinding
