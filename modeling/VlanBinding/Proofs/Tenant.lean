import VlanBinding.Proofs.Failing
import VlanBinding.Proofs.Spelling

/-!
Tenants and how they are spelt. Main statement: ports that differ only in the spelling of their
tenant are handled by the same calls, about one project and one interface, so that what is made for
one spelling is taken away for another; and a tenant that spells nothing is refused before anything
is written.
-/

namespace VlanBinding

open VlanBinding.Fabric VlanBinding.Integration

namespace Neutron.Port

/-- The tenant of the port spells the identifier. -/
def BelongsTo (port : Port) (u : Uuid) : Prop :=
  ∃ text, port.tenant = some text ∧ Uuid.Spells text u

/-- What is wrong with the tenant of the port: there is none, or it spells no identifier. -/
inductive Misowned (port : Port) : PortFault → Prop
  | absent (h : port.tenant = none) : Misowned port .noTenant
  | malformed {text : String} (h : port.tenant = some text)
      (hspells : ∀ u, ¬ Uuid.Spells text u) : Misowned port (.malformedTenant text)

end Neutron.Port

namespace Integration

namespace Call

/-- The interface that a call asks about, makes or takes away. -/
def interfaceName? : Call → Option FqName
  | getVmi fqName | deleteVmi fqName => some fqName
  | createVmi vmi => some vmi.fqName
  | _ => none

/-- The call looks up no project but the one under the identifier. -/
def LooksUp (u : Uuid) (c : Call) : Prop :=
  ∀ id, c = .getProject id → id = String.ofList (Uuid.hyphenate u.plain)

/-- The call is about no interface but the one of this name, and about no project. -/
def Serves (name : FqName) (c : Call) : Prop :=
  (∀ other, c.interfaceName? = some other → other = name) ∧ ∀ id, c ≠ .getProject id

theorem serves_of_name {c : Call} {name : FqName} (hc : c.interfaceName? = some name) :
    c.Serves name := by
  refine ⟨fun other hother => Option.some.inj (hother.symm.trans hc), ?_⟩
  rintro id rfl
  cases hc

theorem serves_of_none {c : Call} (name : FqName) (hc : c.interfaceName? = none)
    (hproject : ∀ id, c ≠ .getProject id) : c.Serves name := by
  refine ⟨fun other hother => ?_, hproject⟩
  rw [hc] at hother
  cases hother

theorem serves_of_asksLinks (name : FqName) {c : Call} (hc : c.asksLinks) : c.Serves name := by
  cases c <;> first | exact hc.elim | exact serves_of_none name rfl (fun _ h => by cases h)

theorem Serves.looksUp {name : FqName} {c : Call} (hc : c.Serves name) (u : Uuid) :
    c.LooksUp u :=
  fun id h => absurd h (hc.2 id)

end Call

/-- What holds of the exchanges of both parts of a sequence holds of all its exchanges. -/
theorem Plan.forall_mem_exchanges_bind {α β σ : Type} {respond : Responder σ}
    {holds : Exchange → Prop} {p : Plan α} {f : α → Plan β} {s : σ}
    (hp : ∀ x ∈ (p.run respond s).exchanges, holds x)
    (hf : ∀ a, (p.run respond s).result = .ok a →
      ∀ x ∈ ((f a).run respond (p.run respond s).state).exchanges, holds x) :
    ∀ x ∈ ((p >>= f).run respond s).exchanges, holds x := by
  intro x hx
  rcases exchanges_bind p f s with ⟨e, -, hlog⟩ | ⟨a, hok, -, hlog⟩
  · rw [hlog] at hx
    exact hp x hx
  · rw [hlog] at hx
    rcases List.mem_append.mp hx with hx | hx
    · exact hp x hx
    · exact hf a hok x hx

namespace Integrator

variable {p q : Neutron.Port} {u : Uuid}

/-! ## The same calls -/

/-- The project that is known under an identifier. -/
def projectUnder (u : Uuid) : Plan Project := do
  match ← Plan.ask (.getProject u.render) with
  | none => Plan.fail (.projectNotFound u.render)
  | some project => pure project

theorem projectOf_of_belongsTo (h : p.BelongsTo u) : projectOf p = projectUnder u := by
  obtain ⟨text, htenant, hspells⟩ := h
  simp only [projectOf, htenant, Uuid.parse?_eq_some_iff.mpr hspells]
  rfl

theorem projectOf_of_misowned {fault : PortFault} (h : p.Misowned fault) :
    projectOf p = Plan.fail (.invalidPort p.id fault) := by
  cases h with
  | absent h => simp only [projectOf, h]
  | malformed h hspells => simp only [projectOf, h, Uuid.parse?_eq_none_iff.mpr hspells]

section

variable (hfields : p.bindingFields = q.bindingFields) (hp : p.BelongsTo u) (hq : q.BelongsTo u)
include hfields hp hq

theorem create_congr (source : LinkSource) :
    (enabled source).create p = (enabled source).create q := by
  rw [create, create, managed?, managed?, Attachment.ofPort?_congr hfields,
    projectOf_of_belongsTo hp, projectOf_of_belongsTo hq]

theorem remove_congr (source : LinkSource) :
    (enabled source).remove p = (enabled source).remove q := by
  rw [remove, remove, managed?, managed?, Attachment.ofPort?_congr hfields,
    projectOf_of_belongsTo hp, projectOf_of_belongsTo hq]

end

/-! ## What is looked up -/

theorem projectUnder_looksUp (u : Uuid) : (projectUnder u).Within (Call.LooksUp u) := by
  have hask : Call.LooksUp u (.getProject u.render) := by
    intro id h
    rw [← Call.getProject.inj h]
    exact u.render_eq
  refine Plan.Within.bind ((Plan.within_ask _).mpr hask) fun found => ?_
  cases found <;> trivial

theorem makeInterface_serves (source : LinkSource) (a : Attachment) (tag : UInt16)
    (project : Project) :
    (makeInterface source a tag project).Within
      (Call.Serves (project.fqName ++ [a.interfaceName])) := by
  refine Plan.Within.bind ((Plan.within_ask _).mpr (Call.serves_of_name rfl)) fun found => ?_
  cases found with
  | some vmi => trivial
  | none =>
      have hnetwork := Call.serves_of_none (c := .getVirtualNetwork a.network)
        (project.fqName ++ [a.interfaceName]) rfl (fun _ h => by cases h)
      refine Plan.Within.bind ((Plan.within_ask _).mpr hnetwork) fun found => ?_
      cases found with
      | none => trivial
      | some network =>
          have hprofile := (Profile.ofHost_strict source a.host).within.mono
            fun c hc => Call.serves_of_asksLinks (project.fqName ++ [a.interfaceName]) hc
          exact hprofile.bind fun profile =>
            (Plan.within_ask _).mpr (Call.serves_of_name rfl)

theorem detach_serves (name : FqName) (vmi : VirtualMachineInterface) :
    (detach vmi).Within (Call.Serves name) := by
  rw [detach]
  cases vmi.portGroupBackRefs with
  | nil => trivial
  | cons ref rest =>
      have hread := Call.serves_of_none (c := .getPortGroup ref.uuid) name rfl
        (fun _ h => by cases h)
      refine Plan.Within.bind ((Plan.within_ask _).mpr hread) fun found => ?_
      cases found with
      | none => trivial
      | some group =>
          exact (Plan.within_ask _).mpr (Call.serves_of_none name rfl fun _ h => by cases h)

theorem removeInterface_serves (name : FqName) :
    (removeInterface name).Within (Call.Serves name) := by
  refine Plan.Within.bind ((Plan.within_ask _).mpr (Call.serves_of_name rfl)) fun found => ?_
  cases found with
  | none => trivial
  | some vmi =>
      exact (detach_serves name vmi).bind fun _ =>
        (Plan.within_ask _).mpr (Call.serves_of_name rfl)

theorem managed?_looksUp (u : Uuid) (source : LinkSource) (port : Neutron.Port) :
    (managed? source port).Within (Call.LooksUp u) :=
  managed?_within (fun _ _ h => by cases h) source port

theorem create_looksUp (source : LinkSource) (hp : p.BelongsTo u) :
    ((enabled source).create p).Within (Call.LooksUp u) := by
  refine (managed?_looksUp u source p).bind fun found => ?_
  cases found with
  | none => trivial
  | some a =>
      refine Plan.Within.bind ((Plan.within_ask _).mpr fun _ h => by cases h) fun network => ?_
      cases Neutron.Network.vlanTag network with
      | none => trivial
      | some tag =>
          simp only
          rw [projectOf_of_belongsTo hp]
          exact (projectUnder_looksUp u).bind fun project =>
            (makeInterface_serves source a tag project).mono fun c hc => hc.looksUp u

theorem remove_looksUp (source : LinkSource) (hp : p.BelongsTo u) :
    ((enabled source).remove p).Within (Call.LooksUp u) := by
  refine (managed?_looksUp u source p).bind fun found => ?_
  cases found with
  | none => trivial
  | some a =>
      simp only
      rw [projectOf_of_belongsTo hp]
      exact (projectUnder_looksUp u).bind fun project =>
        (removeInterface_serves _).mono fun c hc => hc.looksUp u

end Integrator

end Integration

namespace Controller

variable {σ : Type} {respond : Responder σ} {memory : σ → Controller} {source : LinkSource}
variable {p q : Neutron.Port} {u : Uuid} {m s t : Controller}

/-! ## The interface that is asked for -/

/-- The name of the interface that the port shares in the project of the identifier. -/
def Denotes (m : Controller) (u : Uuid) (port : Neutron.Port) (name : FqName) : Prop :=
  ∃ project network host,
    Keyed.get? (String.ofList (Uuid.hyphenate u.plain)) m.projects = some project ∧
    port.networkId = some network ∧ port.hostId = some host ∧
    name = project.fqName ++ ["_vlan_tag_for_vn_" ++ network ++ "_compute_" ++ host]

/-- No call of the run is about any other interface. -/
def Addresses (m : Controller) (u : Uuid) (port : Neutron.Port) (log : List Exchange) : Prop :=
  ∀ x ∈ log, ∀ name, x.call.interfaceName? = some name → m.Denotes u port name

theorem addresses_of_within {α : Type} {plan : Plan α}
    (hplan : plan.Within fun c => c.interfaceName? = none) (s : σ) :
    m.Addresses u p (plan.run respond s).exchanges := by
  intro x hx name hname
  have hnone : x.call.interfaceName? = none := hplan.of_mem_exchanges hx
  rw [hnone] at hname
  cases hname

theorem perform_projectUnder_eq_ok {project : Project}
    (hproject : ((Integrator.projectUnder u).perform answer m).1 = .ok project) :
    Keyed.get? (String.ofList (Uuid.hyphenate u.plain)) m.projects = some project := by
  have hread : (Plan.ask (.getProject u.render)).perform answer m =
      (.ok (Keyed.get? u.render m.projects), m) := rfl
  rw [Integrator.projectUnder, Plan.perform_bind_ok hread] at hproject
  rw [← u.render_eq]
  cases hfound : Keyed.get? u.render m.projects with
  | none =>
      rw [hfound] at hproject
      cases hproject
  | some found =>
      rw [hfound] at hproject
      exact congrArg some (Except.ok.inj hproject)

namespace AnswersFrom

variable (h : AnswersFrom respond memory)
include h

/-- Once the project is found, all that follows is about its interface. -/
theorem addresses_projectUnder {a : Attachment} (ha : Attachment.ofPort? p = some a)
    {f : Project → Plan Unit}
    (hf : ∀ project, (f project).Within (Call.Serves (project.fqName ++ [a.interfaceName])))
    (s : σ) :
    (memory s).Addresses u p ((Integrator.projectUnder u >>= f).run respond s).exchanges := by
  obtain ⟨hnetwork, hhost, -⟩ := Attachment.fields_of_ofPort? ha
  have hreads : (Integrator.projectUnder u).Strict fun c => c.isWrite = false := by
    refine Plan.Strict.ask_bind rfl fun found => ?_
    cases found <;> trivial
  apply Plan.forall_mem_exchanges_bind
  · apply addresses_of_within
    refine Plan.Within.bind ((Plan.within_ask _).mpr rfl) fun found => ?_
    cases found <;> trivial
  · intro project hproject x hx name hname
    have hfound := perform_projectUnder_eq_ok (h.result_of_strict hreads hproject)
    have hserves := (hf project).of_mem_exchanges hx
    exact ⟨project, a.network, a.host, hfound, hnetwork, hhost, hserves.1 name hname⟩

/-- Before that only the host is asked about. -/
theorem addresses_managed? {f : Option Attachment → Plan Unit}
    (hnone : f none = pure ())
    (hsome : ∀ a t, Attachment.ofPort? p = some a →
      (memory t).Addresses u p ((f (some a)).run respond t).exchanges) (s : σ) :
    (memory s).Addresses u p
      ((Integrator.managed? source p >>= f).run respond s).exchanges := by
  have hmemory : memory ((Integrator.managed? source p).run respond s).state = memory s :=
    h.memory_of_within (Integrator.managed?_within (fun _ => rfl) source p) s
  apply Plan.forall_mem_exchanges_bind
  · exact addresses_of_within (Integrator.managed?_within (fun _ => rfl) source p) s
  · intro found hfound
    cases found with
    | none =>
        rw [hnone]
        intro x hx
        cases hx
    | some a =>
        rw [← hmemory]
        exact hsome a _ (Integrator.ofPort?_of_managed? hfound)

theorem addresses_create (source : LinkSource) (hp : p.BelongsTo u) (s : σ) :
    (memory s).Addresses u p
      (((Integrator.enabled source).create p).run respond s).exchanges := by
  apply h.addresses_managed? rfl
  intro a t ha
  have hmemory (id : String) : memory (respond (.getNetwork id) t).2 = memory t :=
    h.memory_of_read rfl t
  apply Plan.forall_mem_exchanges_bind
  · exact addresses_of_within ((Plan.within_ask _).mpr rfl) t
  · intro network _
    cases Neutron.Network.vlanTag network with
    | none =>
        intro x hx
        cases hx
    | some tag =>
        rw [Integrator.projectOf_of_belongsTo hp, ← hmemory a.network]
        exact h.addresses_projectUnder ha
          (fun project => Integrator.makeInterface_serves source a tag project) _

theorem addresses_remove (source : LinkSource) (hp : p.BelongsTo u) (s : σ) :
    (memory s).Addresses u p
      (((Integrator.enabled source).remove p).run respond s).exchanges := by
  apply h.addresses_managed? rfl
  intro a t ha
  simp only
  rw [Integrator.projectOf_of_belongsTo hp]
  exact h.addresses_projectUnder ha (fun project => Integrator.removeInterface_serves _) t

end AnswersFrom

/-! ## Made for one spelling, taken away for another -/

/-- Neutron lists no other port that is tagged and bound to the network and the host of this
one. -/
def Alone (source : LinkSource) (port : Neutron.Port) (s : Controller) : Prop :=
  ∀ other ∈ s.corePorts, other.id ≠ port.id → other.networkId = port.networkId →
    other.hostId = port.hostId →
    (((Integrator.enabled source).isTagged other).run answer s).result ≠ .ok true

theorem Alone.needed_eq_false (h : t.Alone source q) : t.needed source q q.id = false := by
  simp only [needed]
  split
  · rename_i network host hnetwork hhost
    split
    · rfl
    · rw [List.any_eq_false]
      intro other hother hsome
      simp only [List.mem_filter, mem_portsOf, decide_eq_true_eq] at hother
      obtain ⟨⟨hmem, hnetwork', hhost'⟩, hid⟩ := hother
      exact h other hmem hid (hnetwork'.trans hnetwork.symm) (hhost'.trans hhost.symm)
        (isTagged_iff.mpr (Option.isSome_iff_exists.mp hsome))
  · rfl

theorem need?_congr (hfields : p.bindingFields = q.bindingFields) (hp : p.BelongsTo u)
    (hq : q.BelongsTo u) (s : Controller) : s.need? source p = s.need? source q := by
  simp only [need?, attachment?, projectOf?, Attachment.ofPort?_congr hfields,
    Integrator.projectOf_of_belongsTo hp, Integrator.projectOf_of_belongsTo hq]

/-- A port that is alone takes along what it needs. -/
theorem perform_deleted_of_alone {x : Need} (hneed : t.need? source q = some x)
    (halone : t.Alone source q) :
    ((Integrator.enabled source).handle (.deleted q)).perform answer t =
      (.ok (), t.removed x.fqName) := by
  have hguard := answer_neededByOther source q q.id t
  rw [halone.needed_eq_false] at hguard
  simp only [Integrator.handle, Integrator.isEnabled, Bool.not_true, Bool.false_eq_true,
    ↓reduceIte]
  rw [Plan.perform_bind_ok hguard]
  exact perform_remove_of_need hneed

/-- An interface that was made for a port is what the port needs. -/
theorem need?_of_made {name : FqName} {vmi : VirtualMachineInterface}
    (hfresh : Keyed.get? name s.vmis = none)
    (hmade : Keyed.get? name
      (((Integrator.enabled source).handle (.created p)).run answer s).state.vmis = some vmi) :
    ∃ x, s.need? source p = some x ∧ x.fqName = name := by
  rw [Integrator.handle_created] at hmade
  change Keyed.get? name (((Integrator.enabled source).create p).perform answer s).2.vmis = _
    at hmade
  rcases perform_create source p s with ⟨-, result, hcreate⟩ | ⟨x, made, hneed, -, hx, hcreate⟩
  · rw [hcreate, hfresh] at hmade
    cases hmade
  · refine ⟨x, hneed, ?_⟩
    rw [hcreate, get?_createVmi, hfresh, Option.none_or, fqName_of_interfaceOf? hx] at hmade
    by_contra hne
    rw [if_neg hne] at hmade
    cases hmade

/-! ## Tenants that spell nothing -/

/-- A tagged port has an attachment. -/
theorem managed?_of_isTagged {s : σ}
    (htagged : (((Integrator.enabled source).isTagged p).run respond s).result = .ok true) :
    ∃ a, ((Integrator.managed? source p).run respond s).result = .ok (some a) := by
  obtain ⟨found, hfound, -⟩ := Integrator.managed?_result respond source p s
  rw [Integrator.isTagged_result hfound] at htagged
  obtain ⟨a, rfl⟩ := Option.isSome_iff_exists.mp (Except.ok.inj htagged)
  exact ⟨a, hfound⟩

/-- The run is refused because of the port, and writes nothing. -/
def Refuses (port : Neutron.Port) (fault : PortFault) (run : Outcome Unit σ) : Prop :=
  run.result = .error (.invalidPort port.id fault) ∧
    ∀ x ∈ run.exchanges, x.call.isWrite = false

theorem refuses_remove {fault : PortFault} (hport : p.Misowned fault) {s : σ}
    (htagged : (((Integrator.enabled source).isTagged p).run respond s).result = .ok true) :
    Refuses p fault (((Integrator.enabled source).remove p).run respond s) := by
  obtain ⟨a, ha⟩ := managed?_of_isTagged htagged
  have hreads : (Integrator.managed? source p).Within fun c => c.isWrite = false :=
    Integrator.managed?_within (fun _ => rfl) source p
  rw [Integrator.remove, Plan.run_bind_of_ok ha]
  simp only [Integrator.projectOf_of_misowned hport]
  refine ⟨rfl, fun x hx => ?_⟩
  rcases List.mem_append.mp hx with hx | hx
  · exact hreads.of_mem_exchanges hx
  · cases hx

theorem AnswersFrom.refuses_create (h : AnswersFrom respond memory) {fault : PortFault}
    (hport : p.Misowned fault) {s : σ} {network : String} {core : Neutron.Network}
    (htagged : (((Integrator.enabled source).isTagged p).run respond s).result = .ok true)
    (hnetwork : p.networkId = some network)
    (hcore : Keyed.get? network (memory s).coreNetworks = some core)
    (htag : core.vlanTag.isSome = true)
    (hlog : Unfailing (((Integrator.enabled source).create p).run respond s).exchanges) :
    Refuses p fault (((Integrator.enabled source).create p).run respond s) := by
  obtain ⟨a, ha⟩ := managed?_of_isTagged htagged
  obtain ⟨tag, htag⟩ := Option.isSome_iff_exists.mp htag
  have hreads : (Integrator.managed? source p).Within fun c => c.isWrite = false :=
    Integrator.managed?_within (fun _ => rfl) source p
  have hmemory : memory ((Integrator.managed? source p).run respond s).state = memory s :=
    h.memory_of_within hreads s
  obtain ⟨hfield, -⟩ := Attachment.fields_of_ofPort? (Integrator.ofPort?_of_managed? ha)
  obtain rfl : network = a.network := Option.some.inj (hnetwork.symm.trans hfield)
  rw [Integrator.create, Plan.run_bind_of_ok ha] at hlog ⊢
  simp only [Integrator.projectOf_of_misowned hport] at hlog ⊢
  generalize ((Integrator.managed? source p).run respond s).state = t at hmemory hlog ⊢
  -- the one call that is left is the one that asks for the network
  cases hanswer : (respond (.getNetwork a.network) t).1 with
  | error e =>
      have hasked : ((Plan.ask (.getNetwork a.network)).run respond t).result = .error e := hanswer
      rw [Plan.run_bind_of_error hasked] at hlog
      have hfailed := hlog ⟨.getNetwork a.network, (respond (.getNetwork a.network) t).1⟩
        (List.mem_append_right _ (List.mem_singleton_self _))
      simp [Exchange.failed, hanswer] at hfailed
  | ok found =>
      have hasked : ((Plan.ask (.getNetwork a.network)).run respond t).result = .ok found := hanswer
      have hfound := h.result_of_ok hanswer
      rw [hmemory] at hfound
      simp only [answer, hcore] at hfound
      obtain rfl := Except.ok.inj hfound
      rw [Plan.run_bind_of_ok hasked, htag]
      refine ⟨rfl, fun x hx => ?_⟩
      rcases List.mem_append.mp hx with hx | hx
      · exact hreads.of_mem_exchanges hx
      · rcases List.mem_append.mp hx with hx | hx
        · obtain rfl := List.mem_singleton.mp hx
          rfl
        · cases hx

/-! ## All spellings alike -/

/-- It does not matter how a tenant is spelt. Ports that are bound alike and whose tenants spell
one identifier are handled by the same calls: these look up the project under the digits in lower
case with hyphens, and are about the one interface of that project; an interface made for one of the
ports is taken away for the other. A tenant that is absent or spells nothing is refused before
anything is written. -/
theorem tenant_spelling_immaterial (source : LinkSource) :
    let i := Integrator.enabled source
    (∀ (u : Uuid) (p q : Neutron.Port), p.bindingFields = q.bindingFields →
      p.BelongsTo u → q.BelongsTo u →
      (i.create p = i.create q ∧ i.remove p = i.remove q) ∧
      (∀ plan ∈ [i.create p, i.remove p],
        plan.Within (fun c => ∀ id, c = .getProject id →
          id = String.ofList (Uuid.hyphenate u.plain)) ∧
        ∀ {σ : Type} (respond : Responder σ) (memory : σ → Controller) (s : σ),
          AnswersFrom respond memory →
            (memory s).Addresses u p (plan.run respond s).exchanges) ∧
      ∀ (s t : Controller) (name : FqName) (vmi : VirtualMachineInterface),
        Keyed.get? name s.vmis = none →
        Keyed.get? name ((i.handle (.created p)).run answer s).state.vmis = some vmi →
        t.inventory = s.inventory → t.Alone source q →
        let gone := (i.handle (.deleted q)).run answer t
        gone.result = .ok () ∧ Keyed.get? name gone.state.vmis = none) ∧
    ∀ (p : Neutron.Port) (fault : PortFault), p.Misowned fault →
      ∀ {σ : Type} (respond : Responder σ) (s : σ),
        ((i.isTagged p).run respond s).result = .ok true →
        Refuses p fault ((i.remove p).run respond s) ∧
        ∀ (memory : σ → Controller) (network : String) (core : Neutron.Network),
          AnswersFrom respond memory → p.networkId = some network →
          Keyed.get? network (memory s).coreNetworks = some core → core.vlanTag.isSome = true →
          Unfailing ((i.create p).run respond s).exchanges →
          Refuses p fault ((i.create p).run respond s) := by
  intro i
  constructor
  · intro u p q hfields hp hq
    refine ⟨⟨Integrator.create_congr hfields hp hq source,
      Integrator.remove_congr hfields hp hq source⟩, ?_, ?_⟩
    · intro plan hplan
      simp only [List.mem_cons, List.not_mem_nil, or_false] at hplan
      rcases hplan with rfl | rfl
      · exact ⟨Integrator.create_looksUp source hp,
          fun respond memory s h => h.addresses_create source hp s⟩
      · exact ⟨Integrator.remove_looksUp source hp,
          fun respond memory s h => h.addresses_remove source hp s⟩
    · intro s t name vmi hfresh hmade hsame halone gone
      obtain ⟨x, hneed, rfl⟩ := need?_of_made hfresh hmade
      rw [← need?_of_inventory hsame, need?_congr hfields hp hq] at hneed
      have hgone := perform_deleted_of_alone hneed halone
      obtain ⟨hresult, hstate⟩ := Prod.mk.inj hgone
      refine ⟨hresult, ?_⟩
      rw [show gone.state = t.removed x.fqName from hstate, get?_removed, if_pos rfl]
  · intro p fault hport σ respond s htagged
    exact ⟨refuses_remove hport htagged,
      fun memory network core h hnetwork hcore htag hlog =>
        h.refuses_create hport htagged hnetwork hcore htag hlog⟩

end Controller

namespace Lab

/-- The port of the admin project, with its tenant under the newer name and spelt with the name of
the scheme. -/
def schemePort : Neutron.Port :=
  { adminPort with
    tenantId := none
    projectId := some "urn:uuid:0ED483E0-83ef-4F70-8250-1FCFA5D98C0E" }

/-- Its tenant is a name and spells no identifier. -/
def namedPort : Neutron.Port := { adminPort with tenantId := some "admin" }

theorem belongsTo_alike : ∃ u, adminPort.BelongsTo u ∧ schemePort.BelongsTo u := by
  have hsome : (Uuid.parse? "0ed483e083ef4f7082501fcfa5d98c0e").isSome = true := by
    decide +kernel
  have hsame : Uuid.parse? "urn:uuid:0ED483E0-83ef-4F70-8250-1FCFA5D98C0E" =
      Uuid.parse? "0ed483e083ef4f7082501fcfa5d98c0e" := by
    decide +kernel
  obtain ⟨u, hu⟩ := Option.isSome_iff_exists.mp hsome
  exact ⟨u, ⟨_, rfl, Uuid.parse?_eq_some_iff.mp hu⟩,
    ⟨_, rfl, Uuid.parse?_eq_some_iff.mp (hsame.trans hu)⟩⟩

theorem namedPort_misowned : namedPort.Misowned (.malformedTenant "admin") :=
  .malformed rfl (Uuid.parse?_eq_none_iff.mp (by decide +kernel))

end Lab

namespace Controller

/-- The interface made for bare digits goes with the port that spells them with the name of the
scheme, and a tenant given by its name is refused. -/
theorem made_for_bare_digits_gone_for_scheme :
    let i := Integrator.enabled Lab.source
    let made := (i.handle (.created Lab.adminPort)).run answer Lab.start
    let gone := (i.handle (.deleted Lab.schemePort)).run answer made.state
    made.state.vmis.map (·.1) = [Lab.adminName] ∧ gone.result = .ok () ∧
      Keyed.get? Lab.adminName gone.state.vmis = none ∧
      Refuses Lab.namedPort (.malformedTenant "admin")
        ((i.create Lab.namedPort).run answer Lab.start) := by
  intro i made gone
  obtain ⟨hspelt, hnone⟩ := tenant_spelling_immaterial Lab.source
  obtain ⟨u, hadmin, hscheme⟩ := Lab.belongsTo_alike
  obtain ⟨-, -, hgone⟩ := hspelt u Lab.adminPort Lab.schemePort rfl hadmin hscheme
  have hkey : (Keyed.get? Lab.adminName made.state.vmis).isSome = true := by decide +kernel
  obtain ⟨vmi, hvmi⟩ := Option.isSome_iff_exists.mp hkey
  have hinventory : made.state.inventory = Lab.start.inventory :=
    Plan.perform_invariant inventory answer_inventory (i.handle (.created Lab.adminPort)) Lab.start
  have hports : made.state.corePorts = [] :=
    Plan.perform_invariant corePorts answer_corePorts (i.handle (.created Lab.adminPort)) Lab.start
  have halone : made.state.Alone Lab.source Lab.schemePort := by
    intro other hother
    rw [hports] at hother
    cases hother
  obtain ⟨hresult, hleft⟩ :=
    hgone Lab.start made.state Lab.adminName vmi rfl hvmi hinventory halone
  have htagged : ((i.isTagged Lab.namedPort).run answer Lab.start).result = .ok true :=
    isTagged_iff.mpr ⟨Lab.place, by decide +kernel⟩
  have hanswers : AnswersFrom answer id := respond_nil_eq ▸ answersFrom_respond []
  obtain ⟨-, hcreate⟩ := hnone Lab.namedPort _ Lab.namedPort_misowned answer Lab.start htagged
  exact ⟨by decide +kernel, hresult, hleft,
    hcreate id "net-1" _ hanswers rfl rfl rfl (by unfold Unfailing; decide +kernel)⟩

end Controller

end VlanBinding
