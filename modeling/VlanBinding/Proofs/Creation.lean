import VlanBinding.Proofs.Failing

/-!
Making the interface of a port. Everything that is needed for it is looked up first, and the
interface is written with the last call if it is found to be missing. Main statement: whichever
calls fail, an interface is written exactly if the port is tagged, no lookup fails and the
controller lacks the interface but none of its parts; it is then made of these parts.
-/

namespace VlanBinding

open VlanBinding.Fabric VlanBinding.Integration

/-! ## Tags -/

/-- The network is a VLAN network and this is its number, which is a number for a VLAN. -/
def Neutron.Network.Tags (n : Neutron.Network) (tag : UInt16) : Prop :=
  n.networkType = some "vlan" ∧ ∃ id, n.segmentationId = some id ∧
    1 ≤ id.toInt ∧ id.toInt ≤ 4094 ∧ (tag.toNat : Int) = id.toInt

/-- The tag is the number of the VLAN, of which nothing is cut off. -/
theorem Neutron.Network.vlanTag_eq_some_iff {n : Neutron.Network} {tag : UInt16} :
    n.vlanTag = some tag ↔ n.Tags tag := by
  rw [vlanTag, Tags]
  by_cases htype : n.networkType = some "vlan"
  · cases hid : n.segmentationId with
    | none => simp [htype]
    | some id =>
        simp only [htype, ↓reduceIte, tagRange, Bool.and_eq_true, decide_eq_true_eq,
          Option.some.injEq, exists_eq_left', true_and]
        have hofNat : (1 ≤ id.toInt ∧ id.toInt ≤ 4094) →
            ((UInt16.ofNat id.toInt.toNat).toNat : Int) = id.toInt := by
          rintro ⟨hlow, hhigh⟩
          have hlt : id.toInt.toNat < UInt16.size := by
            simp only [UInt16.size]
            omega
          rw [UInt16.toNat_ofNat_of_lt' hlt]
          omega
        constructor
        · intro htag
          split at htag
          · rename_i hrange
            obtain rfl := Option.some.inj htag
            exact ⟨hrange.1, hrange.2, hofNat hrange⟩
          · cases htag
        · rintro ⟨hlow, hhigh, htag⟩
          rw [if_pos ⟨hlow, hhigh⟩, Option.some.injEq]
          apply UInt16.toNat_inj.mp
          have := hofNat ⟨hlow, hhigh⟩
          omega
  · simp [htype]

/-! ## What an interface is made of -/

/-- What the interface of a port is made of. -/
structure Integration.Blueprint where
  /-- the id of the network -/
  network : String
  host : String
  tag : UInt16
  project : Project
  virtual : VirtualNetwork
  profile : Profile

namespace Integration.Blueprint

def fqName (b : Blueprint) : FqName :=
  b.project.fqName ++ ["_vlan_tag_for_vn_" ++ b.network ++ "_compute_" ++ b.host]

def interface (b : Blueprint) : VirtualMachineInterface where
  fqName := b.fqName
  parentType := "project"
  networkRefs := [{ target := b.virtual.fqName, uuid := b.virtual.uuid }]
  properties := some { vlanTag := some b.tag }
  bindings := some b.profile.pairs
  idPerms := some { creator := some "networking-opencontrail" }

end Integration.Blueprint

namespace Controller

variable {source : LinkSource} {port : Neutron.Port} {a : Attachment} {m : Controller}

/-- The network of the port has the tag, and the project owns the port. -/
structure Places (m : Controller) (port : Neutron.Port) (a : Attachment) (tag : UInt16)
    (project : Project) : Prop where
  network : port.networkId = some a.network
  host : port.hostId = some a.host
  tag : ∃ core, Keyed.get? a.network m.coreNetworks = some core ∧ core.Tags tag
  owner : ∃ tenant uuid, port.tenant = some tenant ∧ Uuid.parse? tenant = some uuid ∧
    Keyed.get? uuid.render m.projects = some project

/-- The controller lacks the interface that is made like this, and has all that it is made of. -/
structure Lacks (m : Controller) (source : LinkSource) (port : Neutron.Port) (b : Blueprint) :
    Prop where
  places : m.Places port ⟨b.network, b.host⟩ b.tag b.project
  absent : Keyed.get? b.fqName m.vmis = none
  virtual : Keyed.get? b.network m.networks = some b.virtual
  profile : ((Profile.ofHost source b.host).run answer m).result = .ok b.profile

/-- No interface is called for: the network has no tag, or the interface is there, or the
controller does not know the network. -/
inductive Spares (m : Controller) (port : Neutron.Port) : Prop
  | untagged {network : String} {core : Neutron.Network} (hnetwork : port.networkId = some network)
      (hcore : Keyed.get? network m.coreNetworks = some core) (htag : ∀ tag, ¬ core.Tags tag)
  | present {a : Attachment} {tag : UInt16} {project : Project} {vmi : VirtualMachineInterface}
      (hplaces : m.Places port a tag project)
      (hvmi : Keyed.get? (project.fqName ++ [a.interfaceName]) m.vmis = some vmi)
  | unknown {a : Attachment} {tag : UInt16} {project : Project}
      (hplaces : m.Places port a tag project)
      (hvmi : Keyed.get? (project.fqName ++ [a.interfaceName]) m.vmis = none)
      (hnetwork : Keyed.get? a.network m.networks = none)

end Controller

/-! ## Looking up and writing -/

namespace Integration.Integrator

/-- The interface of an attachment, unless the project has it or the network is not known. -/
def lacked (source : LinkSource) (a : Attachment) (tag : UInt16) (project : Project) :
    Plan (Option VirtualMachineInterface) := do
  match ← Plan.ask (.getVmi (project.fqName ++ [a.interfaceName])) with
  | some _ => pure none
  | none =>
    match ← Plan.ask (.getVirtualNetwork a.network) with
    | none => pure none
    | some network =>
      let profile ← Profile.ofHost source a.host
      pure (some (.make a.interfaceName network ⟨some tag⟩ profile.pairs project))

/-- The interface that a port on a managed host needs and does not have. -/
def missing (source : LinkSource) (port : Neutron.Port) (a : Attachment) :
    Plan (Option VirtualMachineInterface) := do
  let network ← Plan.ask (.getNetwork a.network)
  match Neutron.Network.vlanTag network with
  | none => pure none
  | some tag => lacked source a tag (← projectOf port)

/-- The interface that a port needs and does not have, if its host is managed. -/
def wanted (source : LinkSource) (port : Neutron.Port) :
    Plan (Option VirtualMachineInterface) := do
  match ← managed? source port with
  | none => pure none
  | some a => missing source port a

/-- Writes an interface, if there is one to write. -/
def write : Option VirtualMachineInterface → Plan Unit
  | none => pure ()
  | some vmi => Plan.ask (.createVmi vmi)

theorem makeInterface_eq (source : LinkSource) (a : Attachment) (tag : UInt16)
    (project : Project) :
    makeInterface source a tag project = lacked source a tag project >>= write := by
  rw [makeInterface, lacked, bind_assoc]
  refine congrArg _ (funext fun found => ?_)
  cases found with
  | some vmi => rfl
  | none =>
      simp only
      rw [bind_assoc]
      refine congrArg _ (funext fun found => ?_)
      cases found with
      | none => rfl
      | some network =>
          simp only
          rw [bind_assoc]
          rfl

/-- An interface is made by looking up what is missing and writing that. -/
theorem create_eq (source : LinkSource) (port : Neutron.Port) :
    (enabled source).create port = wanted source port >>= write := by
  rw [create, wanted, bind_assoc]
  refine congrArg _ (funext fun found => ?_)
  cases found with
  | none => rfl
  | some a =>
      simp only
      rw [missing, bind_assoc]
      refine congrArg _ (funext fun network => ?_)
      cases Neutron.Network.vlanTag network with
      | none => rfl
      | some tag =>
          simp only
          rw [bind_assoc]
          exact congrArg _ (funext fun project => makeInterface_eq source a tag project)

variable (source : LinkSource) (port : Neutron.Port) (a : Attachment)

theorem lacked_strict (tag : UInt16) (project : Project) :
    (lacked source a tag project).Strict fun c => c.isWrite = false := by
  refine Plan.Strict.ask_bind rfl fun found => ?_
  cases found with
  | some vmi => exact Plan.strict_pure _
  | none =>
      refine Plan.Strict.ask_bind rfl fun found => ?_
      cases found with
      | none => exact Plan.strict_pure _
      | some network =>
          have hprofile := (Profile.ofHost_strict source a.host).mono
            fun c hc => Call.isWrite_of_asksLinks hc
          exact hprofile.bind fun profile => Plan.strict_pure _

theorem missing_strict : (missing source port a).Strict fun c => c.isWrite = false := by
  refine Plan.Strict.ask_bind rfl fun network => ?_
  cases Neutron.Network.vlanTag network with
  | none => exact Plan.strict_pure _
  | some tag =>
      have hproject := Controller.projectOf_strict_reads port
      exact hproject.bind fun project => lacked_strict source a tag project

theorem wanted_within : (wanted source port).Within fun c => c.isWrite = false := by
  apply (managed?_within (fun _ => rfl) source port).bind
  intro found
  cases found with
  | none => trivial
  | some a => exact (missing_strict source port a).within

end Integration.Integrator

/-! ## What is found missing -/

namespace Controller

theorem perform_projectOf_eq_ok_iff {project : Project} :
    ((Integrator.projectOf port).perform answer m).1 = .ok project ↔
      ∃ tenant uuid, port.tenant = some tenant ∧ Uuid.parse? tenant = some uuid ∧
        Keyed.get? uuid.render m.projects = some project := by
  rw [Integrator.projectOf]
  cases htenant : port.tenant with
  | none => simp
  | some tenant =>
      cases huuid : Uuid.parse? tenant with
      | none => simp [huuid]
      | some uuid =>
          have hread : (Plan.ask (.getProject uuid.render)).perform answer m =
              (.ok (Keyed.get? uuid.render m.projects), m) := rfl
          simp only [huuid]
          rw [Plan.perform_bind_ok hread]
          cases hproject : Keyed.get? uuid.render m.projects with
          | none => simp [huuid, hproject]
          | some found => simp [huuid, hproject]

theorem perform_getNetwork_of_some {id : String} {core : Neutron.Network}
    (hcore : Keyed.get? id m.coreNetworks = some core) :
    (Plan.ask (.getNetwork id)).perform answer m = (.ok core, m) := by
  rw [Plan.perform_ask]
  simp only [answer, hcore]

theorem perform_missing_of_places {tag : UInt16} {project : Project}
    (h : m.Places port a tag project) :
    (Integrator.missing source port a).perform answer m =
      (Integrator.lacked source a tag project).perform answer m := by
  obtain ⟨core, hcore, htag⟩ := h.tag
  have hproject : (Integrator.projectOf port).perform answer m = (.ok project, m) := by
    apply perform_projectOf_of_some
    rw [projectOf?, perform_projectOf_eq_ok_iff.mpr h.owner]
    rfl
  rw [Integrator.missing, Plan.perform_bind_ok (perform_getNetwork_of_some hcore),
    Neutron.Network.vlanTag_eq_some_iff.mpr htag]
  exact Plan.perform_bind_ok hproject

theorem perform_lacked_of_none {tag : UInt16} {project : Project}
    (hvmi : Keyed.get? (project.fqName ++ [a.interfaceName]) m.vmis = none) :
    (Integrator.lacked source a tag project).perform answer m =
      match Keyed.get? a.network m.networks with
      | none => (.ok none, m)
      | some network =>
        (((Profile.ofHost source a.host).run answer m).result.map fun profile =>
          some (.make a.interfaceName network ⟨some tag⟩ profile.pairs project), m) := by
  have hread : (Plan.ask (.getVmi (project.fqName ++ [a.interfaceName]))).perform answer m =
      (.ok none, m) := by
    rw [Plan.perform_ask, ← hvmi]
    rfl
  have hread' : (Plan.ask (.getVirtualNetwork a.network)).perform answer m =
      (.ok (Keyed.get? a.network m.networks), m) := rfl
  rw [Integrator.lacked, Plan.perform_bind_ok hread]
  simp only
  rw [Plan.perform_bind_ok hread']
  cases Keyed.get? a.network m.networks with
  | none => rfl
  | some network =>
      obtain ⟨result, hprofile, -⟩ := perform_ofHost_of_groups (s := m) rfl rfl source a.host
      have hresult : ((Profile.ofHost source a.host).run answer m).result = result :=
        congrArg Prod.fst hprofile
      rw [hresult]
      cases result with
      | error e => exact Plan.perform_bind_error hprofile
      | ok profile => exact Plan.perform_bind_ok hprofile

theorem perform_missing_of_lacks {b : Blueprint} (h : m.Lacks source port b) :
    (Integrator.missing source port ⟨b.network, b.host⟩).perform answer m =
      (.ok (some b.interface), m) := by
  have habsent : Keyed.get? (b.project.fqName ++ [Attachment.interfaceName ⟨b.network, b.host⟩])
      m.vmis = none := h.absent
  rw [perform_missing_of_places h.places, perform_lacked_of_none habsent, h.virtual, h.profile]
  rfl

theorem perform_missing_of_spares (ha : Attachment.ofPort? port = some a) (h : m.Spares port) :
    (Integrator.missing source port a).perform answer m = (.ok none, m) := by
  obtain ⟨hnetwork, hhost, -⟩ := Attachment.fields_of_ofPort? ha
  have hsame {b : Attachment} {tag : UInt16} {project : Project}
      (hplaces : m.Places port b tag project) : b = a := by
    have hnetwork' := Option.some.inj (hplaces.network.symm.trans hnetwork)
    have hhost' := Option.some.inj (hplaces.host.symm.trans hhost)
    obtain ⟨network, host⟩ := b
    subst hnetwork' hhost'
    rfl
  cases h with
  | @untagged network core hnetwork' hcore htag =>
      obtain rfl := Option.some.inj (hnetwork'.symm.trans hnetwork)
      rw [Integrator.missing, Plan.perform_bind_ok (perform_getNetwork_of_some hcore)]
      cases hvlan : core.vlanTag with
      | none => rfl
      | some tag => exact absurd (Neutron.Network.vlanTag_eq_some_iff.mp hvlan) (htag tag)
  | @present b tag project vmi hplaces hvmi =>
      obtain rfl := hsame hplaces
      have hread : (Plan.ask (.getVmi (project.fqName ++ [b.interfaceName]))).perform answer m =
          (.ok (some vmi), m) := by
        rw [Plan.perform_ask, ← hvmi]
        rfl
      rw [perform_missing_of_places hplaces]
      exact Plan.perform_bind_ok hread
  | @unknown b tag project hplaces hvmi hunknown =>
      obtain rfl := hsame hplaces
      rw [perform_missing_of_places hplaces, perform_lacked_of_none hvmi, hunknown]

/-- What is looked for is missing, or not called for, or cannot be told. -/
theorem perform_missing_cases (source : LinkSource) (ha : Attachment.ofPort? port = some a)
    (m : Controller) :
    (∃ b, a = ⟨b.network, b.host⟩ ∧ m.Lacks source port b) ∨ m.Spares port ∨
      ∃ e, (Integrator.missing source port a).perform answer m = (.error e, m) := by
  obtain ⟨hnetwork, hhost, -⟩ := Attachment.fields_of_ofPort? ha
  cases hcore : Keyed.get? a.network m.coreNetworks with
  | none =>
      have hread : ∃ e, (Plan.ask (.getNetwork a.network)).perform answer m = (.error e, m) := by
        refine ⟨.corePlugin (.other ("network " ++ a.network ++ " not found")), ?_⟩
        rw [Plan.perform_ask]
        simp only [answer, hcore]
      obtain ⟨e, hread⟩ := hread
      exact Or.inr (Or.inr ⟨e, Plan.perform_bind_error hread⟩)
  | some core =>
      by_cases htag : ∃ tag, core.Tags tag
      · obtain ⟨tag, htag⟩ := htag
        rcases perform_projectOf port m with ⟨project, hfound, hproject⟩ | ⟨e, -, hproject⟩
        · have howner := perform_projectOf_eq_ok_iff.mp (congrArg Prod.fst hproject)
          have hplaces : m.Places port a tag project :=
            ⟨hnetwork, hhost, ⟨core, hcore, htag⟩, howner⟩
          cases hvmi : Keyed.get? (project.fqName ++ [a.interfaceName]) m.vmis with
          | some vmi => exact Or.inr (Or.inl (.present hplaces hvmi))
          | none =>
              cases hvirtual : Keyed.get? a.network m.networks with
              | none => exact Or.inr (Or.inl (.unknown hplaces hvmi hvirtual))
              | some virtual =>
                  cases hprofile : ((Profile.ofHost source a.host).run answer m).result with
                  | ok profile =>
                      exact Or.inl ⟨⟨a.network, a.host, tag, project, virtual, profile⟩, rfl,
                        hplaces, hvmi, hvirtual, hprofile⟩
                  | error e =>
                      refine Or.inr (Or.inr ⟨e, ?_⟩)
                      rw [perform_missing_of_places hplaces, perform_lacked_of_none hvmi, hvirtual,
                        hprofile]
                      rfl
        · refine Or.inr (Or.inr ⟨e, ?_⟩)
          rw [Integrator.missing, Plan.perform_bind_ok (perform_getNetwork_of_some hcore),
            Neutron.Network.vlanTag_eq_some_iff.mpr htag]
          exact Plan.perform_bind_error hproject
      · exact Or.inr (Or.inl (.untagged hnetwork hcore fun tag h => htag ⟨tag, h⟩))

theorem perform_missing_eq_some_iff {vmi : VirtualMachineInterface}
    (ha : Attachment.ofPort? port = some a) :
    ((Integrator.missing source port a).perform answer m).1 = .ok (some vmi) ↔
      ∃ b, m.Lacks source port b ∧ vmi = b.interface := by
  obtain ⟨hnetwork, hhost, -⟩ := Attachment.fields_of_ofPort? ha
  constructor
  · intro hmissing
    rcases perform_missing_cases source ha m with ⟨b, rfl, hb⟩ | hspares | ⟨e, herror⟩
    · rw [perform_missing_of_lacks hb] at hmissing
      exact ⟨b, hb, (Option.some.inj (Except.ok.inj hmissing)).symm⟩
    · rw [perform_missing_of_spares ha hspares] at hmissing
      cases hmissing
    · rw [herror] at hmissing
      cases hmissing
  · rintro ⟨b, hb, rfl⟩
    have hnetwork' := Option.some.inj (hb.places.network.symm.trans hnetwork)
    have hhost' := Option.some.inj (hb.places.host.symm.trans hhost)
    obtain ⟨network, host⟩ := a
    subst hnetwork' hhost'
    rw [perform_missing_of_lacks hb]

theorem perform_missing_eq_none_iff (ha : Attachment.ofPort? port = some a) :
    ((Integrator.missing source port a).perform answer m).1 = .ok none ↔ m.Spares port := by
  constructor
  · intro hmissing
    rcases perform_missing_cases source ha m with ⟨b, rfl, hb⟩ | hspares | ⟨e, herror⟩
    · rw [perform_missing_of_lacks hb] at hmissing
      cases hmissing
    · exact hspares
    · rw [herror] at hmissing
      cases hmissing
  · intro hspares
    rw [perform_missing_of_spares ha hspares]

/-! ## Calls that may fail -/

section

variable {σ : Type} {respond : Responder σ} {memory : σ → Controller} {s : σ}

/-- What is looked up for a port, with its attachment told apart. -/
theorem run_wanted_cases (respond : Responder σ) (source : LinkSource) (port : Neutron.Port)
    (s : σ) :
    (((Integrator.enabled source).isTagged port).run respond s).result = .ok false ∧
        ((Integrator.wanted source port).run respond s).result = .ok none ∨
    (((Integrator.enabled source).isTagged port).run respond s).result = .ok true ∧
      ∃ a earlier t, Attachment.ofPort? port = some a ∧ Unfailing earlier ∧
        t = ((Integrator.managed? source port).run respond s).state ∧
        ((Integrator.wanted source port).run respond s).result =
          ((Integrator.missing source port a).run respond t).result ∧
        ((Integrator.wanted source port).run respond s).exchanges =
          earlier ++ ((Integrator.missing source port a).run respond t).exchanges := by
  obtain ⟨found, hfound, hlog⟩ := Integrator.managed?_result respond source port s
  have htagged := Integrator.isTagged_result hfound
  rw [Integrator.wanted, Plan.run_bind_of_ok hfound]
  cases found with
  | none => exact Or.inl ⟨htagged, rfl⟩
  | some a =>
      exact Or.inr ⟨htagged, a, _, _, Integrator.ofPort?_of_managed? hfound, hlog rfl, rfl, rfl,
        rfl⟩

variable (h : AnswersFrom respond memory)
include h

theorem result_wanted_eq_ok_iff {found : Option VirtualMachineInterface}
    {p : Prop}
    (hmissing : ∀ a, Attachment.ofPort? port = some a →
      (((Integrator.missing source port a).perform answer (memory s)).1 = .ok found ↔ p)) :
    ((Integrator.wanted source port).run respond s).result = .ok found ↔
      (((Integrator.enabled source).isTagged port).run respond s).result = .ok false ∧
          found = none ∨
        (((Integrator.enabled source).isTagged port).run respond s).result = .ok true ∧
          Unfailing ((Integrator.wanted source port).run respond s).exchanges ∧ p := by
  rcases run_wanted_cases respond source port s with
    ⟨htagged, hnone⟩ | ⟨htagged, a, earlier, t, ha, hearlier, ht, hresult, hlog⟩
  · rw [htagged, hnone]
    simp [eq_comm]
  · have hmemory : memory t = memory s := by
      rw [ht]
      exact h.memory_of_within (Integrator.managed?_within (fun _ => rfl) source port) s
    rw [htagged, hresult, hlog, unfailing_append,
      h.result_eq_ok_iff (Integrator.missing_strict source port a), hmemory, hmissing a ha]
    simp [hearlier]

end

section

variable {σ : Type} {respond : Responder σ} {memory : σ → Controller} {s : σ}

theorem result_wanted_eq_some_iff (h : AnswersFrom respond memory)
    {vmi : VirtualMachineInterface} :
    ((Integrator.wanted source port).run respond s).result = .ok (some vmi) ↔
      (((Integrator.enabled source).isTagged port).run respond s).result = .ok true ∧
        Unfailing ((Integrator.wanted source port).run respond s).exchanges ∧
        ∃ b, (memory s).Lacks source port b ∧ vmi = b.interface := by
  rw [result_wanted_eq_ok_iff h fun a ha => perform_missing_eq_some_iff ha]
  simp

theorem result_wanted_eq_none_iff (h : AnswersFrom respond memory) :
    ((Integrator.wanted source port).run respond s).result = .ok none ↔
      (((Integrator.enabled source).isTagged port).run respond s).result = .ok false ∨
        (((Integrator.enabled source).isTagged port).run respond s).result = .ok true ∧
          Unfailing ((Integrator.wanted source port).run respond s).exchanges ∧
          (memory s).Spares port := by
  rw [result_wanted_eq_ok_iff h fun a ha => perform_missing_eq_none_iff ha]
  simp

/-- Where nothing is found to be missing, the run ends with the lookups. -/
theorem run_create_of_ne_some
    (hne : ∀ vmi, ((Integrator.wanted source port).run respond s).result ≠ .ok (some vmi)) :
    let looked := (Integrator.wanted source port).run respond s
    let run := ((Integrator.enabled source).create port).run respond s
    run.exchanges = looked.exchanges ∧ run.state = looked.state ∧
      (run.result = .ok () ↔ looked.result = .ok none) := by
  intro looked run
  have hrun : run = (Integrator.wanted source port >>= Integrator.write).run respond s := by
    rw [← Integrator.create_eq]
  cases hresult : looked.result with
  | error e =>
      rw [Plan.run_bind_of_error hresult] at hrun
      simp [hrun, looked]
  | ok found =>
      cases found with
      | some vmi => exact absurd hresult (hne vmi)
      | none =>
          rw [Plan.run_bind_of_ok hresult] at hrun
          rw [hrun]
          exact ⟨List.append_nil _, rfl, iff_of_true rfl rfl⟩

/-- Where an interface is found to be missing, it is written next, and then the run ends. -/
theorem run_create_of_some {vmi : VirtualMachineInterface}
    (hsome : ((Integrator.wanted source port).run respond s).result = .ok (some vmi)) :
    let looked := (Integrator.wanted source port).run respond s
    ((Integrator.enabled source).create port).run respond s =
      ⟨(respond (.createVmi vmi) looked.state).1,
        looked.exchanges ++ [⟨.createVmi vmi, (respond (.createVmi vmi) looked.state).1⟩],
        (respond (.createVmi vmi) looked.state).2⟩ := by
  rw [Integrator.create_eq, Plan.run_bind_of_ok hsome]
  rfl

/-- A missing interface is stored under its name, unless the call fails. -/
theorem FailsCleanly.memory_createVmi (h : FailsCleanly respond memory) {b : Blueprint}
    (hb : (memory s).Lacks source port b) :
    let x : Exchange := ⟨.createVmi b.interface, (respond (.createVmi b.interface) s).1⟩
    memory (respond (.createVmi b.interface) s).2 =
      if x.failed then memory s
      else { memory s with vmis := Keyed.put b.fqName (stored b.interface) (memory s).vmis } := by
  intro x
  rcases h (.createVmi b.interface) s with ⟨hresult, hstate⟩ | ⟨⟨e, herror⟩, hstate⟩
  · have hfailed : x.failed = false := by
      simp only [x, Exchange.failed, hresult]
      rfl
    rw [hstate, hfailed]
    exact createVmi_of_none hb.absent
  · have hfailed : x.failed = true := by simp only [x, Exchange.failed, herror]
    rw [hstate, hfailed]
    rfl

/-- How making the interface of a port ends: it is found to be missing and written with the last
call, or nothing is written. -/
inductive Creates (source : LinkSource) (port : Neutron.Port) (tagged : Except Error Bool)
    (before : Controller) : Except Error Unit → List Exchange → Controller → Prop
  | writes {log : List Exchange} {b : Blueprint} {answer : Except Error Unit} {after : Controller}
      (htagged : tagged = .ok true) (hreads : ∀ x ∈ log, x.call.isWrite = false)
      (hlog : Unfailing log) (hb : before.Lacks source port b)
      (hafter : after =
        if Exchange.failed ⟨.createVmi b.interface, answer⟩ then before
        else { before with vmis := Keyed.put b.fqName (stored b.interface) before.vmis }) :
      Creates source port tagged before answer (log ++ [⟨.createVmi b.interface, answer⟩]) after
  | rests {log : List Exchange} {r : Except Error Unit}
      (hreads : ∀ x ∈ log, x.call.isWrite = false)
      (hnone : ¬ (tagged = .ok true ∧ Unfailing log ∧ ∃ b, before.Lacks source port b))
      (hresult : r = .ok () ↔
        tagged = .ok false ∨ tagged = .ok true ∧ Unfailing log ∧ before.Spares port) :
      Creates source port tagged before r log before

/-- So it ends whichever calls fail. -/
theorem creates_create (h : FailsCleanly respond memory) (source : LinkSource)
    (port : Neutron.Port) (s : σ) :
    let run := ((Integrator.enabled source).create port).run respond s
    Creates source port (((Integrator.enabled source).isTagged port).run respond s).result
      (memory s) run.result run.exchanges (memory run.state) := by
  intro run
  have hwithin := Integrator.wanted_within source port
  have hreads : ∀ x ∈ ((Integrator.wanted source port).run respond s).exchanges,
      x.call.isWrite = false := fun x hx => hwithin.of_mem_exchanges hx
  have hmemory : memory ((Integrator.wanted source port).run respond s).state = memory s :=
    h.answersFrom.memory_of_within hwithin s
  by_cases hmissing :
      ∃ vmi, ((Integrator.wanted source port).run respond s).result = .ok (some vmi)
  · obtain ⟨vmi, hvmi⟩ := hmissing
    obtain ⟨htagged, hlog, b, hb, rfl⟩ := (result_wanted_eq_some_iff h.answersFrom).mp hvmi
    have hrun : run = _ := run_create_of_some hvmi
    rw [hrun]
    apply Creates.writes htagged hreads hlog hb
    -- the interface is still missing when it is written
    rw [← hmemory] at hb ⊢
    exact h.memory_createVmi hb
  · have hne := not_exists.mp hmissing
    obtain ⟨hexchanges, hstate, hresult⟩ := run_create_of_ne_some hne
    rw [hexchanges, hstate, hmemory]
    apply Creates.rests hreads
    · rintro ⟨htagged, hlog, b, hb⟩
      exact hne _ ((result_wanted_eq_some_iff h.answersFrom).mpr ⟨htagged, hlog, b, hb, rfl⟩)
    · exact hresult.trans (result_wanted_eq_none_iff h.answersFrom)

section

variable {tagged : Except Error Bool} {r : Except Error Unit} {log : List Exchange}
variable {after : Controller}

theorem Creates.reads_first (h : Creates source port tagged m r log after) :
    ∀ x ∈ log.dropLast, x.call.isWrite = false := by
  cases h with
  | writes _ hreads _ _ _ =>
      rw [List.dropLast_concat]
      exact hreads
  | rests hreads _ _ => exact fun x hx => hreads x (List.dropLast_subset _ hx)

theorem Creates.exists_write_iff (h : Creates source port tagged m r log after) :
    (∃ x ∈ log, x.call.isWrite = true) ↔
      tagged = .ok true ∧ (∀ x ∈ log, x.call.isWrite = false → x.failed = false) ∧
        ∃ b, m.Lacks source port b := by
  cases h with
  | writes htagged _ hlog hb _ =>
      refine iff_of_true ?_ ⟨htagged, fun x hx hread => ?_, _, hb⟩
      · exact ⟨_, List.mem_append_right _ (List.mem_singleton_self _), rfl⟩
      · rcases List.mem_append.mp hx with hx | hx
        · exact hlog x hx
        · obtain rfl := List.mem_singleton.mp hx
          cases hread
  | rests hreads hnone _ =>
      apply iff_of_false
      · rintro ⟨x, hx, hwrite⟩
        rw [hreads x hx] at hwrite
        cases hwrite
      · rintro ⟨htagged, hlog, hlacks⟩
        exact hnone ⟨htagged, fun x hx => hlog x hx (hreads x hx), hlacks⟩

theorem Creates.of_write (h : Creates source port tagged m r log after) {x : Exchange}
    (hx : x ∈ log) (hwrite : x.call.isWrite = true) :
    ∃ b answer, m.Lacks source port b ∧ x = ⟨.createVmi b.interface, answer⟩ ∧ r = answer ∧
      after = if x.failed then m
        else { m with vmis := Keyed.put b.fqName (stored b.interface) m.vmis } := by
  cases h with
  | writes _ hreads _ hb hafter =>
      rcases List.mem_append.mp hx with hx | hx
      · rw [hreads x hx] at hwrite
        cases hwrite
      · obtain rfl := List.mem_singleton.mp hx
        exact ⟨_, _, hb, rfl, rfl, hafter⟩
  | rests hreads _ _ =>
      rw [hreads x hx] at hwrite
      cases hwrite

theorem Creates.of_reads (h : Creates source port tagged m r log after)
    (hreads : ∀ x ∈ log, x.call.isWrite = false) :
    after = m ∧ (r = .ok () ↔
      tagged = .ok false ∨ tagged = .ok true ∧ Unfailing log ∧ m.Spares port) := by
  cases h with
  | writes =>
      have hread := hreads _ (List.mem_append_right _ (List.mem_singleton_self _))
      cases hread
  | rests _ _ hresult => exact ⟨rfl, hresult⟩

end

/-- An interface is written with the last call, and it is written exactly if the port is tagged, no
lookup fails, and the controller lacks the interface but none of what it is made of. Where none is
written the controller stays as it is, and that is no error only if none is called for. -/
theorem interface_written_iff_lacking (h : FailsCleanly respond memory) (source : LinkSource)
    (port : Neutron.Port) (s : σ) :
    let i := Integrator.enabled source
    let tagged := ((i.isTagged port).run respond s).result
    let run := (i.create port).run respond s
    (∀ x ∈ run.exchanges.dropLast, x.call.isWrite = false) ∧
    ((∃ x ∈ run.exchanges, x.call.isWrite = true) ↔
      tagged = .ok true ∧ (∀ x ∈ run.exchanges, x.call.isWrite = false → x.failed = false) ∧
        ∃ b, (memory s).Lacks source port b) ∧
    (∀ x ∈ run.exchanges, x.call.isWrite = true →
      ∃ b answer, (memory s).Lacks source port b ∧ x = ⟨.createVmi b.interface, answer⟩ ∧
        run.result = answer ∧ memory run.state = if x.failed then memory s else
          { memory s with vmis := Keyed.put b.fqName (stored b.interface) (memory s).vmis }) ∧
    ((∀ x ∈ run.exchanges, x.call.isWrite = false) →
      memory run.state = memory s ∧
      (run.result = .ok () ↔ tagged = .ok false ∨
        tagged = .ok true ∧ Unfailing run.exchanges ∧ (memory s).Spares port)) := by
  intro i tagged run
  have hcreates : Creates source port tagged (memory s) run.result run.exchanges
      (memory run.state) := creates_create h source port s
  exact ⟨hcreates.reads_first, hcreates.exists_write_iff, fun x => hcreates.of_write,
    hcreates.of_reads⟩

end

/-- The interface of the port is written with tag 100; if one of the lookups fails, it is not. -/
theorem interface_written_unless_lookup_fails :
    let create := (Integrator.enabled Lab.source).create Lab.adminPort
    let written := create.run Lab.flaky ([], Lab.start)
    let failing := create.run Lab.flaky ([false, true], Lab.start)
    (∃ b, Lab.start.Lacks Lab.source Lab.adminPort b ∧ b.tag = 100 ∧
      written.state.2.vmis = [(Lab.adminName, stored b.interface)]) ∧
    failing.exchanges.map (·.call.name) = ["get_network", "get_project"] ∧
      failing.state.2 = Lab.start ∧ failing.result ≠ .ok () := by
  intro create written failing
  obtain ⟨-, -, hwritten, -⟩ := interface_written_iff_lacking Lab.flaky_failsCleanly
    Lab.source Lab.adminPort ([], Lab.start)
  have hvmis : written.state.2.vmis.map (fun v => (v.1, v.2.properties.bind (·.vlanTag))) =
      [(Lab.adminName, some 100)] := by decide +kernel
  constructor
  · obtain ⟨x, hx, hwrite⟩ : ∃ x ∈ written.exchanges, x.call.isWrite = true := by decide +kernel
    obtain ⟨b, answer, hb, rfl, hresult, hstate⟩ := hwritten x hx hwrite
    have hok : written.result = .ok () := by decide +kernel
    obtain rfl : answer = .ok () := hresult.symm.trans hok
    have hstored : written.state.2.vmis = [(b.fqName, stored b.interface)] := by
      change written.state.2 = _ at hstate
      rw [hstate]
      rfl
    rw [hstored] at hvmis
    obtain ⟨hname, htag⟩ := Prod.mk.inj (List.singleton_inj.mp hvmis)
    refine ⟨b, hb, Option.some.inj htag, ?_⟩
    rw [hstored]
    exact congrArg (fun name => [(name, stored b.interface)]) hname
  · obtain ⟨-, -, -, hquiet⟩ := interface_written_iff_lacking Lab.flaky_failsCleanly
      Lab.source Lab.adminPort ([false, true], Lab.start)
    have hreads : ∀ x ∈ failing.exchanges, x.call.isWrite = false := by decide +kernel
    exact ⟨by decide +kernel, (hquiet hreads).1, by decide +kernel⟩

end Controller

end VlanBinding
