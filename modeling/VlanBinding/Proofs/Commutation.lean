import VlanBinding.Proofs.Footprint

/-!
Notifications about different interfaces commute. What a notification reads of a controller is the
interfaces of its ports, the port groups but for their references to interfaces, and what operators
set up; what it writes to a port group is to leave references out. So another notification changes
nothing of what it reads, and references are left out in either order.
-/

namespace VlanBinding

open VlanBinding.Fabric VlanBinding.Integration

namespace Fabric.VirtualPortGroup

/-- The port group but for its references to interfaces. -/
def outline (group : VirtualPortGroup) : VirtualPortGroup := { group with vmiRefs := [] }

/-- The port group with some of its references to interfaces. -/
def keep (kept : Reference → Bool) (group : VirtualPortGroup) : VirtualPortGroup :=
  { group with vmiRefs := group.vmiRefs.filter kept }

@[simp]
theorem keep_true (group : VirtualPortGroup) : group.keep (fun _ => true) = group := by
  simp [keep]

theorem keep_comm (f g : Reference → Bool) (group : VirtualPortGroup) :
    (group.keep f).keep g = (group.keep g).keep f := by
  simp only [keep, List.filter_filter, Bool.and_comm]

theorem outline_eq_of_thins {thin group : Option VirtualPortGroup}
    (h : Option.Rel Thins thin group) : thin.map outline = group.map outline := by
  cases h with
  | none => rfl
  | some hthins =>
      obtain ⟨refs, -, rfl⟩ := hthins
      rfl

end Fabric.VirtualPortGroup

namespace Controller

variable {α β : Type} {names : FqName → Prop} {kept : String → Reference → Bool}
variable {s t s' t' : Controller} {source : LinkSource} {port : Neutron.Port}

/-! ## Controllers that look alike -/

/-- Two controllers that cannot be told apart by what a notification reads, if it reads
interfaces of these names only. -/
structure Alike (names : FqName → Prop) (s t : Controller) : Prop where
  inventory : s.inventory = t.inventory
  corePorts : s.corePorts = t.corePorts
  vmis : ∀ key, names key → Keyed.get? key s.vmis = Keyed.get? key t.vmis
  groups : ∀ uuid, (Keyed.get? uuid s.groups).map VirtualPortGroup.outline =
    (Keyed.get? uuid t.groups).map VirtualPortGroup.outline

/-- What a notification leaves behind looks alike to one about other interfaces. -/
theorem Footprint.alike {others : FqName → Prop} {uuids : String → Prop}
    (h : Footprint others uuids s t) (hnames : ∀ key, names key → ¬ others key) :
    Alike names s t where
  inventory := h.inventory.symm
  corePorts := h.corePorts.symm
  vmis key hkey := (h.vmis key (hnames key hkey)).symm
  groups uuid := (VirtualPortGroup.outline_eq_of_thins (h.thinner uuid)).symm

/-- The second controller has the port groups of the first one, with the references that are
kept. -/
def Thinned (kept : String → Reference → Bool) (s t : Controller) : Prop :=
  ∀ uuid, Keyed.get? uuid t.groups =
    (Keyed.get? uuid s.groups).map (VirtualPortGroup.keep (kept uuid))

theorem thinned_of_groups (hgroups : t.groups = s.groups) :
    Thinned (fun _ _ => true) s t := by
  intro uuid
  rw [hgroups]
  cases Keyed.get? uuid s.groups <;> simp

theorem Thinned.trans {more : String → Reference → Bool} {u : Controller}
    (hst : Thinned kept s t) (htu : Thinned more t u) :
    Thinned (fun uuid ref => kept uuid ref && more uuid ref) s u := by
  intro uuid
  rw [htu, hst]
  cases Keyed.get? uuid s.groups <;>
    simp [VirtualPortGroup.keep, List.filter_filter, Bool.and_comm]

/-- Does a reference in the port group of a uuid stay when an interface is detached? -/
def stays (vmi : VirtualMachineInterface) (uuid : String) (ref : Reference) : Bool :=
  vmi.portGroupBackRefs.head?.map (·.uuid) ≠ some uuid || !VirtualPortGroup.denotes ref vmi

theorem stays_of_ne {vmi : VirtualMachineInterface} {uuid : String}
    (hne : vmi.portGroupBackRefs.head?.map (·.uuid) ≠ some uuid) :
    stays vmi uuid = fun _ => true := by
  funext ref
  simp [stays, hne]

theorem thinned_detached (hkeyed : s.GroupsKeyed) (vmi : VirtualMachineInterface) :
    Thinned (stays vmi) s (s.detached vmi) := by
  intro uuid
  cases hrefs : vmi.portGroupBackRefs with
  | nil =>
      have hsame : s.detached vmi = s := by simp [detached, hrefs]
      rw [stays_of_ne (by simp [hrefs]), hsame]
      exact thinned_of_groups rfl uuid
  | cons ref rest =>
      cases hgroup : Keyed.get? ref.uuid s.groups with
      | none =>
          have hsame : s.detached vmi = s := by simp [detached, hrefs, hgroup]
          rw [hsame]
          by_cases huuid : ref.uuid = uuid
          · rw [← huuid, hgroup]
            rfl
          · rw [stays_of_ne (by simp [hrefs, huuid])]
            exact thinned_of_groups rfl uuid
      | some group =>
          have hown : (group.detach vmi).uuid = ref.uuid := hkeyed ref.uuid group hgroup
          have hstored : Keyed.contains (group.detach vmi).uuid s.groups = true := by
            simp [Keyed.contains, hown, hgroup]
          have hafter : s.detached vmi = s.updateGroup (group.detach vmi) := by
            simp [detached, hrefs, hgroup]
          rw [hafter, get?_updateGroup uuid _ s hstored, hown]
          by_cases huuid : ref.uuid = uuid
          · have hstays : stays vmi uuid = fun other => !VirtualPortGroup.denotes other vmi := by
              funext other
              simp [stays, hrefs, huuid]
            rw [if_pos huuid, ← huuid, hgroup, huuid, hstays]
            rfl
          · rw [if_neg huuid, stays_of_ne (by simp [hrefs, huuid])]
            exact thinned_of_groups rfl uuid

/-! ## One result and one effect -/

/-- Run in either controller, the plan has one result, leaves controllers that look alike, and
leaves out the same references of port groups. -/
def Twin (names : FqName → Prop) (p : Plan α) (s t : Controller) : Prop :=
  ∃ result s' t' kept, p.perform answer s = (result, s') ∧ p.perform answer t = (result, t') ∧
    Alike names s' t' ∧ Thinned kept s s' ∧ Thinned kept t t'

namespace Twin

theorem of_perform {p : Plan α} {result : Except Error α} (h : Alike names s t)
    (hs : p.perform answer s = (result, s')) (ht : p.perform answer t = (result, t'))
    (hthin : Thinned kept s s') (hthin' : Thinned kept t t')
    (hvmis : ∀ key, names key → Keyed.get? key s'.vmis = Keyed.get? key t'.vmis) :
    Twin names p s t := by
  have hinventory := fun s => Plan.perform_invariant inventory answer_inventory p s
  have hports := fun s => Plan.perform_invariant corePorts answer_corePorts p s
  refine ⟨result, s', t', kept, hs, ht, ⟨?_, ?_, hvmis, fun uuid => ?_⟩, hthin, hthin'⟩
  · have hsame := (hinventory s).trans (h.inventory.trans (hinventory t).symm)
    rwa [hs, ht] at hsame
  · have hsame := (hports s).trans (h.corePorts.trans (hports t).symm)
    rwa [hs, ht] at hsame
  · have hgroups := h.groups uuid
    rw [hthin, hthin', Option.map_map, Option.map_map]
    exact hgroups

/-- What changes nothing looks alike afterwards. -/
theorem of_read {p : Plan α} {result : Except Error α} (h : Alike names s t)
    (hs : p.perform answer s = (result, s)) (ht : p.perform answer t = (result, t)) :
    Twin names p s t :=
  of_perform h hs ht (thinned_of_groups rfl) (thinned_of_groups rfl) h.vmis

theorem read_bind {p : Plan α} {f : α → Plan β} {result : Except Error α}
    (h : Alike names s t) (hs : p.perform answer s = (result, s))
    (ht : p.perform answer t = (result, t))
    (hf : ∀ a, result = .ok a → Twin names (f a) s t) : Twin names (p >>= f) s t := by
  cases result with
  | error e => exact of_read h (Plan.perform_bind_error hs) (Plan.perform_bind_error ht)
  | ok a =>
      obtain ⟨final, s', t', kept, hs', ht', halike, hthin, hthin'⟩ := hf a rfl
      exact ⟨final, s', t', kept, (Plan.perform_bind_ok hs).trans hs',
        (Plan.perform_bind_ok ht).trans ht', halike, hthin, hthin'⟩

theorem inventory_bind {p : Plan α} {f : α → Plan β} (h : Alike names s t)
    (hp : p.Within Call.asksInventory)
    (hf : ∀ a, p.perform answer s = (.ok a, s) → Twin names (f a) s t) :
    Twin names (p >>= f) s t := by
  obtain ⟨result, hs, ht⟩ := perform_of_inventory hp h.inventory
  refine read_bind h hs ht ?_
  rintro a rfl
  exact hf a hs

theorem bind {p : Plan α} {f : α → Plan β} (hp : Twin names p s t)
    (hf : ∀ a s' t', p.perform answer s = (.ok a, s') → Alike names s' t' →
      Twin names (f a) s' t') : Twin names (p >>= f) s t := by
  obtain ⟨result, s', t', kept, hs, ht, halike, hthin, hthin'⟩ := hp
  cases result with
  | error e =>
      exact ⟨.error e, s', t', kept, Plan.perform_bind_error hs, Plan.perform_bind_error ht,
        halike, hthin, hthin'⟩
  | ok a =>
      obtain ⟨final, s'', t'', more, hs', ht', halike', hmore, hmore'⟩ :=
        hf a s' t' hs halike
      exact ⟨final, s'', t'', _, (Plan.perform_bind_ok hs).trans hs',
        (Plan.perform_bind_ok ht).trans ht', halike', hthin.trans hmore,
        hthin'.trans hmore'⟩

end Twin

/-! ## Profiles -/

/-- Port groups are looked through by their outlines. -/
theorem perform_findGroup_alike (h : Alike names s t) (links : List (String × String))
    (refs : List Reference) :
    ∃ group group', (Profile.findGroup links refs).perform answer s = (.ok group, s) ∧
      (Profile.findGroup links refs).perform answer t = (.ok group', t) ∧
      group.map VirtualPortGroup.outline = group'.map VirtualPortGroup.outline := by
  induction refs with
  | nil => exact ⟨none, none, rfl, rfl, rfl⟩
  | cons ref rest ih =>
      have hread : ∀ s, (Plan.ask (.getPortGroup ref.uuid)).perform answer s =
          (.ok (Keyed.get? ref.uuid s.groups), s) := fun _ => rfl
      rw [Profile.findGroup, Plan.perform_bind_ok (hread s), Plan.perform_bind_ok (hread t)]
      have houtline := h.groups ref.uuid
      cases hs : Keyed.get? ref.uuid s.groups with
      | none =>
          rw [hs, Option.map_none, eq_comm, Option.map_eq_none_iff] at houtline
          rw [houtline]
          exact ih
      | some group =>
          rw [hs, Option.map_some, eq_comm, Option.map_eq_some_iff] at houtline
          obtain ⟨group', ht, hsame⟩ := houtline
          have hjoins : Profile.joins group' links = Profile.joins group links := by
            change Profile.joins group'.outline links = Profile.joins group.outline links
            rw [hsame]
          simp only [ht, hjoins]
          split
          · exact ⟨some group, some group', rfl, rfl, by simp [hsame]⟩
          · exact ih

theorem perform_reusableGroup_alike (h : Alike names s t) (node : Topology.Node)
    (links : List LinkInformation) :
    ∃ result,
      (Profile.reusableGroup node >>= fun group =>
        (pure { links, portGroup := group.bind (·.name) } : Plan Profile)).perform
          answer s = (result, s) ∧
      (Profile.reusableGroup node >>= fun group =>
        (pure { links, portGroup := group.bind (·.name) } : Plan Profile)).perform
          answer t = (result, t) := by
  cases hports : node.ports with
  | nil =>
      simp only [Profile.reusableGroup, hports]
      exact ⟨_, rfl, rfl⟩
  | cons first rest =>
      simp only [Profile.reusableGroup, hports, bind_assoc]
      obtain ⟨interface, hs, ht⟩ := perform_of_inventory
        ((Plan.within_ask (.readInterface first.switchName first.portName)).mpr trivial)
        h.inventory
      cases interface with
      | error e => exact ⟨_, Plan.perform_bind_error hs, Plan.perform_bind_error ht⟩
      | ok found =>
          rw [Plan.perform_bind_ok hs, Plan.perform_bind_ok ht]
          cases found with
          | none => exact ⟨_, rfl, rfl⟩
          | some interface =>
              obtain ⟨group, group', hs, ht, hsame⟩ := perform_findGroup_alike h
                (List.map Topology.Link.endpoint (first :: rest)) interface.portGroupBackRefs
              have hname : group.bind (·.name) = group'.bind (·.name) := by
                have hnames := congrArg (Option.bind · VirtualPortGroup.name) hsame
                simp only [Option.bind_map] at hnames
                exact hnames
              refine ⟨_, Plan.perform_bind_ok hs, ?_⟩
              rw [Plan.perform_bind_ok ht, hname]
              rfl

/-- Controllers that look alike give a host the same profile. -/
theorem perform_ofHost_alike (h : Alike names s t) (source : LinkSource) (host : String) :
    ∃ result, (Profile.ofHost source host).perform answer s = (result, s) ∧
      (Profile.ofHost source host).perform answer t = (result, t) := by
  obtain ⟨node, hs, ht⟩ :=
    perform_of_inventory (source.resolve_inventory host) h.inventory
  cases node with
  | error e => exact ⟨_, Plan.perform_bind_error hs, Plan.perform_bind_error ht⟩
  | ok node =>
      rw [Profile.ofHost, Plan.perform_bind_ok hs, Plan.perform_bind_ok ht, Profile.ofNode]
      obtain ⟨links, hs, ht⟩ :=
        perform_of_inventory (Profile.informationOfAll_inventory node.ports) h.inventory
      cases links with
      | error e => exact ⟨_, Plan.perform_bind_error hs, Plan.perform_bind_error ht⟩
      | ok links =>
          rw [Plan.perform_bind_ok hs, Plan.perform_bind_ok ht]
          exact perform_reusableGroup_alike h node links

/-! ## Making and taking away -/

theorem answersFrom_answer : AnswersFrom answer id := answersFrom_respond []

/-- Taking an interface away is the same wherever it is stored alike. -/
theorem twin_removeInterface (h : Alike names s t) (hs : s.GroupsKeyed) (ht : t.GroupsKeyed)
    {key : FqName} (hkey : names key) :
    Twin names (Integrator.removeInterface key) s t := by
  have hvmis : ∀ other, names other → Keyed.get? other (s.removed key).vmis =
      Keyed.get? other (t.removed key).vmis := by
    intro other hother
    rw [get?_removed, get?_removed, h.vmis other hother]
  have hstored := h.vmis key hkey
  cases hvmi : Keyed.get? key s.vmis with
  | none =>
      rw [hvmi] at hstored
      have hsame := removed_of_none hvmi
      have hsame' := removed_of_none hstored.symm
      exact Twin.of_perform h (perform_removeInterface key s) (perform_removeInterface key t)
        (thinned_of_groups (by rw [hsame])) (thinned_of_groups (by rw [hsame'])) hvmis
  | some vmi =>
      rw [hvmi] at hstored
      have hgroups : (s.removed key).groups = (s.detached vmi).groups := by
        simp [removed, hvmi, deleteVmi]
      have hgroups' : (t.removed key).groups = (t.detached vmi).groups := by
        simp [removed, ← hstored, deleteVmi]
      have hthin : Thinned (stays vmi) s (s.removed key) := fun uuid => by
        rw [hgroups]
        exact thinned_detached hs vmi uuid
      have hthin' : Thinned (stays vmi) t (t.removed key) := fun uuid => by
        rw [hgroups']
        exact thinned_detached ht vmi uuid
      exact Twin.of_perform h (perform_removeInterface key s) (perform_removeInterface key t)
        hthin hthin' hvmis

theorem twin_createVmi (h : Alike names s t) (vmi : VirtualMachineInterface) :
    Twin names (Plan.ask (.createVmi vmi)) s t := by
  have hcreate : ∀ s : Controller, (Plan.ask (.createVmi vmi)).perform answer s =
      (.ok (), s.createVmi vmi) := fun _ => rfl
  refine Twin.of_perform h (hcreate s) (hcreate t) (thinned_of_groups (createVmi_groups vmi s))
    (thinned_of_groups (createVmi_groups vmi t)) fun key hkey => ?_
  rw [get?_createVmi, get?_createVmi, h.vmis key hkey]

theorem managed?_inventory (source : LinkSource) (port : Neutron.Port) :
    (Integrator.managed? source port).Within Call.asksInventory :=
  Integrator.managed?_within (fun _ => trivial) source port

/-- The name of the interface that a project is asked about for a port. -/
theorem nameFor?_of_perform {a : Attachment} {project : Project}
    (ha : (Integrator.managed? source port).perform answer s = (.ok (some a), s))
    (hproject : (Integrator.projectOf port).perform answer s = (.ok project, s)) :
    s.nameFor? port = some (project.fqName ++ [a.interfaceName]) := by
  refine nameFor?_of_attachment (Integrator.ofPort?_of_managed? (by rw [ha])) ?_
  rw [projectOf?, hproject]
  rfl

theorem twin_remove (h : Alike names s t) (hs : s.GroupsKeyed) (ht : t.GroupsKeyed)
    (source : LinkSource) (hnames : ∀ key, s.nameFor? port = some key → names key) :
    Twin names ((Integrator.enabled source).remove port) s t := by
  refine Twin.inventory_bind h (managed?_inventory source port) fun found hfound => ?_
  cases found with
  | none => exact Twin.of_read h rfl rfl
  | some a =>
      refine Twin.inventory_bind h (projectOf_strict port).within fun project hproject => ?_
      exact twin_removeInterface h hs ht (hnames _ (nameFor?_of_perform hfound hproject))

theorem twin_makeInterface (h : Alike names s t) (source : LinkSource) {a : Attachment}
    (tag : UInt16) {project : Project} (hkey : names (project.fqName ++ [a.interfaceName])) :
    Twin names (Integrator.makeInterface source a tag project) s t := by
  have hs : (Plan.ask (.getVmi (project.fqName ++ [a.interfaceName]))).perform answer s =
      (.ok (Keyed.get? (project.fqName ++ [a.interfaceName]) s.vmis), s) := rfl
  have ht : (Plan.ask (.getVmi (project.fqName ++ [a.interfaceName]))).perform answer t =
      (.ok (Keyed.get? (project.fqName ++ [a.interfaceName]) s.vmis), t) := by
    rw [h.vmis _ hkey]
    rfl
  refine Twin.read_bind h hs ht fun found _ => ?_
  cases found with
  | some vmi => exact Twin.of_read h rfl rfl
  | none =>
      refine Twin.inventory_bind h ((Plan.within_ask _).mpr trivial) fun found _ => ?_
      cases found with
      | none => exact Twin.of_read h rfl rfl
      | some network =>
          obtain ⟨result, hs, ht⟩ := perform_ofHost_alike h source a.host
          exact Twin.read_bind h hs ht fun profile _ => twin_createVmi h _

theorem twin_create (h : Alike names s t) (source : LinkSource)
    (hnames : ∀ key, s.nameFor? port = some key → names key) :
    Twin names ((Integrator.enabled source).create port) s t := by
  refine Twin.inventory_bind h (managed?_inventory source port) fun found hfound => ?_
  cases found with
  | none => exact Twin.of_read h rfl rfl
  | some a =>
      refine Twin.inventory_bind h ((Plan.within_ask _).mpr trivial) fun network _ => ?_
      cases network.vlanTag with
      | none => exact Twin.of_read h rfl rfl
      | some tag =>
          refine Twin.inventory_bind h (projectOf_strict port).within fun project hproject => ?_
          exact twin_makeInterface h source tag
            (hnames _ (nameFor?_of_perform hfound hproject))

/-! ## Notifications -/

theorem twin_sync (h : Alike names s t) (hs : s.GroupsKeyed) (ht : t.GroupsKeyed)
    (source : LinkSource) {previous : Neutron.Port}
    (hnames : ∀ key, s.nameFor? port = some key ∨ s.nameFor? previous = some key → names key) :
    Twin names ((Integrator.enabled source).sync port previous) s t := by
  have hport := fun key hkey => hnames key (Or.inl hkey)
  simp only [Integrator.sync, Integrator.isEnabled, Bool.not_true, Bool.false_eq_true,
    ↓reduceIte]
  split
  · exact twin_create h source hport
  · refine Twin.bind (twin_remove h hs ht source fun key hkey => hnames key (Or.inr hkey))
      fun _ s' t' hs' halike => twin_create halike source fun key hkey => hport key ?_
    have hsame := Plan.perform_invariant inventory answer_inventory
      ((Integrator.enabled source).remove previous) s
    rw [hs'] at hsame
    rwa [← nameFor?_of_inventory hsame]

/-- The question whether another port needs the interface has one answer. -/
theorem twin_guard (h : Alike names s t) (source : LinkSource) (gone : Neutron.Port)
    (id : String) {f : Bool → Plan α} (hf : ∀ needed, Twin names (f needed) s t) :
    Twin names ((Integrator.enabled source).neededByOther gone id >>= f) s t := by
  have ht := answer_neededByOther source gone id t
  rw [← needed_of_inventory h.inventory h.corePorts] at ht
  exact Twin.read_bind h (answer_neededByOther source gone id s) ht fun needed _ => hf needed

theorem twin_handle (h : Alike names s t) (hs : s.GroupsKeyed) (ht : t.GroupsKeyed)
    (i : Integrator) (n : Notification)
    (hnames : ∀ p ∈ n.ports, ∀ key, s.nameFor? p = some key → names key) :
    Twin names (i.handle n) s t := by
  cases i with
  | disabled => cases n <;> exact Twin.of_read h rfl rfl
  | enabled source =>
      cases n with
      | created port =>
          rw [Integrator.handle_created]
          exact twin_create h source (hnames port (List.mem_singleton_self port))
      | updated port previous =>
          have hport := hnames port List.mem_cons_self
          have hsync : Twin names ((Integrator.enabled source).sync port previous) s t := by
            refine twin_sync h hs ht source ?_
            rintro key (hkey | hkey)
            · exact hport key hkey
            · exact hnames previous (List.mem_cons_of_mem _ List.mem_cons_self) key hkey
          simp only [Integrator.handle, Integrator.isEnabled, Bool.not_true,
            Bool.false_eq_true, ↓reduceIte]
          split
          · exact hsync
          · refine twin_guard h source previous port.id fun needed => ?_
            cases needed with
            | true => exact twin_create h source hport
            | false => exact hsync
      | deleted port =>
          simp only [Integrator.handle, Integrator.isEnabled, Bool.not_true,
            Bool.false_eq_true, ↓reduceIte]
          refine twin_guard h source port port.id fun needed => ?_
          cases needed with
          | true => exact Twin.of_read h rfl rfl
          | false => exact twin_remove h hs ht source (hnames port (List.mem_singleton_self port))

/-- The ports of two notifications have different interfaces. -/
def Apart (m n : Notification) (s : Controller) : Prop :=
  ∀ p ∈ m.ports, ∀ q ∈ n.ports, ∀ key, s.nameFor? p = some key → s.nameFor? q ≠ some key

theorem Apart.symm {m n : Notification} (h : s.Apart m n) : s.Apart n m :=
  fun q hq p hp key hkey hname => h p hp q hq key hname hkey

/-- After a notification about other interfaces, a notification does what it would have done
before. -/
theorem handle_after (i : Integrator) {m n : Notification} (hkeyed : s.GroupsKeyed)
    (hapart : s.Apart m n) :
    let first := (i.handle m).run answer s
    let alone := (i.handle n).run answer s
    let after := (i.handle n).run answer first.state
    after.result = alone.result ∧
    (∀ p ∈ n.ports, ∀ key, s.nameFor? p = some key →
      Keyed.get? key after.state.vmis = Keyed.get? key alone.state.vmis) ∧
    (∀ key, (∀ p ∈ n.ports, s.nameFor? p ≠ some key) →
      Keyed.get? key after.state.vmis = Keyed.get? key first.state.vmis) ∧
    ∃ kept, Thinned kept s alone.state ∧ Thinned kept first.state after.state := by
  intro first alone after
  have hfirst : Footprint _ _ s first.state := answersFrom_answer.footprint_handle i m hkeyed
  have hkeyed' := answersFrom_answer.groupsKeyed (i.handle m) hkeyed
  have halike : Alike (fun key => ∃ p ∈ n.ports, s.nameFor? p = some key) s first.state := by
    refine hfirst.alike ?_
    rintro key ⟨q, hq, hname⟩ ⟨p, hp, hname'⟩
    exact hapart p hp q hq key hname' hname
  obtain ⟨result, s', t', kept, hs, ht, halike', hthin, hthin'⟩ :=
    twin_handle halike hkeyed hkeyed' i n fun p hp key hname => ⟨p, hp, hname⟩
  obtain ⟨hresult, rfl⟩ := Prod.mk.inj hs
  obtain ⟨hresult', rfl⟩ := Prod.mk.inj ht
  refine ⟨hresult'.trans hresult.symm, ?_, ?_, kept, hthin, hthin'⟩
  · intro p hp key hname
    exact (halike'.vmis key ⟨p, hp, hname⟩).symm
  · intro key hkey
    have hafter : Footprint _ _ first.state after.state :=
      answersFrom_answer.footprint_handle i n hkeyed'
    refine hafter.vmis key ?_
    rintro ⟨p, hp, hname⟩
    change first.state.nameFor? p = some key at hname
    rw [nameFor?_of_inventory hfirst.inventory] at hname
    exact hkey p hp hname

/-- Notifications about different interfaces can be handled in either order. -/
theorem handle_comm (i : Integrator) (m n : Notification) (s : Controller)
    (hkeyed : s.GroupsKeyed) (hapart : s.Apart m n) :
    let m₁ := (i.handle m).run answer s
    let n₂ := (i.handle n).run answer m₁.state
    let n₁ := (i.handle n).run answer s
    let m₂ := (i.handle m).run answer n₁.state
    m₁.result = m₂.result ∧ n₁.result = n₂.result ∧
      (∀ key, Keyed.get? key n₂.state.vmis = Keyed.get? key m₂.state.vmis) ∧
      ∀ uuid, Keyed.get? uuid n₂.state.groups = Keyed.get? uuid m₂.state.groups := by
  intro m₁ n₂ n₁ m₂
  obtain ⟨hn, hn_own, hn_other, kept, hn_alone, hn_after⟩ := handle_after i hkeyed hapart
  obtain ⟨hm, hm_own, hm_other, more, hm_alone, hm_after⟩ :=
    handle_after i hkeyed hapart.symm
  refine ⟨hm.symm, hn.symm, fun key => ?_, fun uuid => ?_⟩
  · by_cases hkey : ∃ p ∈ n.ports, s.nameFor? p = some key
    · obtain ⟨p, hp, hname⟩ := hkey
      have hother : ∀ q ∈ m.ports, s.nameFor? q ≠ some key :=
        fun q hq => hapart.symm p hp q hq key hname
      exact (hn_own p hp key hname).trans (hm_other key hother).symm
    · have hother : ∀ p ∈ n.ports, s.nameFor? p ≠ some key :=
        fun p hp hname => hkey ⟨p, hp, hname⟩
      by_cases hkey' : ∃ q ∈ m.ports, s.nameFor? q = some key
      · obtain ⟨q, hq, hname⟩ := hkey'
        exact (hn_other key hother).trans (hm_own q hq key hname).symm
      · -- neither is about this interface, so both leave it as it was
        have hneither : ∀ q ∈ m.ports, s.nameFor? q ≠ some key :=
          fun q hq hname => hkey' ⟨q, hq, hname⟩
        have hfirst := answersFrom_answer.footprint_handle i m hkeyed
        have hfirst' := answersFrom_answer.footprint_handle i n hkeyed
        have hkept := hfirst.vmis key fun ⟨q, hq, hname⟩ => hneither q hq hname
        have hkept' := hfirst'.vmis key fun ⟨p, hp, hname⟩ => hother p hp hname
        exact (hn_other key hother).trans
          (hkept.trans (hkept'.symm.trans (hm_other key hneither).symm))
  · rw [hn_after, hm_alone, hm_after, hn_alone, Option.map_map, Option.map_map]
    congr 1
    funext group
    exact VirtualPortGroup.keep_comm _ _ group

/-- The ports of two projects are deleted in either order, and either way the port group is
left without both interfaces. -/
theorem deletions_comm :
    let i := Integrator.enabled Lab.source
    let m₁ := (i.handle (.deleted Lab.adminPort)).run answer Lab.bonded
    let n₂ := (i.handle (.deleted Lab.demoPort)).run answer m₁.state
    let n₁ := (i.handle (.deleted Lab.demoPort)).run answer Lab.bonded
    let m₂ := (i.handle (.deleted Lab.adminPort)).run answer n₁.state
    Lab.bonded.Apart (.deleted Lab.adminPort) (.deleted Lab.demoPort) ∧
      m₁.result = m₂.result ∧ n₁.result = n₂.result ∧
      (∀ key, Keyed.get? key n₂.state.vmis = Keyed.get? key m₂.state.vmis) ∧
      (∀ uuid, Keyed.get? uuid n₂.state.groups = Keyed.get? uuid m₂.state.groups) ∧
      (Keyed.get? "vpg-1" n₂.state.groups).map (·.vmiRefs.length) = some 0 := by
  intro i m₁ n₂ n₁ m₂
  have hapart : Lab.bonded.Apart (.deleted Lab.adminPort) (.deleted Lab.demoPort) := by
    intro p hp q hq key hname
    rw [List.mem_singleton.mp hp] at hname
    rw [List.mem_singleton.mp hq]
    have hadmin : Lab.bonded.nameFor? Lab.adminPort = some Lab.adminName := by decide +kernel
    have hdemo : Lab.bonded.nameFor? Lab.demoPort = some Lab.demoName := by decide +kernel
    rw [hadmin] at hname
    rw [hdemo, ← Option.some.inj hname]
    decide
  obtain ⟨hm, hn, hvmis, hgroups⟩ := handle_comm i (.deleted Lab.adminPort)
    (.deleted Lab.demoPort) Lab.bonded Lab.bonded_groupsKeyed hapart
  exact ⟨hapart, hm, hn, hvmis, hgroups, by decide +kernel⟩

end Controller

end VlanBinding
