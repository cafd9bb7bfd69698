import VlanBinding.Proofs.History

/-!
No port that Neutron lists loses its interface, however many other ports of whatever projects come,
move and go. What goes takes its interface along only when no other port is listed at its
attachment, and no other attachment has an interface of the same name.
-/

namespace VlanBinding.Controller

open VlanBinding.Fabric VlanBinding.Integration

variable {source : LinkSource} {s t start : Controller} {history : List Event}
variable {port : Neutron.Port} {x : Need}

/-! ## Coming and going -/

theorem departed_inventory (source : LinkSource) (port : Neutron.Port) (id : String)
    (s : Controller) : (s.departed source port id).inventory = s.inventory := by
  rw [departed]
  cases s.need? source port with
  | none => rfl
  | some x =>
      simp only
      split
      · rfl
      · exact removed_inventory x.fqName s

theorem vacated_inventory (source : LinkSource) (n : Notification) (s : Controller) :
    (s.vacated source n).inventory = s.inventory := by
  rw [vacated]
  cases n.goes? with
  | none => rfl
  | some port => exact departed_inventory source port n.port.id s

/-- What comes takes nothing away. -/
theorem contains_arrived {key : FqName} (hkey : Keyed.contains key s.vmis = true)
    (source : LinkSource) (port : Neutron.Port) :
    Keyed.contains key (s.arrived source port).vmis = true := by
  rw [arrived]
  cases s.need? source port with
  | none => exact hkey
  | some x =>
      simp only [met]
      cases s.interfaceOf? source x with
      | none => exact hkey
      | some vmi =>
          simp only [Keyed.contains, get?_createVmi] at hkey ⊢
          simp [hkey]

/-- What comes has what it needs, if that can be made. -/
theorem contains_arrived_self (hneed : s.need? source port = some x)
    (hmade : (s.interfaceOf? source x).isSome = true) :
    Keyed.contains x.fqName (s.arrived source port).vmis = true := by
  obtain ⟨vmi, hvmi⟩ := Option.isSome_iff_exists.mp hmade
  have hname := fqName_of_interfaceOf? hvmi
  simp only [arrived, hneed, met, hvmi, Keyed.contains, get?_createVmi]
  simp [hname]

/-- What goes takes nothing away but its own interface, and not even that where
another port is listed. -/
theorem contains_departed {key : FqName} {id : String}
    (hkey : Keyed.contains key s.vmis = true)
    (hoccupied : ∀ x, s.need? source port = some x → x.fqName = key →
      s.occupied source x.attachment id = true) :
    Keyed.contains key (s.departed source port id).vmis = true := by
  rw [departed]
  cases hneed : s.need? source port with
  | none => exact hkey
  | some x =>
      by_cases hname : x.fqName = key
      · simp only [hoccupied x hneed hname, ↓reduceIte]
        exact hkey
      · simp only
        split
        · exact hkey
        · rw [Keyed.contains, get?_removed, if_neg hname]
          exact hkey

/-! ## What every notification keeps -/

/-- Each listed port that needs an interface has it, if it can be made. -/
def Retains (source : LinkSource) (s : Controller) : Prop :=
  ∀ port ∈ s.corePorts, ∀ x, s.need? source port = some x →
    (s.interfaceOf? source x).isSome = true → Keyed.contains x.fqName s.vmis = true

/-- What goes leaves the interfaces of all other ports. -/
theorem contains_vacated {n : Notification}
    (hregular : ∀ port, n.goes? = some port → start.Regular port)
    (hport : port ∈ s.corePorts) (hself : start.Regular port)
    (hother : port.id ≠ n.port.id) (hneed : s.need? source port = some x)
    (hkey : Keyed.contains x.fqName s.vmis = true) :
    Keyed.contains x.fqName (s.vacated source n).vmis = true := by
  have ha := (need?_eq_some_iff.mp hneed).1
  rw [vacated]
  cases hgoes : n.goes? with
  | none => exact hkey
  | some gone =>
      -- One name means one attachment, and there the port itself is listed.
      refine contains_departed hkey fun y hy hname => ?_
      have hgone := (need?_eq_some_iff.mp hy).1
      obtain rfl : y = x := Need.fqName_injective
        ((hregular gone hgoes).network_of hgone).2 (hself.network_of ha).2 hname
      exact occupied_iff.mpr ⟨port, hport, hother, ha⟩

theorem Retains.notified (hretains : s.Retains source) {e : Event}
    (hannounced : e.notification.Announces s.corePorts e.ports)
    (hsame : s.inventory = start.inventory)
    (hbefore : ∀ port ∈ s.corePorts, start.Regular port)
    (hafter : ∀ port ∈ e.ports, start.Regular port) :
    (s.notified (.enabled source) e).Retains source := by
  have hregular : ∀ port, e.notification.goes? = some port → start.Regular port :=
    fun port hgoes => hbefore port (hannounced.mem_of_goes? hgoes).1
  have hnotified := notified_inventory (.enabled source) e s
  intro port hport x hneed hmade
  rw [notified_corePorts] at hport
  rw [need?_of_inventory hnotified] at hneed
  rw [interfaceOf?_isSome_of_inventory hnotified] at hmade
  rw [notified_eq hsame hregular, joined]
  have hlisting := listing_inventory e.ports s
  have hvacated := vacated_inventory source e.notification (s.listing e.ports)
  rcases hannounced.mem_iff.mp hport with hcomes | ⟨hstays, hother⟩
  · rw [hcomes]
    apply contains_arrived_self
    · rw [need?_of_inventory (hvacated.trans hlisting)]
      exact hneed
    · rw [interfaceOf?_isSome_of_inventory (hvacated.trans hlisting)]
      exact hmade
  · -- The port was listed before: it had its interface, and nothing took it away.
    have hkey := hretains port hstays x hneed hmade
    rw [← need?_of_inventory hlisting] at hneed
    have hkept := contains_vacated (s := s.listing e.ports) hregular hport
      (hafter port hport) hother hneed hkey
    cases e.notification.comes? with
    | none => exact hkept
    | some other => exact contains_arrived hkept source other

theorem Run.retains (hrun : Run (.enabled source) start history s)
    (hregular : ∀ port, Listed history port → start.Regular port) :
    s.Retains source := by
  induction hrun with
  | start hempty =>
      intro port hport
      rw [hempty] at hport
      cases hport
  | @step history s e hrun hannounced ih =>
      have hearlier : ∀ port, Listed history port → start.Regular port :=
        fun port hlisted => hregular port (hlisted.append e)
      refine (ih hearlier).notified hannounced hrun.inventory_eq ?_ ?_
      · intro port hport
        exact hearlier port (hrun.listed hport)
      · intro port hport
        exact hregular port (listed_of_mem_ports history hport)

/-- After every notification, each listed port whose machine is on a managed host
has its interface in its own project, if the interface can be made: if the network has
a tag and is known to the fabric, and the host has a profile. -/
theorem listed_port_has_interface (hrun : Run (.enabled source) start history s)
    (hregular : ∀ port, Listed history port → start.Regular port)
    (hport : port ∈ s.corePorts)
    (htagged : (((Integrator.enabled source).isTagged port).run answer s).result =
      .ok true)
    {a : Attachment} (hnetwork : port.networkId = some a.network)
    (hhost : port.hostId = some a.host) {core : Neutron.Network}
    (hcore : Keyed.get? a.network s.coreNetworks = some core)
    (htag : core.vlanTag.isSome = true)
    (hvirtual : (Keyed.get? a.network s.networks).isSome = true) {profile : Profile}
    (hprofile : ((Profile.ofHost source a.host).run answer s).result = .ok profile) :
    ∃ project : Project,
      ((Integrator.projectOf port).run answer s).result = .ok project ∧
        Keyed.contains (project.fqName ++ [a.interfaceName]) s.vmis = true := by
  obtain ⟨b, hb⟩ := isTagged_iff.mp htagged
  obtain rfl : b = a := attachment_unique hb hnetwork hhost
  obtain ⟨owner, hneed⟩ := (hregular port (hrun.listed hport)).need?_of
    hrun.inventory_eq hb
  obtain ⟨-, project, hfound, rfl⟩ := need?_eq_some_iff.mp hneed
  refine ⟨project, projectOf?_eq_some_iff.mp hfound, ?_⟩
  refine hrun.retains hregular port hport _ hneed ?_
  refine interfaceOf?_isSome_iff.mpr ⟨⟨core, hcore, htag⟩, hvirtual, ?_⟩
  change ((Profile.ofHost source b.host).run answer s).result.toOption.isSome = true
  rw [hprofile]
  rfl

/-- The port of one project keeps its interface when that of another one at the same
attachment is deleted. -/
theorem demo_port_has_interface :
    let history : List Event :=
      [⟨.created Lab.adminPort, [Lab.adminPort]⟩,
        ⟨.created Lab.demoPort, [Lab.adminPort, Lab.demoPort]⟩,
        ⟨.deleted Lab.adminPort, [Lab.demoPort]⟩]
    let s := history.foldl (fun s e => s.notified (.enabled Lab.source) e) Lab.start
    Run (.enabled Lab.source) Lab.start history s ∧
      ∃ project : Project,
        ((Integrator.projectOf Lab.demoPort).run answer s).result = .ok project ∧
          Keyed.contains (project.fqName ++
            [(⟨"net-1", "compute1"⟩ : Attachment).interfaceName]) s.vmis = true := by
  intro history s
  have hrun : Run (.enabled Lab.source) Lab.start history s :=
    .step _ (.step _ (.step _ (.start rfl) (by decide +kernel)) (by decide +kernel))
      (by decide +kernel)
  have hregular : ∀ port, Listed history port → Lab.start.Regular port :=
    Lab.regular_of_listed (by decide +kernel)
  have htagged : (((Integrator.enabled Lab.source).isTagged Lab.demoPort).run answer
      s).result = .ok true := Plan.toOption_eq_some_iff.mp (by decide +kernel)
  have hprofile : ((Profile.ofHost Lab.source "compute1").run answer
      s).result.toOption.isSome = true := by decide +kernel
  obtain ⟨profile, hprofile⟩ := Option.isSome_iff_exists.mp hprofile
  have hcore : Keyed.get? "net-1" s.coreNetworks =
      Keyed.get? "net-1" Lab.start.coreNetworks := by
    rw [coreNetworks_of_inventory hrun.inventory_eq]
  refine ⟨hrun, ?_⟩
  exact listed_port_has_interface hrun hregular (by decide +kernel) htagged rfl rfl
    hcore (by decide) (by decide +kernel) (Plan.toOption_eq_some_iff.mp hprofile)

end VlanBinding.Controller
