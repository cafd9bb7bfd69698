import VlanBinding.Proofs.Ledger

/-!
Networks whose ports all belong to one project. There what is outstanding is what the listed ports
need, so that a controller that had no interfaces holds exactly one for each attachment of a listed
port. It does not matter how the ports came to be listed.
-/

namespace VlanBinding.Controller

open VlanBinding.Fabric VlanBinding.Integration

variable {source : LinkSource} {s t start : Controller}
variable {history other : List Event} {owner : String → Project}
variable {port : Neutron.Port} {a : Attachment} {x : Need}

/-- If the port is bound to a machine, it belongs to the project that owns its
network. -/
def OwnedBy (owner : String → Project) (s : Controller) (port : Neutron.Port) :
    Prop :=
  ∀ a, Attachment.ofPort? port = some a →
    ((Integrator.projectOf port).run answer s).result = .ok (owner a.network)

/-- What the ports at an attachment need, where a project owns the network. -/
def needAt (owner : String → Project) (a : Attachment) : Need :=
  ⟨(owner a.network).fqName, a⟩

theorem OwnedBy.need?_eq (howned : start.OwnedBy owner port) :
    start.need? source port = (start.attachment? source port).map (needAt owner) := by
  cases ha : start.attachment? source port with
  | none => simp [need?, ha]
  | some a =>
      have hfound := projectOf?_eq_some_iff.mpr (howned a (ofPort?_of_attachment? ha))
      simp [need?, ha, hfound, needAt]

theorem OwnedBy.need?_iff (howned : start.OwnedBy owner port) :
    start.need? source port = some x ↔
      start.attachment? source port = some x.attachment ∧
        x = needAt owner x.attachment := by
  rw [howned.need?_eq, Option.map_eq_some_iff]
  constructor
  · rintro ⟨a, ha, rfl⟩
    exact ⟨ha, rfl⟩
  · rintro ⟨ha, hx⟩
    exact ⟨x.attachment, ha, hx.symm⟩

/-- Where every network has one owner, what is outstanding is what the listed ports
need. -/
theorem Run.outstanding_iff_listed (hrun : Run (.enabled source) start history s)
    (howned : ∀ port, Listed history port → start.OwnedBy owner port) :
    Outstanding source start history x ↔
      ∃ port ∈ s.corePorts, start.need? source port = some x := by
  induction hrun with
  | start hempty => simp [hempty, not_outstanding_nil]
  | @step history s e hrun hannounced ih =>
      have hearlier : ∀ port, Listed history port → start.OwnedBy owner port :=
        fun port hlisted => howned port (hlisted.append e)
      have hnow : ∀ port ∈ e.ports, start.OwnedBy owner port :=
        fun port hport => howned port (listed_of_mem_ports history hport)
      rw [outstanding_append, ih hearlier, notified_corePorts]
      constructor
      · rintro (⟨port, hcomes, hneed⟩ | ⟨⟨q, hq, hneed⟩, hkept⟩)
        · exact ⟨port, hannounced.mem_iff.mpr (Or.inl hcomes), hneed⟩
        · have howns := hearlier q (hrun.listed hq)
          obtain ⟨ha, hx⟩ := howns.need?_iff.mp hneed
          by_cases hself : q.id = e.notification.port.id
          · rcases hannounced.goes?_or_rebound hrun.unique hq hself with
              hgoes | ⟨p, hcomes, hfields⟩
            · -- The port goes, but it leaves another one that needs the same.
              by_contra hnone
              refine hkept ⟨q, hgoes, hneed, fun p hp hid hpa => hnone ?_⟩
              exact ⟨p, hp, (hnow p hp).need?_iff.mpr ⟨hpa, hx⟩⟩
            · -- The port stays where it was, so that it needs what it needed.
              have hp := hannounced.mem_iff.mpr (Or.inl hcomes)
              refine ⟨p, hp, (hnow p hp).need?_iff.mpr ⟨?_, hx⟩⟩
              rw [attachment?, Attachment.ofPort?_congr hfields, ← attachment?, ha]
          · exact ⟨q, hannounced.mem_iff.mpr (Or.inr ⟨hq, hself⟩), hneed⟩
      · rintro ⟨q, hq, hneed⟩
        rcases hannounced.mem_iff.mp hq with hcomes | ⟨hbefore, hother⟩
        · exact Or.inl ⟨q, hcomes, hneed⟩
        · refine Or.inr ⟨⟨q, hbefore, hneed⟩, ?_⟩
          rintro ⟨gone, -, -, hempty⟩
          exact hempty q hq hother (need?_eq_some_iff.mp hneed).1

/-! ## What is stored -/

/-- The interface of an attachment at which a tagged port is listed, made of what is
known of the network and of the host, for the project that owns the network. -/
def Due (source : LinkSource) (owner : String → Project) (s : Controller)
    (vmi : VirtualMachineInterface) : Prop :=
  ∃ port ∈ s.corePorts, ∃ (a : Attachment) (core : Neutron.Network) (tag : UInt16)
      (network : VirtualNetwork) (profile : Profile),
    (((Integrator.enabled source).isTagged port).run answer s).result = .ok true ∧
    port.networkId = some a.network ∧ port.hostId = some a.host ∧
    Keyed.get? a.network s.coreNetworks = some core ∧ core.vlanTag = some tag ∧
    Keyed.get? a.network s.networks = some network ∧
    ((Profile.ofHost source a.host).run answer s).result = .ok profile ∧
    vmi = stored (.make a.interfaceName network ⟨some tag⟩ profile.pairs
      (owner a.network))

theorem due_iff {vmi : VirtualMachineInterface} :
    s.Due source owner vmi ↔
      ∃ port ∈ s.corePorts, ∃ a, s.attachment? source port = some a ∧
        s.storedOf? source (needAt owner a) = some vmi := by
  constructor
  · rintro ⟨port, hport, a, core, tag, network, profile, htagged, hnetwork, hhost,
      hcore, htag, hvirtual, hprofile, rfl⟩
    obtain ⟨b, hb⟩ := isTagged_iff.mp htagged
    obtain rfl : b = a := attachment_unique hb hnetwork hhost
    refine ⟨port, hport, b, hb, Option.map_eq_some_iff.mpr ⟨_, ?_, rfl⟩⟩
    exact interfaceOf?_eq_some_iff.mpr
      ⟨core, tag, network, profile, hcore, htag, hvirtual, hprofile, rfl⟩
  · rintro ⟨port, hport, a, ha, hstored⟩
    obtain ⟨made, hmade, rfl⟩ := Option.map_eq_some_iff.mp hstored
    obtain ⟨core, tag, network, profile, hcore, htag, hvirtual, hprofile, rfl⟩ :=
      interfaceOf?_eq_some_iff.mp hmade
    obtain ⟨hnetwork, hhost, -⟩ :=
      Attachment.fields_of_ofPort? (ofPort?_of_attachment? ha)
    exact ⟨port, hport, a, core, tag, network, profile, isTagged_iff.mpr ⟨a, ha⟩,
      hnetwork, hhost, hcore, htag, hvirtual, hprofile, rfl⟩

/-- The entries of the store are the interfaces that are due, under their names. -/
theorem Run.mem_vmis_iff (hrun : Run (.enabled source) start history s)
    (hstart : start.vmis = [])
    (hregular : ∀ port, Listed history port → start.Regular port)
    (howned : ∀ port, Listed history port → start.OwnedBy owner port)
    {entry : FqName × VirtualMachineInterface} :
    entry ∈ s.vmis ↔ entry.1 = entry.2.fqName ∧ s.Due source owner entry.2 := by
  have haccounted := hrun.accounted hstart hregular
  have hstored (x : Need) : s.storedOf? source x = start.storedOf? source x := by
    rw [storedOf?, storedOf?,
      interfaceOf?_of_groups haccounted.inventory haccounted.groups]
  have hlisted {port : Neutron.Port} (hport : port ∈ s.corePorts) :=
    howned port (hrun.listed hport)
  rw [haccounted.mem_iff, due_iff]
  constructor
  · rintro ⟨x, howed, hname, hmade⟩
    obtain ⟨port, hport, hneed⟩ := (hrun.outstanding_iff_listed howned).mp howed
    obtain ⟨ha, hx⟩ := (hlisted hport).need?_iff.mp hneed
    obtain ⟨made, hvmi, hentry⟩ := Option.map_eq_some_iff.mp hmade
    have hfqName := fqName_of_interfaceOf? hvmi
    refine ⟨?_, port, hport, x.attachment, ?_, ?_⟩
    · rw [← hentry, ← hname, ← hfqName]
      rfl
    · rw [attachment?_of_inventory haccounted.inventory, ha]
    · rw [← hx, hstored, hmade]
  · rintro ⟨hname, port, hport, a, ha, hmade⟩
    rw [attachment?_of_inventory haccounted.inventory] at ha
    rw [hstored] at hmade
    obtain ⟨made, hvmi, hentry⟩ := Option.map_eq_some_iff.mp hmade
    have hfqName := fqName_of_interfaceOf? hvmi
    refine ⟨needAt owner a, ?_, ?_, hmade⟩
    · exact (hrun.outstanding_iff_listed howned).mpr
        ⟨port, hport, (hlisted hport).need?_iff.mpr ⟨ha, rfl⟩⟩
    · rw [hname, ← hentry, ← hfqName]
      rfl

/-- No two interfaces have one own name, so there is one for each attachment. -/
theorem Run.nodup_names (hrun : Run (.enabled source) start history s)
    (hstart : start.vmis = [])
    (hregular : ∀ port, Listed history port → start.Regular port)
    (howned : ∀ port, Listed history port → start.OwnedBy owner port) :
    (s.vmis.map fun entry => entry.2.name).Nodup := by
  have haccounted := hrun.accounted hstart hregular
  refine List.Nodup.map_on ?_ haccounted.distinct.of_map
  intro first hfirst second hsecond hname
  obtain ⟨x, hx, hxname, hxmade⟩ := haccounted.mem_iff.mp hfirst
  obtain ⟨y, hy, hyname, hymade⟩ := haccounted.mem_iff.mp hsecond
  have hsame : x.attachment = y.attachment := by
    refine Attachment.interfaceName_injective (haccounted.named x hx)
      (haccounted.named y hy) (Option.some.inj ?_)
    rw [← name_of_storedOf? hxmade, hname, name_of_storedOf? hymade]
  have hneedAt (x : Need) (howed : Outstanding source start history x) :
      x = needAt owner x.attachment := by
    obtain ⟨port, hport, hneed⟩ := (hrun.outstanding_iff_listed howned).mp howed
    exact ((howned port (hrun.listed hport)).need?_iff.mp hneed).2
  obtain rfl : x = y := by rw [hneedAt x hx, hneedAt y hy, hsame]
  refine Prod.ext (hxname.symm.trans hyname) ?_
  exact Option.some.inj (hxmade.symm.trans hymade)

/-- Where every network has one owner, nothing is left behind: the interface of an
attachment goes with the last port that is listed there. -/
theorem Run.nothing_left (hrun : Run (.enabled source) start history s)
    (hstart : start.vmis = [])
    (hregular : ∀ port, Listed history port → start.Regular port)
    (howned : ∀ port, Listed history port → start.OwnedBy owner port)
    (ha : '_' ∉ a.network.toList)
    (hempty : ∀ port ∈ s.corePorts, s.attachment? source port ≠ some a) :
    ∀ entry ∈ s.vmis, entry.2.name ≠ some a.interfaceName := by
  intro entry hentry hname
  have hdue := ((hrun.mem_vmis_iff hstart hregular howned).mp hentry).2
  obtain ⟨port, hport, b, hb, hstored⟩ := due_iff.mp hdue
  have hnetwork := ((hregular port (hrun.listed hport)).network_of hb).2
  have hsame : b.interfaceName = a.interfaceName :=
    Option.some.inj ((name_of_storedOf? hstored).symm.trans hname)
  obtain rfl : b = a := Attachment.interfaceName_injective hnetwork ha hsame
  exact hempty port hport hb

/-- Two histories that end in the same list of ports end in the same store, contents
included: the interfaces that are due, one for each attachment of a listed port at which
an interface can be made. -/
theorem store_of_listed_ports (hs : Run (.enabled source) start history s)
    (ht : Run (.enabled source) start other t) (hstart : start.vmis = [])
    (hregular : ∀ port, Listed history port ∨ Listed other port → start.Regular port)
    (howned : ∀ port, Listed history port ∨ Listed other port →
      start.OwnedBy owner port)
    (hports : s.corePorts.Perm t.corePorts) :
    s.vmis.Perm t.vmis ∧
      (∀ entry, entry ∈ s.vmis ↔
        entry.1 = entry.2.fqName ∧ s.Due source owner entry.2) ∧
      (s.vmis.map fun entry => entry.2.name).Nodup := by
  have hregular₁ := fun port h => hregular port (Or.inl h)
  have hregular₂ := fun port h => hregular port (Or.inr h)
  have howned₁ := fun port h => howned port (Or.inl h)
  have howned₂ := fun port h => howned port (Or.inr h)
  have haccounted := hs.accounted hstart hregular₁
  have haccounted' := ht.accounted hstart hregular₂
  have howed (x : Need) : Outstanding source start history x ↔
      Outstanding source start other x := by
    rw [hs.outstanding_iff_listed howned₁, ht.outstanding_iff_listed howned₂]
    simp only [hports.mem_iff]
  refine ⟨?_, fun entry => hs.mem_vmis_iff hstart hregular₁ howned₁,
    hs.nodup_names hstart hregular₁ howned₁⟩
  apply Keyed.perm_of_get?_eq haccounted.distinct haccounted'.distinct
  intro key
  ext vmi
  rw [haccounted.stored_iff, haccounted'.stored_iff]
  simp only [howed]

/-- A port that came and went in between leaves no trace. -/
theorem other_admin_port_leaves_no_trace :
    let history : List Event := [⟨.created Lab.adminPort, [Lab.adminPort]⟩]
    let other : List Event :=
      [⟨.created Lab.otherAdminPort, [Lab.otherAdminPort]⟩,
        ⟨.created Lab.adminPort, [Lab.otherAdminPort, Lab.adminPort]⟩,
        ⟨.deleted Lab.otherAdminPort, [Lab.adminPort]⟩]
    let s := history.foldl (fun s e => s.notified (.enabled Lab.source) e) Lab.start
    let t := other.foldl (fun s e => s.notified (.enabled Lab.source) e) Lab.start
    s.vmis.length = 1 ∧ s.vmis.Perm t.vmis := by
  intro history other s t
  have hs : Run (.enabled Lab.source) Lab.start history s :=
    .step _ (.start rfl) (by decide +kernel)
  have ht : Run (.enabled Lab.source) Lab.start other t :=
    .step _ (.step _ (.step _ (.start rfl) (by decide +kernel)) (by decide +kernel))
      (by decide +kernel)
  have hports : ∀ port, Listed history port ∨ Listed other port →
      port ∈ [Lab.adminPort, Lab.otherAdminPort] := by
    have hlisted : ∀ e ∈ history ++ other, ∀ port ∈ e.ports,
        port ∈ [Lab.adminPort, Lab.otherAdminPort] := by decide +kernel
    rintro port (⟨e, he, hport⟩ | ⟨e, he, hport⟩)
    · exact hlisted e (List.mem_append_left _ he) port hport
    · exact hlisted e (List.mem_append_right _ he) port hport
  have hprojects : ∀ port ∈ [Lab.adminPort, Lab.otherAdminPort],
      port ∈ Lab.ports ∧ Lab.start.projectOf? port = some Lab.admin := by decide +kernel
  have howned : ∀ port, Listed history port ∨ Listed other port →
      Lab.start.OwnedBy (fun _ => Lab.admin) port :=
    fun port h a _ => projectOf?_eq_some_iff.mp (hprojects port (hports port h)).2
  have hstores := store_of_listed_ports hs ht rfl
    (fun port h => Lab.regular (hprojects port (hports port h)).1) howned
    (by decide +kernel)
  exact ⟨by decide +kernel, hstores.1⟩

end VlanBinding.Controller
