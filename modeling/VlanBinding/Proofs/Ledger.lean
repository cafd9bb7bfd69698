import VlanBinding.Proofs.History

/-!
Which interfaces a history leaves behind, in a controller that had none. An interface is there
exactly if a port came that needed it and it was not given up since: it is given up by a port that
needed it and goes while no other port is listed at the attachment, of whatever project.
-/

namespace VlanBinding

open VlanBinding.Fabric VlanBinding.Integration

namespace Integration.Event

variable {source : LinkSource} {start : Controller} {e : Event} {x : Need}

/-- The port that comes needs the interface. -/
def Claims (source : LinkSource) (start : Controller) (e : Event) (x : Need) : Prop :=
  ∃ port, e.notification.comes? = some port ∧ start.need? source port = some x

/-- The port that goes needed the interface, and no other port is listed at the
attachment. -/
def GivesUp (source : LinkSource) (start : Controller) (e : Event) (x : Need) : Prop :=
  ∃ port, e.notification.goes? = some port ∧ start.need? source port = some x ∧
    ∀ q ∈ e.ports, q.id ≠ e.notification.port.id →
      start.attachment? source q ≠ some x.attachment

end Integration.Event

/-- A port came that needed the interface, and it was not given up since. -/
def Outstanding (source : LinkSource) (start : Controller) (history : List Event)
    (x : Need) : Prop :=
  ∃ earlier e later, history = earlier ++ e :: later ∧ e.Claims source start x ∧
    ∀ event ∈ later, ¬ event.GivesUp source start x

section

variable {source : LinkSource} {start : Controller} {history : List Event}
variable {e : Event} {x : Need}

theorem not_outstanding_nil : ¬ Outstanding source start [] x := by
  rintro ⟨earlier, e, later, hsplit, -⟩
  cases earlier <;> cases hsplit

theorem outstanding_append :
    Outstanding source start (history ++ [e]) x ↔
      e.Claims source start x ∨
        Outstanding source start history x ∧ ¬ e.GivesUp source start x := by
  constructor
  · rintro ⟨earlier, event, later, hsplit, hclaims, hlater⟩
    rcases List.eq_nil_or_concat later with rfl | ⟨before, last, rfl⟩
    · obtain ⟨-, hlast⟩ := List.append_inj' hsplit rfl
      obtain rfl : e = event := List.singleton_inj.mp hlast
      exact Or.inl hclaims
    · rw [List.concat_eq_append, ← List.cons_append, ← List.append_assoc] at hsplit
      obtain ⟨rfl, hlast⟩ := List.append_inj' hsplit rfl
      obtain rfl : e = last := List.singleton_inj.mp hlast
      refine Or.inr ⟨⟨earlier, event, before, rfl, hclaims, ?_⟩, hlater e (by simp)⟩
      intro other hother
      exact hlater other (by simp [hother])
  · rintro (hclaims | ⟨⟨earlier, event, later, rfl, hclaims, hlater⟩, hkept⟩)
    · exact ⟨history, e, [], rfl, hclaims, by simp⟩
    · refine ⟨earlier, event, later ++ [e], by simp, hclaims, ?_⟩
      intro other hother
      rcases List.mem_append.mp hother with hother | hother
      · exact hlater other hother
      · rwa [List.mem_singleton.mp hother]

end

namespace Controller

variable {source : LinkSource} {s t start : Controller} {history : List Event}
variable {e : Event} {x : Need}

/-- The interface of a need as it is stored, if it can be made. -/
def storedOf? (source : LinkSource) (x : Need) (s : Controller) :
    Option VirtualMachineInterface :=
  (s.interfaceOf? source x).map stored

/-- The controller holds what is owed, as far as it can be made, and nothing
else. -/
structure Accounted (source : LinkSource) (start : Controller) (owed : Need → Prop)
    (s : Controller) : Prop where
  inventory : s.inventory = start.inventory
  groups : s.groups = start.groups
  distinct : Keyed.DistinctKeys s.vmis
  named : ∀ x, owed x → '_' ∉ x.attachment.network.toList
  stored_iff : ∀ key vmi, Keyed.get? key s.vmis = some vmi ↔
    ∃ x, owed x ∧ x.fqName = key ∧ start.storedOf? source x = some vmi

variable {owed : Need → Prop} {y : Need}

theorem Accounted.of_iff {also : Need → Prop}
    (haccounted : Accounted source start owed s) (hiff : ∀ x, owed x ↔ also x) :
    Accounted source start also s := by
  obtain rfl : owed = also := funext fun x => propext (hiff x)
  exact haccounted

theorem Accounted.listing (haccounted : Accounted source start owed s)
    (ports : List Neutron.Port) : Accounted source start owed (s.listing ports) :=
  ⟨haccounted.inventory, haccounted.groups, haccounted.distinct, haccounted.named,
    haccounted.stored_iff⟩

theorem portGroupBackRefs_of_storedOf? {vmi : VirtualMachineInterface}
    (hvmi : s.storedOf? source x = some vmi) : vmi.portGroupBackRefs = [] := by
  obtain ⟨made, hmade, rfl⟩ := Option.map_eq_some_iff.mp hvmi
  have hrefs := portGroupBackRefs_of_interfaceOf? hmade
  exact hrefs

/-- Nothing that is held is in a port group, so removing it is no more than deleting
it. -/
theorem Accounted.removed_eq (haccounted : Accounted source start owed s)
    (fqName : FqName) : s.removed fqName = s.deleteVmi fqName := by
  apply removed_of_unattached
  intro vmi hvmi
  obtain ⟨x, -, -, hstored⟩ := (haccounted.stored_iff fqName vmi).mp hvmi
  exact portGroupBackRefs_of_storedOf? hstored

/-- What is removed is owed no longer. -/
theorem Accounted.removed (haccounted : Accounted source start owed s)
    (hy : '_' ∉ y.attachment.network.toList) :
    Accounted source start (fun x => owed x ∧ x ≠ y) (s.removed y.fqName) := by
  rw [haccounted.removed_eq]
  constructor
  case inventory => exact haccounted.inventory
  case groups => exact haccounted.groups
  case distinct => exact Keyed.distinctKeys_erase haccounted.distinct y.fqName
  case named => exact fun x hx => haccounted.named x hx.1
  case stored_iff =>
    intro key vmi
    rw [deleteVmi, Keyed.get?_erase]
    by_cases hkey : y.fqName = key
    · simp only [hkey, ↓reduceIte, reduceCtorEq, false_iff]
      rintro ⟨x, ⟨hx, hne⟩, hname, -⟩
      exact hne (Need.fqName_injective (haccounted.named x hx) hy
        (hname.trans hkey.symm))
    · simp only [hkey, ↓reduceIte]
      rw [haccounted.stored_iff]
      constructor
      · rintro ⟨x, hx, hname, hstored⟩
        refine ⟨x, ⟨hx, ?_⟩, hname, hstored⟩
        rintro rfl
        exact hkey hname
      · rintro ⟨x, ⟨hx, -⟩, hname, hstored⟩
        exact ⟨x, hx, hname, hstored⟩

theorem get?_met (key : FqName) (x : Need) (s : Controller) :
    Keyed.get? key (s.met source x).vmis =
      (Keyed.get? key s.vmis).or
        (if x.fqName = key then s.storedOf? source x else none) := by
  rw [met, storedOf?]
  cases hvmi : s.interfaceOf? source x with
  | none => simp
  | some vmi => rw [get?_createVmi, fqName_of_interfaceOf? hvmi, Option.map_some]

/-- Meeting a need adds an entry, or changes nothing. -/
theorem met_frame (source : LinkSource) (x : Need) (s : Controller) :
    (s.met source x).inventory = s.inventory ∧
      (s.met source x).groups = s.groups ∧
      (Keyed.DistinctKeys s.vmis → Keyed.DistinctKeys (s.met source x).vmis) := by
  rw [met]
  cases s.interfaceOf? source x with
  | none => exact ⟨rfl, rfl, id⟩
  | some vmi =>
      simp only
      cases hold : Keyed.get? vmi.fqName s.vmis with
      | some old =>
          rw [createVmi_of_some hold]
          exact ⟨rfl, rfl, id⟩
      | none =>
          rw [createVmi_of_none hold]
          exact ⟨rfl, rfl, fun hdistinct =>
            Keyed.distinctKeys_put hdistinct vmi.fqName (stored vmi)⟩

/-- A need that is met is owed from then on. -/
theorem Accounted.met (haccounted : Accounted source start owed s)
    (hy : '_' ∉ y.attachment.network.toList) :
    Accounted source start (fun x => x = y ∨ owed x) (s.met source y) := by
  have hstored : s.storedOf? source y = start.storedOf? source y := by
    rw [storedOf?, storedOf?,
      interfaceOf?_of_groups haccounted.inventory haccounted.groups]
  obtain ⟨hinventory, hgroups, hdistinct⟩ := met_frame source y s
  constructor
  case inventory => exact hinventory.trans haccounted.inventory
  case groups => exact hgroups.trans haccounted.groups
  case distinct => exact hdistinct haccounted.distinct
  case named =>
    rintro x (rfl | hx)
    · exact hy
    · exact haccounted.named x hx
  case stored_iff =>
    intro key vmi
    rw [get?_met, hstored]
    cases hold : Keyed.get? key s.vmis with
    | some old =>
        obtain ⟨z, hz, hname, hmade⟩ := (haccounted.stored_iff key old).mp hold
        simp only [Option.some_or, Option.some.injEq]
        constructor
        · rintro rfl
          exact ⟨z, Or.inr hz, hname, hmade⟩
        · rintro ⟨x, rfl | hx, hname', hmade'⟩
          · -- What is stored under the name already is the interface of this need.
            obtain rfl : z = x := Need.fqName_injective (haccounted.named z hz) hy
              (hname.trans hname'.symm)
            exact Option.some.inj (hmade.symm.trans hmade')
          · have hsame := (haccounted.stored_iff key vmi).mpr ⟨x, hx, hname', hmade'⟩
            exact Option.some.inj (hold.symm.trans hsame)
    | none =>
        rw [Option.none_or, Option.ite_none_right_eq_some]
        constructor
        · rintro ⟨hname, hmade⟩
          exact ⟨y, Or.inl rfl, hname, hmade⟩
        · rintro ⟨x, rfl | hx, hname, hmade⟩
          · exact ⟨hname, hmade⟩
          · rw [(haccounted.stored_iff key vmi).mpr ⟨x, hx, hname, hmade⟩] at hold
            cases hold

/-! ## What a notification does to the account -/

theorem not_givesUp (hgoes : e.notification.goes? = none) :
    ¬ e.GivesUp source start x := by
  rintro ⟨port, hport, -⟩
  rw [hgoes] at hport
  cases hport

theorem givesUp_iff {port : Neutron.Port} (hgoes : e.notification.goes? = some port)
    (hsame : s.inventory = start.inventory) :
    e.GivesUp source start x ↔
      start.need? source port = some x ∧
        ¬ (s.listing e.ports).occupied source x.attachment
          e.notification.port.id = true := by
  have hlisting : (s.listing e.ports).inventory = start.inventory :=
    (listing_inventory e.ports s).trans hsame
  constructor
  · rintro ⟨other, hother, hneed, hempty⟩
    obtain rfl : port = other := Option.some.inj (hgoes.symm.trans hother)
    refine ⟨hneed, fun hoccupied => ?_⟩
    obtain ⟨q, hq, hid, ha⟩ := occupied_iff.mp hoccupied
    rw [attachment?_of_inventory hlisting] at ha
    exact hempty q hq hid ha
  · rintro ⟨hneed, hfree⟩
    refine ⟨port, hgoes, hneed, fun q hq hid ha => hfree ?_⟩
    rw [← attachment?_of_inventory hlisting] at ha
    exact occupied_iff.mpr ⟨q, hq, hid, ha⟩

/-- A notification gives up one need, which is removed, or none. -/
theorem vacated_cases (hsame : s.inventory = start.inventory) (e : Event) :
    (∀ x, ¬ e.GivesUp source start x) ∧
      (s.listing e.ports).vacated source e.notification = s.listing e.ports ∨
    ∃ y, (∀ x, e.GivesUp source start x ↔ x = y) ∧
      (s.listing e.ports).vacated source e.notification =
        (s.listing e.ports).removed y.fqName := by
  rw [vacated]
  cases hgoes : e.notification.goes? with
  | none => exact Or.inl ⟨fun x => not_givesUp hgoes, rfl⟩
  | some port =>
      have hgives (x : Need) : e.GivesUp source start x ↔ _ :=
        givesUp_iff hgoes hsame
      simp only [departed]
      rw [need?_of_inventory ((listing_inventory e.ports s).trans hsame)]
      cases hneed : start.need? source port with
      | none => exact Or.inl ⟨fun x => by simp [hgives, hneed], rfl⟩
      | some y =>
          by_cases hoccupied : (s.listing e.ports).occupied source y.attachment
              e.notification.port.id = true
          · refine Or.inl ⟨fun x => ?_, by simp only [hoccupied, ↓reduceIte]⟩
            rw [hgives, hneed, Option.some.injEq]
            rintro ⟨rfl, hfree⟩
            exact hfree hoccupied
          · refine Or.inr ⟨y, fun x => ?_, by
              simp only [hoccupied, Bool.false_eq_true, ↓reduceIte]⟩
            rw [hgives, hneed, Option.some.injEq]
            constructor
            · rintro ⟨rfl, -⟩
              rfl
            · rintro rfl
              exact ⟨rfl, hoccupied⟩

theorem not_claims (hcomes : e.notification.comes? = none) :
    ¬ e.Claims source start x := by
  rintro ⟨port, hport, -⟩
  rw [hcomes] at hport
  cases hport

theorem claims_iff {port : Neutron.Port} (hcomes : e.notification.comes? = some port) :
    e.Claims source start x ↔ start.need? source port = some x := by
  constructor
  · rintro ⟨other, hother, hneed⟩
    obtain rfl : port = other := Option.some.inj (hcomes.symm.trans hother)
    exact hneed
  · exact fun hneed => ⟨port, hcomes, hneed⟩

/-- A notification claims one need, which is met, or none. -/
theorem joined_cases (hsame : t.inventory = start.inventory) (e : Event) :
    (∀ x, ¬ e.Claims source start x) ∧ t.joined source e.notification = t ∨
    ∃ y, (∀ x, e.Claims source start x ↔ x = y) ∧
      t.joined source e.notification = t.met source y := by
  rw [joined]
  cases hcomes : e.notification.comes? with
  | none => exact Or.inl ⟨fun x => not_claims hcomes, rfl⟩
  | some port =>
      simp only [arrived]
      rw [need?_of_inventory hsame]
      cases hneed : start.need? source port with
      | none => exact Or.inl ⟨fun x => by simp [claims_iff hcomes, hneed], rfl⟩
      | some y =>
          refine Or.inr ⟨y, fun x => ?_, rfl⟩
          rw [claims_iff hcomes, hneed, Option.some.injEq, eq_comm]

/-- The attachments of regular ports have networks without an underscore. -/
theorem Regular.named {port : Neutron.Port} (hport : start.Regular port)
    (hneed : start.need? source port = some x) :
    '_' ∉ x.attachment.network.toList :=
  (hport.network_of (need?_eq_some_iff.mp hneed).1).2

theorem Accounted.notified (haccounted : Accounted source start owed s)
    (hgoes : ∀ port, e.notification.goes? = some port → start.Regular port)
    (hcomes : ∀ port, e.notification.comes? = some port → start.Regular port) :
    Accounted source start
      (fun x => e.Claims source start x ∨ owed x ∧ ¬ e.GivesUp source start x)
      (s.notified (.enabled source) e) := by
  -- First the port that goes is taken off the account, then the one that comes is
  -- entered.
  rw [notified_eq haccounted.inventory hgoes]
  have hvacated : Accounted source start
      (fun x => owed x ∧ ¬ e.GivesUp source start x)
      ((s.listing e.ports).vacated source e.notification) := by
    rcases vacated_cases haccounted.inventory e with ⟨hnone, heq⟩ | ⟨y, hgives, heq⟩
    · rw [heq]
      exact (haccounted.listing e.ports).of_iff fun x => by simp [hnone x]
    · obtain ⟨port, hport, hneed, -⟩ := (hgives y).mpr rfl
      rw [heq]
      exact ((haccounted.listing e.ports).removed ((hgoes port hport).named hneed)).of_iff
        fun x => by rw [hgives]
  rcases joined_cases hvacated.inventory e with ⟨hnone, heq⟩ | ⟨y, hclaims, heq⟩
  · rw [heq]
    exact hvacated.of_iff fun x => by simp [hnone x]
  · obtain ⟨port, hport, hneed⟩ := (hclaims y).mpr rfl
    rw [heq]
    exact (hvacated.met ((hcomes port hport).named hneed)).of_iff
      fun x => by rw [hclaims]

/-- In a controller that had no interfaces, what is outstanding is accounted for after
every notification. -/
theorem Run.accounted (hrun : Run (.enabled source) start history s)
    (hstart : start.vmis = [])
    (hregular : ∀ port, Listed history port → start.Regular port) :
    Accounted source start (Outstanding source start history) s := by
  induction hrun with
  | start hempty =>
      constructor
      case inventory => rfl
      case groups => rfl
      case distinct => simp [hstart, Keyed.DistinctKeys]
      case named => exact fun x hx => absurd hx not_outstanding_nil
      case stored_iff =>
        intro key vmi
        simp [hstart, not_outstanding_nil]
  | @step history s e hrun hannounced ih =>
      have hearlier : ∀ port, Listed history port → start.Regular port :=
        fun port hlisted => hregular port (hlisted.append e)
      have hgoes : ∀ port, e.notification.goes? = some port → start.Regular port := by
        intro port hport
        exact hearlier port (hrun.listed (hannounced.mem_of_goes? hport).1)
      have hcomes : ∀ port, e.notification.comes? = some port →
          start.Regular port := by
        intro port hport
        have hmem := hannounced.mem_iff.mpr (Or.inl hport)
        exact hregular port (listed_of_mem_ports history hmem)
      exact ((ih hearlier).notified hgoes hcomes).of_iff
        fun x => outstanding_append.symm

theorem Accounted.mem_iff (haccounted : Accounted source start owed s)
    {entry : FqName × VirtualMachineInterface} :
    entry ∈ s.vmis ↔ ∃ x, owed x ∧ x.fqName = entry.1 ∧
      start.storedOf? source x = some entry.2 := by
  rw [Keyed.mem_iff_get? haccounted.distinct, haccounted.stored_iff]

theorem name_of_storedOf? {vmi : VirtualMachineInterface}
    (hvmi : s.storedOf? source x = some vmi) :
    vmi.name = some x.attachment.interfaceName := by
  obtain ⟨made, hmade, rfl⟩ := Option.map_eq_some_iff.mp hvmi
  change made.fqName.getLast? = _
  rw [fqName_of_interfaceOf? hmade, Need.fqName, List.getLast?_concat]

/-- The exact condition under which no interface of an attachment is left, in any
project: whatever is outstanding there cannot be made. Where it can be made though no port
is listed at the attachment any more, it is left behind: the last port that needed it
went while a port of another project was listed there, or changed its project. -/
theorem no_interface_left_iff (hrun : Run (.enabled source) start history s)
    (hstart : start.vmis = [])
    (hregular : ∀ port, Listed history port → start.Regular port)
    {a : Attachment} (ha : '_' ∉ a.network.toList) :
    (∀ entry ∈ s.vmis, entry.2.name ≠ some a.interfaceName) ↔
      ∀ owner, Outstanding source start history ⟨owner, a⟩ →
        start.interfaceOf? source ⟨owner, a⟩ = none := by
  have haccounted := hrun.accounted hstart hregular
  constructor
  · intro hleft owner howed
    cases hmade : start.interfaceOf? source ⟨owner, a⟩ with
    | none => rfl
    | some vmi =>
        have hstored : start.storedOf? source ⟨owner, a⟩ = some (stored vmi) := by
          rw [storedOf?, hmade, Option.map_some]
        have hmem : (Need.fqName ⟨owner, a⟩, stored vmi) ∈ s.vmis :=
          haccounted.mem_iff.mpr ⟨_, howed, rfl, hstored⟩
        exact absurd (name_of_storedOf? hstored) (hleft _ hmem)
  · intro hnone entry hentry hname
    obtain ⟨⟨owner, b⟩, howed, -, hstored⟩ := haccounted.mem_iff.mp hentry
    have hsame := (name_of_storedOf? hstored).symm.trans hname
    obtain rfl : b = a := Attachment.interfaceName_injective
      (haccounted.named _ howed) ha (Option.some.inj hsame)
    rw [storedOf?, hnone owner howed] at hstored
    cases hstored

/-- Nothing is left of the only port that there was. -/
theorem nothing_left_of_admin_port :
    let history : List Event :=
      [⟨.created Lab.adminPort, [Lab.adminPort]⟩, ⟨.deleted Lab.adminPort, []⟩]
    let s := history.foldl (fun s e => s.notified (.enabled Lab.source) e) Lab.start
    Run (.enabled Lab.source) Lab.start history s ∧
      ∀ owner, Outstanding Lab.source Lab.start history ⟨owner, "net-1", "compute1"⟩ →
        Lab.start.interfaceOf? Lab.source ⟨owner, "net-1", "compute1"⟩ = none := by
  intro history s
  have hrun : Run (.enabled Lab.source) Lab.start history s :=
    .step _ (.step _ (.start rfl) (by decide +kernel)) (by decide +kernel)
  exact ⟨hrun, (no_interface_left_iff hrun rfl (Lab.regular_of_listed
    (by decide +kernel)) (by decide)).mp (by decide +kernel)⟩

/-- Ports of two projects at one attachment: the one that goes first leaves its
interface to the other one, which takes only its own along. -/
theorem admin_interface_left_behind :
    ¬ ∀ history s, Run (.enabled Lab.source) Lab.start history s →
      (∀ port, Listed history port → Lab.start.Regular port) →
      ∀ a : Attachment, '_' ∉ a.network.toList →
        (∀ port ∈ s.corePorts, s.attachment? Lab.source port ≠ some a) →
        ∀ entry ∈ s.vmis, entry.2.name ≠ some a.interfaceName := by
  intro hclaim
  let history : List Event :=
    [⟨.created Lab.adminPort, [Lab.adminPort]⟩,
      ⟨.created Lab.demoPort, [Lab.adminPort, Lab.demoPort]⟩,
      ⟨.deleted Lab.adminPort, [Lab.demoPort]⟩,
      ⟨.deleted Lab.demoPort, []⟩]
  let s := history.foldl (fun s e => s.notified (.enabled Lab.source) e) Lab.start
  have hrun : Run (.enabled Lab.source) Lab.start history s :=
    .step _ (.step _ (.step _ (.step _ (.start rfl) (by decide +kernel))
      (by decide +kernel)) (by decide +kernel)) (by decide +kernel)
  have hgone : ∀ entry ∈ s.vmis, entry.2.name ≠ some Lab.place.interfaceName :=
    hclaim history s hrun (Lab.regular_of_listed (by decide +kernel)) Lab.place (by decide)
      (by decide +kernel)
  have hleft : ∃ entry ∈ s.vmis, entry.2.name = some Lab.place.interfaceName := by
    decide +kernel
  obtain ⟨entry, hentry, hname⟩ := hleft
  exact hgone entry hentry hname

end Controller

end VlanBinding
