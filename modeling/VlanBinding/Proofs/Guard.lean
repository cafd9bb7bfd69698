import VlanBinding.Proofs.Calls
import VlanBinding.Proofs.History

/-!
An interface that another port needs, when calls to the controller and to Neutron may fail one by
one. Before it takes the interface of a port away, the handling of a notification has asked about
every other port that Neutron lists there whether its host is managed. An answer that says so keeps
the interface; only a question that the controller failed to answer lets it go.
-/

namespace VlanBinding

open VlanBinding.Fabric VlanBinding.Integration

namespace Integration

variable {σ : Type} {respond : Responder σ} {source : LinkSource}

namespace LinkSource

/-- The source of links knows the host, as far as these exchanges tell. -/
def Knows (host : String) (exchanges : List Exchange) : LinkSource → Prop
  | document index => (index.node? host).isSome = true
  | controller => (⟨.readNode host, .ok none⟩ : Exchange) ∉ exchanges

/-- In these exchanges the host was not found: the source does not know it, or failed
to look it up. -/
def Misses (host : String) (exchanges : List Exchange) : LinkSource → Prop
  | document index => index.node? host = none
  | controller =>
      ∃ answer, (answer = .ok none ∨ ∃ e, answer = .error e) ∧
        (⟨.readNode host, answer⟩ : Exchange) ∈ exchanges

theorem Misses.mono {host : String} {xs ys : List Exchange} (hxs : source.Misses host xs)
    (hsub : xs ⊆ ys) : source.Misses host ys := by
  cases source with
  | document index => exact hxs
  | controller =>
      obtain ⟨answer, hanswer, hmem⟩ := hxs
      exact ⟨answer, hanswer, hsub hmem⟩

/-- A host that is known was not found because a lookup failed. -/
theorem Misses.failed {host : String} {xs ys : List Exchange}
    (hmisses : source.Misses host xs) (hknows : source.Knows host ys) (hsub : xs ⊆ ys) :
    source = .controller ∧ ∃ e, (⟨.readNode host, .error e⟩ : Exchange) ∈ xs := by
  cases source with
  | document index =>
      rw [Knows, hmisses] at hknows
      cases hknows
  | controller =>
      obtain ⟨answer, rfl | ⟨e, rfl⟩, hmem⟩ := hmisses
      · exact absurd (hsub hmem) hknows
      · exact ⟨rfl, e, hmem⟩

theorem misses_of_contains {host : String} {s : σ}
    (hresult : ((source.contains host).run respond s).result = .ok false) :
    source.Misses host ((source.contains host).run respond s).exchanges := by
  cases source with
  | document index =>
      have hnone : (index.node? host).isSome = false := Except.ok.inj hresult
      exact Option.not_isSome_iff_eq_none.mp (by simp [hnone])
  | controller =>
      refine ⟨(respond (.readNode host) s).1, ?_, List.mem_cons_self⟩
      change (((Plan.call (.readNode host) _).run respond s).result = _) at hresult
      rw [Plan.run_call] at hresult
      cases hanswer : (respond (.readNode host) s).1 with
      | error e => exact Or.inr ⟨e, rfl⟩
      | ok found =>
          rw [hanswer] at hresult
          cases found with
          | none => exact Or.inl rfl
          | some node => cases hresult

end LinkSource

namespace Integrator

variable {port other gone : Neutron.Port} {b : Attachment} {ports : List Neutron.Port}
variable {network host id : String} {s : σ}

theorem managed?_misses (hneeds : Attachment.ofPort? other = some b)
    (hresult : ((managed? source other).run respond s).result = .ok none) :
    source.Misses b.host ((managed? source other).run respond s).exchanges := by
  simp only [managed?, hneeds] at hresult ⊢
  obtain ⟨known, hknown, hrest, hexchanges⟩ := Plan.run_bind_eq_ok hresult
  rw [hexchanges]
  cases known with
  | true => cases hrest
  | false =>
      exact (LinkSource.misses_of_contains hknown).mono (List.subset_append_left _ _)

theorem isTagged_misses (hneeds : Attachment.ofPort? other = some b)
    (hresult : (((enabled source).isTagged other).run respond s).result = .ok false) :
    source.Misses b.host (((enabled source).isTagged other).run respond s).exchanges := by
  rw [isTagged] at hresult ⊢
  obtain ⟨found, hfound, hrest, hexchanges⟩ := Plan.run_bind_eq_ok hresult
  rw [hexchanges]
  cases found with
  | some a => cases hrest
  | none =>
      exact (managed?_misses hneeds hfound).mono (List.subset_append_left _ _)

/-- Ports are not needed only after each of them was not found to be on a managed
host. -/
theorem anyTagged_misses (hother : other ∈ ports)
    (hneeds : Attachment.ofPort? other = some b)
    (hresult : (((enabled source).anyTagged ports).run respond s).result = .ok false) :
    source.Misses b.host
      (((enabled source).anyTagged ports).run respond s).exchanges := by
  induction ports generalizing s with
  | nil => cases hother
  | cons port rest ih =>
      rw [anyTagged] at hresult ⊢
      obtain ⟨tagged, htagged, hrest, hexchanges⟩ := Plan.run_bind_eq_ok hresult
      rw [hexchanges]
      cases tagged with
      | true => cases hrest
      | false =>
          rcases List.mem_cons.mp hother with rfl | hother
          · exact (isTagged_misses hneeds htagged).mono (List.subset_append_left _ _)
          · exact (ih hother hrest).mono (List.subset_append_right _ _)

/-- The only list of ports that the guard reads is the one that it goes by. -/
theorem neededByOther_misses
    (hlisted : (⟨.getPorts network host, .ok ports⟩ : Exchange) ∈
      (((enabled source).neededByOther gone id).run respond s).exchanges)
    (hother : other ∈ ports) (hid : other.id ≠ id)
    (hneeds : Attachment.ofPort? other = some b)
    (hresult : (((enabled source).neededByOther gone id).run respond s).result =
      .ok false) :
    source.Misses b.host
      (((enabled source).neededByOther gone id).run respond s).exchanges := by
  rcases neededByOther_cases (enabled source) gone id with hplan | ⟨network', host', hplan⟩
  · rw [hplan] at hlisted
    cases hlisted
  · rw [hplan] at hlisted hresult ⊢
    obtain ⟨found, hfound, hrest, hexchanges⟩ := Plan.run_bind_eq_ok hresult
    rw [hexchanges] at hlisted ⊢
    have hown : ports = found := by
      rcases List.mem_append.mp hlisted with hask | hlater
      · obtain hsame := List.mem_singleton.mp hask
        have hanswer : (respond (.getPorts network' host') s).1 = .ok found := hfound
        rw [hanswer] at hsame
        cases hsame
        rfl
      · have hnodes : ∀ ports, ((enabled source).anyTagged ports).Within
            fun c => c.listsPorts = false := anyTagged_within (fun _ => rfl) _
        cases (hnodes _).of_mem_exchanges hlater
    subst hown
    refine (anyTagged_misses ?_ hneeds hrest).mono (List.subset_append_right _ _)
    exact List.mem_filter.mpr ⟨hother, by simpa using hid⟩

/-- Whatever follows the guard, an interface is only taken away after each of the other
ports was not found to be on a managed host. -/
theorem removal_misses {f : Bool → Plan Unit} {earlier later : List Exchange}
    {x : Exchange} (hkeep : (f true).Within fun c => c.isRemoval = false)
    (hgo : (f false).Within fun c => c.listsPorts = false)
    (hlisted : (⟨.getPorts network host, .ok ports⟩ : Exchange) ∈
      (((enabled source).neededByOther gone id >>= f).run respond s).exchanges)
    (hother : other ∈ ports) (hid : other.id ≠ id)
    (hneeds : Attachment.ofPort? other = some b)
    (hsplit : (((enabled source).neededByOther gone id >>= f).run respond s).exchanges =
      earlier ++ x :: later) (hremoval : x.call.isRemoval = true) :
    source.Misses b.host earlier := by
  -- the guard takes nothing away, so the removal comes after all that the guard asked
  have hreads : ((enabled source).neededByOther gone id).Within
      fun c => c.isRemoval = false :=
    neededByOther_within (fun _ => rfl) (fun _ _ => rfl) _ _ _
  have hguard : x ∉ (((enabled source).neededByOther gone id).run respond s).exchanges := by
    intro hx
    have hkept := hreads.of_mem_exchanges hx
    rw [hkept] at hremoval
    cases hremoval
  have hx : x ∈ (((enabled source).neededByOther gone id >>= f).run respond s).exchanges := by
    simp [hsplit]
  rcases Plan.exchanges_bind ((enabled source).neededByOther gone id) f s with
    ⟨e, -, hexchanges⟩ | ⟨needed, hneeded, -, hexchanges⟩
  · rw [hexchanges] at hx
    exact absurd hx hguard
  · rw [hexchanges] at hx hlisted hsplit
    cases needed with
    | true =>
        have hafter := (List.mem_append.mp hx).resolve_left hguard
        rw [hkeep.of_mem_exchanges hafter] at hremoval
        cases hremoval
    | false =>
        have hmisses := neededByOther_misses
          ((List.mem_append.mp hlisted).resolve_right fun hafter => by
            cases hgo.of_mem_exchanges hafter) hother hid hneeds hneeded
        refine hmisses.mono ?_
        rcases List.append_eq_append_iff.mp hsplit with
          ⟨between, rfl, -⟩ | ⟨between, hwhole, hrest⟩
        · exact List.subset_append_left _ _
        · cases between with
          | nil => simp [hwhole]
          | cons y between =>
              obtain ⟨rfl, -⟩ := List.cons.inj hrest
              exact absurd (by simp [hwhole]) hguard

theorem sync_within (i : Integrator) (port previous : Neutron.Port) :
    (i.sync port previous).Within fun c => c.listsPorts = false := by
  have hcreate := (create_within i port).mono fun c hc => hc.2
  rw [sync]
  split
  · trivial
  · split
    · exact hcreate
    · exact ((remove_within i previous).mono fun c hc => hc.2).bind fun _ => hcreate

/-- When a port goes, the guard comes first. -/
theorem handle_of_goes? (source : LinkSource) {n : Notification}
    (hgoes : n.goes? = some gone) :
    ∃ f : Bool → Plan Unit,
      (enabled source).handle n = (enabled source).neededByOther gone n.port.id >>= f ∧
      ((f true).Within fun c => c.isRemoval = false) ∧
      (f false).Within fun c => c.listsPorts = false := by
  cases n with
  | created port => cases hgoes
  | updated port previous =>
      simp only [Notification.goes?, Option.ite_none_left_eq_some, Option.some.injEq]
        at hgoes
      obtain ⟨hfields, rfl⟩ := hgoes
      refine ⟨fun needed => if needed = true then (enabled source).create port
        else (enabled source).sync port previous, ?_, ?_, ?_⟩
      · simp [handle, isEnabled, hfields, Notification.port]
      · exact (create_within (enabled source) port).mono fun c hc => hc.1
      · exact sync_within (enabled source) port previous
  | deleted port =>
      obtain rfl : port = gone := Option.some.inj hgoes
      refine ⟨fun needed => if needed = true then pure () else (enabled source).remove port,
        rfl, trivial, ?_⟩
      exact (remove_within (enabled source) port).mono fun c hc => hc.2

end Integrator

end Integration

/-! ## A lookup that fails -/

namespace Lab

/-- A port is gone, and its interface is left to another port. -/
def shared : Controller :=
  (live.notified (.enabled .controller) ⟨.created adminPort, [adminPort]⟩).listing
    [otherAdminPort]

/-- The notification that the port is gone, when the first lookup of a node fails. -/
def lostLookup : Outcome Unit (List Bool × Controller) :=
  ((Integrator.enabled .controller).handle (.deleted adminPort)).run flaky
    ([false, true], shared)

theorem otherAdminPort_attachment : Attachment.ofPort? otherAdminPort = some place := by
  decide +kernel

theorem lostLookup_listed :
    ∃ ports, (⟨.getPorts "net-1" "compute1", .ok ports⟩ : Exchange) ∈ lostLookup.exchanges ∧
      otherAdminPort ∈ ports :=
  ⟨shared.portsOf "net-1" "compute1", List.mem_cons_self, by decide +kernel⟩

/-- Was a node looked up that is not there? -/
def lacksNode : Exchange → Bool
  | ⟨.readNode _, .ok none⟩ => true
  | _ => false

theorem lostLookup_knows :
    LinkSource.Knows "compute1" lostLookup.exchanges .controller := by
  intro hmissing
  have hfound : ∀ x ∈ lostLookup.exchanges, lacksNode x = false := by decide +kernel
  cases hfound _ hmissing

end Lab

namespace Integration.Integrator

variable {σ : Type} {gone other : Neutron.Port} {b : Attachment} {ports : List Neutron.Port}
variable {network host : String}

/-- An interface that another port needs is only taken away after the controller failed
to tell whether it knows the host of that port. -/
theorem removal_follows_failed_lookup (respond : Responder σ) (source : LinkSource)
    (n : Notification) (s : σ) {earlier later : List Exchange} {x : Exchange}
    (hgoes : n.goes? = some gone)
    (hlisted : (⟨.getPorts network host, .ok ports⟩ : Exchange) ∈
      (((enabled source).handle n).run respond s).exchanges)
    (hother : other ∈ ports) (hid : other.id ≠ n.port.id)
    (hneeds : Attachment.ofPort? other = some b)
    (hknows : source.Knows b.host (((enabled source).handle n).run respond s).exchanges)
    (hsplit : (((enabled source).handle n).run respond s).exchanges =
      earlier ++ x :: later) (hremoval : x.call.isRemoval = true) :
    source = .controller ∧ ∃ e, (⟨.readNode b.host, .error e⟩ : Exchange) ∈ earlier := by
  obtain ⟨f, hplan, hkeep, hgo⟩ := handle_of_goes? source hgoes
  rw [hplan] at hlisted hknows hsplit
  have hmisses := removal_misses hkeep hgo hlisted hother hid hneeds hsplit hremoval
  exact hmisses.failed hknows (hsplit ▸ List.subset_append_left _ _)

/-- The lookup that failed was made for the port that still needs the interface. -/
theorem lost_lookup_precedes_removal :
    ∃ earlier x later, Lab.lostLookup.exchanges = earlier ++ x :: later ∧
      x.call.isRemoval = true ∧
      ∃ e, (⟨.readNode "compute1", .error e⟩ : Exchange) ∈ earlier := by
  obtain ⟨x, hx, hremoval⟩ :
      ∃ x ∈ Lab.lostLookup.exchanges, x.call.isRemoval = true := by decide +kernel
  obtain ⟨earlier, later, hsplit⟩ := List.append_of_mem hx
  obtain ⟨ports, hlisted, hother⟩ := Lab.lostLookup_listed
  have hfailed := removal_follows_failed_lookup Lab.flaky .controller
    (.deleted Lab.adminPort) ([false, true], Lab.shared) rfl hlisted hother
    (by decide) Lab.otherAdminPort_attachment Lab.lostLookup_knows hsplit hremoval
  exact ⟨earlier, x, later, hsplit, hremoval, hfailed.2⟩

/-- The interface of a port is taken away although another port needs it. -/
theorem needed_interface_removed :
    ¬ ∀ (marks : List Bool) (n : Notification) (s : Controller) (gone other : Neutron.Port)
      (b : Attachment) (ports : List Neutron.Port) (network host : String),
      let run := ((enabled .controller).handle n).run Lab.flaky (marks, s)
      n.goes? = some gone →
      (⟨.getPorts network host, .ok ports⟩ : Exchange) ∈ run.exchanges →
      other ∈ ports → other.id ≠ n.port.id → Attachment.ofPort? other = some b →
      LinkSource.Knows b.host run.exchanges .controller →
      ∀ x ∈ run.exchanges, x.call.isRemoval = false := by
  intro hclaim
  obtain ⟨x, hx, hremoval⟩ :
      ∃ x ∈ Lab.lostLookup.exchanges, x.call.isRemoval = true := by decide +kernel
  obtain ⟨ports, hlisted, hother⟩ := Lab.lostLookup_listed
  have hkept := hclaim [false, true] (.deleted Lab.adminPort) Lab.shared Lab.adminPort
    Lab.otherAdminPort Lab.place ports "net-1" "compute1" rfl hlisted hother (by decide)
    Lab.otherAdminPort_attachment Lab.lostLookup_knows x hx
  rw [hremoval] at hkept
  cases hkept

end Integration.Integrator

end VlanBinding
