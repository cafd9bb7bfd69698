import VlanBinding.Integration.Notification
import VlanBinding.Proofs.Controller

/-!
What the integration finds out from a controller in memory that answers every call: the attachment
of a port, the other ports that share it, and the project that the port belongs to.
-/

namespace VlanBinding

open VlanBinding.Fabric VlanBinding.Integration

/-- A port that makes an attachment is bound to its network and its host. -/
theorem Integration.Attachment.fields_of_ofPort? {port : Neutron.Port}
    {a : Attachment} (ha : Attachment.ofPort? port = some a) :
    port.networkId = some a.network ∧ port.hostId = some a.host ∧ a.host ≠ "" := by
  simp only [Attachment.ofPort?] at ha
  split at ha
  · split at ha
    · rename_i hbound
      obtain rfl : _ = a := Option.some.inj ha
      exact ⟨by assumption, by assumption, hbound.1⟩
    · cases ha
  · cases ha

/-- Ports that are bound alike make the same attachment. -/
theorem Integration.Attachment.ofPort?_congr {p q : Neutron.Port}
    (hfields : p.bindingFields = q.bindingFields) : ofPort? p = ofPort? q := by
  simp only [Neutron.Port.bindingFields, List.cons.injEq, and_true] at hfields
  obtain ⟨hhost, hdevice, howner, hnetwork⟩ := hfields
  simp only [ofPort?, hhost, hdevice, howner, hnetwork]

/-- Can the source of links still tell which hosts it knows? -/
def Failures.sees (failures : Failures) : LinkSource → Bool
  | .document _ => true
  | .controller => (failures.text? (.readNode "")).isNone

theorem Failures.sees_nil (source : LinkSource) : Failures.sees [] source = true := by
  cases source <;> rfl

namespace Controller

variable {source : LinkSource} {s t : Controller}

/-! ## Attachments -/

/-- Does the source of links know the host? -/
def knows (source : LinkSource) (host : String) (s : Controller) : Bool :=
  match source with
  | .document index => (index.node? host).isSome
  | .controller => (Keyed.get? host s.nodes).isSome

/-- The attachment of a port, if its host is managed. -/
def attachment? (source : LinkSource) (port : Neutron.Port) (s : Controller) :
    Option Attachment :=
  (Attachment.ofPort? port).filter fun a => s.knows source a.host

/-- Asking about a host never fails; a controller that fails to read its nodes
seems to know none. -/
theorem perform_contains (failures : Failures) (source : LinkSource) (host : String)
    (s : Controller) :
    (source.contains host).perform (respond failures) s =
      (.ok (failures.sees source && s.knows source host), s) := by
  cases source with
  | document index => rfl
  | controller =>
      have hread : (Plan.ask (.readNode host)).attempt.perform
          (respond failures) s = _ := Plan.perform_attempt _ s
      rw [LinkSource.contains]
      rcases respond_cases failures (.readNode host) s with
        ⟨text, htext, hrespond⟩ | ⟨htext, hrespond⟩
      · rw [Plan.perform_ask, hrespond] at hread
        have hblind : failures.sees .controller = false := by
          change (failures.text? (.readNode host)).isNone = false
          rw [htext]
          rfl
        rw [Plan.perform_bind_ok hread, hblind]
        rfl
      · rw [Plan.perform_ask, hrespond] at hread
        have hsees : failures.sees .controller = true := by
          change (failures.text? (.readNode host)).isNone = true
          rw [htext]
          rfl
        rw [Plan.perform_bind_ok hread, hsees]
        rfl

theorem perform_managed? (failures : Failures) (source : LinkSource)
    (port : Neutron.Port) (s : Controller) :
    (Integrator.managed? source port).perform (respond failures) s =
      (.ok (if failures.sees source then s.attachment? source port else none),
        s) := by
  rw [Integrator.managed?, attachment?]
  cases Attachment.ofPort? port with
  | none => simp
  | some a =>
      simp only
      rw [Plan.perform_bind_ok (perform_contains failures source a.host s),
        Option.filter_some]
      cases failures.sees source <;> cases s.knows source a.host <;> rfl

theorem perform_managed?_of_sees {failures : Failures}
    (hsees : failures.sees source = true) (port : Neutron.Port) (s : Controller) :
    (Integrator.managed? source port).perform (respond failures) s =
      (.ok (s.attachment? source port), s) := by
  rw [perform_managed?, hsees]
  rfl

theorem perform_isTagged (failures : Failures) (source : LinkSource)
    (port : Neutron.Port) (s : Controller) :
    ((Integrator.enabled source).isTagged port).perform (respond failures) s =
      (.ok (failures.sees source && (s.attachment? source port).isSome), s) := by
  rw [Integrator.isTagged,
    Plan.perform_bind_ok (perform_managed? failures source port s)]
  cases failures.sees source <;> rfl

theorem knows_of_inventory (hsame : s.inventory = t.inventory) (host : String) :
    s.knows source host = t.knows source host := by
  have hinventory (s : Controller) :
      s.inventory.knows source host = s.knows source host := by
    cases source <;> rfl
  rw [← hinventory s, hsame, hinventory t]

theorem attachment?_of_inventory (hsame : s.inventory = t.inventory)
    (port : Neutron.Port) :
    s.attachment? source port = t.attachment? source port := by
  simp only [attachment?, knows_of_inventory hsame]

theorem ofPort?_of_attachment? {port : Neutron.Port} {a : Attachment}
    (ha : s.attachment? source port = some a) :
    Attachment.ofPort? port = some a :=
  (Option.filter_eq_some_iff.mp ha).1

/-- The network and the host of a port tell its attachment. -/
theorem attachment_unique {port : Neutron.Port} {a b : Attachment}
    (ha : s.attachment? source port = some a) (hnetwork : port.networkId = some b.network)
    (hhost : port.hostId = some b.host) : a = b := by
  obtain ⟨hnetwork', hhost', -⟩ :=
    Attachment.fields_of_ofPort? (ofPort?_of_attachment? ha)
  have hsame := Option.some.inj (hnetwork'.symm.trans hnetwork)
  have hsame' := Option.some.inj (hhost'.symm.trans hhost)
  cases a
  cases b
  simp only [Attachment.mk.injEq]
  exact ⟨hsame, hsame'⟩

/-! ## Ports at one attachment -/

/-- Is a port other than the one of this id listed at the attachment? -/
def occupied (source : LinkSource) (a : Attachment) (id : String)
    (s : Controller) : Bool :=
  s.corePorts.any fun other =>
    other.id ≠ id && s.attachment? source other = some a

theorem occupied_iff {a : Attachment} {id : String} :
    s.occupied source a id = true ↔
      ∃ other ∈ s.corePorts, other.id ≠ id ∧
        s.attachment? source other = some a := by
  simp [occupied]

theorem perform_anyTagged (failures : Failures) (source : LinkSource)
    (ports : List Neutron.Port) (s : Controller) :
    ((Integrator.enabled source).anyTagged ports).perform (respond failures) s =
      (.ok (failures.sees source &&
        ports.any fun port => (s.attachment? source port).isSome), s) := by
  induction ports with
  | nil =>
      rw [List.any_nil, Bool.and_false]
      rfl
  | cons port rest ih =>
      rw [Integrator.anyTagged,
        Plan.perform_bind_ok (perform_isTagged failures source port s),
        List.any_cons, Bool.and_or_distrib_left]
      cases failures.sees source && (s.attachment? source port).isSome with
      | true => rfl
      | false => exact ih

theorem mem_portsOf {network host : String} {port : Neutron.Port} :
    port ∈ s.portsOf network host ↔
      port ∈ s.corePorts ∧ port.networkId = some network ∧
        port.hostId = some host := by
  simp [portsOf]

/-- The tagged ports that Neutron lists for a network and a host are those at
the attachment of both. -/
theorem any_portsOf (a : Attachment) (id : String) (s : Controller) :
    ((s.portsOf a.network a.host).filter (·.id ≠ id)).any
        (fun port => (s.attachment? source port).isSome) =
      s.occupied source a id := by
  rw [Bool.eq_iff_iff, occupied_iff, List.any_eq_true]
  constructor
  · rintro ⟨other, hother, hsome⟩
    simp only [List.mem_filter, mem_portsOf, decide_eq_true_eq] at hother
    obtain ⟨b, hb⟩ := Option.isSome_iff_exists.mp hsome
    have hba := attachment_unique hb hother.1.2.1 hother.1.2.2
    exact ⟨other, hother.1.1, hother.2, hba ▸ hb⟩
  · rintro ⟨other, hmem, hid, ha⟩
    have hfields := Attachment.fields_of_ofPort? (ofPort?_of_attachment? ha)
    refine ⟨other, ?_, by simp [ha]⟩
    simp only [List.mem_filter, mem_portsOf, decide_eq_true_eq]
    exact ⟨⟨hmem, hfields.1, hfields.2.1⟩, hid⟩

/-- Does Neutron list a tagged port other than the one of this id for the network
and the host of the port? -/
def needed (source : LinkSource) (port : Neutron.Port) (id : String)
    (s : Controller) : Bool :=
  match port.networkId, port.hostId with
  | some network, some host =>
    if network = "" ∨ host = "" then false
    else ((s.portsOf network host).filter (·.id ≠ id)).any
      fun other => (s.attachment? source other).isSome
  | _, _ => false

/-- The guard fails when Neutron's list cannot be had, and not for any other
reason. -/
theorem perform_neededByOther (failures : Failures) (source : LinkSource)
    (port : Neutron.Port) (id : String) (s : Controller) :
    (∃ text e, failures.text? (.getPorts "" "") = some text ∧
      ((Integrator.enabled source).neededByOther port id).perform
        (respond failures) s = (.error e, s)) ∨
    ((Integrator.enabled source).neededByOther port id).perform
      (respond failures) s =
        (.ok (failures.sees source && s.needed source port id), s) := by
  cases hnetwork : port.networkId with
  | none => exact Or.inr (by simp [Integrator.neededByOther, needed, hnetwork])
  | some network =>
      cases hhost : port.hostId with
      | none =>
          exact Or.inr (by simp [Integrator.neededByOther, needed, hnetwork, hhost])
      | some host =>
          simp only [Integrator.neededByOther, needed, hnetwork, hhost]
          by_cases hempty : network = "" ∨ host = ""
          · exact Or.inr (by simp [hempty])
          · simp only [hempty, ↓reduceIte]
            rcases respond_cases failures (.getPorts network host) s with
              ⟨text, htext, hrespond⟩ | ⟨-, hrespond⟩
            · exact Or.inl ⟨text, _, htext, Plan.perform_bind_error
                (p := Plan.ask (.getPorts network host)) hrespond⟩
            · have hlisted : (Plan.ask (.getPorts network host)).perform
                  (respond failures) s = (.ok (s.portsOf network host), s) := hrespond
              refine Or.inr ?_
              rw [Plan.perform_bind_ok hlisted, perform_anyTagged]

theorem needed_eq_occupied {port : Neutron.Port} {a : Attachment}
    (ha : s.attachment? source port = some a) (hnetwork : a.network ≠ "")
    (id : String) : s.needed source port id = s.occupied source a id := by
  obtain ⟨hport, hhost, hne⟩ :=
    Attachment.fields_of_ofPort? (ofPort?_of_attachment? ha)
  simp only [needed, hport, hhost, hnetwork, hne, or_self, ↓reduceIte]
  exact any_portsOf a id s

theorem needed_of_inventory (hsame : s.inventory = t.inventory)
    (hports : s.corePorts = t.corePorts) (port : Neutron.Port) (id : String) :
    s.needed source port id = t.needed source port id := by
  simp only [needed, portsOf, hports, attachment?_of_inventory hsame]

/-! ## Without failures -/

theorem respond_nil_eq : respond [] = answer := rfl

theorem answer_managed? (source : LinkSource) (port : Neutron.Port)
    (s : Controller) :
    (Integrator.managed? source port).perform answer s =
      (.ok (s.attachment? source port), s) :=
  perform_managed?_of_sees (Failures.sees_nil source) port s

theorem answer_isTagged (source : LinkSource) (port : Neutron.Port)
    (s : Controller) :
    ((Integrator.enabled source).isTagged port).perform answer s =
      (.ok (s.attachment? source port).isSome, s) := by
  rw [← respond_nil_eq, perform_isTagged, Failures.sees_nil]
  rfl

/-- The tagged ports are those that have an attachment. -/
theorem isTagged_iff {port : Neutron.Port} :
    (((Integrator.enabled source).isTagged port).run answer s).result = .ok true ↔
      ∃ a, s.attachment? source port = some a := by
  have hresult := congrArg Prod.fst (answer_isTagged source port s)
  change (((Integrator.enabled source).isTagged port).run answer s).result = _
    at hresult
  rw [hresult, Except.ok.injEq, Option.isSome_iff_exists]

theorem answer_neededByOther (source : LinkSource) (port : Neutron.Port)
    (id : String) (s : Controller) :
    ((Integrator.enabled source).neededByOther port id).perform answer s =
      (.ok (s.needed source port id), s) := by
  rcases perform_neededByOther [] source port id s with ⟨_, _, htext, -⟩ | hperform
  · cases htext
  · rw [← respond_nil_eq, hperform, Failures.sees_nil]
    rfl

/-! ## Projects -/

theorem projectOf_strict_of {allowed : Call → Prop}
    (hproject : ∀ id, allowed (.getProject id)) (port : Neutron.Port) :
    (Integrator.projectOf port).Strict allowed := by
  simp only [Integrator.projectOf]
  split
  · exact Plan.strict_fail _
  · split
    · exact Plan.strict_fail _
    · refine Plan.Strict.ask_bind (hproject _) fun found => ?_
      cases found <;> trivial

theorem projectOf_strict (port : Neutron.Port) :
    (Integrator.projectOf port).Strict Call.asksInventory :=
  projectOf_strict_of (fun _ => trivial) port

theorem projectOf_strict_reads (port : Neutron.Port) :
    (Integrator.projectOf port).Strict fun c => c.isWrite = false :=
  projectOf_strict_of (fun _ => rfl) port

/-- The project of a port, if the fabric has it. -/
def projectOf? (port : Neutron.Port) (s : Controller) : Option Project :=
  ((Integrator.projectOf port).perform answer s).1.toOption

theorem projectOf?_of_inventory (hsame : s.inventory = t.inventory)
    (port : Neutron.Port) : s.projectOf? port = t.projectOf? port := by
  obtain ⟨result, hs, ht⟩ :=
    perform_of_inventory (projectOf_strict port).within hsame
  rw [projectOf?, projectOf?, hs, ht]

/-- Looking for the project of a port finds it or fails, and changes nothing. -/
theorem perform_projectOf (port : Neutron.Port) (s : Controller) :
    (∃ project, s.projectOf? port = some project ∧
      (Integrator.projectOf port).perform answer s = (.ok project, s)) ∨
    (∃ e, s.projectOf? port = none ∧
      (Integrator.projectOf port).perform answer s = (.error e, s)) := by
  obtain ⟨result, hresult, -⟩ :=
    perform_of_inventory (s := s) (projectOf_strict port).within rfl
  rw [projectOf?, hresult]
  cases result with
  | ok project => exact Or.inl ⟨project, rfl, rfl⟩
  | error e => exact Or.inr ⟨e, rfl, rfl⟩

theorem perform_projectOf_of_some {port : Neutron.Port} {project : Project}
    (hfound : s.projectOf? port = some project) :
    (Integrator.projectOf port).perform answer s = (.ok project, s) := by
  rcases perform_projectOf port s with ⟨other, hother, h⟩ | ⟨_, hnone, -⟩
  · rw [h, Option.some.inj (hfound.symm.trans hother)]
  · rw [hfound] at hnone
    cases hnone

end Controller

end VlanBinding
