import VlanBinding.Proofs.Handling

/-!
Histories: notifications that arrive one after the other while Neutron's list of ports changes as
they tell. Main statement: each of them comes down to a port that goes, as it was, and a port that
comes, as it is, of which either may be missing.
-/

namespace VlanBinding

open VlanBinding.Fabric VlanBinding.Integration

namespace Integration

namespace Notification

/-- The port that the notification is about, as it is or was last. -/
def port : Notification → Neutron.Port
  | created port | updated port _ | deleted port => port

/-- The port that comes, as it is. -/
def comes? : Notification → Option Neutron.Port
  | created port | updated port _ => some port
  | deleted _ => none

/-- The port that goes, as it was. A port goes from where it was bound only if it is
bound to something else. -/
def goes? : Notification → Option Neutron.Port
  | created _ => none
  | updated port previous =>
      if port.bindingFields = previous.bindingFields then none else some previous
  | deleted port => some port

/-- The notification tells what became of one port between two lists, and nothing
became of any other port. The order of the lists says nothing. -/
def Announces (before after : List Neutron.Port) : Notification → Prop
  | created port =>
      (∀ q ∈ before, q.id ≠ port.id) ∧ after.Perm (port :: before)
  | updated port previous =>
      previous ∈ before ∧ previous.id = port.id ∧
        after.Perm (port :: before.filter fun q => q.id ≠ port.id)
  | deleted port =>
      port ∈ before ∧ after.Perm (before.filter fun q => q.id ≠ port.id)

instance (before after : List Neutron.Port) :
    DecidablePred (Announces before after)
  | created _ => inferInstanceAs (Decidable (_ ∧ _))
  | updated _ _ => inferInstanceAs (Decidable (_ ∧ _ ∧ _))
  | deleted _ => inferInstanceAs (Decidable (_ ∧ _))

variable {n : Notification} {before after : List Neutron.Port} {q : Neutron.Port}

/-- What is listed after the notification. -/
theorem Announces.mem_iff (hn : n.Announces before after) :
    q ∈ after ↔ n.comes? = some q ∨ q ∈ before ∧ q.id ≠ n.port.id := by
  cases n with
  | created port =>
      rw [hn.2.mem_iff, List.mem_cons, comes?, Option.some.injEq]
      have hfresh := hn.1 q
      constructor
      · rintro (rfl | hq)
        · exact Or.inl rfl
        · exact Or.inr ⟨hq, hfresh hq⟩
      · rintro (rfl | ⟨hq, -⟩)
        · exact Or.inl rfl
        · exact Or.inr hq
  | updated port previous =>
      rw [hn.2.2.mem_iff, List.mem_cons, List.mem_filter, comes?,
        Option.some.injEq, decide_eq_true_eq, eq_comm]
      rfl
  | deleted port =>
      rw [hn.2.mem_iff, List.mem_filter, decide_eq_true_eq, comes?]
      constructor
      · exact Or.inr
      · rintro (h | h)
        · cases h
        · exact h

theorem id_of_comes? (hcomes : n.comes? = some q) : q.id = n.port.id := by
  cases n with
  | created port => exact congrArg Neutron.Port.id (Option.some.inj hcomes).symm
  | updated port previous =>
      exact congrArg Neutron.Port.id (Option.some.inj hcomes).symm
  | deleted port => cases hcomes

theorem Announces.mem_of_goes? (hn : n.Announces before after)
    (hgoes : n.goes? = some q) : q ∈ before ∧ q.id = n.port.id := by
  cases n with
  | created port => cases hgoes
  | updated port previous =>
      simp only [goes?, Option.ite_none_left_eq_some, Option.some.injEq] at hgoes
      exact hgoes.2 ▸ ⟨hn.1, hn.2.1⟩
  | deleted port =>
      obtain rfl : port = q := Option.some.inj hgoes
      exact ⟨hn.1, rfl⟩

/-- The port itself goes, or it comes bound to what it was bound to. -/
theorem Announces.goes?_or_rebound (hn : n.Announces before after)
    (hunique : ∀ p ∈ before, ∀ q ∈ before, p.id = q.id → p = q)
    (hq : q ∈ before) (hself : q.id = n.port.id) :
    n.goes? = some q ∨
      ∃ p, n.comes? = some p ∧ p.bindingFields = q.bindingFields := by
  cases n with
  | created port => exact absurd hself (hn.1 q hq)
  | updated port previous =>
      obtain rfl : q = previous :=
        hunique q hq previous hn.1 (hself.trans hn.2.1.symm)
      by_cases hfields : port.bindingFields = q.bindingFields
      · exact Or.inr ⟨port, rfl, hfields⟩
      · exact Or.inl (by simp [goes?, hfields])
  | deleted port =>
      obtain rfl : q = port := hunique q hq port hn.1 hself
      exact Or.inl rfl

end Notification

/-- A notification, and the ports that Neutron lists when it arrives. -/
structure Event where
  notification : Notification
  ports : List Neutron.Port
deriving DecidableEq, Repr

/-- Did Neutron ever list the port? -/
def Listed (history : List Event) (port : Neutron.Port) : Prop :=
  ∃ e ∈ history, port ∈ e.ports

theorem Listed.append {history : List Event} {port : Neutron.Port}
    (hlisted : Listed history port) (e : Event) : Listed (history ++ [e]) port := by
  obtain ⟨event, hevent, hport⟩ := hlisted
  exact ⟨event, List.mem_append_left _ hevent, hport⟩

theorem listed_of_mem_ports (history : List Event) {e : Event} {port : Neutron.Port}
    (hport : port ∈ e.ports) : Listed (history ++ [e]) port :=
  ⟨e, List.mem_append_right _ List.mem_cons_self, hport⟩

end Integration

namespace Controller

variable {source : LinkSource} {s t start : Controller} {i : Integrator}
variable {history : List Event}

/-- The controller, with another list of Neutron's ports. -/
def listing (ports : List Neutron.Port) (s : Controller) : Controller :=
  { s with corePorts := ports }

/-- The controller after a notification was handled, with Neutron's list as it was
then. -/
def notified (i : Integrator) (e : Event) (s : Controller) : Controller :=
  ((i.handle e.notification).run answer (s.listing e.ports)).state

/-- The controllers that a history can lead to, from a start where Neutron lists no
port. -/
inductive Run (i : Integrator) (start : Controller) :
    List Event → Controller → Prop
  | start (hempty : start.corePorts = []) : Run i start [] start
  | step {history : List Event} {s : Controller} (e : Event)
      (hrun : Run i start history s)
      (hannounced : e.notification.Announces s.corePorts e.ports) :
      Run i start (history ++ [e]) (s.notified i e)

theorem listing_inventory (ports : List Neutron.Port) (s : Controller) :
    (s.listing ports).inventory = s.inventory := rfl

theorem notified_corePorts (i : Integrator) (e : Event) (s : Controller) :
    (s.notified i e).corePorts = e.ports :=
  Plan.perform_invariant corePorts answer_corePorts (i.handle e.notification)
    (s.listing e.ports)

theorem notified_inventory (i : Integrator) (e : Event) (s : Controller) :
    (s.notified i e).inventory = s.inventory :=
  Plan.perform_invariant inventory answer_inventory (i.handle e.notification)
    (s.listing e.ports)

theorem Run.inventory_eq (hrun : Run i start history s) :
    s.inventory = start.inventory := by
  induction hrun with
  | start hempty => rfl
  | step e hrun hannounced ih => rw [notified_inventory, ih]

theorem Run.listed (hrun : Run i start history s) {port : Neutron.Port}
    (hport : port ∈ s.corePorts) : Listed history port := by
  cases hrun with
  | start hempty =>
      rw [hempty] at hport
      cases hport
  | step e hrun hannounced =>
      rw [notified_corePorts] at hport
      exact listed_of_mem_ports _ hport

/-- No two of the listed ports have one id. -/
theorem Run.unique (hrun : Run i start history s) :
    ∀ p ∈ s.corePorts, ∀ q ∈ s.corePorts, p.id = q.id → p = q := by
  induction hrun with
  | start hempty => simp [hempty]
  | step e hrun hannounced ih =>
      rw [notified_corePorts]
      intro p hp q hq hid
      rcases hannounced.mem_iff.mp hp with hcomes | ⟨hbefore, hother⟩
      · rcases hannounced.mem_iff.mp hq with hcomes' | ⟨-, hother⟩
        · exact Option.some.inj (hcomes.symm.trans hcomes')
        · exact absurd (hid ▸ Notification.id_of_comes? hcomes) hother
      · rcases hannounced.mem_iff.mp hq with hcomes | ⟨hbefore', -⟩
        · exact absurd (hid ▸ Notification.id_of_comes? hcomes) hother
        · exact ih p hbefore q hbefore' hid

/-! ## Regular ports -/

/-- The id of a network is not empty and has no underscore, and the fabric has the
project of a port that is bound to a machine. -/
structure Regular (s : Controller) (port : Neutron.Port) : Prop where
  network : ∀ id, port.networkId = some id → id ≠ "" ∧ '_' ∉ id.toList
  project : ∀ a, Attachment.ofPort? port = some a →
    ∃ project, ((Integrator.projectOf port).run answer s).result = .ok project

variable {port : Neutron.Port} {a : Attachment}

theorem projectOf?_eq_some_iff {project : Project} :
    s.projectOf? port = some project ↔
      ((Integrator.projectOf port).run answer s).result = .ok project :=
  Plan.toOption_eq_some_iff

theorem Regular.network_of (hport : start.Regular port)
    (ha : s.attachment? source port = some a) :
    a.network ≠ "" ∧ '_' ∉ a.network.toList :=
  hport.network a.network
    (Attachment.fields_of_ofPort? (ofPort?_of_attachment? ha)).1

theorem Regular.need?_of (hport : start.Regular port)
    (hsame : s.inventory = start.inventory)
    (ha : s.attachment? source port = some a) :
    ∃ owner, s.need? source port = some ⟨owner, a⟩ := by
  obtain ⟨project, hproject⟩ := hport.project a (ofPort?_of_attachment? ha)
  have hfound := projectOf?_eq_some_iff.mpr hproject
  rw [← projectOf?_of_inventory hsame] at hfound
  exact ⟨project.fqName, by simp [need?, ha, hfound]⟩

/-! ## What a notification does -/

/-- The controller once the port that goes has gone. -/
def vacated (source : LinkSource) (n : Notification) (s : Controller) : Controller :=
  match n.goes? with
  | none => s
  | some port => s.departed source port n.port.id

/-- The controller once the port that comes has come. -/
def joined (source : LinkSource) (n : Notification) (s : Controller) : Controller :=
  match n.comes? with
  | none => s
  | some port => s.arrived source port

theorem notified_eq {e : Event} (hsame : s.inventory = start.inventory)
    (hregular : ∀ port, e.notification.goes? = some port → start.Regular port) :
    s.notified (.enabled source) e =
      ((s.listing e.ports).vacated source e.notification).joined source
        e.notification := by
  obtain ⟨n, ports⟩ := e
  have hports : (s.listing ports).inventory = start.inventory :=
    (listing_inventory ports s).trans hsame
  have hproject : ∀ port, n.goes? = some port →
      (s.listing ports).attachment? source port ≠ none →
      (s.listing ports).projectOf? port ≠ none := by
    intro port hgoes hsome
    obtain ⟨a, ha⟩ := Option.ne_none_iff_exists'.mp hsome
    obtain ⟨owner, hneed⟩ := (hregular port hgoes).need?_of hports ha
    obtain ⟨-, project, hfound, -⟩ := need?_eq_some_iff.mp hneed
    rw [hfound]
    exact Option.some_ne_none project
  have hnetwork : ∀ port, n.goes? = some port → ∀ a,
      (s.listing ports).attachment? source port = some a → a.network ≠ "" :=
    fun port hgoes a ha => ((hregular port hgoes).network_of ha).1
  cases n with
  | created port => exact perform_created_state source port _
  | updated port previous =>
      by_cases hfields : port.bindingFields = previous.bindingFields
      · have hgoes : (Notification.updated port previous).goes? = none := by
          simp [Notification.goes?, hfields]
        rw [vacated, hgoes]
        exact perform_rebound_state source _ hfields
      · have hgoes : (Notification.updated port previous).goes? = some previous := by
          simp [Notification.goes?, hfields]
        rw [vacated, hgoes]
        exact perform_moved_state (hproject previous hgoes) (hnetwork previous hgoes)
          hfields
  | deleted port =>
      exact perform_deleted_state (hproject port rfl) (hnetwork port rfl)

end Controller

/-! ## A fabric to follow histories on -/

namespace Lab

def admin : Project := { fqName := ["default-domain", "admin"] }

def demo : Project := { fqName := ["default-domain", "demo"] }

/-- Where the ports are. -/
def place : Attachment := ⟨"net-1", "compute1"⟩

def link1 : Topology.Link := { switchName := "leaf1", portName := "xe-0/0/1" }

def cable1 : Reference :=
  { target := ["default-global-system-config", "leaf1", "xe-0/0/1"], uuid := "pi-1" }

/-- Where a cable ends at its switch, and the port groups of that end. -/
def interfaceOf (cable : Reference) (groups : List String) : Fabric.PhysicalInterface where
  uuid := cable.uuid
  fqName := cable.target
  portGroupBackRefs :=
    groups.map fun uuid => { target := ["default-global-system-config", uuid], uuid }

def groupOf (uuid : String) : VirtualPortGroup where
  uuid
  fqName := ["default-global-system-config", uuid]

def nodeOf (host : String) (cards : List String) : Fabric.Node where
  fqName := ["default-global-system-config", host]
  hostname := some host
  ports := cards.map fun uuid => { target := [], uuid }

/-- A card of a host, and its cables. -/
def cardOf (host name : String) (cables : List Reference) : Fabric.Port where
  fqName := ["default-global-system-config", host, name]
  interfaceBackRefs := cables

/-- One tagged network, one switch, and two projects. -/
def start : Controller where
  projects :=
    [("0ed483e0-83ef-4f70-8250-1fcfa5d98c0e", admin),
      ("12345678-1234-5678-1234-567812345678", demo)]
  networks :=
    [("net-1", { uuid := "net-1", fqName := ["default-domain", "admin", "vn-net-1"] })]
  interfaces := [(("leaf1", "xe-0/0/1"), interfaceOf cable1 [])]
  fabrics := [("leaf1", "fabric-1")]
  coreNetworks :=
    [("net-1", { id := "net-1", networkType := some "vlan", segmentationId := some 100 })]

/-- One host, cabled to the switch. -/
def source : LinkSource :=
  .document ⟨[("compute1", { name := "compute1", ports := [link1] })]⟩

/-- The same fabric, where the controller knows the host and its cable. -/
def live : Controller :=
  { start with
    nodes := [("compute1", nodeOf "compute1" ["card-1"])]
    ports := [("card-1", cardOf "compute1" "eth0" [cable1])] }

/-- Answers calls from a controller in memory, and fails those that are marked, in the
order in which they are made. -/
def flaky : Responder (List Bool × Controller)
  | c, (true :: marks, s) => (.error (c.failure (.other "timeout")), (marks, s))
  | c, (marks, s) =>
    let (answer, s) := Controller.answer c s
    (answer, (marks.tail, s))

theorem flaky_cases (c : Call) (s : List Bool × Controller) :
    ((flaky c s).1 = (Controller.answer c s.2).1 ∧
        (flaky c s).2.2 = (Controller.answer c s.2).2) ∨
      (flaky c s).1 = .error (c.failure (.other "timeout")) ∧ (flaky c s).2.2 = s.2 := by
  obtain ⟨_ | ⟨_ | _, marks⟩, s⟩ := s
  · exact Or.inl ⟨rfl, rfl⟩
  · exact Or.inl ⟨rfl, rfl⟩
  · exact Or.inr ⟨rfl, rfl⟩

/-- A port of a machine on the host, bound to the network. -/
def portOf (id tenant : String) : Neutron.Port where
  id
  networkId := some "net-1"
  hostId := some "compute1"
  deviceId := some "vm"
  deviceOwner := some "compute:nova"
  tenantId := some tenant

def adminPort : Neutron.Port := portOf "port-1" "0ed483e083ef4f7082501fcfa5d98c0e"

def demoPort : Neutron.Port := portOf "port-2" "12345678123456781234567812345678"

def otherAdminPort : Neutron.Port := portOf "port-3" "0ed483e083ef4f7082501fcfa5d98c0e"

def ports : List Neutron.Port := [adminPort, demoPort, otherAdminPort]

theorem projectOf?_isSome :
    ∀ port ∈ ports, (start.projectOf? port).isSome = true := by
  decide +kernel

theorem regular {port : Neutron.Port} (hport : port ∈ ports) :
    start.Regular port := by
  constructor
  · intro id hid
    have hnetwork : ∀ port ∈ ports, port.networkId = some "net-1" := by decide
    rw [hnetwork port hport, Option.some.injEq] at hid
    subst hid
    decide
  · intro a ha
    obtain ⟨project, hfound⟩ :=
      Option.isSome_iff_exists.mp (projectOf?_isSome port hport)
    exact ⟨project, Controller.projectOf?_eq_some_iff.mp hfound⟩

theorem regular_of_listed {history : List Event}
    (hports : ∀ e ∈ history, ∀ port ∈ e.ports, port ∈ ports) :
    ∀ port, Listed history port → start.Regular port := by
  rintro port ⟨e, he, hport⟩
  exact regular (hports e he port hport)

end Lab

end VlanBinding
