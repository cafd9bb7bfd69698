import VlanBinding.Proofs.Calls
import VlanBinding.Proofs.History

/-!
The footprint of a notification: what its handling may change, whichever calls fail on the way.
Interfaces under other names than those of its ports stay as they are, and so do all port groups but
the one that the interface of the port that goes is known to be in first. That one loses references
to interfaces at most.
-/

namespace VlanBinding

open VlanBinding.Fabric VlanBinding.Integration

/-- The ports that a notification tells of, as they are and as they were. -/
def Integration.Notification.ports : Notification → List Neutron.Port
  | created port | deleted port => [port]
  | updated port previous => [port, previous]

/-! ## Plans -/

namespace Integration.Integrator

variable {σ : Type} {respond : Responder σ} {port : Neutron.Port}

/-- Whatever is answered, no port but one that makes an attachment is managed. -/
theorem ofPort?_of_managed? {source : LinkSource} {s : σ} {a : Attachment}
    (hok : ((managed? source port).perform respond s).1 = .ok (some a)) :
    Attachment.ofPort? port = some a := by
  rw [managed?] at hok
  cases hport : Attachment.ofPort? port with
  | none =>
      rw [hport] at hok
      cases hok
  | some b =>
      simp only [hport] at hok
      rw [Plan.perform_bind] at hok
      split at hok
      · rename_i known t _
        cases known with
        | true => rw [Option.some.inj (Except.ok.inj hok)]
        | false => cases hok
      · cases hok

theorem remove_unbound (source : LinkSource) (id : String) :
    (enabled source).remove (.unbound id) = pure () := by
  have hport : Attachment.ofPort? (.unbound id) = none := by
    simp [Attachment.ofPort?, Neutron.Port.unbound]
  simp [remove, managed?, hport]

/-- A port that is created was bound to nothing before. -/
theorem handle_created (source : LinkSource) (port : Neutron.Port) :
    (enabled source).handle (.created port) =
      (enabled source).create port := by
  simp [handle, sync, isEnabled, remove_unbound]

end Integration.Integrator

/-- The port group is another one without some of its references to interfaces. -/
def Fabric.VirtualPortGroup.Thins (thin group : VirtualPortGroup) : Prop :=
  ∃ refs, refs.Sublist group.vmiRefs ∧ thin = { group with vmiRefs := refs }

namespace Controller

variable {σ α β : Type} {respond : Responder σ} {memory : σ → Controller}
variable {s t u : Controller} {port : Neutron.Port} {key : FqName}

/-- Every port group is stored under its own uuid. No call stores one elsewhere. -/
def GroupsKeyed (s : Controller) : Prop :=
  ∀ uuid group, Keyed.get? uuid s.groups = some group → group.uuid = uuid

/-- The name of the interface of a port at its network and host, in its project. -/
def nameFor? (port : Neutron.Port) (s : Controller) : Option FqName := do
  let network ← port.networkId
  let host ← port.hostId
  let project ← s.projectOf? port
  some (project.fqName ++ [Attachment.interfaceName ⟨network, host⟩])

/-- The port group that the interface of a name is known to be in first. -/
def firstGroup? (key : FqName) (s : Controller) : Option String := do
  let vmi ← Keyed.get? key s.vmis
  let ref ← vmi.portGroupBackRefs.head?
  some ref.uuid

/-- The port group that the interface of the port that goes is known to be in first. -/
def leavesGroup? (n : Notification) (s : Controller) : Option String := do
  let gone ← n.goes?
  let key ← s.nameFor? gone
  s.firstGroup? key

theorem GroupsKeyed.answer (hs : s.GroupsKeyed) (c : Call) :
    (Controller.answer c s).2.GroupsKeyed := by
  cases c with
  | updatePortGroup group =>
      change (s.updateGroup group).GroupsKeyed
      rw [updateGroup]
      split
      · intro uuid found hfound
        rw [Keyed.get?_put] at hfound
        split at hfound
        · rename_i huuid
          rw [← Option.some.inj hfound, huuid]
        · exact hs uuid found hfound
      · exact hs
  | createVmi vmi =>
      intro uuid group hgroup
      refine hs uuid group ?_
      rwa [← createVmi_groups vmi s]
  | getNetwork id => rwa [answer_state_of_read _ s rfl]
  | _ => exact hs

theorem nameFor?_of_inventory (hsame : s.inventory = t.inventory) (port : Neutron.Port) :
    s.nameFor? port = t.nameFor? port := by
  simp only [nameFor?, projectOf?_of_inventory hsame]

theorem nameFor?_of_attachment {a : Attachment} {project : Project}
    (ha : Attachment.ofPort? port = some a) (hproject : s.projectOf? port = some project) :
    s.nameFor? port = some (project.fqName ++ [a.interfaceName]) := by
  obtain ⟨hnetwork, hhost, -⟩ := Attachment.fields_of_ofPort? ha
  simp [nameFor?, hnetwork, hhost, hproject]

theorem leavesGroup?_of_goes? {n : Notification} {gone : Neutron.Port} {uuid : String}
    (hgoes : n.goes? = some gone) :
    (∃ key, s.nameFor? gone = some key ∧ s.firstGroup? key = some uuid) ↔
      s.leavesGroup? n = some uuid := by
  simp [leavesGroup?, hgoes, Option.bind_eq_some_iff]

/-! ## Footprints -/

/-- What separates two controllers: interfaces of the names, and port groups of the uuids, which
have become thinner. -/
structure Footprint (names : FqName → Prop) (uuids : String → Prop)
    (s t : Controller) : Prop where
  inventory : t.inventory = s.inventory
  corePorts : t.corePorts = s.corePorts
  vmis : ∀ key, ¬ names key → Keyed.get? key t.vmis = Keyed.get? key s.vmis
  groups : ∀ uuid, ¬ uuids uuid → Keyed.get? uuid t.groups = Keyed.get? uuid s.groups
  thinner : ∀ uuid, Option.Rel VirtualPortGroup.Thins
    (Keyed.get? uuid t.groups) (Keyed.get? uuid s.groups)

namespace Footprint

variable {names more : FqName → Prop} {uuids others : String → Prop}

theorem thinner_refl (found : Option VirtualPortGroup) :
    Option.Rel VirtualPortGroup.Thins found found := by
  cases found with
  | none => exact .none
  | some group => exact .some ⟨group.vmiRefs, List.Sublist.refl _, rfl⟩

theorem refl (s : Controller) : Footprint names uuids s s where
  inventory := rfl
  corePorts := rfl
  vmis _ _ := rfl
  groups _ _ := rfl
  thinner _ := thinner_refl _

theorem of_eq (hsame : t = s) : Footprint names uuids s t := by
  rw [hsame]
  exact refl s

theorem mono (h : Footprint names uuids s t) (hnames : ∀ key, names key → more key)
    (huuids : ∀ uuid, uuids uuid → others uuid) : Footprint more others s t where
  inventory := h.inventory
  corePorts := h.corePorts
  vmis key hkey := h.vmis key (hkey ∘ hnames key)
  groups uuid huuid := h.groups uuid (huuid ∘ huuids uuid)
  thinner := h.thinner

theorem thins_trans {first second third : Option VirtualPortGroup}
    (hfirst : Option.Rel VirtualPortGroup.Thins second first)
    (hsecond : Option.Rel VirtualPortGroup.Thins third second) :
    Option.Rel VirtualPortGroup.Thins third first := by
  cases hsecond with
  | none => exact hfirst
  | some hsecond =>
      cases hfirst with
      | some hfirst =>
          obtain ⟨refs, hrefs, rfl⟩ := hfirst
          obtain ⟨fewer, hfewer, rfl⟩ := hsecond
          exact .some ⟨fewer, hfewer.trans hrefs, rfl⟩

theorem trans (hst : Footprint names uuids s t) (htu : Footprint names uuids t u) :
    Footprint names uuids s u where
  inventory := htu.inventory.trans hst.inventory
  corePorts := htu.corePorts.trans hst.corePorts
  vmis key hkey := (htu.vmis key hkey).trans (hst.vmis key hkey)
  groups uuid huuid := (htu.groups uuid huuid).trans (hst.groups uuid huuid)
  thinner uuid := thins_trans (hst.thinner uuid) (htu.thinner uuid)

theorem deleteVmi (key : FqName) (s : Controller) :
    Footprint (· = key) uuids s (s.deleteVmi key) where
  inventory := rfl
  corePorts := rfl
  vmis other hother := by simp [Controller.deleteVmi, Keyed.get?_erase, Ne.symm hother]
  groups _ _ := rfl
  thinner _ := thinner_refl _

theorem createVmi (vmi : VirtualMachineInterface) (s : Controller) :
    Footprint (· = vmi.fqName) uuids s (s.createVmi vmi) where
  inventory := createVmi_inventory vmi s
  corePorts := answer_corePorts (.createVmi vmi) s
  vmis other hother := by simp [get?_createVmi, Ne.symm hother]
  groups uuid _ := by rw [createVmi_groups]
  thinner uuid := by
    rw [createVmi_groups]
    exact thinner_refl _

/-- A port group that is stored under its uuid is written back without an interface. -/
theorem updateGroup {group : VirtualPortGroup}
    (hstored : Keyed.get? group.uuid s.groups = some group) (vmi : VirtualMachineInterface) :
    Footprint names (· = group.uuid) s (s.updateGroup (group.detach vmi)) := by
  have hread := fun uuid => get?_updateGroup uuid (group.detach vmi) s
    (by simp [Keyed.contains, VirtualPortGroup.detach, hstored])
  refine ⟨answer_inventory (.updatePortGroup _) s, answer_corePorts (.updatePortGroup _) s,
    fun key _ => by rw [updateGroup_vmis], fun uuid huuid => ?_, fun uuid => ?_⟩
  · rw [hread]
    exact if_neg (Ne.symm huuid)
  · rw [hread]
    by_cases huuid : (group.detach vmi).uuid = uuid
    · subst huuid
      rw [if_pos rfl]
      change Option.Rel _ _ (Keyed.get? group.uuid s.groups)
      rw [hstored]
      exact .some ⟨_, List.filter_sublist, rfl⟩
    · rw [if_neg huuid]
      exact thinner_refl _

/-- What a sequence changes is what either of its plans changes. -/
theorem bind {p : Plan α} {f : α → Plan β} {s : σ}
    (hp : Footprint names uuids (memory s) (memory (p.perform respond s).2))
    (hf : ∀ a t, p.perform respond s = (.ok a, t) →
      Footprint names uuids (memory t) (memory ((f a).perform respond t).2)) :
    Footprint names uuids (memory s) (memory ((p >>= f).perform respond s).2) := by
  rcases hresult : p.perform respond s with ⟨e | a, t⟩
  · rw [Plan.perform_bind_error hresult]
    rwa [hresult] at hp
  · rw [Plan.perform_bind_ok hresult]
    rw [hresult] at hp
    exact hp.trans (hf a t hresult)

end Footprint

/-! ## Calls that may fail -/

/-- Calls are answered from the controller that a state holds, unless they fail. A call that
failed may have been carried out all the same. -/
structure AnswersFrom (respond : Responder σ) (memory : σ → Controller) : Prop where
  result : ∀ c s, (respond c s).1 = (answer c (memory s)).1 ∨ ∃ e, (respond c s).1 = .error e
  state : ∀ c s, memory (respond c s).2 = (answer c (memory s)).2 ∨
    memory (respond c s).2 = memory s ∧ ∃ e, (respond c s).1 = .error e

theorem answersFrom_respond (failures : Failures) :
    AnswersFrom (Controller.respond failures) id where
  result c s := by
    rcases respond_cases failures c s with ⟨text, -, h⟩ | ⟨-, h⟩
    · exact Or.inr ⟨_, by rw [h]⟩
    · exact Or.inl (by rw [h]; rfl)
  state c s := by
    rcases respond_cases failures c s with ⟨text, -, h⟩ | ⟨-, h⟩
    · exact Or.inr ⟨by rw [h], _, by rw [h]⟩
    · exact Or.inl (by rw [h]; rfl)

namespace AnswersFrom

variable (h : AnswersFrom respond memory)
include h

/-- A call that did not fail was answered. -/
theorem result_of_ok {c : Call} {s : σ} {a : c.Answer} (hok : (respond c s).1 = .ok a) :
    (answer c (memory s)).1 = .ok a := by
  rcases h.result c s with hsame | ⟨e, herror⟩
  · rw [← hsame, hok]
  · rw [hok] at herror
    cases herror

theorem memory_of_read {c : Call} (hc : c.isWrite = false) (s : σ) :
    memory (respond c s).2 = memory s := by
  rcases h.state c s with hstate | ⟨hstate, -⟩
  · rw [hstate, answer_state_of_read c _ hc]
  · exact hstate

theorem groupsKeyed (p : Plan α) {s : σ} (hs : (memory s).GroupsKeyed) :
    (memory (p.perform respond s).2).GroupsKeyed := by
  induction p generalizing s with
  | done r => exact hs
  | call c next ih =>
      rw [Plan.perform_call]
      refine ih _ ?_
      rcases h.state c s with hstate | ⟨hstate, -⟩
      · rw [hstate]
        exact hs.answer c
      · rwa [hstate]

theorem memory_of_within {p : Plan α} (hp : p.Within fun c => c.isWrite = false) (s : σ) :
    memory (p.perform respond s).2 = memory s := by
  induction p generalizing s with
  | done r => rfl
  | call c next ih =>
      rw [Plan.perform_call, ih _ (hp.2 _)]
      exact h.memory_of_read hp.1 s

/-- A strict plan that reads, and comes to a value, comes to the one that the controller
tells. -/
theorem result_of_strict {p : Plan α} (hp : p.Strict fun c => c.isWrite = false) {s : σ}
    {a : α} (hok : (p.perform respond s).1 = .ok a) :
    (p.perform answer (memory s)).1 = .ok a := by
  induction p generalizing s with
  | done r => exact hok
  | call c next ih =>
      rw [Plan.perform_call] at hok ⊢
      cases hanswer : (respond c s).1 with
      | error e =>
          rw [hanswer, hp.2.1 e] at hok
          cases hok
      | ok b =>
          rw [hanswer] at hok
          have hnext := ih _ (hp.2.2 b) hok
          rw [h.memory_of_read hp.1] at hnext
          rw [h.result_of_ok hanswer, answer_state_of_read c _ hp.1]
          exact hnext

variable {names : FqName → Prop} {uuids : String → Prop}

/-- What is read first changes nothing. -/
theorem footprint_read_bind {p : Plan α} {f : α → Plan β} {s : σ}
    (hp : p.Within fun c => c.isWrite = false)
    (hf : ∀ a t, memory t = memory s → (p.perform respond s).1 = .ok a →
      Footprint names uuids (memory s) (memory ((f a).perform respond t).2)) :
    Footprint names uuids (memory s) (memory ((p >>= f).perform respond s).2) := by
  have hmemory := h.memory_of_within hp s
  refine Footprint.bind (Footprint.of_eq hmemory) fun a t hresult => ?_
  rw [hresult] at hmemory
  rw [show memory t = memory s from hmemory]
  exact hf a t hmemory (by rw [hresult])

theorem footprint_ask (c : Call) (s : σ)
    (hc : Footprint names uuids (memory s) (answer c (memory s)).2) :
    Footprint names uuids (memory s) (memory ((Plan.ask c).perform respond s).2) := by
  rw [Plan.perform_ask]
  rcases h.state c s with hstate | ⟨hstate, -⟩
  · rwa [hstate]
  · exact Footprint.of_eq hstate

/-! ## Making and taking away -/

theorem footprint_detach {s : σ} {key : FqName} {vmi : VirtualMachineInterface}
    (hkeyed : (memory s).GroupsKeyed) (hvmi : Keyed.get? key (memory s).vmis = some vmi) :
    Footprint names ((memory s).firstGroup? key = some ·) (memory s)
      (memory ((Integrator.detach vmi).perform respond s).2) := by
  rw [Integrator.detach]
  cases hrefs : vmi.portGroupBackRefs with
  | nil => exact Footprint.refl _
  | cons ref rest =>
      refine h.footprint_read_bind ((Plan.within_ask _).mpr rfl) fun found t ht hfound => ?_
      have hstored : Keyed.get? ref.uuid (memory s).groups = found :=
        Except.ok.inj (h.result_of_ok hfound)
      cases found with
      | none => exact Footprint.of_eq ht
      | some group =>
          have huuid := hkeyed ref.uuid group hstored
          rw [← ht]
          refine h.footprint_ask (.updatePortGroup _) t ?_
          rw [ht]
          rw [← huuid] at hstored
          refine (Footprint.updateGroup hstored vmi).mono (fun _ hkey => hkey) ?_
          rintro uuid rfl
          simp [firstGroup?, hvmi, hrefs, huuid]

theorem footprint_removeInterface (key : FqName) {s : σ} (hkeyed : (memory s).GroupsKeyed) :
    Footprint (· = key) ((memory s).firstGroup? key = some ·) (memory s)
      (memory ((Integrator.removeInterface key).perform respond s).2) := by
  refine h.footprint_read_bind ((Plan.within_ask _).mpr rfl) fun found t ht hfound => ?_
  have hstored : Keyed.get? key (memory s).vmis = found :=
    Except.ok.inj (h.result_of_ok hfound)
  cases found with
  | none => exact Footprint.of_eq ht
  | some vmi =>
      rw [← ht] at hkeyed hstored ⊢
      refine Footprint.bind (h.footprint_detach hkeyed hstored) fun _ u _ => ?_
      exact h.footprint_ask (.deleteVmi key) u (Footprint.deleteVmi key _)

/-- A port that makes an attachment, and whose project is found, has an interface of its own. -/
theorem footprint_projectOf_bind {a : Attachment} (ha : Attachment.ofPort? port = some a)
    {f : Project → Plan β} {s : σ}
    (hf : ∀ project t, memory t = memory s →
      (memory s).nameFor? port = some (project.fqName ++ [a.interfaceName]) →
      Footprint names uuids (memory s) (memory ((f project).perform respond t).2)) :
    Footprint names uuids (memory s)
      (memory ((Integrator.projectOf port >>= f).perform respond s).2) := by
  have hstrict := projectOf_strict_reads port
  refine h.footprint_read_bind hstrict.within fun project t ht hok => hf project t ht ?_
  refine nameFor?_of_attachment ha ?_
  rw [projectOf?, h.result_of_strict hstrict hok]
  rfl

/-- Taking away the interface of a port changes nothing else, and one port group at most. -/
theorem footprint_remove (source : LinkSource) (port : Neutron.Port) {s : σ}
    (hkeyed : (memory s).GroupsKeyed) :
    Footprint ((memory s).nameFor? port = some ·)
      (fun uuid => ∃ key, (memory s).nameFor? port = some key ∧
        (memory s).firstGroup? key = some uuid) (memory s)
      (memory (((Integrator.enabled source).remove port).perform respond s).2) := by
  refine h.footprint_read_bind (Integrator.managed?_within (fun _ => rfl) source port)
    fun found t ht hfound => ?_
  cases found with
  | none => exact Footprint.of_eq ht
  | some a =>
      have ha := Integrator.ofPort?_of_managed? hfound
      rw [← ht] at hkeyed ⊢
      refine h.footprint_projectOf_bind ha fun project u hu hname => ?_
      rw [← hu] at hkeyed hname ⊢
      refine (h.footprint_removeInterface _ hkeyed).mono ?_ ?_
      · rintro key rfl
        exact hname
      · intro uuid huuid
        exact ⟨_, hname, huuid⟩

/-- Making an interface changes no other one, and no port group. -/
theorem footprint_makeInterface (source : LinkSource) (a : Attachment) (tag : UInt16)
    (project : Project) (s : σ) :
    Footprint (· = project.fqName ++ [a.interfaceName]) uuids (memory s)
      (memory ((Integrator.makeInterface source a tag project).perform respond s).2) := by
  refine h.footprint_read_bind ((Plan.within_ask _).mpr rfl) fun found t ht hfound => ?_
  cases found with
  | some vmi => exact Footprint.of_eq ht
  | none =>
      rw [← ht]
      refine h.footprint_read_bind ((Plan.within_ask _).mpr rfl) fun found u hu _ => ?_
      cases found with
      | none => exact Footprint.of_eq hu
      | some network =>
          rw [← hu]
          have hreads := (Profile.ofHost_strict source a.host).within.mono
            fun c hc => Call.isWrite_of_asksLinks hc
          refine h.footprint_read_bind hreads fun profile v hv _ => ?_
          rw [← hv]
          exact h.footprint_ask (.createVmi _) v
            (Footprint.createVmi (.make a.interfaceName network ⟨some tag⟩ _ project) _)

theorem footprint_create (source : LinkSource) (port : Neutron.Port) (s : σ) :
    Footprint ((memory s).nameFor? port = some ·) uuids (memory s)
      (memory (((Integrator.enabled source).create port).perform respond s).2) := by
  refine h.footprint_read_bind (Integrator.managed?_within (fun _ => rfl) source port)
    fun found t ht hfound => ?_
  cases found with
  | none => exact Footprint.of_eq ht
  | some a =>
      have ha := Integrator.ofPort?_of_managed? hfound
      rw [← ht]
      refine h.footprint_read_bind ((Plan.within_ask _).mpr rfl) fun network u hu _ => ?_
      cases network.vlanTag with
      | none => exact Footprint.of_eq hu
      | some tag =>
          rw [← hu]
          refine h.footprint_projectOf_bind ha fun project v hv hname => ?_
          rw [← hv] at hname ⊢
          refine (h.footprint_makeInterface source a tag project v).mono ?_ fun _ => id
          rintro key rfl
          exact hname

/-! ## Notifications -/

/-- The port that goes takes its interface along, and then the port that comes has its own
made. -/
theorem footprint_sync (source : LinkSource) (port previous : Neutron.Port) {s : σ}
    (hkeyed : (memory s).GroupsKeyed) (hfields : port.bindingFields ≠ previous.bindingFields) :
    Footprint
      (fun key => (memory s).nameFor? port = some key ∨ (memory s).nameFor? previous = some key)
      (fun uuid => ∃ key, (memory s).nameFor? previous = some key ∧
        (memory s).firstGroup? key = some uuid) (memory s)
      (memory (((Integrator.enabled source).sync port previous).perform respond s).2) := by
  have hremove := h.footprint_remove source previous hkeyed
  simp only [Integrator.sync, Integrator.isEnabled, hfields, Bool.not_true,
    Bool.false_eq_true, ↓reduceIte]
  refine Footprint.bind (hremove.mono (fun _ => Or.inr) fun _ => id) fun _ t ht => ?_
  rw [ht] at hremove
  refine (h.footprint_create source port t).mono (fun key hkey => Or.inl ?_) fun _ => id
  rwa [← nameFor?_of_inventory hremove.inventory]

/-- The question whether another port needs the interface changes nothing. -/
theorem footprint_guard (source : LinkSource) (gone : Neutron.Port) (id : String)
    {f : Bool → Plan β} {s : σ}
    (hf : ∀ needed t, memory t = memory s →
      Footprint names uuids (memory s) (memory ((f needed).perform respond t).2)) :
    Footprint names uuids (memory s)
      (memory (((Integrator.enabled source).neededByOther gone id >>= f).perform respond s).2) :=
  h.footprint_read_bind (Integrator.neededByOther_within (fun _ => rfl) (fun _ _ => rfl) _ gone id)
    fun needed t ht _ => hf needed t ht

/-- A port that is updated keeps its interface, unless its binding changed and no other port
needs that. -/
theorem footprint_updated (source : LinkSource) (port previous : Neutron.Port) {s : σ}
    (hkeyed : (memory s).GroupsKeyed) :
    Footprint
      (fun key => (memory s).nameFor? port = some key ∨ (memory s).nameFor? previous = some key)
      ((memory s).leavesGroup? (.updated port previous) = some ·) (memory s)
      (memory (((Integrator.enabled source).handle
        (.updated port previous)).perform respond s).2) := by
  have hcreate : ∀ t, Footprint ((memory t).nameFor? port = some ·)
      ((memory s).leavesGroup? (.updated port previous) = some ·) (memory t)
      (memory (((Integrator.enabled source).create port).perform respond t).2) :=
    fun t => h.footprint_create source port t
  by_cases hfields : port.bindingFields = previous.bindingFields
  · simp only [Integrator.handle, Integrator.sync, Integrator.isEnabled, hfields,
      Bool.not_true, Bool.false_eq_true, ↓reduceIte]
    exact (hcreate s).mono (fun _ => Or.inl) fun _ => id
  · have hgoes : (Notification.updated port previous).goes? = some previous := by
      simp [Notification.goes?, hfields]
    simp only [Integrator.handle, Integrator.isEnabled, hfields, Bool.not_true,
      Bool.false_eq_true, ↓reduceIte]
    refine h.footprint_guard source previous port.id fun needed t ht => ?_
    rw [← ht] at hkeyed hcreate ⊢
    cases needed with
    | true => exact (hcreate t).mono (fun _ => Or.inl) fun _ => id
    | false =>
        exact (h.footprint_sync source port previous hkeyed hfields).mono (fun _ => id)
          fun _ => (leavesGroup?_of_goes? hgoes).mp

/-- A port that is deleted takes its interface along, unless another port needs that. -/
theorem footprint_deleted (source : LinkSource) (port : Neutron.Port) {s : σ}
    (hkeyed : (memory s).GroupsKeyed) :
    Footprint ((memory s).nameFor? port = some ·)
      ((memory s).leavesGroup? (.deleted port) = some ·) (memory s)
      (memory (((Integrator.enabled source).handle (.deleted port)).perform respond s).2) := by
  have hgoes : (Notification.deleted port).goes? = some port := rfl
  simp only [Integrator.handle, Integrator.isEnabled, Bool.not_true, Bool.false_eq_true,
    ↓reduceIte]
  refine h.footprint_guard source port port.id fun needed t ht => ?_
  rw [← ht] at hkeyed ⊢
  cases needed with
  | true => exact Footprint.refl _
  | false =>
      exact (h.footprint_remove source port hkeyed).mono (fun _ => id)
        fun _ => (leavesGroup?_of_goes? hgoes).mp

/-- The footprint of a notification. -/
theorem footprint_handle (i : Integrator) (n : Notification) {s : σ}
    (hkeyed : (memory s).GroupsKeyed) :
    Footprint (fun key => ∃ p ∈ n.ports, (memory s).nameFor? p = some key)
      ((memory s).leavesGroup? n = some ·) (memory s)
      (memory ((i.handle n).perform respond s).2) := by
  cases i with
  | disabled => cases n <;> exact Footprint.refl _
  | enabled source =>
      cases n with
      | created port =>
          rw [Integrator.handle_created]
          refine (h.footprint_create source port s).mono (fun key hkey => ?_) fun _ => id
          exact ⟨port, List.mem_singleton_self port, hkey⟩
      | updated port previous =>
          refine (h.footprint_updated source port previous hkeyed).mono ?_ fun _ => id
          rintro key (hkey | hkey)
          · exact ⟨port, List.mem_cons_self, hkey⟩
          · exact ⟨previous, List.mem_cons_of_mem _ List.mem_cons_self, hkey⟩
      | deleted port =>
          refine (h.footprint_deleted source port hkeyed).mono (fun key hkey => ?_) fun _ => id
          exact ⟨port, List.mem_singleton_self port, hkey⟩

end AnswersFrom

/-- Whichever calls fail, a notification touches the interfaces of its own ports only, and one
port group at most. This one loses references to interfaces, and nothing else. -/
theorem handle_touches_own (h : AnswersFrom respond memory) (i : Integrator)
    (n : Notification) (s : σ) (hkeyed : (memory s).GroupsKeyed) :
    let before := memory s
    let after := memory ((i.handle n).run respond s).state
    after.inventory = before.inventory ∧
    (∀ key, (∀ p ∈ n.ports, before.nameFor? p ≠ some key) →
      Keyed.get? key after.vmis = Keyed.get? key before.vmis) ∧
    (∀ uuid, before.leavesGroup? n ≠ some uuid →
      Keyed.get? uuid after.groups = Keyed.get? uuid before.groups) ∧
    (∀ uuid, Option.Rel VirtualPortGroup.Thins
      (Keyed.get? uuid after.groups) (Keyed.get? uuid before.groups)) ∧
    ∀ port, n = .created port → ∀ uuid,
      Keyed.get? uuid after.groups = Keyed.get? uuid before.groups := by
  intro before after
  have hfoot : Footprint _ _ before after := h.footprint_handle i n hkeyed
  refine ⟨hfoot.inventory, ?_, hfoot.groups, hfoot.thinner, ?_⟩
  · intro key hkey
    refine hfoot.vmis key ?_
    rintro ⟨p, hp, hname⟩
    exact hkey p hp hname
  · rintro port rfl uuid
    exact hfoot.groups uuid (by simp [leavesGroup?, Notification.goes?])

end Controller

/-! ## Two interfaces in one port group -/

namespace Lab

theorem flaky_answersFrom : Controller.AnswersFrom flaky Prod.snd where
  result c s := (flaky_cases c s).imp And.left fun h => ⟨_, h.1⟩
  state c s := (flaky_cases c s).imp And.right fun h => ⟨h.2, _, h.1⟩

def adminName : FqName := ["default-domain", "admin", "_vlan_tag_for_vn_net-1_compute_compute1"]

def demoName : FqName := ["default-domain", "demo", "_vlan_tag_for_vn_net-1_compute_compute1"]

/-- A port group of interfaces. -/
def bondOf (vmiRefs : List Reference) : VirtualPortGroup := { groupOf "vpg-1" with vmiRefs }

/-- An interface in the port group. -/
def bondedVmi (uuid : String) (fqName : FqName) : Fabric.VirtualMachineInterface where
  uuid := some uuid
  fqName
  portGroupBackRefs := [{ target := (bondOf []).fqName, uuid := "vpg-1" }]

/-- The interfaces of two projects are in one port group. -/
def bonded : Controller :=
  { start with
    groups :=
      [("vpg-1",
        bondOf [{ target := adminName, uuid := "vmi-1" }, { target := demoName, uuid := "vmi-2" }])]
    vmis := [(adminName, bondedVmi "vmi-1" adminName), (demoName, bondedVmi "vmi-2" demoName)] }

theorem bonded_groupsKeyed : bonded.GroupsKeyed := by
  intro uuid group hgroup
  change (if "vpg-1" = uuid then _ else none) = some group at hgroup
  split at hgroup
  · rename_i huuid
    rw [← Option.some.inj hgroup]
    exact huuid
  · cases hgroup

/-- The controller after the port of one of them is deleted, when the last call fails. -/
def detachedOnly : Controller :=
  (((Integrator.enabled source).handle (.deleted adminPort)).run flaky
    ([false, false, false, false, false, true], bonded)).state.2

end Lab

namespace Controller

/-- The interface of the other project stays, and so does its reference in the port group. -/
theorem other_project_untouched :
    Keyed.get? Lab.demoName Lab.detachedOnly.vmis =
        Keyed.get? Lab.demoName Lab.bonded.vmis ∧
      Lab.bonded.leavesGroup? (.deleted Lab.adminPort) = some "vpg-1" ∧
      Option.Rel VirtualPortGroup.Thins (Keyed.get? "vpg-1" Lab.detachedOnly.groups)
        (Keyed.get? "vpg-1" Lab.bonded.groups) ∧
      (Keyed.get? "vpg-1" Lab.detachedOnly.groups).map (·.vmiRefs.map (·.uuid)) =
        some ["vmi-2"] := by
  obtain ⟨-, hvmis, -, hthinner, -⟩ := handle_touches_own Lab.flaky_answersFrom
    (.enabled Lab.source) (.deleted Lab.adminPort)
    ([false, false, false, false, false, true], Lab.bonded) Lab.bonded_groupsKeyed
  exact ⟨hvmis Lab.demoName (by decide +kernel), by decide +kernel, hthinner "vpg-1",
    by decide +kernel⟩

end Controller

end VlanBinding
