import VlanBinding.Proofs.Creation
import VlanBinding.Proofs.Removal

/-!
Replacing the interface of a port. The interface that the port had is taken out of its port group
and deleted before the one that it needs now is written. Main statement: whatever its calls
are answered, a replacement writes in this order; an error of the removal ends it; and it deletes no
interface but that of the port as it was, and writes none but that of the port as it is.
-/

namespace VlanBinding

open VlanBinding.Fabric VlanBinding.Integration

theorem Neutron.Port.bindingFields_eq_iff {p q : Neutron.Port} :
    p.bindingFields = q.bindingFields ↔
      p.hostId = q.hostId ∧ p.deviceId = q.deviceId ∧ p.deviceOwner = q.deviceOwner ∧
        p.networkId = q.networkId := by
  simp [bindingFields]

namespace Integration.Integrator

variable {port previous : Neutron.Port}

theorem sync_of_eq (i : Integrator) (h : port.bindingFields = previous.bindingFields) :
    i.sync port previous = i.create port := by
  cases i with
  | disabled => rfl
  | enabled source => simp [sync, isEnabled, h]

theorem sync_of_ne (i : Integrator) (h : port.bindingFields ≠ previous.bindingFields) :
    i.sync port previous = i.remove previous >>= fun _ => i.create port := by
  cases i with
  | disabled => rfl
  | enabled source => simp [sync, isEnabled, h]

theorem detach_within (vmi : VirtualMachineInterface) :
    (detach vmi).Within fun c => ∀ name, c ≠ .deleteVmi name := by
  rw [detach]
  cases vmi.portGroupBackRefs with
  | nil => trivial
  | cons ref rest =>
      apply Plan.Within.bind ((Plan.within_ask _).mpr fun name => by simp)
      intro found
      cases found with
      | none => trivial
      | some group => exact (Plan.within_ask _).mpr fun name => by simp

/-- No other interface is deleted than the one of the name. -/
theorem removeInterface_within (key : FqName) :
    (removeInterface key).Within fun c => ∀ name, c = .deleteVmi name → name = key := by
  apply Plan.Within.bind ((Plan.within_ask _).mpr fun name => by simp)
  intro found
  cases found with
  | none => trivial
  | some vmi =>
      apply ((detach_within vmi).mono fun c hc name hname => absurd hname (hc name)).bind
      intro _
      apply (Plan.within_ask _).mpr
      intro name hname
      exact (Call.deleteVmi.inj hname).symm

/-- A call that fails, and is no lookup of a node, is what taking an interface away ends with. -/
theorem remove_ends_with {σ : Type} {respond : Responder σ} {s : σ} (i : Integrator) {x : Exchange}
    (hx : x ∈ ((i.remove port).run respond s).exchanges) {e : Error} (he : x.answer = .error e)
    (hlookup : x.call.looksUpNode = false) : ((i.remove port).run respond s).result = .error e := by
  obtain ⟨earlier, later, hsplit⟩ := List.append_of_mem hx
  have hhost : ¬ x.call.TestsHost earlier := by
    intro htests
    rw [htests.1] at hlookup
    cases hlookup
  exact ((remove_surfaces i port).failed_last s hsplit he hhost).2

end Integration.Integrator

namespace Controller

variable {α β σ : Type} {respond : Responder σ} {memory : σ → Controller} {s : σ}
variable {source : LinkSource} {port previous : Neutron.Port}

/-! ## The order of the writes -/

/-- Each run of the plan writes by calls of these names at most, in this order. -/
def Orders (respond : Responder σ) (names : List String) (p : Plan α) : Prop :=
  ∀ s, ((writes (p.run respond s).exchanges).map Call.name).Sublist names

theorem orders_of_reads {p : Plan α} (hp : p.Within fun c => c.isWrite = false) :
    Orders respond [] p := by
  intro s
  rw [writes_of_within hp]
  exact .slnil

theorem orders_pure {names : List String} (a : α) : Orders respond names (pure a) :=
  fun _ => List.nil_sublist names

theorem orders_ask (c : Call) : Orders respond [c.name] (Plan.ask c) := by
  intro s
  have hcalls : (writes ((Plan.ask c).run respond s).exchanges).Sublist [c] := List.filter_sublist
  exact hcalls.map Call.name

theorem Orders.mono {names more : List String} {p : Plan α} (hp : Orders respond names p)
    (hmore : names.Sublist more) : Orders respond more p :=
  fun s => (hp s).trans hmore

theorem Orders.bind {names rest : List String} {p : Plan α} {f : α → Plan β}
    (hp : Orders respond names p) (hf : ∀ a, Orders respond rest (f a)) :
    Orders respond (names ++ rest) (p >>= f) := by
  intro s
  rcases p.exchanges_bind f s with ⟨e, -, hlog⟩ | ⟨a, -, -, hlog⟩
  · rw [hlog]
    exact (hp s).trans (List.sublist_append_left _ _)
  · rw [hlog, writes_append, List.map_append]
    exact (hp s).append (hf a _)

/-- What only reads may come first. -/
theorem Orders.read_bind {names : List String} {p : Plan α} {f : α → Plan β}
    (hp : p.Within fun c => c.isWrite = false) (hf : ∀ a, Orders respond names (f a)) :
    Orders respond names (p >>= f) :=
  (orders_of_reads hp).bind hf

theorem Orders.name_mem {names : List String} {p : Plan α} (hp : Orders respond names p)
    {x : Exchange} (hx : x ∈ (p.run respond s).exchanges) (hwrite : x.call.isWrite = true) :
    x.call.name ∈ names := by
  apply (hp s).subset
  apply List.mem_map_of_mem
  exact List.mem_filter.mpr ⟨List.mem_map_of_mem hx, hwrite⟩

theorem orders_detach (vmi : VirtualMachineInterface) :
    Orders respond ["update_virtual_port_group"] (Integrator.detach vmi) := by
  rw [Integrator.detach]
  cases vmi.portGroupBackRefs with
  | nil => exact orders_pure ()
  | cons ref rest =>
      apply Orders.read_bind ((Plan.within_ask _).mpr rfl)
      intro found
      cases found with
      | none => exact orders_pure ()
      | some group => exact orders_ask (.updatePortGroup _)

theorem orders_removeInterface (key : FqName) :
    Orders respond ["update_virtual_port_group", "delete_virtual_machine_interface"]
      (Integrator.removeInterface key) := by
  apply Orders.read_bind ((Plan.within_ask _).mpr rfl)
  intro found
  cases found with
  | none => exact orders_pure ()
  | some vmi => exact (orders_detach vmi).bind fun _ => orders_ask (.deleteVmi key)

theorem orders_remove (i : Integrator) (port : Neutron.Port) :
    Orders respond ["update_virtual_port_group", "delete_virtual_machine_interface"]
      (i.remove port) := by
  cases i with
  | disabled => exact orders_pure ()
  | enabled source =>
      apply Orders.read_bind (Integrator.managed?_within (fun _ => rfl) source port)
      intro found
      cases found with
      | none => exact orders_pure ()
      | some a =>
          have hproject := (projectOf_strict_reads port).within
          exact Orders.read_bind hproject fun project => orders_removeInterface _

theorem orders_create (i : Integrator) (port : Neutron.Port) :
    Orders respond ["create_virtual_machine_interface"] (i.create port) := by
  cases i with
  | disabled => exact orders_pure ()
  | enabled source =>
      rw [Integrator.create_eq]
      apply Orders.read_bind (Integrator.wanted_within source port)
      intro found
      cases found with
      | none => exact orders_pure ()
      | some vmi => exact orders_ask (.createVmi vmi)

/-- Taking an interface away writes none. -/
theorem call_ne_createVmi_of_mem {i : Integrator} {x : Exchange}
    (hx : x ∈ ((i.remove port).run respond s).exchanges) (vmi : VirtualMachineInterface) :
    x.call ≠ .createVmi vmi := by
  intro hvmi
  have hname := (orders_remove i port).name_mem hx (by rw [hvmi]; rfl)
  simp [hvmi, Call.name] at hname

/-- Making an interface deletes none. -/
theorem call_ne_deleteVmi_of_mem {i : Integrator} {x : Exchange}
    (hx : x ∈ ((i.create port).run respond s).exchanges) (name : FqName) :
    x.call ≠ .deleteVmi name := by
  intro hname
  have hkept := ((Integrator.create_within i port).of_mem_exchanges hx).1
  rw [hname] at hkept
  cases hkept

theorem orders_sync (i : Integrator) (port previous : Neutron.Port) :
    Orders respond
      ["update_virtual_port_group", "delete_virtual_machine_interface",
        "create_virtual_machine_interface"] (i.sync port previous) := by
  by_cases hfields : port.bindingFields = previous.bindingFields
  · rw [i.sync_of_eq hfields]
    exact (orders_create i port).mono (by simp)
  · rw [i.sync_of_ne hfields]
    exact (orders_remove i previous).bind fun _ => orders_create i port

/-! ## The interfaces that are written and deleted -/

section

variable (h : AnswersFrom respond memory)
include h

/-- What is written after a lookup is written by what goes on with the value looked up. -/
theorem AnswersFrom.mem_read_bind {p : Plan α} {f : α → Plan β}
    (hp : p.Within fun c => c.isWrite = false) {x : Exchange}
    (hx : x ∈ ((p >>= f).run respond s).exchanges) (hwrite : x.call.isWrite = true) :
    ∃ a t, memory t = memory s ∧ (p.run respond s).result = .ok a ∧
      x ∈ ((f a).run respond t).exchanges := by
  have hread : x ∉ (p.run respond s).exchanges := by
    intro hx
    rw [hp.of_mem_exchanges hx] at hwrite
    cases hwrite
  rcases p.exchanges_bind f s with ⟨e, -, hlog⟩ | ⟨a, ha, -, hlog⟩
  · rw [hlog] at hx
    exact absurd hx hread
  · rw [hlog] at hx
    exact ⟨a, _, h.memory_of_within hp s, ha, (List.mem_append.mp hx).resolve_left hread⟩

/-- Only the interface of the port is deleted. -/
theorem AnswersFrom.deletes_own (i : Integrator) {x : Exchange}
    (hx : x ∈ ((i.remove port).run respond s).exchanges) {name : FqName}
    (hname : x.call = .deleteVmi name) : (memory s).nameFor? port = some name := by
  have hwrite : x.call.isWrite = true := by rw [hname]; rfl
  cases i with
  | disabled => cases hx
  | enabled source =>
      obtain ⟨found, t, ht, hfound, hx⟩ :=
        h.mem_read_bind (Integrator.managed?_within (fun _ => rfl) source port) hx hwrite
      cases found with
      | none => cases hx
      | some a =>
          have hstrict := projectOf_strict_reads port
          obtain ⟨project, u, -, hproject, hx⟩ := h.mem_read_bind hstrict.within hx hwrite
          have htold : (memory t).projectOf? port = some project := by
            rw [projectOf?, h.result_of_strict hstrict hproject]
            rfl
          have hkey := (Integrator.removeInterface_within _).of_mem_exchanges hx name hname
          rw [hkey, ← ht]
          exact nameFor?_of_attachment (Integrator.ofPort?_of_managed? hfound) htold

/-- Only the interface of the port is written. -/
theorem AnswersFrom.creates_own (i : Integrator) {x : Exchange}
    (hx : x ∈ ((i.create port).run respond s).exchanges) {vmi : VirtualMachineInterface}
    (hvmi : x.call = .createVmi vmi) : (memory s).nameFor? port = some vmi.fqName := by
  have hwrite : x.call.isWrite = true := by rw [hvmi]; rfl
  cases i with
  | disabled => cases hx
  | enabled source =>
      rw [Integrator.create_eq] at hx
      obtain ⟨found, t, -, hfound, hx⟩ :=
        h.mem_read_bind (Integrator.wanted_within source port) hx hwrite
      cases found with
      | none => cases hx
      | some wanted =>
          obtain ⟨-, -, b, hb, rfl⟩ := (result_wanted_eq_some_iff h).mp hfound
          obtain rfl := List.mem_singleton.mp hx
          obtain rfl := Call.createVmi.inj hvmi
          obtain ⟨hnetwork, hhost, -, howner⟩ := hb.places
          have hproject : (memory s).projectOf? port = some b.project := by
            rw [projectOf?, perform_projectOf_eq_ok_iff.mpr howner]
            rfl
          simp only [nameFor?, hnetwork, hhost, hproject]
          rfl

/-- No call changes the name of a port's interface. -/
theorem AnswersFrom.nameFor?_of_run (p : Plan α) (s : σ) :
    (memory (p.run respond s).state).nameFor? port = (memory s).nameFor? port := by
  apply nameFor?_of_inventory
  apply Plan.perform_invariant fun s => (memory s).inventory
  intro c s
  rcases h.state c s with hstate | ⟨hstate, -⟩
  · simp only [hstate, answer_inventory]
  · simp only [hstate]

/-- What is called to replace an interface is called to take the old one away, or to make the new
one. -/
theorem AnswersFrom.mem_sync {i : Integrator} {x : Exchange}
    (hx : x ∈ ((i.sync port previous).run respond s).exchanges) :
    x ∈ ((i.remove previous).run respond s).exchanges ∨
      ∃ t, (memory t).nameFor? port = (memory s).nameFor? port ∧
        x ∈ ((i.create port).run respond t).exchanges := by
  by_cases hfields : port.bindingFields = previous.bindingFields
  · rw [i.sync_of_eq hfields] at hx
    exact Or.inr ⟨s, rfl, hx⟩
  · rw [i.sync_of_ne hfields] at hx
    rcases Plan.exchanges_bind (i.remove previous) (fun _ => i.create port) s with
      ⟨e, -, hlog⟩ | ⟨_, -, -, hlog⟩
    · rw [hlog] at hx
      exact Or.inl hx
    · rw [hlog] at hx
      refine (List.mem_append.mp hx).imp_right fun hx => ⟨_, ?_, hx⟩
      exact h.nameFor?_of_run (i.remove previous) s

end

/-! ## Replacing an interface -/

/-- The interface of the port as it was is taken out of its port group, then deleted, and then that
of the port as it is written, each at most once. If the removal fails, for one reason or another,
nothing is written after it; and nothing is removed unless a binding field has changed. -/
theorem previous_removed_before_creation (h : AnswersFrom respond memory) (i : Integrator)
    (port previous : Neutron.Port) (s : σ) :
    let run := (i.sync port previous).run respond s
    let removal := (i.remove previous).run respond s
    let creation := (i.create port).run respond removal.state
    let unmoved := port.hostId = previous.hostId ∧ port.deviceId = previous.deviceId ∧
      port.deviceOwner = previous.deviceOwner ∧ port.networkId = previous.networkId
    ((writes run.exchanges).map Call.name).Sublist
      ["update_virtual_port_group", "delete_virtual_machine_interface",
        "create_virtual_machine_interface"] ∧
    (unmoved → ∀ x ∈ run.exchanges, x.call.isRemoval = false) ∧
    (¬ unmoved →
      (removal.result = .ok () →
        run.exchanges = removal.exchanges ++ creation.exchanges ∧ run.result = creation.result) ∧
      (∀ e, removal.result = .error e →
        run.result = .error e ∧ run.exchanges = removal.exchanges ∧
          ∀ x ∈ run.exchanges, ∀ vmi, x.call ≠ .createVmi vmi) ∧
      ∀ x ∈ removal.exchanges, ∀ e, x.answer = .error e → x.call.looksUpNode = false →
        removal.result = .error e) ∧
    ∀ x ∈ run.exchanges,
      (∀ name, x.call = .deleteVmi name → (memory s).nameFor? previous = some name) ∧
      ∀ vmi, x.call = .createVmi vmi → (memory s).nameFor? port = some vmi.fqName := by
  intro run removal creation unmoved
  refine ⟨orders_sync i port previous s, ?_, ?_, ?_⟩
  · intro hunmoved x hx
    have hrun : run = (i.create port).run respond s := by
      simp only [run, i.sync_of_eq (Neutron.Port.bindingFields_eq_iff.mpr hunmoved)]
    rw [hrun] at hx
    exact ((Integrator.create_within i port).of_mem_exchanges hx).1
  · intro hmoved
    have hrun : run = (i.remove previous >>= fun _ => i.create port).run respond s := by
      simp only [run, i.sync_of_ne fun hfields =>
        hmoved (Neutron.Port.bindingFields_eq_iff.mp hfields)]
    refine ⟨fun hok => ?_, fun e herror => ?_, fun x hx e => i.remove_ends_with hx⟩
    · rw [hrun, Plan.run_bind_of_ok hok]
      exact ⟨rfl, rfl⟩
    · rw [Plan.run_bind_of_error herror] at hrun
      rw [hrun]
      exact ⟨rfl, rfl, fun x hx => call_ne_createVmi_of_mem hx⟩
  · intro x hx
    rcases h.mem_sync hx with hx | ⟨t, hsame, hx⟩
    · exact ⟨fun name hname => h.deletes_own i hx hname,
        fun vmi hvmi => absurd hvmi (call_ne_createVmi_of_mem hx vmi)⟩
    -- the removal leaves all projects in place, so the port's interface goes by the same name
    · rw [← hsame]
      exact ⟨fun name hname => absurd hname (call_ne_deleteVmi_of_mem hx name),
        fun vmi hvmi => h.creates_own i hx hvmi⟩

/-- A port whose machine changes has its interface written anew under the name of the one that is
deleted; if the deletion fails, nothing is written. -/
theorem interface_replaced_by_namesake :
    let moved := { Lab.adminPort with deviceId := some "vm-2" }
    let sync := (Integrator.enabled Lab.source).sync moved Lab.adminPort
    let replaced := sync.run Lab.flaky ([], Lab.bonded)
    let stopped := sync.run Lab.flaky ([false, false, false, false, true], Lab.bonded)
    (writes replaced.exchanges).map Call.name =
        ["update_virtual_port_group", "delete_virtual_machine_interface",
          "create_virtual_machine_interface"] ∧
      (∀ x ∈ replaced.exchanges,
        (∀ name, x.call = .deleteVmi name → name = Lab.adminName) ∧
        ∀ vmi, x.call = .createVmi vmi → vmi.fqName = Lab.adminName) ∧
      (∃ e, stopped.result = .error e) ∧
      ∀ x ∈ stopped.exchanges, ∀ vmi, x.call ≠ .createVmi vmi := by
  intro moved sync replaced stopped
  obtain ⟨-, -, -, hnames⟩ := previous_removed_before_creation Lab.flaky_answersFrom
    (.enabled Lab.source) moved Lab.adminPort ([], Lab.bonded)
  obtain ⟨-, -, hstops, -⟩ := previous_removed_before_creation Lab.flaky_answersFrom
    (.enabled Lab.source) moved Lab.adminPort ([false, false, false, false, true], Lab.bonded)
  have hname : Lab.bonded.nameFor? Lab.adminPort = some Lab.adminName := by decide +kernel
  have hmoved : Lab.bonded.nameFor? moved = some Lab.adminName := by decide +kernel
  refine ⟨by decide +kernel, fun x hx => ?_, ?_⟩
  · obtain ⟨hdeleted, hcreated⟩ := hnames x hx
    exact ⟨fun name h => Option.some.inj ((hdeleted name h).symm.trans hname),
      fun vmi h => Option.some.inj ((hcreated vmi h).symm.trans hmoved)⟩
  · obtain ⟨-, hstopped, hfailed⟩ := hstops (by decide)
    obtain ⟨x, hx, hfail, hlookup⟩ : ∃ x ∈ (((Integrator.enabled Lab.source).remove
        Lab.adminPort).run Lab.flaky ([false, false, false, false, true], Lab.bonded)).exchanges,
        x.failed = true ∧ x.call.looksUpNode = false := by decide +kernel
    obtain ⟨e, he⟩ := x.exists_error_of_failed hfail
    obtain ⟨hresult, -, hcreates⟩ := hstopped e (hfailed x hx e he hlookup)
    exact ⟨⟨e, hresult⟩, hcreates⟩

end Controller

end VlanBinding
