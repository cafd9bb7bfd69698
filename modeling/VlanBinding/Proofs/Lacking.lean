import VlanBinding.Proofs.Calls
import VlanBinding.Proofs.Replies

/-!
Successful answers that lack what was asked for. Main statement: to every read of the fabric
controller such an answer is an error, but for the list of nodes of a host name: where there is no
list in an answer that is JSON, the host is taken to be unknown.
-/

namespace VlanBinding

open VlanBinding.Fabric VlanBinding.Http VlanBinding.Json VlanBinding.Integration

/-- The items of an array inside the member of this name. -/
def Json.listed? (key : String) (v : Json) : Option (List Json) :=
  match v.member? key with
  | some (.arr items) => some items
  | _ => none

namespace Integration.Call

/-- The kind of object that a call looks for. -/
def kind? : Call → Option Resource
  | getProject _ => some .project
  | getVirtualNetwork _ => some .virtualNetwork
  | getVmi _ => some .virtualMachineInterface
  | getPortGroup _ => some .virtualPortGroup
  | readInterface _ _ => some .physicalInterface
  | readFabricName _ => some .physicalRouter
  | readNode _ => some .node
  | getPort _ => some .port
  | createVmi _ | deleteVmi _ | updatePortGroup _ | getNetwork _ | getPorts _ _ => none

/-- Does an answer hold what a call needs of it? That is the uuid of a name that was asked for, the
member with the list of the nodes, or the member with the object. -/
def Suffices (call : Call) (x : Http.Exchange) : Prop :=
  match x.request.method, call.looksUpNode, call.kind? with
  | .post, _, _ => (x.given? Json.uuid?).isSome = true
  | _, true, _ => (x.given? (Json.listed? Resource.node.collection)).isSome = true
  | _, false, some kind => (x.given? (Json.member? kind.name)).isSome = true
  | _, false, none => True

/-- What the call looked for is taken to be absent. -/
def Absent {ε : Type} : (call : Call) → Except ε call.Answer → Prop
  | getProject _, r => r = .ok none
  | getVirtualNetwork _, r => r = .ok none
  | getVmi _, r => r = .ok none
  | getPortGroup _, r => r = .ok none
  | readInterface _ _, r => r = .ok none
  | readFabricName _, r => r = .ok none
  | readNode _, r => r = .ok none
  | getPort _, r => r = .ok none
  | _, _ => False

end Integration.Call

namespace Rest

variable {c : FabricClient} {reaches : Url → Bool} {log : List Http.Exchange}
variable {x : Http.Exchange} {α : Type}

/-! ## Objects -/

/-- An answer without the member of its kind holds no object. -/
theorem given?_object?_eq_none [IsObject α]
    (h : (x.given? (Json.member? (IsObject.resource α).name)).isSome ≠ true) :
    x.given? (Json.object? α) = none := by
  cases hx : x.value? with
  | none => rw [Exchange.given?, hx, Option.bind_none]
  | some v =>
      rw [Exchange.given?, hx, Option.bind_some] at h ⊢
      have hnone : v.member? (IsObject.resource α).name = none := by simpa using h
      rw [Json.object?, hnone, Option.bind_none]

/-- Where a granted answer decides, and nothing is found in it, there is an error. -/
theorem FabricClient.exists_error_of_granted {r : Except Error (Option α)}
    (hgranted : x.granted = true) (hfound : ∀ a, r ≠ .ok (some a))
    (habsent : r = .ok none → x.status? = some 404) : ∃ e, r = .error e := by
  cases r with
  | error e => exact ⟨e, rfl⟩
  | ok found =>
      cases found with
      | none => exact absurd (habsent rfl) (FabricClient.status?_ne_of_granted hgranted rfl)
      | some a => exact absurd rfl (hfound a)

theorem FabricClient.Sought.error {get : Json → Option α} {r : Except Error (Option α)}
    (h : c.Sought get r (some x)) (hgranted : x.granted = true) (hget : x.given? get = none) :
    ∃ e, r = .error e := by
  apply exists_error_of_granted hgranted _ (h.absent (Or.inl rfl)).mp
  intro a ha
  have hfound := (h.found a).mp ha
  rw [Option.bind_some, hget] at hfound
  cases hfound

theorem FabricClient.Missed.error {r : Except Error (Option α)} (h : c.Missed r (some x))
    (hgranted : x.granted = true) : ∃ e, r = .error e :=
  exists_error_of_granted hgranted h.found (h.absent (Or.inl rfl)).mp

/-- An answer to one of the requests of a read is granted, and lacks what it should hold. -/
structure Lacks (c : FabricClient) (call : Call) (log : List Http.Exchange) (x : Http.Exchange) :
    Prop where
  mem : x ∈ log
  own : ¬ c.credentials.LogsIn x.request
  granted : x.granted = true
  lacks : ¬ call.Suffices x

theorem read_of_lacks {call : Call} [IsObject α] {uuid : String} {r : Except Error (Option α)}
    (hkind : call.kind? = some (IsObject.resource α)) (hnode : call.looksUpNode = false)
    (h : c.Asked reaches (FabricClient.objectAsk .get (IsObject.resource α) uuid)
      (c.Sought (Json.object? α) r) log) (hx : Lacks c call log x) : ∃ e, r = .error e := by
  obtain ⟨hsought, token, hwording⟩ := h.decides hx.mem hx.own hx.granted
  have hmethod : x.request.method = .get := FabricClient.method_of_wording hwording
  have hlacks := hx.lacks
  rw [Call.Suffices, hmethod, hnode, hkind] at hlacks
  exact hsought.error hx.granted (given?_object?_eq_none hlacks)

theorem readByName_of_lacks {call : Call} [IsObject α] {fqName : FqName}
    {r : Except Error (Option α)} (hkind : call.kind? = some (IsObject.resource α))
    (hnode : call.looksUpNode = false)
    (h : c.AskedByName reaches (FabricClient.idAsk (IsObject.resource α) fqName)
      (FabricClient.objectAsk .get (IsObject.resource α)) (c.Missed r)
      (c.Sought (Json.object? α) r) log) (hx : Lacks c call log x) : ∃ e, r = .error e := by
  cases h with
  | ended h =>
      obtain ⟨⟨-, hmissed⟩, -⟩ := h.decides hx.mem hx.own hx.granted
      exact hmissed.error hx.granted
  | went h hrest =>
      rcases List.mem_append.mp hx.mem with hmem | hmem
      · obtain ⟨huuid, token, hwording⟩ := h.decides hmem hx.own hx.granted
        have hmethod : x.request.method = .post := FabricClient.method_of_wording hwording
        have hlacks := hx.lacks
        rw [Call.Suffices, hmethod] at hlacks
        rw [Option.bind_some] at huuid
        simp [huuid] at hlacks
      · exact read_of_lacks hkind hnode hrest ⟨hmem, hx.own, hx.granted, hx.lacks⟩

/-! ## Nodes -/

namespace FabricClient

theorem yields_mapM {β : Type} {f : β → Action α} {get : β → Option α}
    (hf : ∀ b, Yields (f b) (get b)) (items : List β) :
    Yields (items.mapM f) (items.mapM get) := by
  induction items with
  | nil => exact yields_pure []
  | cons item items ih =>
      rw [List.mapM_cons, List.mapM_cons]
      exact (hf item).bind fun a => ih.bind fun as => yields_pure (a :: as)

/-- The nodes in an answer: where there is no list of them there are none. -/
def nodes? (v : Json) : Option (List Node) :=
  match v.listed? Resource.node.collection with
  | some items => items.mapM (Json.object? Node)
  | none => some []

theorem yields_nodes (v : Json) :
    Yields (match v.member? Resource.node.collection with
      | some (.arr items) => items.mapM (unwrap Node Resource.node.collection)
      | _ => pure [] : Action (List Node)) (nodes? v) := by
  rw [nodes?, Json.listed?]
  cases v.member? Resource.node.collection with
  | none => exact yields_pure []
  | some value =>
      cases value with
      | arr items => exact yields_mapM (yields_unwrap Node _) items
      | null | bool | num | str | obj => exact yields_pure []

theorem nodeOf_asked (c : FabricClient) (reaches : Url → Bool) (hostname : String) :
    (c.nodeOf hostname).Turns reaches fun _ r log _ => Asked c reaches (nodesAsk hostname)
      (Told c (·.given? fun v => (nodes? v).map fun nodes =>
        nodes.find? fun node => node.hostname == some hostname) r) log := by
  rw [nodeOf, list, bind_assoc]
  apply request_bind_asked c reaches (nodesAsk hostname)
  intro v
  exact (yields_nodes v).bind_pure _

end FabricClient

theorem nodeOf_of_lacks {hostname : String} {r : Except Error (Option Node)}
    (h : c.Asked reaches (FabricClient.nodesAsk hostname)
      (c.Told (·.given? fun v => (FabricClient.nodes? v).map fun nodes =>
        nodes.find? fun node => node.hostname == some hostname) r) log)
    (hx : Lacks c (.readNode hostname) log x) :
    if x.value?.isSome = true then r = .ok none else ∃ e, r = .error e := by
  obtain ⟨htold, token, hwording⟩ := h.decides hx.mem hx.own hx.granted
  have hmethod : x.request.method = .get := FabricClient.method_of_wording hwording
  have hlacks := hx.lacks
  rw [Call.Suffices, hmethod] at hlacks
  cases hvalue : x.value? with
  | none =>
      rw [if_neg (by simp)]
      cases r with
      | error e => exact ⟨e, rfl⟩
      | ok found =>
          have hgiven := (htold.ok_iff found).mp rfl
          simp [Exchange.given?, hvalue] at hgiven
  | some v =>
      simp only [Option.isSome_some, ↓reduceIte]
      apply (htold.ok_iff none).mpr
      have hnone : v.listed? Resource.node.collection = none := by
        simpa [Exchange.given?, hvalue, Call.looksUpNode] using hlacks
      simp [Exchange.given?, hvalue, FabricClient.nodes?, hnone]

/-! ## Reads -/

/-- What a read comes to whose answer is granted, and lacks what it should hold. -/
theorem perform_of_lacks (c : Services) {call : Call} (hfabric : call.isCore = false)
    (hread : call.isWrite = false) (reaches : Url → Bool) :
    (c.perform call).Turns reaches fun _ r log _ => ∀ x, Lacks c.fabric call log x →
      if call.looksUpNode = true ∧ x.value?.isSome = true then call.Absent r
      else ∃ e, r = .error e := by
  have herror {r : Except Error call.Answer} {x : Http.Exchange} (hnode : call.looksUpNode = false)
      (h : ∃ e, r = .error e) : if call.looksUpNode = true ∧ x.value?.isSome = true
        then call.Absent r else ∃ e, r = .error e := by
    rw [if_neg (by simp [hnode])]
    exact h
  cases call with
  | getProject | getVirtualNetwork | getPortGroup | getPort =>
      apply (FabricClient.read_asked _ c.fabric reaches _).mono
      intro held r log after hasked x hx
      exact herror rfl (read_of_lacks rfl rfl hasked hx)
  | getVmi | readInterface =>
      apply (FabricClient.readByName_asked _ c.fabric reaches _).mono
      intro held r log after hasked x hx
      exact herror rfl (readByName_of_lacks rfl rfl hasked hx)
  | readFabricName switch =>
      apply (FabricClient.readByName_asked PhysicalRouter c.fabric reaches _).bind_pure
        fun _ _ => rfl
      · intro held router log after hasked x hx
        have hkind : (Call.readFabricName switch).kind? = some (IsObject.resource PhysicalRouter) :=
          rfl
        obtain ⟨e, he⟩ := readByName_of_lacks hkind rfl hasked hx
        cases he
      · intro held e log after hasked x hx
        exact herror rfl ⟨e, rfl⟩
  | readNode host =>
      apply (FabricClient.nodeOf_asked c.fabric reaches host).mono
      intro held r log after hasked x hx
      simp only [Call.looksUpNode, true_and]
      exact nodeOf_of_lacks hasked hx
  | createVmi | deleteVmi | updatePortGroup => cases hread
  | getNetwork | getPorts => cases hfabric

theorem not_absent_error {ε : Type} {call : Call} (e : ε) :
    ¬ call.Absent (.error e : Except ε call.Answer) := by
  intro h
  cases call <;> cases h

theorem absent_mapError {ε δ : Type} {call : Call} {f : ε → δ} {r : Except ε call.Answer}
    (h : call.Absent r) : call.Absent (r.mapError f) := by
  cases call with
  | createVmi | deleteVmi | updatePortGroup | getNetwork | getPorts => exact h.elim
  | _ => exact mapError_eq_ok_iff.mpr h

/-- A host is unknown if no node is found for it. -/
theorem resolve_of_absent {σ : Type} {respond : Responder σ} {host : String} {s : σ}
    (h : (respond (.readNode host) s).1 = .ok none) :
    ((LinkSource.controller.resolve host).run respond s).result = .error (.nodeNotFound host) := by
  change (((Plan.done (respond (.readNode host) s).1).bind _).run respond _).result = _
  rw [h]
  rfl

theorem resolve_of_error {σ : Type} {respond : Responder σ} {host : String} {s : σ}
    {e : Integration.Error} (h : (respond (.readNode host) s).1 = .error e) :
    ((LinkSource.controller.resolve host).run respond s).result = .error e := by
  change (((Plan.done (respond (.readNode host) s).1).bind _).run respond _).result = _
  rw [h]
  rfl

/-- A read whose answer lacks what it should hold is an error, or finds no node; then a host is
unknown to the controller. -/
theorem respond_of_lacks (c : Services) (call : Call) (hfabric : call.isCore = false)
    (hread : call.isWrite = false) (s : Session) (x : Http.Exchange) :
    let run := c.respond call s
    Lacks c.fabric call (s.network.exchangesSince run.2.network) x →
      (call.Absent run.1 ↔ call.looksUpNode = true ∧ x.value?.isSome = true) ∧
        (¬ call.Absent run.1 → ∃ e, run.1 = .error e) ∧
        ∀ host, call = .readNode host →
          (((LinkSource.controller.resolve host).run c.respond s).result =
            .error (.nodeNotFound host) ↔ x.value?.isSome = true) := by
  intro run hx
  obtain ⟨r, hrun, hlacks⟩ :=
    respond_of_perform call (perform_of_lacks c hfabric hread s.network.reaches)
  have hr := hlacks x hx
  by_cases hnode : call.looksUpNode = true ∧ x.value?.isSome = true
  · rw [if_pos hnode] at hr
    have habsent : call.Absent run.1 := hrun ▸ absent_mapError hr
    refine ⟨iff_of_true habsent hnode, fun hnot => absurd habsent hnot, ?_⟩
    rintro host rfl
    exact iff_of_true (resolve_of_absent habsent) hnode.2
  · rw [if_neg hnode] at hr
    obtain ⟨e, rfl⟩ := hr
    have herror : run.1 = .error (.fabric (.rest e)) := by
      rw [← failure_of_fabric hfabric e]
      exact hrun
    refine ⟨iff_of_false ?_ hnode, fun _ => ⟨_, herror⟩, ?_⟩
    · rw [herror]
      exact not_absent_error _
    · rintro host rfl
      rw [resolve_of_error herror]
      simpa [Call.looksUpNode] using hnode

end Rest

namespace Lab

def emptyObject : Reply := .response { body := "\x7b\x7d" }

/-- After a login, an empty object where a project should be. -/
def hollowProject : List Reply := [issuing "t", emptyObject]

/-- Clients without credentials. -/
def anonymous : Rest.Services := clients .anonymous .anonymous

def lookup : Call := .readNode "compute1"

/-- An empty object where nodes should be listed. -/
def unlisted : List Reply := [emptyObject]

end Lab

namespace Rest

/-- An empty object is no project, and none that is absent. -/
theorem hollow_project_is_error :
    let log := Lab.traffic Lab.services Lab.getProject Lab.hollowProject
    ∃ x ∈ log, x.status? = some 200 ∧
      Lacks Lab.services.fabric Lab.getProject log x ∧
      ∃ e, (Lab.services.respond Lab.getProject (Lab.loggedOut Lab.hollowProject)).1 =
        .error e := by
  intro log
  obtain ⟨x, hx, hlogin, hmethod, hstatus, hgiven⟩ : ∃ x ∈ log,
      ¬ IsLogin Lab.keystone x.request ∧ x.request.method = .get ∧ x.status? = some 200 ∧
        (x.given? (Json.member? "project")).isSome = false := by decide +kernel
  have hlacks : Lacks Lab.services.fabric Lab.getProject log x := by
    refine ⟨hx, hlogin, by rw [Exchange.granted, hstatus]; rfl, ?_⟩
    rw [Call.Suffices, hmethod]
    simpa [Lab.getProject, Call.looksUpNode, Call.kind?, Resource.name] using hgiven
  obtain ⟨habsent, herror, -⟩ := respond_of_lacks Lab.services Lab.getProject rfl rfl
    (Lab.loggedOut Lab.hollowProject) x hlacks
  refine ⟨x, hx, hstatus, hlacks, herror (mt habsent.mp ?_)⟩
  simp [Lab.getProject, Call.looksUpNode]

/-- A host is taken to be unknown because of an answer that lists nothing at all. -/
theorem host_unknown_without_list :
    ¬ ∀ (c : Services) (call : Call) (s : Session) (x : Http.Exchange),
      call.isCore = false → call.isWrite = false →
      Lacks c.fabric call (s.network.exchangesSince (c.respond call s).2.network) x →
      ∃ e, (c.respond call s).1 = .error e := by
  intro hclaim
  obtain ⟨x, hx, hmethod, hgranted, hgiven⟩ :
      ∃ x ∈ Lab.traffic Lab.anonymous Lab.lookup Lab.unlisted,
        x.request.method = .get ∧ x.granted = true ∧
        (x.given? (Json.listed? "nodes")).isSome = false := by decide +kernel
  have hlacks : Lacks Lab.anonymous.fabric Lab.lookup
      (Lab.traffic Lab.anonymous Lab.lookup Lab.unlisted) x := by
    refine ⟨hx, id, hgranted, ?_⟩
    rw [Call.Suffices, hmethod]
    simpa [Lab.lookup, Call.looksUpNode, Resource.collection, Resource.name] using hgiven
  obtain ⟨e, he⟩ := hclaim Lab.anonymous Lab.lookup (Lab.loggedOut Lab.unlisted) x rfl rfl hlacks
  have hnone : ((Lab.anonymous.respond Lab.lookup (Lab.loggedOut Lab.unlisted)).1.toOption.map
      Option.isNone) = some true := by decide +kernel
  rw [he] at hnone
  cases hnone

end Rest

end VlanBinding
