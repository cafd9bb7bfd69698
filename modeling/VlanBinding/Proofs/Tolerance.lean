import VlanBinding.Proofs.PathEnd
import VlanBinding.Proofs.Replies

/-!
Which answers of the fabric controller a call tolerates. Main statement: without Keystone a call
sends one request, and a second one at most, whose path names the object that the first one told of
as long as the uuid that was told can stand in a path; it takes a refusal for an answer only where
the refusal says that something is absent, or there already where it was to be created, and
everything else that is no proper answer makes it fail.
-/

namespace VlanBinding

open VlanBinding.Fabric VlanBinding.Http VlanBinding.Json

/-- The uuid of an object that was created, inside the member of its kind. -/
def Json.created? (r : Resource) (v : Json) : Option String := (v.member? r.name).bind Json.uuid?

namespace Rest.FabricClient

variable {c : FabricClient} {reaches : Url → Bool} {ask : Ask} {log : List Exchange}

/-! ## Writes -/

/-- What comes of a request that fails with the refusal `st` if it is done already. -/
def Done (c : FabricClient) (st : Status) (get : Json → Option Unit) (r : Except Error Unit)
    (x? : Option Exchange) : Prop :=
  x?.isSome ∨ c.credentials.canRenew = false →
    (r = .ok () ↔ x?.bind Exchange.status? = some st ∨ x?.bind (·.given? get) = some ())

/-- What an action without a value comes to where some errors are none. -/
def spare (isDone : Error → Bool) : Except Error Unit → Except Error Unit
  | .ok () => .ok ()
  | .error e => if isDone e then .ok () else .error e

theorem unlessDone_turns {isDone : Error → Bool} {a : Action Unit}
    {rel : Option String → Except Error Unit → List Exchange → Option String → Prop}
    (ha : a.Turns reaches rel) :
    (unlessDone isDone a).Turns reaches fun held r log after =>
      ∃ r', rel held r' log after ∧ r = spare isDone r' := by
  have hhandle (e : Error) (s : Session) :
      (if isDone e then pure () else throw e : Action Unit).outcome s =
        (spare isDone (.error e), s) := by
    rw [spare]
    split <;> rfl
  apply ha.recover hhandle
  · exact fun held _ log after h => ⟨_, h, rfl⟩
  · exact fun held _ log after h => ⟨_, h, rfl⟩

theorem Told.done {get : Json → Option Unit} {r : Except Error Unit} {x? : Option Exchange}
    {isDone : Error → Bool} {st : Status} (h : Told c (·.given? get) r x?)
    (hdone : x?.isSome ∨ c.credentials.canRenew = false → ∀ e, r = .error e →
      (isDone e = true ↔ x?.bind Exchange.status? = some st)) :
    Done c st get (spare isDone r) x? := by
  intro hdecided
  cases r with
  | ok u =>
      have hgiven := (h.ok_iff ()).mp rfl
      simp [spare, hgiven]
  | error e =>
      have hnone : x?.bind (·.given? get) ≠ some () := by
        intro hgiven
        cases (h.ok_iff ()).mpr hgiven
      rw [← hdone hdecided e rfl, spare]
      simp [hnone]

/-- The request that an object is created. -/
def creationAsk {α : Type} [IsObject α] (object : α) : Ask where
  method := .post
  path := (IsObject.resource α).collection
  body := some (wrap object)

/-- The request that an object becomes what it is told to be. -/
def updateAsk {α : Type} [IsObject α] (object : α) (uuid : String) : Ask :=
  { objectAsk .put (IsObject.resource α) uuid with body := some (wrap object) }

theorem create_asked {α : Type} [IsObject α] (c : FabricClient) (reaches : Url → Bool)
    (object : α) :
    (c.create object >>= fun _ => pure () : Action Unit).Turns reaches fun _ r log _ =>
      Asked c reaches (creationAsk object)
        (Told c (·.given? fun v => (v.created? (IsObject.resource α)).map fun _ => ()) r) log := by
  rw [create, bind_assoc]
  apply request_bind_asked c reaches (creationAsk object)
  intro v
  apply Yields.bind_pure
  rw [Json.created?]
  cases v.member? (IsObject.resource α).name with
  | none => exact yields_throw (plain_invalidResponse _ _)
  | some inner =>
      rw [Option.bind_some, Option.bind_some, Json.uuid?]
      cases inner.member? "uuid" with
      | none => exact yields_throw (plain_invalidResponse _ _)
      | some uuid =>
          cases uuid with
          | str uuid => exact yields_pure uuid
          | null | bool | num | arr | obj => exact yields_throw (plain_invalidResponse _ _)

theorem createVmi_asked (c : FabricClient) (reaches : Url → Bool)
    (vmi : VirtualMachineInterface) :
    (c.createVmi vmi).Turns reaches fun _ r log _ => Asked c reaches (creationAsk vmi)
      (Done c 409 (fun v => (v.created? .virtualMachineInterface).map fun _ => ()) r) log := by
  apply (unlessDone_turns (create_asked c reaches vmi)).mono
  rintro held _ log after ⟨r, hasked, rfl⟩
  exact hasked.mono fun x? htold => htold.done htold.conflict

theorem delete_asked (c : FabricClient) (reaches : Url → Bool) (r : Resource) (uuid : String) :
    (c.delete r uuid).Turns reaches fun _ res log _ =>
      Asked c reaches (objectAsk .delete r uuid) (Told c (·.given? fun _ => some ()) res) log := by
  apply request_bind_asked c reaches (objectAsk .delete r uuid)
  exact fun _ => yields_pure ()

theorem update_asked {α : Type} [IsObject α] {object : α} {uuid : String}
    (huuid : IsObject.uuid? object = some uuid) (c : FabricClient) (reaches : Url → Bool) :
    (c.update object).Turns reaches fun _ r log _ =>
      Asked c reaches (updateAsk object uuid) (Told c (·.given? fun _ => some ()) r) log := by
  rw [update, huuid]
  apply request_bind_asked c reaches (updateAsk object uuid)
  exact fun _ => yields_pure ()

theorem updateGroup_asked {group : VirtualPortGroup} {uuid : String}
    (huuid : IsObject.uuid? group = some uuid) (c : FabricClient) (reaches : Url → Bool) :
    (c.updateGroup group).Turns reaches fun _ r log _ =>
      Asked c reaches (updateAsk group uuid) (Done c 404 (fun _ => some ()) r) log := by
  apply (unlessDone_turns (update_asked huuid c reaches)).mono
  rintro held _ log after ⟨r, hasked, rfl⟩
  exact hasked.mono fun x? htold => htold.done htold.notFound

/-- A name that leads to no object is an error, and the one that says so. -/
theorem deleteByName_asked (c : FabricClient) (reaches : Url → Bool) (r : Resource)
    (fqName : FqName) :
    (c.deleteByName r fqName).Turns reaches fun _ res log _ =>
      AskedByName c reaches (idAsk r fqName) (objectAsk .delete r)
        (fun x? => ∃ e, res = .error e ∧ (x?.isSome ∨ c.credentials.canRenew = false →
          (e.isNotFound = true ↔ x?.bind Exchange.status? = some 404)))
        (Told c (·.given? fun _ => some ()) res) log := by
  apply idOf_bind_asked c reaches r fqName (.error (.notFound (":".intercalate fqName)))
  · exact fun _ => rfl
  · exact fun uuid => delete_asked c reaches r uuid
  · intro x? h
    refine ⟨_, rfl, fun hdecided => ?_⟩
    simpa [Error.isNotFound] using h.absent hdecided
  · intro e x? h
    refine ⟨e, rfl, fun hdecided => ?_⟩
    simpa [h.stands e rfl] using h.absent hdecided

theorem deleteVmi_asked (c : FabricClient) (reaches : Url → Bool) (fqName : FqName) :
    (c.deleteVmi fqName).Turns reaches fun _ r log _ =>
      AskedByName c reaches (idAsk .virtualMachineInterface fqName)
        (objectAsk .delete .virtualMachineInterface)
        (Done c 404 (fun _ => none) r) (Done c 404 (fun _ => some ()) r) log := by
  apply (unlessDone_turns (deleteByName_asked c reaches .virtualMachineInterface fqName)).mono
  rintro held _ log after ⟨r, hasked, rfl⟩
  apply hasked.mono
  · rintro x? ⟨e, rfl, he⟩ hdecided
    have hnone : x?.bind (·.given? fun _ => (none : Option Unit)) = none := by
      simp [Exchange.given?]
    rw [hnone, ← he hdecided, spare]
    simp
  · exact fun x? htold => htold.done htold.notFound

end Rest.FabricClient

/-! ## Calls and their requests -/

namespace Integration.Call

open VlanBinding.Rest VlanBinding.Rest.FabricClient

/-- The first request of a call to the fabric controller. An object without a uuid cannot be
updated. -/
def opening? : Call → Option Ask
  | getProject id => some (objectAsk .get .project id)
  | getVirtualNetwork id => some (objectAsk .get .virtualNetwork id)
  | getPortGroup uuid => some (objectAsk .get .virtualPortGroup uuid)
  | getPort uuid => some (objectAsk .get .port uuid)
  | getVmi fqName | deleteVmi fqName => some (idAsk .virtualMachineInterface fqName)
  | readInterface switch port => some (idAsk .physicalInterface (switchName switch ++ [port]))
  | readFabricName switch => some (idAsk .physicalRouter (switchName switch))
  | createVmi vmi => some (creationAsk vmi)
  | updatePortGroup group => (IsObject.uuid? group).map (updateAsk group)
  | readNode hostname => some (nodesAsk hostname)
  | getNetwork _ | getPorts _ _ => none

/-- What a call does with the object of a name once its uuid is known, and of which kind the object
is. -/
def sequel? : Call → Option (Method × Resource)
  | getVmi _ => some (.get, .virtualMachineInterface)
  | deleteVmi _ => some (.delete, .virtualMachineInterface)
  | readInterface _ _ => some (.get, .physicalInterface)
  | readFabricName _ => some (.get, .physicalRouter)
  | _ => none

end Integration.Call

namespace Rest

open VlanBinding.Integration (Call)

variable {c : FabricClient} {reaches : Url → Bool} {call : Call} {log : List Exchange}

/-- A request about an object, as a server gets it. The uuid is put at the end of the path as it
is, so that the path names the object only if the uuid can stand there. -/
structure Targets (secure : Bool) (authority : String) (root : List String) (method : Method)
    (kind : Resource) (uuid : String) (r : Http.Request) : Prop where
  method : r.method = method
  secure : r.url.secure = secure
  authority : r.url.authority = authority
  path : r.url.path = String.ofList (Url.slashed
    (Url.behind ((root ++ [kind.name]).map String.toList).reverse uuid.toList).reverse)
  names_iff : r.url.Names (root ++ [kind.name]) uuid ↔ Url.Addressable uuid.toList

theorem plain_name (kind : Resource) : Url.Plain kind.name.toList := by
  cases kind <;> decide

/-- Where a request about an object goes if the URL of the controller is a base. -/
theorem FabricClient.targets_of_wording {ask : Ask} {token : Option String} {r : Http.Request}
    {kind : Resource} {uuid : String} (hr : c.wording ask token = some r)
    (hpath : ask.path = objectPath kind uuid) (hquery : ask.query = []) {secure : Bool}
    {authority : String} {root : List String}
    (hbase : Url.IsBase c.baseUrl secure authority root) :
    Targets secure authority root ask.method kind uuid r := by
  have hkind : ∀ segment ∈ [kind.name.toList], Url.Plain segment := by
    simpa using plain_name kind
  have hfront : ∀ segment ∈ root ++ [kind.name], Url.Plain segment.toList :=
    List.forall_mem_append.mpr ⟨hbase.plain, by simpa using plain_name kind⟩
  have hurl : joinUrl c.baseUrl ask.path = String.ofList
      (trimEnd c.baseUrl.toList ++ '/' :: (Url.written [kind.name.toList] ++ uuid.toList)) := by
    have hstart : trimStart (objectPath kind uuid).toList =
        Url.written [kind.name.toList] ++ uuid.toList := by
      rw [objectPath]
      cases kind <;> simp [Resource.name, trimStart, Url.written]
    rw [joinUrl, hpath, hstart]
  rw [wording, requestTo?, hurl, hbase.parse?_behind hkind, Option.map_some,
    Option.some.injEq] at hr
  subst hr
  rw [hquery]
  have hends : root.map String.toList ++ [kind.name.toList] =
      (root ++ [kind.name]).map String.toList := by simp
  constructor
  · rfl
  · rw [Url.secure_addPairs]
  · rw [Url.authority_addPairs]
  · rw [Url.path_addPairs, hends]
  · apply Url.names_iff_addressable hfront
    · rw [Url.path_addPairs, hends]
    · intro h
      rw [Url.addPairs.eq_def, h.queryOf_eq]
      rfl

/-- What a call sends without Keystone: its first request, and the one about an object that follows
if the answer to the first tells a uuid. A request is left out only if it cannot be sent. -/
inductive Sends (c : FabricClient) (reaches : Url → Bool) (call : Call) : List Exchange → Prop
  | nothing (hunsent : ∀ ask ∈ call.opening?, ¬ c.Ready reaches ask) : Sends c reaches call []
  | first {ask : Ask} {x : Exchange} (hask : call.opening? = some ask)
      (hx : c.wording ask c.credentials.fixed? = some x.request)
      (hunsent : ∀ uuid ∈ x.given? Json.uuid?, ∀ next ∈ call.sequel?,
        ¬ c.Ready reaches (FabricClient.objectAsk next.1 next.2 uuid)) : Sends c reaches call [x]
  | both {ask : Ask} {method : Method} {kind : Resource} {uuid : String} {x y : Exchange}
      (hask : call.opening? = some ask)
      (hx : c.wording ask c.credentials.fixed? = some x.request)
      (huuid : x.given? Json.uuid? = some uuid) (hnext : call.sequel? = some (method, kind))
      (hy : c.wording (FabricClient.objectAsk method kind uuid) c.credentials.fixed? =
        some y.request)
      (htargets : ∀ secure authority root, Url.IsBase c.baseUrl secure authority root →
        Targets secure authority root method kind uuid y.request) : Sends c reaches call [x, y]

/-- What comes of a read: absent is what was said to be, and found what an answer holds. -/
structure Finds {ε α : Type} (r : Except ε (Option α)) (log : List Exchange)
    (object? : Option α) : Prop where
  absent : r = .ok none ↔ ∃ x ∈ log, x.status? = some 404
  found : ∀ a, r = .ok (some a) ↔ object? = some a

/-- What comes of asking for the fabric of a switch, which may have none. -/
structure FindsFabric {ε : Type} (r : Except ε (Option String)) (log : List Exchange)
    (router? : Option PhysicalRouter) : Prop where
  absent : r = .ok none ↔ (∃ x ∈ log, x.status? = some 404) ∨
    ∃ router, router? = some router ∧ ∀ ref ∈ router.fabricRefs.head?, ref.target = []
  found : ∀ name, r = .ok (some name) ↔ ∃ router ref, router? = some router ∧
    router.fabricRefs.head? = some ref ∧ ref.target.getLast? = some name

/-- What comes of a call: which answers it takes for what it was asked for. -/
def Tolerates {ε : Type} : (call : Call) → Except ε call.Answer → List Exchange → Prop
  | .getProject _, r, log => Finds r log (log[0]?.bind (·.given? (Json.object? Project)))
  | .getVirtualNetwork _, r, log =>
      Finds r log (log[0]?.bind (·.given? (Json.object? VirtualNetwork)))
  | .getPortGroup _, r, log => Finds r log (log[0]?.bind (·.given? (Json.object? VirtualPortGroup)))
  | .getPort _, r, log => Finds r log (log[0]?.bind (·.given? (Json.object? Port)))
  | .getVmi _, r, log =>
      Finds r log (log[1]?.bind (·.given? (Json.object? VirtualMachineInterface)))
  | .readInterface _ _, r, log =>
      Finds r log (log[1]?.bind (·.given? (Json.object? PhysicalInterface)))
  | .readFabricName _, r, log =>
      FindsFabric r log (log[1]?.bind (·.given? (Json.object? PhysicalRouter)))
  | .createVmi _, r, log => r = .ok () ↔ ∃ x ∈ log, x.status? = some 409 ∨
      (x.given? (Json.created? .virtualMachineInterface)).isSome = true
  | .deleteVmi _, r, log => r = .ok () ↔ (∃ x ∈ log, x.status? = some 404) ∨
      ∃ y, log[1]? = some y ∧ y.value?.isSome = true
  | .updatePortGroup group, r, log =>
      (r = .ok () ↔ ∃ x ∈ log, x.status? = some 404 ∨ x.value?.isSome = true) ∧
        (group.uuid = "" → log = [] ∧ ∃ e, r = .error e)
  | _, _, _ => True

/-- A request without Keystone that no other follows. -/
theorem FabricClient.Asked.sends {ask : Ask} {tells : Option Exchange → Prop}
    (hfixed : c.credentials.canRenew = false) (h : c.Asked reaches ask tells log)
    (hask : call.opening? = some ask) (hnext : call.sequel? = none) :
    Sends c reaches call log ∧ ∃ x? : Option Exchange, log = x?.toList ∧ tells x? := by
  obtain ⟨x?, rfl, htells, hx, hunsent⟩ := h.of_fixed hfixed
  refine ⟨?_, x?, rfl, htells⟩
  cases x? with
  | none =>
      apply Sends.nothing
      simpa [hask] using hunsent
  | some x =>
      apply Sends.first hask (hx x rfl)
      simp [hnext]

/-- A request without Keystone that goes by a name. -/
theorem FabricClient.AskedByName.sends {ask : Ask} {method : Method} {kind : Resource}
    {ends goes : Option Exchange → Prop} (hfixed : c.credentials.canRenew = false)
    (h : c.AskedByName reaches ask (objectAsk method kind) ends goes log)
    (hask : call.opening? = some ask) (hnext : call.sequel? = some (method, kind)) :
    Sends c reaches call log ∧
      ((∃ x? : Option Exchange, log = x?.toList ∧ ends x?) ∨
        ∃ (x : Exchange) (y? : Option Exchange), log = x :: y?.toList ∧ x.granted = true ∧
          goes y?) := by
  cases h with
  | ended h =>
      obtain ⟨x?, rfl, ⟨hnone, hends⟩, hx, hunsent⟩ := h.of_fixed hfixed
      refine ⟨?_, Or.inl ⟨x?, rfl, hends⟩⟩
      cases x? with
      | none =>
          apply Sends.nothing
          simpa [hask] using hunsent
      | some x =>
          apply Sends.first hask (hx x rfl)
          rw [Option.bind_some] at hnone
          simp [hnone]
  | @went _ _ uuid h hrest =>
      obtain ⟨x?, rfl, huuid, hx, -⟩ := h.of_fixed hfixed
      obtain ⟨x, rfl, huuid⟩ := Option.bind_eq_some_iff.mp huuid
      obtain ⟨y?, rfl, hgoes, hy, hunsent⟩ := hrest.of_fixed hfixed
      refine ⟨?_, Or.inr ⟨x, y?, rfl, granted_of_given? huuid, hgoes⟩⟩
      cases y? with
      | none =>
          apply Sends.first hask (hx x rfl)
          intro _ hsame _ hask
          obtain rfl := Option.some.inj (huuid.symm.trans hsame)
          obtain rfl := Option.some.inj (hnext.symm.trans hask)
          exact hunsent rfl
      | some y =>
          apply Sends.both hask (hx x rfl) huuid hnext (hy y rfl)
          exact fun _ _ _ hbase => targets_of_wording (hy y rfl) rfl rfl hbase

/-! ## Results of calls -/

section Results

variable {α : Type} {get : Json → Option α} {r : Except Error (Option α)}

theorem exists_status?_toList {st : Status} {x? : Option Exchange} :
    (∃ x ∈ x?.toList, x.status? = some st) ↔ x?.bind Exchange.status? = some st := by
  cases x? <;> simp

theorem exists_status?_cons {st : Status} {x : Exchange} {y? : Option Exchange}
    (hx : x.granted = true) (hst : st.isSuccess = false) :
    (∃ z ∈ x :: y?.toList, z.status? = some st) ↔ y?.bind Exchange.status? = some st := by
  rw [← exists_status?_toList]
  simp [FabricClient.status?_ne_of_granted hx hst]

theorem finds_of_sought {x? : Option Exchange} (hfixed : c.credentials.canRenew = false)
    (h : FabricClient.Sought c get r x?) :
    Finds r x?.toList (x?.toList[0]?.bind (·.given? get)) := by
  constructor
  · rw [exists_status?_toList]
    exact h.absent (Or.inr hfixed)
  · intro a
    rw [h.found a]
    cases x? <;> simp

theorem finds_by_name (hfixed : c.credentials.canRenew = false)
    (h : (∃ x? : Option Exchange, log = x?.toList ∧ FabricClient.Missed c r x?) ∨
      ∃ (x : Exchange) (y? : Option Exchange), log = x :: y?.toList ∧ x.granted = true ∧
        FabricClient.Sought c get r y?) : Finds r log (log[1]?.bind (·.given? get)) := by
  rcases h with ⟨x?, rfl, hmissed⟩ | ⟨x, y?, rfl, hx, hsought⟩
  · constructor
    · rw [exists_status?_toList]
      exact hmissed.absent (Or.inr hfixed)
    · intro a
      have hnone : x?.toList[1]? = none := by cases x? <;> rfl
      rw [hnone]
      simp [hmissed.found a]
  · constructor
    · rw [exists_status?_cons hx rfl]
      exact hsought.absent (Or.inr hfixed)
    · intro a
      rw [hsought.found a]
      cases y? <;> simp

theorem Finds.object?_eq_none {r : Except Error (Option α)} {object? : Option α}
    (h : Finds r log object?) (hr : ∀ a, r ≠ .ok (some a)) : object? = none := by
  apply Option.eq_none_iff_forall_ne_some.mpr
  intro a ha
  exact hr a ((h.found a).mpr ha)

/-- The fabric of a switch is the first that its router belongs to. -/
theorem findsFabric_of_finds {r : Except Error (Option PhysicalRouter)}
    {router? : Option PhysicalRouter} (h : Finds r log router?) :
    FindsFabric (r.map fun found => found.bind fun router =>
      router.fabricRefs.head?.bind Reference.name) log router? := by
  have habsent := h.absent
  cases r with
  | error e =>
      obtain rfl := h.object?_eq_none (by simp)
      constructor
      · simpa [Except.map] using habsent
      · simp [Except.map]
  | ok found =>
      cases found with
      | none =>
          obtain rfl := h.object?_eq_none (by simp)
          constructor
          · simpa [Except.map] using habsent
          · simp [Except.map]
      | some router =>
          obtain rfl := (h.found router).mp rfl
          have hpresent := mt habsent.mpr (by simp)
          constructor
          · simp [Except.map, hpresent, Reference.name]
          · simp [Except.map, Reference.name, Option.bind_eq_some_iff]

theorem given?_unit_iff {x : Exchange} :
    x.given? (fun _ => some ()) = some () ↔ x.value?.isSome = true := by
  cases hx : x.value? <;> simp [Exchange.given?, hx]

end Results

section Calls

variable (hfixed : c.credentials.canRenew = false)
include hfixed

theorem read_tolerates (α : Type) [IsObject α] {uuid : String}
    (hask : call.opening? = some (FabricClient.objectAsk .get (IsObject.resource α) uuid))
    (hnext : call.sequel? = none) :
    (c.read α uuid).Turns reaches fun _ r log _ =>
      Sends c reaches call log ∧ Finds r log (log[0]?.bind (·.given? (Json.object? α))) := by
  apply (FabricClient.read_asked α c reaches uuid).mono
  intro held r log after hasked
  obtain ⟨hsends, x?, rfl, hsought⟩ := hasked.sends hfixed hask hnext
  exact ⟨hsends, finds_of_sought hfixed hsought⟩

theorem readByName_tolerates (α : Type) [IsObject α] {fqName : FqName}
    (hask : call.opening? = some (FabricClient.idAsk (IsObject.resource α) fqName))
    (hnext : call.sequel? = some (.get, IsObject.resource α)) :
    (c.readByName α fqName).Turns reaches fun _ r log _ =>
      Sends c reaches call log ∧ Finds r log (log[1]?.bind (·.given? (Json.object? α))) := by
  apply (FabricClient.readByName_asked α c reaches fqName).mono
  intro held r log after hasked
  obtain ⟨hsends, hfound⟩ := hasked.sends hfixed hask hnext
  exact ⟨hsends, finds_by_name hfixed hfound⟩

theorem fabricName_tolerates {switch : String}
    (hask : call.opening? =
      some (FabricClient.idAsk .physicalRouter (FabricClient.switchName switch)))
    (hnext : call.sequel? = some (.get, .physicalRouter)) :
    (c.fabricName switch).Turns reaches fun _ r log _ =>
      Sends c reaches call log ∧
        FindsFabric r log (log[1]?.bind (·.given? (Json.object? PhysicalRouter))) := by
  apply (readByName_tolerates hfixed PhysicalRouter hask hnext).bind_pure fun _ _ => rfl
  · exact fun held router? log after h => ⟨h.1, findsFabric_of_finds h.2⟩
  · exact fun held e log after h => ⟨h.1, findsFabric_of_finds h.2⟩

theorem createVmi_tolerates {vmi : VirtualMachineInterface}
    (hask : call.opening? = some (FabricClient.creationAsk vmi))
    (hnext : call.sequel? = none) :
    (c.createVmi vmi).Turns reaches fun _ r log _ => Sends c reaches call log ∧
      (r = .ok () ↔ ∃ x ∈ log, x.status? = some 409 ∨
        (x.given? (Json.created? .virtualMachineInterface)).isSome = true) := by
  apply (FabricClient.createVmi_asked c reaches vmi).mono
  intro held r log after hasked
  obtain ⟨hsends, x?, rfl, hdone⟩ := hasked.sends hfixed hask hnext
  refine ⟨hsends, (hdone (Or.inr hfixed)).trans ?_⟩
  cases x? <;> simp [FabricClient.given?_map, Option.isSome_iff_exists]

theorem deleteVmi_tolerates {fqName : FqName}
    (hask : call.opening? = some (FabricClient.idAsk .virtualMachineInterface fqName))
    (hnext : call.sequel? = some (.delete, .virtualMachineInterface)) :
    (c.deleteVmi fqName).Turns reaches fun _ r log _ => Sends c reaches call log ∧
      (r = .ok () ↔ (∃ x ∈ log, x.status? = some 404) ∨
        ∃ y, log[1]? = some y ∧ y.value?.isSome = true) := by
  apply (FabricClient.deleteVmi_asked c reaches fqName).mono
  intro held r log after hasked
  obtain ⟨hsends, hdone⟩ := hasked.sends hfixed hask hnext
  refine ⟨hsends, ?_⟩
  rcases hdone with ⟨x?, rfl, hdone⟩ | ⟨x, y?, rfl, hx, hdone⟩
  · rw [exists_status?_toList, hdone (Or.inr hfixed)]
    cases x? <;> simp [Exchange.given?]
  · rw [exists_status?_cons hx rfl, hdone (Or.inr hfixed)]
    cases y? <;> simp [given?_unit_iff]

theorem updateGroup_tolerates {group : VirtualPortGroup}
    (hask : call.opening? = (IsObject.uuid? group).map (FabricClient.updateAsk group))
    (hnext : call.sequel? = none) :
    (c.updateGroup group).Turns reaches fun _ r log _ => Sends c reaches call log ∧
      (r = .ok () ↔ ∃ x ∈ log, x.status? = some 404 ∨ x.value?.isSome = true) ∧
        (group.uuid = "" → log = [] ∧ ∃ e, r = .error e) := by
  cases huuid : IsObject.uuid? group with
  | none =>
      have hthrow : c.update group =
          throw (.invalidConfig (.noUuid Resource.virtualPortGroup.name)) := by
        rw [FabricClient.update, huuid]
        rfl
      rw [FabricClient.updateGroup, hthrow]
      apply Action.Turns.of_outcome
      intro s
      have houtcome : (unlessDone Error.isNotFound
          (throw (.invalidConfig (.noUuid Resource.virtualPortGroup.name)))).outcome s =
            (.error (.invalidConfig (.noUuid Resource.virtualPortGroup.name)), s) := rfl
      rw [houtcome]
      exact ⟨rfl, .nothing (by simp [hask, huuid]), by simp, fun _ => ⟨rfl, _, rfl⟩⟩
  | some uuid =>
      rw [huuid] at hask
      apply (FabricClient.updateGroup_asked huuid c reaches).mono
      intro held r log after hasked
      obtain ⟨hsends, x?, rfl, hdone⟩ := hasked.sends hfixed hask hnext
      refine ⟨hsends, (hdone (Or.inr hfixed)).trans ?_, fun hempty => ?_⟩
      · cases x? <;> simp [given?_unit_iff]
      · have hnone : IsObject.uuid? group = none := if_pos hempty
        rw [hnone] at huuid
        cases huuid

end Calls

theorem perform_tolerates {c : Services} (hfixed : c.fabric.credentials.canRenew = false)
    (call : Call) (hfabric : call.isCore = false) (hread : ∀ host, call ≠ .readNode host)
    (reaches : Url → Bool) :
    (c.perform call).Turns reaches fun _ r log _ =>
      Sends c.fabric reaches call log ∧ Tolerates call r log := by
  cases call with
  | getProject | getVirtualNetwork | getPortGroup | getPort =>
      exact read_tolerates hfixed _ rfl rfl
  | getVmi | readInterface => exact readByName_tolerates hfixed _ rfl rfl
  | readFabricName => exact fabricName_tolerates hfixed rfl rfl
  | createVmi => exact createVmi_tolerates hfixed rfl rfl
  | deleteVmi => exact deleteVmi_tolerates hfixed rfl rfl
  | updatePortGroup => exact updateGroup_tolerates hfixed rfl rfl
  | readNode host => exact absurd rfl (hread host)
  | getNetwork | getPorts => cases hfabric

/-! ## Errors -/

section Errors

variable {ε δ α : Type} {f : ε → δ}

theorem Finds.mapError {r : Except ε (Option α)} {object? : Option α} (h : Finds r log object?) :
    Finds (r.mapError f) log object? where
  absent := mapError_eq_ok_iff.trans h.absent
  found := fun a => mapError_eq_ok_iff.trans (h.found a)

theorem FindsFabric.mapError {r : Except ε (Option String)} {router? : Option PhysicalRouter}
    (h : FindsFabric r log router?) : FindsFabric (r.mapError f) log router? where
  absent := mapError_eq_ok_iff.trans h.absent
  found := fun name => mapError_eq_ok_iff.trans (h.found name)

theorem Tolerates.mapError {r : Except ε call.Answer} (h : Tolerates call r log) :
    Tolerates call (r.mapError f) log := by
  cases call with
  | getProject | getVirtualNetwork | getPortGroup | getPort | getVmi | readInterface =>
      exact Finds.mapError h
  | readFabricName => exact FindsFabric.mapError h
  | createVmi | deleteVmi => exact mapError_eq_ok_iff.trans h
  | updatePortGroup group =>
      refine ⟨mapError_eq_ok_iff.trans h.1, fun hempty => ?_⟩
      obtain ⟨hlog, e, he⟩ := h.2 hempty
      exact ⟨hlog, f e, by rw [he]; rfl⟩
  | readNode | getNetwork | getPorts => trivial

end Errors

/-- What a call comes to without Keystone, whatever it is answered: it sends its first request, and
the one with the uuid that the first answer told; it takes for an answer what is one, and of
refusals just those that say that something is absent, or there already; anything else is an error
of the fabric controller. -/
theorem respond_tolerates (c : Services) (hfixed : c.fabric.credentials.canRenew = false)
    (call : Call) (hfabric : call.isCore = false) (hread : ∀ host, call ≠ .readNode host)
    (s : Session) :
    let run := c.respond call s
    let log := s.network.exchangesSince run.2.network
    Sends c.fabric s.network.reaches call log ∧ Tolerates call run.1 log ∧
      ∀ e, run.1 = .error e → ∃ cause, e = .fabric (.rest cause) := by
  intro run log
  obtain ⟨r, hrun, hsends, htolerates⟩ :=
    respond_of_perform call (perform_tolerates hfixed call hfabric hread s.network.reaches)
  refine ⟨hsends, ?_, fun e he => ?_⟩
  · rw [hrun]
    exact htolerates.mapError
  · cases r with
    | ok answer =>
        rw [hrun] at he
        cases he
    | error cause =>
        rw [hrun] at he
        obtain rfl := Except.error.inj he
        exact ⟨cause, failure_of_fabric hfabric cause⟩

end Rest

namespace Lab

/-- Clients that show a fixed token to the fabric controller. -/
def fixed : Rest.Services := clients (.token "t") .anonymous

def deletion : Integration.Call := .deleteVmi ["domain", "project", "vmi"]

/-- The name of an interface leads to a uuid, and then there is no such object. -/
def goneMeanwhile (uuid : String) : List Reply :=
  [.response { body := "\x7b\"uuid\":\"" ++ uuid ++ "\"\x7d" }, missing]

end Lab

namespace Rest

/-- What is gone when it is to be deleted needs no deleting. -/
theorem deletion_of_gone :
    let replies := Lab.goneMeanwhile "vmi-1"
    let log := Lab.traffic Lab.fixed Lab.deletion replies
    log.map (fun x => (x.request.method, x.request.url.path, x.status?)) =
        [(.post, "/fqname-to-id", some 200),
          (.delete, "/virtual-machine-interface/vmi-1", some 404)] ∧
      Sends Lab.fixed.fabric Lab.reaches Lab.deletion log ∧
      (Lab.fixed.respond Lab.deletion (Lab.loggedOut replies)).1 = .ok () := by
  intro replies log
  have hread : ∀ host, Lab.deletion ≠ .readNode host := fun host h => by cases h
  obtain ⟨hsends, htolerates, -⟩ :=
    respond_tolerates Lab.fixed rfl Lab.deletion rfl hread (Lab.loggedOut replies)
  have hdone : (Lab.fixed.respond Lab.deletion (Lab.loggedOut replies)).1 = .ok () ↔
      (∃ x ∈ log, x.status? = some 404) ∨ ∃ y, log[1]? = some y ∧ y.value?.isSome = true :=
    htolerates
  have hgone : ∃ x ∈ log, x.status? = some 404 := by decide +kernel
  exact ⟨by decide +kernel, hsends, hdone.mpr (Or.inl hgone)⟩

/-- A path that leads to a project leads to no object of another kind. -/
theorem not_names_project {url : Url} {kind text : String} (hpath : url.path = "/project/p1")
    (hkind : kind ≠ "project") : ¬ url.Names [kind] text := by
  rintro ⟨⟨name, hname, -⟩, -⟩
  rw [hpath] at hname
  have hsame : some "project".toList = some kind.toList := congrArg (·[1]?) hname
  exact hkind (String.toList_inj.mp (Option.some.inj hsame).symm)

/-- A uuid that climbs the path makes the deletion of an interface one of a project. -/
theorem deletion_of_other_kind :
    ∃ x y, Lab.traffic Lab.fixed Lab.deletion (Lab.goneMeanwhile "../project/p1") = [x, y] ∧
      x.given? Json.uuid? = some "../project/p1" ∧
      (y.request.method, y.request.url.path) = (.delete, "/project/p1") ∧
      ¬ y.request.url.Names ["virtual-machine-interface"] "../project/p1" := by
  have hlog : (Lab.traffic Lab.fixed Lab.deletion (Lab.goneMeanwhile "../project/p1")).map
      (fun x => (x.given? Json.uuid?, x.request.method, x.request.url.path)) =
        [(some "../project/p1", .post, "/fqname-to-id"), (none, .delete, "/project/p1")] := by
    decide +kernel
  obtain ⟨x, rest, hlog, hx, hrest⟩ := List.map_eq_cons_iff.mp hlog
  obtain ⟨y, rfl, hy⟩ := List.map_eq_singleton_iff.mp hrest
  obtain ⟨huuid, -⟩ := Prod.mk.inj hx
  obtain ⟨-, htarget⟩ := Prod.mk.inj hy
  exact ⟨x, y, hlog, huuid, htarget, not_names_project (Prod.mk.inj htarget).2 (by decide)⟩

end Rest

end VlanBinding
