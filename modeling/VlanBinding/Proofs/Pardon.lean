import VlanBinding.Proofs.Login

/-!
Which refusals the calls to the fabric controller pardon. What is not found is absent where it was
looked for, and what is there already need not be made; but a login that is refused with the same
status is pardoned as well. Main statement: a call takes a failed login for an answer exactly if
Keystone refuses it with the status that the call pardons.
-/

namespace VlanBinding

open VlanBinding.Fabric VlanBinding.Http VlanBinding.Json

namespace Rest

variable {k : Settings.Keystone} {α β : Type} {log rest : List Exchange}

/-! ## Absence and other pardons -/

/-- What comes of looking for something: it is there after granted requests only, and it
is absent after a response that says so. -/
structure Looked (k : Settings.Keystone) (r : Except Error (Option α)) (log : List Exchange) :
    Prop where
  heeds : Heeds k (some 404) r log
  absent : r = .ok none → lastStatus log = some 404
  present : ∀ a, r = .ok (some a) → Smooth k log

/-- What is made of a value does not matter. -/
theorem Heeds.of_ok {pardoned : Option Status} {b : β} (a : α)
    (hr : Heeds k pardoned (.ok b) log) : Heeds k pardoned (.ok a) log :=
  .of_value hr.logins (hr.ok b rfl)

theorem Smooth.append (hlog : Smooth k log) (hrest : Smooth k rest) :
    Smooth k (log ++ rest) := by
  by_cases hnil : rest = []
  · rwa [hnil, List.append_nil]
  · refine ⟨fun x hx => ?_, ?_⟩
    · rcases List.mem_append.mp hx with hx | hx
      · exact hlog.logins x hx
      · exact hrest.logins x hx
    · rw [getLast?_append_of_ne_nil log hnil]
      exact hrest.last

/-- What is looked for after granted requests. -/
theorem Looked.append {r : Except Error (Option α)} (hlog : Smooth k log)
    (hr : Looked k r rest) : Looked k r (log ++ rest) where
  heeds := hr.heeds.append hlog fun st hst => by
    obtain rfl := Option.some.inj hst
    rfl
  absent := by
    intro hnone
    have hlast := hr.absent hnone
    have hne : rest ≠ [] := by
      rintro rfl
      cases hlast
    rw [lastStatus_append log hne, hlast]
  present := fun a ha => hlog.append (hr.present a ha)

/-- What is absent under one name is absent as whatever it was looked for. -/
theorem Looked.of_none (hr : Looked k (.ok none : Except Error (Option β)) log) :
    Looked k (.ok none : Except Error (Option α)) log :=
  ⟨hr.heeds.of_ok none, fun _ => hr.absent rfl, fun _ ha => by cases ha⟩

theorem Looked.of_error {e : Error} (hr : Looked k (.error e : Except Error (Option β)) log) :
    Looked k (.error e : Except Error (Option α)) log :=
  ⟨hr.heeds.of_error, fun he => (by cases he), fun _ he => by cases he⟩

theorem Heeds.weaken {a : α} {pardoned : Option Status} (hr : Heeds k none (.ok a) log) :
    Heeds k pardoned (.ok a) log :=
  .of_value hr.logins (Or.inl hr.smooth.last)

/-- A refusal that is pardoned makes a value. -/
theorem Heeds.pardon_error {e : Error} {st : Status} (a : α)
    (hr : Heeds k none (.error e : Except Error β) log) (hlast : lastStatus log = some st) :
    Heeds k (some st) (.ok a) log :=
  .of_value hr.logins (Or.inr ⟨st, rfl, hlast⟩)

/-- Any other refusal stays an error. -/
theorem Heeds.keep_error {e : Error} {st : Status}
    (hr : Heeds k none (.error e : Except Error α) log) (hlast : lastStatus log ≠ some st) :
    Heeds k (some st) (.error e : Except Error α) log := by
  refine .of_failure hr.logins (fun st' hst => ?_) (hr.notFound e rfl) (hr.conflict e rfl)
  obtain rfl := Option.some.inj hst
  exact hlast

/-- What fails because it is done already is done. -/
theorem unlessDone_heeds {isDone : Error → Bool} {st : Status} {a : Action Unit}
    (hdone : ∀ e log, Heeds k none (.error e : Except Error Unit) log →
      (isDone e = true ↔ lastStatus log = some st))
    (ha : a.Ensures (Heeds k none)) : (unlessDone isDone a).Ensures (Heeds k (some st)) := by
  refine ha.tryCatch (fun _ _ hr => hr.weaken) fun e log hr => ?_
  split
  · rename_i he
    refine .pure ?_
    rw [List.append_nil]
    exact hr.pardon_error () ((hdone e log hr).mp he)
  · rename_i he
    refine .throw ?_
    rw [List.append_nil]
    exact hr.keep_error fun hlast => he ((hdone e log hr).mpr hlast)

namespace FabricClient

variable {c : FabricClient}

/-- What is looked for and not found is absent. -/
theorem orAbsent_looked {a : Action (Option α)}
    (ha : a.Ensures fun r log => Heeds k none r log ∧ r ≠ .ok none) :
    (orAbsent a).Ensures (Looked k) := by
  refine ha.tryCatch (fun found log hr => ?_) fun e log hr => ?_
  · refine ⟨hr.1.weaken, fun hnone => absurd hnone hr.2, fun _ _ => hr.1.smooth⟩
  · split
    · rename_i he
      have hlast := (hr.1.notFound e rfl).mp he
      refine .pure ?_
      rw [List.append_nil]
      exact ⟨hr.1.pardon_error none hlast, fun _ => hlast, fun _ ha => by cases ha⟩
    · rename_i he
      refine .throw ?_
      rw [List.append_nil]
      refine ⟨hr.1.keep_error fun hlast => he ((hr.1.notFound e rfl).mpr hlast), ?_, ?_⟩
      · intro habsent
        cases habsent
      · intro a hfound
        cases hfound

/-! ## Requests of the client -/

theorem connect_quiet (c : FabricClient) : c.connect.Ensures Quiet := by
  refine Action.Ensures.get_bind fun s => ?_
  split
  · split
    · exact quiet_throw ⟨rfl, rfl⟩
    · exact .modify (fun _ => rfl) ⟨rfl, fun _ he => by cases he⟩
  · exact quiet_pure _

theorem request_heeds (hk : c.credentials = .keystone k) (method : Method) (path : String)
    (query : List (String × String)) (body : Option Json) :
    (c.request method path query body).Ensures (Heeds k none) := by
  rw [request]
  refine heeds_bind (c.connect_quiet.heeds) fun _ => ?_
  rw [hk]
  refine (send_sent _ _ _ _ _).bind (fun response log hlog => ?_) fun e log hlog => ?_
  · cases hlog with
    | @answered before x response hlogins hown hstatus =>
        refine checked_heeds path ?_ ?_ ?_
        · rwa [List.dropLast_concat]
        · rw [lastStatus_concat, hstatus]
        · split
          · exact quiet_pure _
          · split
            · exact quiet_pure _
            · exact quiet_throw ⟨rfl, rfl⟩
  · cases hlog with
    | failed hr => exact hr.of_error

/-- A request whose answer is made something of. -/
theorem request_bind_heeds (hk : c.credentials = .keystone k) {method : Method}
    {path : String} {query : List (String × String)} {body : Option Json}
    {f : Json → Action α} (hf : ∀ value, (f value).Ensures Quiet) :
    (c.request method path query body >>= f).Ensures (Heeds k none) :=
  heeds_bind (request_heeds hk method path query body) fun value => (hf value).heeds

theorem unwrap_quiet (α : Type) [IsObject α] (path : String) (value : Json) :
    (unwrap α path value).Ensures Quiet := by
  rw [unwrap]
  split
  · exact quiet_throw ⟨rfl, rfl⟩
  · split
    · exact quiet_pure _
    · exact quiet_throw ⟨rfl, rfl⟩

theorem quiet_mapM {f : β → Action α} (hf : ∀ b, (f b).Ensures Quiet) (items : List β) :
    (items.mapM f).Ensures Quiet := by
  induction items with
  | nil => exact quiet_pure _
  | cons item items ih =>
      rw [List.mapM_cons]
      exact quiet_bind (hf item) fun a => quiet_bind ih fun as => quiet_pure _

theorem create_heeds {α : Type} [IsObject α] (hk : c.credentials = .keystone k) (object : α) :
    (c.create object).Ensures (Heeds k none) := by
  refine request_bind_heeds hk fun value => ?_
  split
  · exact quiet_pure _
  · exact quiet_throw ⟨rfl, rfl⟩

theorem update_heeds {α : Type} [IsObject α] (hk : c.credentials = .keystone k) (object : α) :
    (c.update object).Ensures (Heeds k none) := by
  rw [update]
  split
  · exact (quiet_throw ⟨rfl, rfl⟩).heeds
  · exact request_bind_heeds hk fun _ => quiet_pure _

theorem delete_heeds (hk : c.credentials = .keystone k) (resource : Resource) (uuid : String) :
    (c.delete resource uuid).Ensures (Heeds k none) :=
  request_bind_heeds hk fun _ => quiet_pure _

theorem list_heeds (α : Type) [IsObject α] (hk : c.credentials = .keystone k)
    (field value : String) : (c.list α field value).Ensures (Heeds k none) := by
  refine request_bind_heeds hk fun value => ?_
  split
  · exact quiet_mapM (unwrap_quiet α _) _
  · exact quiet_pure _

/-- A request whose answer tells where something is, or makes an error. -/
theorem request_bind_found (hk : c.credentials = .keystone k) {method : Method}
    {path : String} {query : List (String × String)} {body : Option Json}
    {f : Json → Action (Option α)}
    (hf : ∀ value, (f value).Ensures fun r rest => Quiet r rest ∧ r ≠ .ok none) :
    (c.request method path query body >>= f).Ensures
      fun r log => Heeds k none r log ∧ r ≠ .ok none := by
  refine (request_heeds hk method path query body).bind (fun value log hlog => ?_)
    fun e log hlog => ⟨hlog.of_error, by simp⟩
  refine (hf value).mono fun r rest hr => ⟨?_, hr.2⟩
  exact hr.1.heeds.append hlog.smooth (by simp)

theorem idOf_looked (hk : c.credentials = .keystone k) (resource : Resource) (fqName : FqName) :
    (c.idOf resource fqName).Ensures (Looked k) := by
  refine orAbsent_looked (request_bind_found hk fun value => ?_)
  split
  · exact .pure ⟨⟨rfl, fun _ he => by cases he⟩, by simp⟩
  · exact .throw ⟨⟨rfl, fun e he => by cases he; exact ⟨rfl, rfl⟩⟩, by simp⟩

theorem read_looked (α : Type) [IsObject α] (hk : c.credentials = .keystone k) (uuid : String) :
    (c.read α uuid).Ensures (Looked k) := by
  refine orAbsent_looked (request_bind_found hk fun value => ?_)
  rw [map_eq_pure_bind]
  refine (unwrap_quiet α _ value).bind (fun object log hlog => ?_) fun e log hlog => ?_
  · rw [hlog.silent]
    exact .pure ⟨⟨rfl, fun _ he => by cases he⟩, by simp⟩
  · exact ⟨⟨hlog.silent, fun e' he => hlog.plain e' (by cases he; rfl)⟩, by simp⟩

theorem readByName_looked (α : Type) [IsObject α] (hk : c.credentials = .keystone k)
    (fqName : FqName) : (c.readByName α fqName).Ensures (Looked k) := by
  refine (idOf_looked hk (IsObject.resource α) fqName).bind (fun found log hlog => ?_)
    fun e log hlog => ?_
  · cases found with
    | none =>
        refine .pure ?_
        rw [List.append_nil]
        exact hlog.of_none
    | some uuid =>
        exact (read_looked α hk uuid).mono fun r rest hr => hr.append (hlog.present uuid rfl)
  · exact hlog.of_error

/-- A name that leads to nothing is an error here, but one that says so. -/
theorem deleteByName_heeds (hk : c.credentials = .keystone k) (resource : Resource)
    (fqName : FqName) : (c.deleteByName resource fqName).Ensures (Heeds k none) := by
  refine (idOf_looked hk resource fqName).bind (fun found log hlog => ?_) fun e log hlog => ?_
  · cases found with
    | none =>
        have hlast := hlog.absent rfl
        refine .throw ?_
        rw [List.append_nil]
        exact .of_failure hlog.heeds.logins (by simp) (by simp [Error.isNotFound, hlast])
          (by simp [Error.isConflict, hlast])
    | some uuid =>
        exact (delete_heeds hk resource uuid).mono fun r rest hr =>
          hr.append (hlog.present uuid rfl) (by simp)
  · exact .of_failure hlog.heeds.logins (by simp) (hlog.heeds.notFound e rfl)
      (hlog.heeds.conflict e rfl)

end FabricClient

end Rest

/-! ## Calls -/

namespace Integration.Call

/-- The refusal that a call can live with: that something is not there, or that it is
there already. -/
def pardons : Call → Option Status
  | createVmi _ => some 409
  | readNode _ | getNetwork _ | getPorts _ _ => none
  | _ => some 404

/-- The object that was looked for, under its id or its name, is said not to be there. A
switch may have no fabric and a list no node; that says nothing of an object. -/
def Misses {ε : Type} : (c : Call) → Except ε c.Answer → Prop
  | getProject _, r => r = .ok none
  | getVirtualNetwork _, r => r = .ok none
  | getVmi _, r => r = .ok none
  | getPortGroup _, r => r = .ok none
  | readInterface _ _, r => r = .ok none
  | getPort _, r => r = .ok none
  | _, _ => False

theorem isSuccess_of_pardons {c : Call} {st : Status} (hst : c.pardons = some st) :
    st.isSuccess = false := by
  cases c <;> simp only [pardons, reduceCtorEq, Option.some.injEq] at hst <;> subst hst <;> rfl

theorem pardons_of_misses {ε : Type} {c : Call} {r : Except ε c.Answer} (hr : c.Misses r) :
    c.pardons = some 404 := by
  cases c <;> first | rfl | exact hr.elim

end Integration.Call

namespace Rest

open VlanBinding.Integration (Call)

variable {k : Settings.Keystone}

/-- What comes of a call: its result heeds the last response, and what is missing was
refused as such. -/
def Settles (k : Settings.Keystone) (call : Call) (r : Except Error call.Answer)
    (log : List Http.Exchange) : Prop :=
  Heeds k call.pardons r log ∧ (call.Misses r → lastStatus log = call.pardons)

theorem perform_settles {c : Services} (hk : c.fabric.credentials = .keystone k) {call : Call}
    (hfabric : call.isCore = false) : (c.perform call).Ensures (Settles k call) := by
  have hlooked {α : Type} {a : Action (Option α)} (ha : a.Ensures (Looked k)) :
      a.Ensures fun r log =>
        Heeds k (some 404) r log ∧ (r = .ok none → lastStatus log = some 404) :=
    ha.mono fun r log hr => ⟨hr.heeds, hr.absent⟩
  cases call with
  | getProject id => exact hlooked (FabricClient.read_looked _ hk id)
  | getVirtualNetwork id => exact hlooked (FabricClient.read_looked _ hk id)
  | getVmi fqName => exact hlooked (FabricClient.readByName_looked _ hk fqName)
  | getPortGroup uuid => exact hlooked (FabricClient.read_looked _ hk uuid)
  | readInterface switch port => exact hlooked (FabricClient.readByName_looked _ hk _)
  | getPort uuid => exact hlooked (FabricClient.read_looked _ hk uuid)
  | createVmi vmi =>
      refine (unlessDone_heeds (fun e log hr => hr.conflict e rfl) ?_).mono
        fun r log hr => ⟨hr, False.elim⟩
      exact heeds_bind (FabricClient.create_heeds hk vmi) fun _ => (quiet_pure _).heeds
  | deleteVmi fqName =>
      exact (unlessDone_heeds (fun e log hr => hr.notFound e rfl)
        (FabricClient.deleteByName_heeds hk _ fqName)).mono fun r log hr => ⟨hr, False.elim⟩
  | updatePortGroup group =>
      exact (unlessDone_heeds (fun e log hr => hr.notFound e rfl)
        (FabricClient.update_heeds hk group)).mono fun r log hr => ⟨hr, False.elim⟩
  | readFabricName switch =>
      refine (FabricClient.readByName_looked _ hk _).bind (fun router log hr => ?_)
        fun e log hr => ⟨hr.heeds.of_error, False.elim⟩
      refine .pure ⟨?_, False.elim⟩
      rw [List.append_nil]
      exact hr.heeds.of_ok _
  | readNode hostname =>
      refine (heeds_bind (FabricClient.list_heeds _ hk _ _) fun nodes => ?_).mono
        fun r log hr => ⟨hr, False.elim⟩
      exact (quiet_pure _).heeds
  | getNetwork | getPorts => cases hfabric

/-- The call came to a value without being granted: what it looked for is missing, or its
last request was refused. -/
def Excused {ε : Type} (call : Call) (r : Except ε call.Answer) (log : List Http.Exchange) :
    Prop :=
  call.Misses r ∨ (∃ a, r = .ok a) ∧ ∃ x ∈ log.getLast?, x.granted = false

/-- A login that fails is not taken for an answer of the controller: what is excused was
refused to a request of the call itself, and a refused login is an error. -/
structure TellsLogins {ε : Type} (k : Settings.Keystone) (call : Call)
    (r : Except ε call.Answer) (log : List Http.Exchange) : Prop where
  excused : Excused call r log → ∃ x ∈ log, ¬ IsLogin k x.request ∧
    ∃ st, call.pardons = some st ∧ x.status? = some st
  refused : ∀ x ∈ log, IsLogin k x.request → ∀ st, x.status? = some st →
    st.isSuccess = false → ∃ e, r = .error e

theorem granted_eq_false {x : Http.Exchange} {st : Status} (hx : x.status? = some st)
    (hst : st.isSuccess = false) : x.granted = false := by
  rw [Http.Exchange.granted, hx, Option.any_some, hst]

/-- A refused login is the last request, and its status the last one. -/
theorem Heeds.lastStatus_of_login {α : Type} {pardoned : Option Status} {r : Except Error α}
    {log : List Http.Exchange} (hr : Heeds k pardoned r log) {x : Http.Exchange}
    (hx : x ∈ log) (hlogin : IsLogin k x.request) {st : Status} (hstatus : x.status? = some st)
    (hst : st.isSuccess = false) : x ∈ log.getLast? ∧ lastStatus log = some st := by
  have hlast : some x = log.getLast? := by
    by_contra hother
    have hgranted := hr.logins x (List.mem_dropLast_of_mem_of_ne_getLast? hx hother) hlogin
    rw [granted_eq_false hstatus hst] at hgranted
    cases hgranted
  refine ⟨hlast.symm, ?_⟩
  rw [lastStatus, ← hlast, Option.bind_some, hstatus]

/-- What is excused was pardoned by the last response. -/
theorem Settles.lastStatus_of_excused {call : Call} {r : Except Error call.Answer}
    {log : List Http.Exchange} (hr : Settles k call r log) (hexcused : Excused call r log) :
    ∃ st, call.pardons = some st ∧ lastStatus log = some st := by
  rcases hexcused with hmisses | ⟨⟨a, ha⟩, x, hx, hrefused⟩
  · have hpardons := Call.pardons_of_misses hmisses
    exact ⟨404, hpardons, (hr.2 hmisses).trans hpardons⟩
  · rcases hr.1.ok a ha with hgranted | hpardoned
    · rw [hgranted x hx] at hrefused
      cases hrefused
    · exact hpardoned

/-- Logins are told from answers as long as none of them is refused with the status that
the call pardons, and no longer. -/
theorem Settles.tellsLogins_iff {call : Call} {r : Except Error call.Answer}
    {log : List Http.Exchange} (hr : Settles k call r log) :
    TellsLogins k call r log ↔
      ∀ x ∈ log, IsLogin k x.request → ∀ st, call.pardons = some st →
        x.status? ≠ some st := by
  constructor
  · intro htells x hx hlogin st hpardons hstatus
    have hst := Call.isSuccess_of_pardons hpardons
    obtain ⟨e, he⟩ := htells.refused x hx hlogin st hstatus hst
    have hlast := (hr.1.lastStatus_of_login hx hlogin hstatus hst).2
    exact hr.1.pardon e st he hpardons hlast
  · intro hlogins
    constructor
    · intro hexcused
      obtain ⟨st, hpardons, hlast⟩ := hr.lastStatus_of_excused hexcused
      obtain ⟨x, hx, hstatus⟩ := Option.bind_eq_some_iff.mp hlast
      have hmem := List.mem_of_getLast? hx
      exact ⟨x, hmem, fun hlogin => hlogins x hmem hlogin st hpardons hstatus, st,
        hpardons, hstatus⟩
    · intro x hx hlogin st hstatus hst
      obtain ⟨hlast, hlastStatus⟩ := hr.1.lastStatus_of_login hx hlogin hstatus hst
      cases hresult : r with
      | error e => exact ⟨e, rfl⟩
      | ok a =>
          rcases hr.1.ok a hresult with hgranted | ⟨st', hpardons, hpardoned⟩
          · have hrefused := granted_eq_false hstatus hst
            rw [hgranted x hlast] at hrefused
            cases hrefused
          · obtain rfl := Option.some.inj (hlastStatus.symm.trans hpardoned)
            exact absurd hstatus (hlogins x hx hlogin st hpardons)

theorem tellsLogins_mapError {call : Call} {log : List Http.Exchange} {ε : Type}
    (f : Error → ε) (r : Except Error call.Answer) :
    TellsLogins k call (r.mapError f) log ↔ TellsLogins k call r log := by
  have hmisses : call.Misses (r.mapError f) ↔ call.Misses r := by
    cases r <;> cases call <;> simp [Call.Misses, Except.mapError]
  have hok : (∃ a, r.mapError f = .ok a) ↔ ∃ a, r = .ok a := by
    cases r <;> simp [Except.mapError]
  have herror : (∃ e, r.mapError f = .error e) ↔ ∃ e, r = .error e := by
    cases r <;> simp [Except.mapError]
  have hexcused : Excused call (r.mapError f) log ↔ Excused call r log := by
    rw [Excused, Excused, hmisses, hok]
  constructor
  · intro h
    exact ⟨fun hr => h.excused (hexcused.mpr hr), fun x hx hlogin st hstatus hst =>
      herror.mp (h.refused x hx hlogin st hstatus hst)⟩
  · intro h
    exact ⟨fun hr => h.excused (hexcused.mp hr), fun x hx hlogin st hstatus hst =>
      herror.mpr (h.refused x hx hlogin st hstatus hst)⟩

/-- A call to the fabric controller under Keystone takes a failed login for an answer of
the controller exactly if the login is refused with the status that the call pardons. -/
theorem login_told_from_answer_iff (c : Services) (k : Settings.Keystone)
    (hk : c.fabric.credentials = .keystone k) (call : Call) (hfabric : call.isCore = false)
    (s : Session) :
    let run := c.respond call s
    let log := s.network.exchangesSince run.2.network
    TellsLogins k call run.1 log ↔
      ∀ x ∈ log, IsLogin k x.request → ∀ st, call.pardons = some st →
        x.status? ≠ some st := by
  intro run log
  have hsettles := (perform_settles hk hfabric).exchanges s
  exact (tellsLogins_mapError _ _).trans hsettles.tellsLogins_iff

end Rest

namespace Lab

def keystone : Settings.Keystone where
  authUrl := "https://keystone:5000/v3"
  username := "neutron"
  password := "secret"
  projectName := "service"

/-- Clients of both services, and what they show to them. -/
def clients (fabric neutron : Rest.Credentials) : Rest.Services where
  fabric := { baseUrl := "http://controller:8082", credentials := fabric }
  neutron := { url := "http://neutron:9696", credentials := neutron }

def services : Rest.Services := clients (.keystone keystone) .anonymous

/-- Keystone, the fabric controller and Neutron are there. -/
def reaches (url : Url) : Bool :=
  (url.secure, url.authority) ∈
    [(true, "keystone:5000"), (false, "controller:8082"), (false, "neutron:9696")]

/-- A client without a token, and what it will be answered. -/
def loggedOut (replies : List Reply) : Rest.Session where
  network := { reaches, replies }

def getProject : Integration.Call := .getProject "0ed483e0-83ef-4f70-8250-1fcfa5d98c0e"

/-- What goes over the network when a call is made. -/
def traffic (c : Rest.Services) (call : Integration.Call) (replies : List Reply) :
    List Http.Exchange :=
  (loggedOut replies).network.exchangesSince (c.respond call (loggedOut replies)).2.network

/-- Keystone issues a token. -/
def issuing (token : String) : Reply :=
  .response { status := 201, headers := [("X-Subject-Token", token)] }

def missing : Reply := .response { status := 404 }

def refusedLogin : List Reply := [missing]

def missingProject : List Reply := [issuing "t", missing]

end Lab

namespace Rest

open VlanBinding.Integration (Call)

/-- After a granted login the project is found to be missing. -/
theorem missing_project_after_login :
    let log := Lab.traffic Lab.services Lab.getProject Lab.missingProject
    log.map Http.Exchange.status? = [some 201, some 404] ∧
      TellsLogins Lab.keystone Lab.getProject
        (Lab.services.respond Lab.getProject (Lab.loggedOut Lab.missingProject)).1 log := by
  intro log
  refine ⟨by decide +kernel, ?_⟩
  have hgranted : ∀ x ∈ log, IsLogin Lab.keystone x.request → x.status? = some 201 := by
    decide +kernel
  refine (login_told_from_answer_iff Lab.services Lab.keystone rfl Lab.getProject rfl
    (Lab.loggedOut Lab.missingProject)).mpr fun x hx hlogin st hst => ?_
  obtain rfl := Option.some.inj hst
  rw [hgranted x hx hlogin]
  decide

/-- A project is said to be absent because there is no Keystone where it should be. -/
theorem refused_login_taken_for_absence :
    ¬ ∀ (k : Settings.Keystone) (c : Services) (call : Call) (s : Session),
      c.fabric.credentials = .keystone k → call.isCore = false →
      let run := c.respond call s
      TellsLogins k call run.1 (s.network.exchangesSince run.2.network) := by
  intro hclaim
  have htells := hclaim Lab.keystone Lab.services Lab.getProject
    (Lab.loggedOut Lab.refusedLogin) rfl rfl
  obtain ⟨x, hx, hlogin, hstatus⟩ : ∃ x ∈ Lab.traffic Lab.services Lab.getProject Lab.refusedLogin,
      IsLogin Lab.keystone x.request ∧ x.status? = some 404 := by decide +kernel
  obtain ⟨e, he⟩ := htells.refused x hx hlogin 404 hstatus rfl
  have habsent : (Lab.services.respond Lab.getProject
      (Lab.loggedOut Lab.refusedLogin)).1.toOption.isSome = true := by decide +kernel
  rw [he] at habsent
  cases habsent

end Rest

end VlanBinding
