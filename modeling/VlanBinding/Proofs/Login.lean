import Mathlib.Data.List.Basic
import VlanBinding.Proofs.Traffic
import VlanBinding.Rest.Services

/-!
What becomes of a refused request. The result of every operation of the fabric client heeds the last
response: a refusal is an error that keeps its status, and "not found" and "conflict" are no more
than statuses of the last response, whoever gave it.
-/

namespace VlanBinding

open VlanBinding.Http

namespace Rest

/-- The request that goes out, if there is a URL to send it to. -/
def requestTo? (method : Method) (url : String) (query : List (String × String))
    (token : Option String) (body : Option Json) : Option Http.Request :=
  (Url.parse? url).map fun url => { method, url := url.addPairs query, token, body }

/-- Is it a request for a token, and not one of the operation itself? -/
def IsLogin (k : Settings.Keystone) (r : Http.Request) : Prop :=
  r.method = .post ∧ r.token = none ∧
    (Url.parse? (joinUrl k.authUrl "auth/tokens")).map (·.addPairs []) = some r.url

instance (k : Settings.Keystone) : DecidablePred (IsLogin k) :=
  fun _ => inferInstanceAs (Decidable (_ ∧ _))

/-- The status of the last response. -/
def lastStatus (log : List Exchange) : Option Status := log.getLast?.bind Exchange.status?

variable {k : Settings.Keystone} {α β : Type} {pardoned : Option Status}
variable {r : Except Error α} {log rest : List Exchange}

theorem token_of_requestTo? {method : Method} {url : String} {query : List (String × String)}
    {token : Option String} {body : Option Json} {r : Http.Request}
    (hr : requestTo? method url query token body = some r) : r.token = token := by
  rw [requestTo?, Option.map_eq_some_iff] at hr
  obtain ⟨url, -, rfl⟩ := hr
  rfl

/-- An own request under Keystone carries a token, and a login does not. -/
theorem not_isLogin_of_token {r : Http.Request} {token : String} (hr : r.token = some token) :
    ¬ IsLogin k r := by
  intro hlogin
  rw [hlogin.2.1] at hr
  cases hr

theorem getLast?_append_of_ne_nil (log : List Exchange) (hrest : rest ≠ []) :
    (log ++ rest).getLast? = rest.getLast? := by
  rw [List.getLast?_append, List.getLast?_eq_some_getLast hrest, Option.some_or]

theorem lastStatus_concat (log : List Exchange) (x : Exchange) :
    lastStatus (log ++ [x]) = x.status? := by
  rw [lastStatus, List.getLast?_concat, Option.bind_some]

theorem lastStatus_append (log : List Exchange) (hrest : rest ≠ []) :
    lastStatus (log ++ rest) = lastStatus rest := by
  rw [lastStatus, lastStatus, getLast?_append_of_ne_nil log hrest]

/-! ## Results and responses -/

/-- Every login was granted, and so was the last request, if there was any. -/
structure Smooth (k : Settings.Keystone) (log : List Exchange) : Prop where
  logins : ∀ x ∈ log, IsLogin k x.request → x.granted = true
  last : ∀ x ∈ log.getLast?, x.granted = true

/-- The result heeds the last response. A refusal makes an error that tells its status,
unless it is pardoned; a refused login comes last. -/
structure Heeds (k : Settings.Keystone) (pardoned : Option Status) (r : Except Error α)
    (log : List Exchange) : Prop where
  logins : ∀ x ∈ log.dropLast, IsLogin k x.request → x.granted = true
  ok : ∀ a, r = .ok a → (∀ x ∈ log.getLast?, x.granted = true) ∨
    ∃ st, pardoned = some st ∧ lastStatus log = some st
  pardon : ∀ e st, r = .error e → pardoned = some st → lastStatus log ≠ some st
  notFound : ∀ e, r = .error e → (e.isNotFound = true ↔ lastStatus log = some 404)
  conflict : ∀ e, r = .error e → (e.isConflict = true ↔ lastStatus log = some 409)

/-- Nothing was sent, and what failed did not fail as if something were absent or there
already. -/
structure Quiet (r : Except Error α) (log : List Exchange) : Prop where
  silent : log = []
  plain : ∀ e, r = .error e → e.isNotFound = false ∧ e.isConflict = false

theorem Smooth.nil (k : Settings.Keystone) : Smooth k [] where
  logins := by simp
  last := by simp

theorem Smooth.of_dropLast
    (hlogins : ∀ x ∈ log.dropLast, IsLogin k x.request → x.granted = true)
    (hlast : ∀ x ∈ log.getLast?, x.granted = true) : Smooth k log := by
  refine ⟨fun x hx hlogin => ?_, hlast⟩
  by_cases hx' : some x = log.getLast?
  · exact hlast x hx'.symm
  · exact hlogins x (List.mem_dropLast_of_mem_of_ne_getLast? hx hx') hlogin

theorem granted_of_lastStatus {st : Status} (hlast : lastStatus log = some st)
    (hst : st.isSuccess = true) : ∀ x ∈ log.getLast?, x.granted = true := by
  intro x hx
  rw [lastStatus, hx, Option.bind_some] at hlast
  rw [Exchange.granted, hlast, Option.any_some, hst]

theorem Smooth.lastStatus_ne {st : Status} (hlog : Smooth k log) (hst : st.isSuccess = false) :
    lastStatus log ≠ some st := by
  intro hlast
  rw [lastStatus, Option.bind_eq_some_iff] at hlast
  obtain ⟨x, hx, hstatus⟩ := hlast
  have hgranted := hlog.last x hx
  rw [Exchange.granted, hstatus, Option.any_some, hst] at hgranted
  cases hgranted

theorem Heeds.of_value {a : α}
    (hlogins : ∀ x ∈ log.dropLast, IsLogin k x.request → x.granted = true)
    (hlast : (∀ x ∈ log.getLast?, x.granted = true) ∨
      ∃ st, pardoned = some st ∧ lastStatus log = some st) :
    Heeds k pardoned (.ok a) log where
  logins := hlogins
  ok := fun _ _ => hlast
  pardon := fun _ _ he => by cases he
  notFound := fun _ he => by cases he
  conflict := fun _ he => by cases he

theorem Heeds.of_failure {e : Error}
    (hlogins : ∀ x ∈ log.dropLast, IsLogin k x.request → x.granted = true)
    (hpardon : ∀ st ∈ pardoned, lastStatus log ≠ some st)
    (hnotFound : e.isNotFound = true ↔ lastStatus log = some 404)
    (hconflict : e.isConflict = true ↔ lastStatus log = some 409) :
    Heeds k pardoned (.error e : Except Error α) log where
  logins := hlogins
  ok := fun _ ha => by cases ha
  pardon := fun _ st _ hst => hpardon st hst
  notFound := fun _ he => by
    obtain rfl := Except.error.inj he
    exact hnotFound
  conflict := fun _ he => by
    obtain rfl := Except.error.inj he
    exact hconflict

/-- The value of an action that pardons nothing comes after granted requests only. -/
theorem Heeds.smooth {a : α} (hr : Heeds k none (.ok a) log) : Smooth k log := by
  refine .of_dropLast hr.logins ((hr.ok a rfl).resolve_right ?_)
  rintro ⟨st, hst, -⟩
  cases hst

/-- What fails without a request heeds the granted request before it. -/
theorem Heeds.of_quiet (hlog : Smooth k log) (hpardoned : ∀ st ∈ pardoned, st.isSuccess = false)
    (hplain : ∀ e, r = .error e → e.isNotFound = false ∧ e.isConflict = false) :
    Heeds k pardoned r log where
  logins := fun x hx => hlog.logins x (List.dropLast_subset log hx)
  ok := fun a _ => Or.inl hlog.last
  pardon := fun e st _ hst => hlog.lastStatus_ne (hpardoned st hst)
  notFound := by
    intro e he
    have hlast : lastStatus log ≠ some 404 := hlog.lastStatus_ne rfl
    simp [hplain e he, hlast]
  conflict := by
    intro e he
    have hlast : lastStatus log ≠ some 409 := hlog.lastStatus_ne rfl
    simp [hplain e he, hlast]

/-- What is sent last decides, if granted logins at most come before it. -/
theorem Heeds.append_of_ne_nil
    (hlogins : ∀ x ∈ log, IsLogin k x.request → x.granted = true) (hrest : rest ≠ [])
    (hr : Heeds k pardoned r rest) : Heeds k pardoned r (log ++ rest) where
  logins := by
    intro x hx
    rw [List.dropLast_append_of_ne_nil hrest] at hx
    rcases List.mem_append.mp hx with hx | hx
    · exact hlogins x hx
    · exact hr.logins x hx
  ok := by
    rw [lastStatus_append log hrest, getLast?_append_of_ne_nil log hrest]
    exact hr.ok
  pardon := by
    rw [lastStatus_append log hrest]
    exact hr.pardon
  notFound := by
    rw [lastStatus_append log hrest]
    exact hr.notFound
  conflict := by
    rw [lastStatus_append log hrest]
    exact hr.conflict

/-- An action that goes on from granted requests ends as it would on its own. -/
theorem Heeds.append (hlog : Smooth k log) (hpardoned : ∀ st ∈ pardoned, st.isSuccess = false)
    (hr : Heeds k pardoned r rest) : Heeds k pardoned r (log ++ rest) := by
  by_cases hrest : rest = []
  · subst hrest
    rw [List.append_nil]
    refine Heeds.of_quiet hlog hpardoned fun e he => ?_
    have hnotFound := hr.notFound e he
    have hconflict := hr.conflict e he
    simpa [lastStatus] using And.intro hnotFound hconflict
  · exact hr.append_of_ne_nil hlog.logins hrest

/-- An error is heeded whatever it keeps from. -/
theorem Heeds.of_error {e : Error} (hr : Heeds k pardoned (.error e : Except Error β) log) :
    Heeds k pardoned (.error e : Except Error α) log :=
  .of_failure hr.logins (fun st => hr.pardon e st rfl) (hr.notFound e rfl) (hr.conflict e rfl)

/-- An error after a request that was refused for another reason. -/
theorem Heeds.error_append {e : Error}
    (hlogins : ∀ x ∈ log, IsLogin k x.request → x.granted = true)
    (hnotFound : lastStatus log ≠ some 404) (hconflict : lastStatus log ≠ some 409)
    (hr : Heeds k none (.error e : Except Error α) rest) :
    Heeds k none (.error e : Except Error α) (log ++ rest) := by
  by_cases hrest : rest = []
  · subst hrest
    rw [List.append_nil]
    have hplain : e.isNotFound = false := by simpa [lastStatus] using hr.notFound e rfl
    have hplain' : e.isConflict = false := by simpa [lastStatus] using hr.conflict e rfl
    exact .of_failure (fun x hx => hlogins x (List.dropLast_subset log hx)) (by simp)
      (by simp [hplain, hnotFound]) (by simp [hplain', hconflict])
  · exact hr.append_of_ne_nil hlogins hrest

theorem heeds_bind {a : Action β} {f : β → Action α} (ha : a.Ensures (Heeds k none))
    (hf : ∀ x, (f x).Ensures (Heeds k none)) : (a >>= f).Ensures (Heeds k none) := by
  refine ha.bind (fun x log hlog => ?_) fun e log hlog => hlog.of_error
  exact (hf x).mono fun r rest hr => hr.append hlog.smooth (by simp)

/-! ## Single requests -/

/-- What comes of one request: no answer, be it sent or not, or an answer. -/
inductive Answered (request? : Option Http.Request) (path : String) :
    Except Error Response → List Exchange → Prop
  | unsent : Answered request? path (.error (.transport path)) []
  | dropped {x : Exchange} (hr : request? = some x.request) (hreply : x.reply = .drop) :
      Answered request? path (.error (.transport path)) [x]
  | answered {x : Exchange} {response : Response} (hr : request? = some x.request)
      (hreply : x.reply = .response response) : Answered request? path (.ok response) [x]

/-- There is such a request, it leads to a server that answers, and its token may be sent. -/
def Deliverable (reaches : Url → Bool) (request? : Option Http.Request) : Prop :=
  ∃ r, request? = some r ∧ reaches r.url = true ∧ r.token.all isHeaderValue = true

/-- What comes of one request, which is sent if it can be delivered. -/
structure Delivered (reaches : Url → Bool) (request? : Option Http.Request) (path : String)
    (r : Except Error Response) (log : List Exchange) : Prop where
  answered : Answered request? path r log
  sent : Deliverable reaches request? → log ≠ []

theorem deliverable_iff {reaches : Url → Bool} {request? : Option Http.Request} :
    Deliverable reaches request? ↔
      request?.any (fun r => reaches r.url && r.token.all isHeaderValue) = true := by
  cases request? <;> simp [Deliverable]

instance (reaches : Url → Bool) (request? : Option Http.Request) :
    Decidable (Deliverable reaches request?) :=
  decidable_of_iff _ deliverable_iff.symm

/-- A request with a URL is handed to the network, and nothing else changes. -/
theorem exchange_outcome {url : String} {u : Url} (hurl : Url.parse? url = some u)
    (path : String) (method : Method) (query : List (String × String)) (token : Option String)
    (body : Option Json) (s : Session) :
    (Action.exchange path method url query token body).outcome s =
      let sent := s.network.send { method, url := u.addPairs query, token, body }
      ((sent.1.map .ok).getD (.error (.transport path)), { s with network := sent.2 }) := by
  have hget : (get : Action Session).outcome s = (.ok s, s) := rfl
  have hset (t : Session) : (set t : Action PUnit).outcome s = (.ok ⟨⟩, t) := rfl
  simp only [Action.exchange, hurl, Action.outcome_bind, hget, hset]
  split <;> simp_all

/-- Whatever comes of a single request, nothing but the network changes. -/
theorem exchange_delivered (path : String) (method : Method) (url : String)
    (query : List (String × String)) (token : Option String) (body : Option Json) (s : Session) :
    ∃ r log network,
      (Action.exchange path method url query token body).outcome s = (r, { s with network }) ∧
      s.network.Leads log network ∧
      Delivered s.network.reaches (requestTo? method url query token body) path r log := by
  cases hurl : Url.parse? url with
  | none =>
      have hrequest : requestTo? method url query token body = none := by
        rw [requestTo?, hurl, Option.map_none]
      simp only [Action.exchange, hurl, Action.outcome_throw, hrequest]
      refine ⟨_, [], s.network, rfl, .refl _, .unsent, ?_⟩
      rintro ⟨r, hr, -⟩
      cases hr
  | some u =>
      have hrequest : requestTo? method url query token body =
          some { method, url := u.addPairs query, token, body } := by
        rw [requestTo?, hurl, Option.map_some]
      rw [exchange_outcome hurl, hrequest]
      generalize ({ method, url := u.addPairs query, token, body } : Http.Request) = q
      by_cases hreaches : (s.network.reaches q.url && q.token.all isHeaderValue) = true
      · obtain ⟨x, hx, hresponse, hcarries⟩ := Network.send_of_reaches hreaches
        refine ⟨_, [x], _, rfl, hcarries.leads, ?_, fun _ => List.cons_ne_nil _ _⟩
        rw [hresponse]
        cases hreply : x.reply with
        | drop => exact .dropped (congrArg some hx.symm) hreply
        | response response => exact .answered (congrArg some hx.symm) hreply
      · have hunsent : s.network.send q = (none, s.network) := if_neg hreaches
        rw [hunsent]
        refine ⟨_, [], s.network, rfl, .refl _, .unsent, ?_⟩
        intro hdeliverable
        exact absurd (deliverable_iff.mp hdeliverable) hreaches

theorem exchange_ensures (path : String) (method : Method) (url : String)
    (query : List (String × String)) (token : Option String) (body : Option Json) :
    (Action.exchange path method url query token body).Ensures
      (Answered (requestTo? method url query token body) path) := by
  intro s
  obtain ⟨r, log, network, hrun, hlog, hr⟩ := exchange_delivered path method url query token body s
  rw [hrun]
  exact ⟨log, hlog, hr.answered⟩

/-- What does not send anything and does not tell of absence or conflict. -/
theorem quiet_pure (a : α) : (pure a : Action α).Ensures Quiet :=
  .pure ⟨rfl, fun _ he => by cases he⟩

theorem quiet_throw {e : Error} (he : e.isNotFound = false ∧ e.isConflict = false) :
    (throw e : Action α).Ensures Quiet :=
  .throw ⟨rfl, fun _ h => by cases h; exact he⟩

theorem quiet_bind {a : Action β} {f : β → Action α} (ha : a.Ensures Quiet)
    (hf : ∀ x, (f x).Ensures Quiet) : (a >>= f).Ensures Quiet := by
  refine ha.bind (fun x log hlog => (hf x).mono fun r rest hr => ?_) fun e log hlog => ?_
  · exact ⟨by rw [hlog.silent, hr.silent, List.append_nil], hr.plain⟩
  · exact ⟨hlog.silent, fun e' he => hlog.plain e' (by cases he; rfl)⟩

theorem Quiet.heeds (hr : Quiet r log) : Heeds k none r log := by
  rw [hr.silent]
  exact .of_quiet (.nil k) (by simp) hr.plain

theorem isNotFound_ofStatus (path : String) (st : Status) (body : String) :
    (Error.ofStatus path st body).isNotFound = true ↔ st = 404 := by
  rw [Error.ofStatus]
  split
  · simp [Error.isNotFound, *]
  · split <;> simp [Error.isNotFound, *]

theorem isConflict_ofStatus (path : String) (st : Status) (body : String) :
    (Error.ofStatus path st body).isConflict = true ↔ st = 409 := by
  rw [Error.ofStatus]
  split
  · simp [Error.isConflict, *]
  · split <;> simp [Error.isConflict, *]

/-- A status other than success makes an error that tells it. -/
theorem heeds_refused (path : String) {response : Response}
    (hlogins : ∀ x ∈ log.dropLast, IsLogin k x.request → x.granted = true)
    (hlast : lastStatus log = some response.status) :
    Heeds k none
      (.error (.ofStatus path response.status response.body) : Except Error α) log := by
  refine .of_failure hlogins (by simp) ?_ ?_
  · rw [isNotFound_ofStatus, hlast, Option.some.injEq]
  · rw [isConflict_ofStatus, hlast, Option.some.injEq]

/-- A response is checked before anything is made of it. -/
theorem checked_heeds (path : String) {response : Response} {next : Action α}
    (hlogins : ∀ x ∈ log.dropLast, IsLogin k x.request → x.granted = true)
    (hlast : lastStatus log = some response.status) (hnext : next.Ensures Quiet) :
    (do
      if !response.status.isSuccess then
        throw (.ofStatus path response.status response.body)
      next : Action α).Ensures fun r rest => Heeds k none r (log ++ rest) := by
  cases hst : response.status.isSuccess with
  | false =>
      have hthrow : (throw (.ofStatus path response.status response.body) :
          Action PUnit).Ensures fun r rest =>
            r = .error (.ofStatus path response.status response.body) ∧ rest = [] :=
        .throw ⟨rfl, rfl⟩
      refine hthrow.bind (fun _ _ h => by cases h.1) ?_
      rintro e rest ⟨he, rfl⟩
      obtain rfl := Except.error.inj he
      rw [List.append_nil]
      exact heeds_refused path hlogins hlast
  | true =>
      have hsmooth := Smooth.of_dropLast hlogins (granted_of_lastStatus hlast hst)
      exact hnext.mono fun r rest hr => (hr.heeds.append hsmooth (by simp))

/-- A request that nothing answered. -/
theorem transport_heeds {path : String}
    (hlogins : ∀ x ∈ log.dropLast, IsLogin k x.request → x.granted = true)
    (hunanswered : lastStatus log = none) :
    Heeds k none (.error (.transport path) : Except Error α) log :=
  .of_failure hlogins (by simp) (by simp [hunanswered, Error.isNotFound])
    (by simp [hunanswered, Error.isConflict])

/-! ## Tokens -/

theorem issueToken_heeds (k : Settings.Keystone) : (issueToken k).Ensures (Heeds k none) := by
  refine (exchange_ensures _ _ _ _ _ _).bind (fun response log hlog => ?_) fun e log hlog => ?_
  · cases hlog with
    | answered hr hreply =>
        refine checked_heeds (joinUrl k.authUrl "auth/tokens") (by simp)
          (Exchange.status?_of_response hreply) ?_
        split
        · exact quiet_pure _
        · exact quiet_throw ⟨rfl, rfl⟩
  · cases hlog with
    | unsent => exact transport_heeds (by simp) rfl
    | dropped hr hreply => exact transport_heeds (by simp) (Exchange.status?_of_drop hreply)

theorem Action.Ensures.heeds {a : Action α} (ha : a.Ensures Quiet) : a.Ensures (Heeds k none) :=
  ha.mono fun _ _ hr => hr.heeds

theorem heldToken_heeds (k : Settings.Keystone) : (heldToken k).Ensures (Heeds k none) := by
  refine Action.Ensures.get_bind fun s => ?_
  split
  · exact (quiet_pure _).heeds
  · refine heeds_bind (issueToken_heeds k) fun token => ?_
    have hkeep : (modify fun s : Session => { s with token := some token } :
        Action PUnit).Ensures Quiet := .modify (fun _ => rfl) ⟨rfl, fun _ he => by cases he⟩
    exact (quiet_bind hkeep fun _ => quiet_pure _).heeds

/-- What comes of a request under Keystone: an error, or an answer to a request that is
not a login, with granted logins at most before it. -/
inductive Sent (k : Settings.Keystone) : Except Error Response → List Exchange → Prop
  | failed {e : Error} {log : List Exchange}
      (hr : Heeds k none (.error e : Except Error Response) log) : Sent k (.error e) log
  | answered {before : List Exchange} {x : Exchange} {response : Response}
      (hlogins : ∀ y ∈ before, IsLogin k y.request → y.granted = true)
      (hown : ¬ IsLogin k x.request) (hstatus : x.status? = some response.status) :
      Sent k (.ok response) (before ++ [x])

/-- A request that is sent again after its token was rejected. -/
theorem Sent.again {first : Response} {r : Except Error Response}
    (hfirst : Sent k (.ok first) log) (hrejected : first.status = 401) (hr : Sent k r rest) :
    Sent k r (log ++ rest) := by
  cases hfirst with
  | @answered before x response hlogins hown hstatus =>
      -- the request that was rejected is none for a token, so all logins so far were granted
      have hall : ∀ y ∈ before ++ [x], IsLogin k y.request → y.granted = true := by
        intro y hy hlogin
        rcases List.mem_append.mp hy with hy | hy
        · exact hlogins y hy hlogin
        · obtain rfl := List.mem_singleton.mp hy
          exact absurd hlogin hown
      have hlast : lastStatus (before ++ [x]) = some 401 := by
        rw [lastStatus_concat, hstatus, hrejected]
      cases hr with
      | failed hr =>
          exact .failed (hr.error_append hall (by simp [hlast]) (by simp [hlast]))
      | answered hlogins' hown' hstatus' =>
          rw [← List.append_assoc]
          refine .answered (fun y hy => ?_) hown' hstatus'
          rcases List.mem_append.mp hy with hy | hy
          · exact hall y hy
          · exact hlogins' y hy

/-- A request is sent with the current token. -/
def Credentials.present (c : Credentials) (path : String) (method : Method) (url : String)
    (query : List (String × String)) (body : Option Json) : Action Response := do
  Action.exchange path method url query (← c.current) body

theorem present_sent (path : String) (method : Method) (url : String)
    (query : List (String × String)) (body : Option Json) :
    ((Credentials.keystone k).present path method url query body).Ensures (Sent k) := by
  rw [Credentials.present, Credentials.current, map_eq_pure_bind, bind_assoc]
  refine (heldToken_heeds k).bind (fun token log hlog => ?_) fun e log hlog => .failed hlog.of_error
  rw [pure_bind]
  refine (exchange_ensures _ _ _ _ _ _).mono fun r rest hr => ?_
  cases hr with
  | unsent =>
      refine .failed (Heeds.append hlog.smooth (by simp) ?_)
      exact transport_heeds (by simp) rfl
  | dropped hr hreply =>
      refine .failed (Heeds.append hlog.smooth (by simp) ?_)
      exact transport_heeds (by simp) (Exchange.status?_of_drop hreply)
  | answered hr hreply =>
      exact .answered hlog.smooth.logins (not_isLogin_of_token (token_of_requestTo? hr))
        (Exchange.status?_of_response hreply)

theorem send_eq (c : Credentials) (path : String) (method : Method) (url : String)
    (query : List (String × String)) (body : Option Json) :
    c.send path method url query body = (do
      let first ← c.present path method url query body
      if first.status = 401 ∧ c.canRenew then
        forgetToken
        c.present path method url query body
      else pure first) := by
  simp only [Credentials.send, Credentials.present, bind_assoc]

theorem send_sent (path : String) (method : Method) (url : String)
    (query : List (String × String)) (body : Option Json) :
    ((Credentials.keystone k).send path method url query body).Ensures (Sent k) := by
  have hpresent := present_sent (k := k) path method url query body
  rw [send_eq]
  refine hpresent.bind (fun first log hlog => ?_) fun e log hlog => hlog
  split
  · rename_i hrejected
    have hforget : forgetToken.Ensures fun r rest => r = .ok ⟨⟩ ∧ rest = [] :=
      .modify (fun _ => rfl) ⟨rfl, rfl⟩
    refine hforget.bind (fun _ nothing hnothing => ?_) fun e _ h => by cases h.1
    rw [hnothing.2]
    exact hpresent.mono fun r rest hr => hlog.again hrejected.1 hr
  · exact .pure (by simpa using hlog)

end Rest

end VlanBinding
