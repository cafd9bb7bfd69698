import VlanBinding.Proofs.Custody
import VlanBinding.Proofs.Pardon

/-!
Requests of two clients that share one Keystone session, in any order. Main statement: whatever was
requested and answered before, a request goes out with the token that was issued last, a token is
asked for exactly if there is none, and a rejected token is renewed once for a request; without
Keystone a request goes out once, with what the client was given.
-/

namespace VlanBinding

open VlanBinding.Http

namespace Rest

variable {k : Settings.Keystone} {reaches : Url → Bool}
variable {own : Option String → Option Http.Request}

/-! ## What a request sends -/

/-- The exchanges that are no logins. -/
def ofServices (k : Settings.Keystone) (log : List Exchange) : List Exchange :=
  log.filter fun x => ¬ IsLogin k x.request

theorem ofServices_append (log rest : List Exchange) :
    ofServices k (log ++ rest) = ofServices k log ++ ofServices k rest :=
  List.filter_append log rest

section

variable {path : String} {r : Except Error Response} {held after : Option String}
variable {log logins sent : List Exchange} {x : Exchange}

theorem Attempt.ofServices_eq (hown : Shows own)
    (h : Attempt k reaches own path held r logins sent after) :
    ofServices k (logins ++ sent) = sent := by
  have hlogins : ofServices k logins = [] := by
    apply List.filter_eq_nil_iff.mpr
    intro x hx
    simp [h.isLogin hx]
  have hsent : ofServices k sent = sent := by
    apply List.filter_eq_self.mpr
    intro x hx
    simp [h.not_isLogin hown hx]
  rw [ofServices_append, hlogins, hsent, List.nil_append]

theorem Attempt.eq_nil_or_singleton (h : Attempt k reaches own path held r logins sent after) :
    sent = [] ∨ ∃ x, sent = [x] := by
  cases h with
  | refused => exact Or.inl rfl
  | held hsent | issued _ hsent => exact hsent.answered.eq_nil_or_singleton

/-- An attempt that gets a response sent its request last. -/
theorem Attempt.eq_singleton {response : Response}
    (h : Attempt k reaches own path held (.ok response) logins sent after) :
    ∃ x, sent = [x] ∧ x.status? = some response.status := by
  rcases h.eq_nil_or_singleton with hnil | ⟨x, rfl⟩
  · exact absurd hnil h.sent_ne_nil
  · exact ⟨x, rfl, h.status?_eq (List.mem_singleton_self x)⟩

theorem LoggedIn.of_ok {token : String} (h : LoggedIn k reaches (.ok token) logins) :
    ∃ login, logins = [login] ∧ issued? k login = some token := by
  cases h with
  | issued hissued => exact ⟨_, rfl, hissued⟩

/-- A second attempt that sends its request was handed out a token for it. -/
theorem Attempt.of_none (hown : Shows own)
    (h : Attempt k reaches own path none r logins [x] after) :
    ∃ login, ∃ token : String, logins = [login] ∧ issued? k login = some token ∧
      own (some token) = some x.request ∧ x.request.token = some token := by
  cases h with
  | issued hlogin hsent =>
      obtain ⟨login, hlogins, hissued⟩ := hlogin.of_ok
      have hrequest := hsent.answered.request_eq (List.mem_singleton_self x)
      exact ⟨login, _, hlogins, hissued, hrequest, hown _ _ hrequest⟩

/-- A login that hands out nothing ends the attempt without a token. -/
theorem Attempt.forgotten (h : Attempt k reaches own path held r logins sent after)
    (hx : x ∈ logins) (hissued : issued? k x = none) : after = none ∧ ∃ e, r = .error e := by
  cases h with
  | refused => exact ⟨rfl, _, rfl⟩
  | held => cases hx
  | issued hlogin _ =>
      cases hlogin with
      | issued hissued' =>
          obtain rfl := List.mem_singleton.mp hx
          rw [hissued] at hissued'
          cases hissued'

/-- An attempt that gets no token has asked for one, if that could be sent. -/
theorem Attempt.due (h : Attempt k reaches own path held r logins sent none)
    (hlogin : Deliverable reaches (loginRequest? k)) :
    ∃ x, logins ++ sent = [x] ∧ IsLogin k x.request ∧ issued? k x = none := by
  cases h with
  | refused hrefused =>
      cases hrefused with
      | unsent hunsent => exact absurd hlogin hunsent
      | failed hx hissued _ => exact ⟨_, rfl, hx, hissued⟩

/-- An attempt that has a token has sent its request with it, if that could be sent. -/
theorem Attempt.served {token : String}
    (h : Attempt k reaches own path held r logins sent (some token))
    (hdeliverable : Deliverable reaches (own (some token))) :
    ∃ x, sent = [x] ∧ own (some token) = some x.request := by
  have hsingle (hsent : Delivered reaches (own (some token)) path r sent) :
      ∃ x, sent = [x] ∧ own (some token) = some x.request := by
    rcases hsent.answered.eq_nil_or_singleton with hnil | ⟨x, rfl⟩
    · exact absurd hnil (hsent.sent hdeliverable)
    · exact ⟨x, rfl, hsent.answered.request_eq (List.mem_singleton_self x)⟩
  cases h with
  | held hsent | issued _ hsent => exact hsingle hsent

/-- An error that tells a status comes from a login that was refused with it. -/
theorem Attempt.of_tells {e : Error} {st : Status}
    (h : Attempt k reaches own path held (.error e) logins sent after) (htells : e.Tells st) :
    ∃ x, logins ++ sent = [x] ∧ IsLogin k x.request ∧ x.status? = some st := by
  have hanswered {token : String}
      (hsent : Delivered reaches (own (some token)) path (.error e) sent) :
      ¬ e.Tells st := by
    rintro ⟨_, _, rfl⟩
    cases hsent.answered
  cases h with
  | refused hlogin =>
      cases hlogin with
      | unsent =>
          obtain ⟨_, _, he⟩ := htells
          cases he
      | failed hx _ hstatus => exact ⟨_, rfl, hx, hstatus st htells⟩
  | held hsent | issued _ hsent => exact absurd htells (hanswered hsent)

theorem Attempts.length_ofServices_le (hown : Shows own)
    (h : Attempts k reaches own path held r log after) : (ofServices k log).length ≤ 2 := by
  have hle {held after : Option String} {r : Except Error Response} {logins sent : List Exchange}
      (h : Attempt k reaches own path held r logins sent after) : sent.length ≤ 1 := by
    rcases h.eq_nil_or_singleton with rfl | ⟨x, rfl⟩ <;> simp
  cases h with
  | once hattempt _ =>
      rw [hattempt.ofServices_eq hown]
      exact Nat.le_succ_of_le (hle hattempt)
  | again hfirst _ hagain =>
      rw [ofServices_append, hfirst.ofServices_eq hown, hagain.ofServices_eq hown,
        List.length_append]
      exact Nat.add_le_add (hle hfirst) (hle hagain)

/-- A request that is sent twice was rejected and has got a new token in between. -/
theorem Attempts.renewed {first second : Exchange} (hown : Shows own)
    (h : Attempts k reaches own path held r log after)
    (htwice : ofServices k log = [first, second]) :
    ∃ logins login, ∃ token : String, log = logins ++ [first, login, second] ∧
      (∀ y ∈ logins, IsLogin k y.request) ∧ first.status? = some 401 ∧
      issued? k login = some token ∧ second.request.token = some token := by
  cases h with
  | once hattempt _ =>
      rw [hattempt.ofServices_eq hown] at htwice
      rcases hattempt.eq_nil_or_singleton with hsent | ⟨x, hsent⟩
      · simp [hsent] at htwice
      · simp [hsent] at htwice
  | @again _ _ _ _ logins _ _ _ hfirst hrejected hagain =>
      rw [ofServices_append, hfirst.ofServices_eq hown, hagain.ofServices_eq hown] at htwice
      obtain ⟨x, rfl, hstatus⟩ := hfirst.eq_singleton
      obtain ⟨rfl, rfl⟩ := List.cons_eq_cons.mp htwice
      obtain ⟨login, token, rfl, hissued, -, htoken⟩ := hagain.of_none hown
      refine ⟨logins, login, token, by simp, fun y hy => hfirst.isLogin hy, ?_, hissued, htoken⟩
      rw [hstatus, hrejected]

/-- A response that is handed on although it is a rejection is one to the second attempt. -/
theorem Attempts.rejected {response : Response} (hown : Shows own)
    (h : Attempts k reaches own path held (.ok response) log after)
    (hrejected : response.status = 401) :
    ∃ before first x, log = before ++ [x] ∧ x.status? = some 401 ∧
      ofServices k log = [first, x] := by
  cases h with
  | once _ hkept => exact absurd hrejected (hkept response rfl)
  | again hfirst _ hagain =>
      obtain ⟨first, rfl, -⟩ := hfirst.eq_singleton
      obtain ⟨x, rfl, hstatus⟩ := hagain.eq_singleton
      rw [hrejected] at hstatus
      refine ⟨_, first, x, (List.append_assoc _ _ _).symm, hstatus, ?_⟩
      rw [ofServices_append, hfirst.ofServices_eq hown, hagain.ofServices_eq hown]
      rfl

theorem Attempts.of_tells {e : Error} {st : Status}
    (h : Attempts k reaches own path held (.error e) log after) (htells : e.Tells st) :
    ∃ before x, log = before ++ [x] ∧ IsLogin k x.request ∧ x.status? = some st := by
  cases h with
  | once hattempt _ =>
      obtain ⟨x, hlog, hlogin, hstatus⟩ := hattempt.of_tells htells
      exact ⟨[], x, hlog, hlogin, hstatus⟩
  | again _ _ hagain =>
      obtain ⟨x, hlog, hlogin, hstatus⟩ := hagain.of_tells htells
      rw [hlog]
      exact ⟨_, x, rfl, hlogin, hstatus⟩

theorem Attempts.forgotten (hown : Shows own) (h : Attempts k reaches own path held r log after)
    (hx : x ∈ log) (hlogin : IsLogin k x.request) (hissued : issued? k x = none) :
    after = none := by
  have hlogins {held after : Option String} {r : Except Error Response}
      {logins sent : List Exchange} (h : Attempt k reaches own path held r logins sent after)
      (hx : x ∈ logins ++ sent) : after = none ∧ ∃ e, r = .error e := by
    rcases List.mem_append.mp hx with hx | hx
    · exact h.forgotten hx hissued
    · exact absurd hlogin (h.not_isLogin hown hx)
  cases h with
  | once hattempt _ => exact (hlogins hattempt hx).1
  | again hfirst _ hagain =>
      rcases List.mem_append.mp hx with hx | hx
      · obtain ⟨-, e, he⟩ := hlogins hfirst hx
        cases he
      · exact (hlogins hagain hx).1

theorem Attempts.due (h : Attempts k reaches own path held r log none)
    (hlogin : Deliverable reaches (loginRequest? k)) :
    ∃ before x, log = before ++ [x] ∧ IsLogin k x.request ∧ issued? k x = none := by
  cases h with
  | once hattempt _ =>
      obtain ⟨x, hlog, hx⟩ := hattempt.due hlogin
      exact ⟨[], x, hlog, hx⟩
  | again _ _ hagain =>
      obtain ⟨x, hlog, hx⟩ := hagain.due hlogin
      rw [hlog]
      exact ⟨_, x, rfl, hx⟩

theorem Attempts.served {token : String}
    (h : Attempts k reaches own path held r log (some token))
    (hdeliverable : Deliverable reaches (own (some token))) :
    ∃ before x, log = before ++ [x] ∧ own (some token) = some x.request := by
  cases h with
  | once hattempt _ =>
      obtain ⟨x, rfl, hx⟩ := hattempt.served hdeliverable
      exact ⟨_, x, rfl, hx⟩
  | again _ _ hagain =>
      obtain ⟨x, rfl, hx⟩ := hagain.served hdeliverable
      exact ⟨_, x, (List.append_assoc _ _ _).symm, hx⟩

end

/-! ## Requests of clients -/

/-- A single request of one of the clients. -/
inductive ClientRequest
  | fabric (method : Method) (path : String) (query : List (String × String)) (body : Option Json)
  | neutron {α : Type} (decoder : Json.Decoder α) (path : String) (query : List (String × String))

namespace ClientRequest

def path : ClientRequest → String
  | fabric _ path _ _ => path
  | neutron _ path _ => path

def credentials (c : Services) : ClientRequest → Credentials
  | fabric .. => c.fabric.credentials
  | neutron .. => c.neutron.credentials

/-- What goes out, with a token. -/
def request? (c : Services) : ClientRequest → Option String → Option Http.Request
  | fabric method path query body, token =>
      requestTo? method (joinUrl c.fabric.baseUrl path) query token body
  | neutron _ path query, token => requestTo? .get (joinUrl c.neutron.url path) query token none

/-- Why the client cannot be set up for the request, if it cannot. -/
def misconfiguration? (c : Services) (s : Session) : ClientRequest → Option Misconfiguration
  | fabric .. => if s.connected then none else c.fabric.misconfiguration?
  | neutron .. => none

/-- The request with the token of its client, before anything is made of the response. -/
def response (c : Services) : ClientRequest → Action Response
  | fabric method path query body =>
      c.fabric.credentials.send path method (joinUrl c.fabric.baseUrl path) query body
  | neutron _ path query =>
      c.neutron.credentials.send path .get (joinUrl c.neutron.url path) query none

theorem shows_request? (c : Services) (r : ClientRequest) : Shows (r.request? c) := by
  intro token q hq
  cases r with
  | fabric | neutron => exact token_of_requestTo? hq

theorem response_turns {c : Services} {r : ClientRequest} (hk : r.credentials c = .keystone k) :
    (r.response c).Turns reaches (Attempts k reaches (r.request? c) r.path) := by
  cases r with
  | fabric method path query body =>
      rw [credentials] at hk
      rw [response, hk]
      exact send_turns path method (joinUrl c.fabric.baseUrl path) query body k
  | neutron decoder path query =>
      rw [credentials] at hk
      rw [response, hk]
      exact send_turns path .get (joinUrl c.neutron.url path) query none k

theorem response_turns_of_fixed {c : Services} {r : ClientRequest}
    (hc : (r.credentials c).canRenew = false) :
    (r.response c).Turns reaches fun held result log after => after = held ∧
      Delivered reaches (r.request? c (r.credentials c).fixed?) r.path result log := by
  cases r with
  | fabric method path query body =>
      exact send_turns_of_fixed path method (joinUrl c.fabric.baseUrl path) query body hc
  | neutron decoder path query =>
      exact send_turns_of_fixed path .get (joinUrl c.neutron.url path) query none hc

end ClientRequest

namespace Services

/-- Makes a request; what is read off the response does not matter. -/
def send (c : Services) : ClientRequest → Action Unit
  | .fabric method path query body => do
    let _ ← c.fabric.request method path query body
  | .neutron decoder path query => do
    let _ ← c.neutron.get decoder path query

/-- What a request puts on the network. -/
def sentBy (c : Services) (r : ClientRequest) (s : Session) : List Exchange :=
  s.network.exchangesSince ((c.send r).outcome s).2.network

/-- The session after requests. -/
def after (c : Services) : List ClientRequest → Session → Session
  | [], s => s
  | r :: rest, s => c.after rest ((c.send r).outcome s).2

/-- What requests put on the network, request by request. -/
def traffic (c : Services) : List ClientRequest → Session → List (List Exchange)
  | [], _ => []
  | r :: rest, s => c.sentBy r s :: c.traffic rest ((c.send r).outcome s).2

end Services

/-- What is made of a response: no response stays an error, and an error tells the status of the
response at most. -/
structure Reports (response : Except Error Response) (r : Except Error Unit) : Prop where
  failed : ∀ e, response = .error e → r = .error e
  refused : ∀ answer e st, response = .ok answer → r = .error e → e.Tells st → answer.status = st

/-- What comes of a request: its client cannot be set up, or something is made of the response. -/
inductive Performed (reason? : Option Misconfiguration)
    (rel : Option String → Except Error Response → List Exchange → Option String → Prop) :
    Option String → Except Error Unit → List Exchange → Option String → Prop
  | misconfigured {held : Option String} {reason : Misconfiguration}
      (hreason : reason? = some reason) :
      Performed reason? rel held (.error (.invalidConfig reason)) [] held
  | sent {held after : Option String} {response : Except Error Response} {r : Except Error Unit}
      {log : List Exchange} (hreason : reason? = none) (hsent : rel held response log after)
      (hreports : Reports response r) : Performed reason? rel held r log after

theorem connect_outcome (c : FabricClient) (s : Session) :
    c.connect.outcome s =
      match if s.connected then none else c.misconfiguration? with
      | some reason => (.error (.invalidConfig reason), s)
      | none => (.ok (), { s with connected := true }) := by
  obtain ⟨network, token, connected⟩ := s
  have hget : (get : Action Session).outcome ⟨network, token, connected⟩ =
      (.ok ⟨network, token, connected⟩, ⟨network, token, connected⟩) := rfl
  rw [FabricClient.connect, Action.outcome_bind, hget]
  cases connected with
  | true => rfl
  | false => cases c.misconfiguration? <;> rfl

variable {rel : Option String → Except Error Response → List Exchange → Option String → Prop}

/-- A response is checked and read, and nothing more is sent. -/
theorem turns_checked {α : Type} {a : Action Response} {check : Response → Action α}
    (ha : a.Turns reaches rel)
    (hcheck : ∀ response s, ∃ r, (check response).outcome s = (r, s) ∧
      ∀ e st, r = .error e → e.Tells st → response.status = st) :
    (a >>= fun response => check response >>= fun _ => pure () : Action Unit).Turns reaches
      fun held r log after => ∃ response, rel held response log after ∧ Reports response r := by
  have hread (response : Response) : (check response >>= fun _ => pure () : Action Unit).Turns
      reaches fun held r log after => log = [] ∧ after = held ∧
        ∀ e st, r = .error e → e.Tells st → response.status = st := by
    apply Action.Turns.of_outcome
    intro s
    obtain ⟨r, hr, htells⟩ := hcheck response s
    rw [Action.outcome_bind, hr]
    cases r with
    | error e => exact ⟨rfl, rfl, rfl, fun e' st he => htells e' st (by cases he; rfl)⟩
    | ok a => exact ⟨rfl, rfl, rfl, fun e' st he => by cases he⟩
  apply ha.bind hread
  · rintro held response log between r rest after hrel ⟨rfl, rfl, htells⟩
    rw [List.append_nil]
    refine ⟨_, hrel, fun e he => (by cases he), fun answer e st hanswer he hst => ?_⟩
    cases hanswer
    exact htells e st he hst
  · rintro held e log after hrel
    exact ⟨_, hrel, fun e' he => (by cases he; rfl), fun answer e' st hanswer => by cases hanswer⟩

/-- An action that leaves the session alone and whose errors tell no status. -/
def Mute {α : Type} (a : Action α) : Prop :=
  ∀ s, ∃ r, a.outcome s = (r, s) ∧ ∀ e st, r = .error e → ¬ e.Tells st

theorem mute_pure {α : Type} (a : α) : Mute (pure a : Action α) :=
  fun _ => ⟨.ok a, rfl, fun _ _ he => by cases he⟩

theorem mute_invalidResponse {α : Type} (path : String) (flaw : Flaw) :
    Mute (throw (.invalidResponse path flaw) : Action α) := by
  intro s
  refine ⟨_, rfl, ?_⟩
  rintro e st he ⟨_, _, rfl⟩
  cases he

/-- What is read off a response is read off a success. -/
theorem mute_checked {α : Type} (path : String) (response : Response) {a : Action α} (ha : Mute a)
    (s : Session) :
    ∃ r, (if !response.status.isSuccess then do
        throw (.ofStatus path response.status response.body)
        a
      else a : Action α).outcome s = (r, s) ∧
      ∀ e st, r = .error e → e.Tells st → response.status = st := by
  cases response.status.isSuccess with
  | false =>
      refine ⟨_, rfl, ?_⟩
      rintro e st he htells
      cases he
      exact tells_ofStatus htells
  | true =>
      obtain ⟨r, hr, hmute⟩ := ha s
      exact ⟨r, hr, fun e st he htells => absurd htells (hmute e st he)⟩

theorem performed_of_turns {reason? : Option Misconfiguration} {s t : Session} {a : Action Unit}
    (ha : a.Turns s.network.reaches
      fun held r log after => ∃ response, rel held response log after ∧ Reports response r)
    (hnetwork : t.network = s.network) (htoken : t.token = s.token) (hreason : reason? = none) :
    let sent := s.network.exchangesSince (a.outcome t).2.network
    s.network.Leads sent (a.outcome t).2.network ∧
      Performed reason? rel s.token (a.outcome t).1 sent (a.outcome t).2.token := by
  obtain ⟨log, hlog, response, hrel, hreports⟩ := ha t (by rw [hnetwork])
  rw [hnetwork] at hlog
  rw [htoken] at hrel
  rw [hlog.exchangesSince_eq]
  exact ⟨hlog, .sent hreason hrel hreports⟩

theorem send_performed (c : Services) (r : ClientRequest) (s : Session)
    (hr : (r.response c).Turns s.network.reaches rel) :
    s.network.Leads (c.sentBy r s) ((c.send r).outcome s).2.network ∧
      Performed (r.misconfiguration? c s) rel s.token ((c.send r).outcome s).1 (c.sentBy r s)
        ((c.send r).outcome s).2.token := by
  rw [Services.sentBy]
  cases r with
  | fabric method path query body =>
      rw [Services.send, FabricClient.request, bind_assoc, Action.outcome_bind, connect_outcome]
      cases hreason : if s.connected then none else c.fabric.misconfiguration? with
      | some reason =>
          simp only [(Network.Leads.refl s.network).exchangesSince_eq]
          exact ⟨.refl _, .misconfigured hreason⟩
      | none =>
          simp only [bind_assoc]
          refine performed_of_turns (turns_checked hr fun response => ?_) rfl rfl hreason
          apply mute_checked
          split
          · exact mute_pure _
          · split
            · exact mute_pure _
            · exact mute_invalidResponse _ _
  | neutron decoder path query =>
      rw [Services.send, NeutronClient.get, bind_assoc]
      refine performed_of_turns (turns_checked hr fun response => ?_) rfl rfl rfl
      apply mute_checked
      split
      · exact mute_pure _
      · exact mute_invalidResponse _ _

/-! ## Requests in a row -/

variable {past : List (List Exchange)} {reason? : Option Misconfiguration} {path : String}
variable {held after : Option String} {r : Except Error Unit} {sent : List Exchange}

theorem Accounts.performed (hown : Shows own) (h : Accounts k past held)
    (hr : Performed reason? (Attempts k reaches own path) held r sent after) :
    Accounts k (past ++ [sent]) after := by
  cases hr with
  | misconfigured => exact h.concat_nil
  | sent _ hsent _ => exact h.concat_nil.conducts (hsent.conducts hown)

/-- Requests in a row keep the account of the token. -/
theorem Accounts.requests {c : Services}
    (hk : ∀ r : ClientRequest, r.credentials c = .keystone k) (requests : List ClientRequest)
    (s : Session) (h : Accounts k past s.token) :
    Accounts k (past ++ c.traffic requests s) (c.after requests s).token := by
  induction requests generalizing past s with
  | nil =>
      rw [Services.traffic, List.append_nil]
      exact h
  | cons r rest ih =>
      have hr := (send_performed c r s (ClientRequest.response_turns (hk r))).2
      rw [Services.traffic, List.append_cons]
      exact ih _ (h.performed (ClientRequest.shows_request? c r) hr)

/-! ## Renewal -/

/-- How a request keeps to the token: what was sent before, request by request, and the token held
then; the result, what the request itself sends, and the token held after it. -/
structure Renews (k : Settings.Keystone) (reaches : Url → Bool)
    (own : Option String → Option Http.Request) (reason? : Option Misconfiguration)
    (past : List (List Exchange)) (held : Option String) (r : Except Error Unit)
    (sent : List Exchange) (after : Option String) : Prop where
  /-- A client that cannot be set up says so and sends nothing. -/
  misconfigured : ∀ reason, reason? = some reason → r = .error (.invalidConfig reason) ∧ sent = []
  twice : (ofServices k sent).length ≤ 2
  /-- The second time is right after a rejection and the login that hands out its token. -/
  renewed : ∀ first second, ofServices k sent = [first, second] →
    ∃ logins login, ∃ token : String, sent = logins ++ [first, login, second] ∧
      (∀ y ∈ logins, IsLogin k y.request) ∧ first.status? = some 401 ∧
      issued? k login = some token ∧ second.request.token = some token
  /-- What is no login goes out as asked for, with the token issued last. -/
  newest : ∀ before x rest, sent = before ++ x :: rest → ¬ IsLogin k x.request →
    ∃ token, lastIssued k (past.flatten ++ before) = some token ∧
      own (some token) = some x.request ∧ x.request.token = some token
  /-- A token is asked for exactly where there is none. -/
  asks : ∀ before x rest, sent = before ++ x :: rest →
    (IsLogin k x.request ↔ Tokenless k (past ++ [before]))
  held_none_iff : held = none ↔ Tokenless k past
  after_none_iff : after = none ↔ Tokenless k (past ++ [sent])
  /-- The request does not end without a token before it has asked for one in vain. -/
  due : reason? = none → after = none → Deliverable reaches (loginRequest? k) →
    ∃ before x, sent = before ++ [x] ∧ IsLogin k x.request ∧ issued? k x = none
  /-- Nor does it end with a token before it went out with it. -/
  served : reason? = none → ∀ token, after = some token →
    Deliverable reaches (own (some token)) →
    ∃ before x, sent = before ++ [x] ∧ own (some token) = some x.request
  /-- A rejection is told only if it was the last answer: of Keystone, or of a service to the
  second attempt. -/
  rejected : ∀ e, r = .error e → e.Tells 401 →
    ∃ before x, sent = before ++ [x] ∧ x.status? = some 401 ∧
      (IsLogin k x.request ∨ ∃ first, ofServices k sent = [first, x])
  forgotten : ∀ x ∈ sent, IsLogin k x.request → issued? k x = none → after = none

/-- Who is told of a rejection by a request is told of its last answer. -/
theorem Attempts.told {response : Except Error Response} {e : Error} (hown : Shows own)
    (h : Attempts k reaches own path held response sent after)
    (hreports : Reports response (.error e)) (htells : e.Tells 401) :
    ∃ before x, sent = before ++ [x] ∧ x.status? = some 401 ∧
      (IsLogin k x.request ∨ ∃ first, ofServices k sent = [first, x]) := by
  cases response with
  | error e' =>
      obtain rfl := Except.error.inj (hreports.failed e' rfl)
      obtain ⟨before, x, hlog, hlogin, hstatus⟩ := h.of_tells htells
      exact ⟨before, x, hlog, hstatus, Or.inl hlogin⟩
  | ok answer =>
      have hstatus := hreports.refused answer e 401 rfl rfl htells
      obtain ⟨before, first, x, hlog, hlast, htwice⟩ := h.rejected hown hstatus
      exact ⟨before, x, hlog, hlast, Or.inr ⟨first, htwice⟩⟩

theorem Renews.of_performed (hown : Shows own) (h : Accounts k past held)
    (hr : Performed reason? (Attempts k reaches own path) held r sent after) :
    Renews k reaches own reason? past held r sent after := by
  have hafter := h.performed hown hr
  cases hr with
  | misconfigured hreason =>
      have hnil {p : Prop} {before rest : List Exchange} {x : Exchange}
          (hsent : [] = before ++ x :: rest) : p := by simp at hsent
      exact {
        misconfigured := fun reason hreason' => by simp_all
        twice := by simp [ofServices]
        renewed := fun first second htwice => by simp [ofServices] at htwice
        newest := fun before x rest hsent => hnil hsent
        asks := fun before x rest hsent => hnil hsent
        held_none_iff := h.tokenless
        after_none_iff := hafter.tokenless
        due := fun hnone => by simp [hnone] at hreason
        served := fun hnone => by simp [hnone] at hreason
        rejected := fun e he => by
          rintro ⟨_, _, rfl⟩
          cases he
        forgotten := fun x hx => by cases hx }
  | sent hreason hsent hreports =>
      have htakes := fun before x rest (hlog : sent = before ++ x :: rest) =>
        h.concat_nil.takes_of_conducts (by rw [← hlog]; exact hsent.conducts hown)
      exact {
        misconfigured := fun reason hreason' => by simp [hreason] at hreason'
        twice := hsent.length_ofServices_le hown
        renewed := fun first second htwice => hsent.renewed hown htwice
        newest := by
          intro before x rest hlog hx
          obtain ⟨mid, mid', hmid, htake⟩ := htakes before x rest hlog
          obtain ⟨token, rfl, hrequest⟩ := htake.request hx
          have hissued := hmid.latest token rfl
          rw [List.flatten_append, List.flatten_singleton, List.nil_append] at hissued
          exact ⟨token, hissued, hrequest, hown token _ hrequest⟩
        asks := by
          intro before x rest hlog
          obtain ⟨mid, mid', hmid, htake⟩ := htakes before x rest hlog
          exact htake.isLogin_iff.trans hmid.tokenless
        held_none_iff := h.tokenless
        after_none_iff := hafter.tokenless
        due := by
          rintro - rfl hlogin
          exact hsent.due hlogin
        served := by
          rintro - token rfl hdeliverable
          exact hsent.served hdeliverable
        rejected := by
          rintro e rfl htells
          exact hsent.told hown hreports htells
        forgotten := fun x hx hlogin hissued => hsent.forgotten hown hx hlogin hissued }

/-- How a request is made without Keystone: once, if it can be sent at all, and with what the
client was given. -/
structure SendsOnce (reaches : Url → Bool) (request? : Option Http.Request)
    (token? : Option String) (reason? : Option Misconfiguration) (held : Option String)
    (r : Except Error Unit) (sent : List Exchange) (after : Option String) : Prop where
  misconfigured : ∀ reason, reason? = some reason → r = .error (.invalidConfig reason) ∧ sent = []
  atMostOnce : sent.length ≤ 1
  once : reason? = none → Deliverable reaches request? → sent ≠ []
  requested : ∀ x ∈ sent, request? = some x.request ∧ x.request.token = token?
  kept : after = held

theorem SendsOnce.of_performed {request? : Option Http.Request} {token? : Option String}
    (htoken : ∀ q, request? = some q → q.token = token?)
    (hr : Performed reason? (fun held response log after => after = held ∧
      Delivered reaches request? path response log) held r sent after) :
    SendsOnce reaches request? token? reason? held r sent after := by
  cases hr with
  | misconfigured hreason =>
      refine ⟨fun reason hreason' => ?_, Nat.zero_le 1, fun hnone => ?_, fun x hx => ?_, rfl⟩
      · rw [hreason] at hreason'
        obtain rfl := Option.some.inj hreason'
        exact ⟨rfl, rfl⟩
      · rw [hnone] at hreason
        cases hreason
      · cases hx
  | sent hreason hsent _ =>
      obtain ⟨rfl, hsent⟩ := hsent
      refine ⟨fun reason hreason' => ?_, ?_, fun _ => hsent.sent, fun x hx => ?_, rfl⟩
      · rw [hreason] at hreason'
        cases hreason'
      · rcases hsent.answered.eq_nil_or_singleton with rfl | ⟨x, rfl⟩ <;> simp
      · have hrequest := hsent.answered.request_eq hx
        exact ⟨hrequest, htoken _ hrequest⟩

namespace ClientRequest

/-- Wherever a client request is sent on to, it shows the token that it showed at first. -/
theorem token_of_detour (c : Services) (r : ClientRequest) (s : Session) {x : Exchange}
    (hx : x ∈ c.sentBy r s) : ∀ d ∈ x.detours, d.request.token = x.request.token := by
  cases hc : r.credentials c with
  | keystone k => exact (send_performed c r s (response_turns hc)).1.token_of_detour hx
  | anonymous | token =>
      exact (send_performed c r s (response_turns_of_fixed (by rw [hc]; rfl))).1.token_of_detour hx

end ClientRequest

/-- Whatever two clients have requested since a session without a token, whichever servers there
are, and whatever they answered: under one Keystone session the next request renews its token once
at most, and a client without Keystone sends it once; where it is redirected it keeps its token. -/
theorem token_renewed_once (c : Services) (network : Network) (connected : Bool)
    (requests : List ClientRequest) (next : ClientRequest) :
    let start : Session := { network, connected }
    let s := c.after requests start
    let run := (c.send next).outcome s
    (∀ k, c.fabric.credentials = .keystone k → c.neutron.credentials = .keystone k →
      Renews k s.network.reaches (next.request? c) (next.misconfiguration? c s)
        (c.traffic requests start) s.token run.1 (c.sentBy next s) run.2.token) ∧
    ((next.credentials c).canRenew = false →
      SendsOnce s.network.reaches (next.request? c (next.credentials c).fixed?)
        (next.credentials c).fixed? (next.misconfiguration? c s) s.token run.1
        (c.sentBy next s) run.2.token) ∧
    ∀ x ∈ c.sentBy next s, ∀ d ∈ x.detours, d.request.token = x.request.token := by
  intro start s run
  refine ⟨?_, ?_, fun x hx => next.token_of_detour c s hx⟩
  · intro k hfabric hneutron
    have hk (r : ClientRequest) : r.credentials c = .keystone k := by
      cases r with
      | fabric => exact hfabric
      | neutron => exact hneutron
    have haccounts : Accounts k (c.traffic requests start) s.token :=
      (Accounts.start k).requests hk requests start
    exact .of_performed (ClientRequest.shows_request? c next) haccounts
      (send_performed c next s (ClientRequest.response_turns (hk next))).2
  · intro hfixed
    apply SendsOnce.of_performed
    · intro q hq
      cases next with
      | fabric | neutron => exact token_of_requestTo? hq
    · exact (send_performed c next s (ClientRequest.response_turns_of_fixed hfixed)).2

end Rest

namespace Lab

/-- Clients of both services that share one Keystone session. -/
def sharing : Rest.Services := clients (.keystone keystone) (.keystone keystone)

def readProject : Rest.ClientRequest := .fabric .get "project/1" [] none

def readNetwork : Rest.ClientRequest :=
  .neutron Neutron.NetworkBody.decoder "v2.0/networks/1" []

/-- A token that is good for one request, and one that is good for none. -/
def shortLived : List Reply :=
  [issuing "t", .response {}, .response { status := 401 }, issuing "u",
    .response { status := 401 }]

end Lab

namespace Rest

/-- The token of an earlier request is rejected, and so is the one that replaces it. A client
that has no credentials asks once all the same. -/
theorem token_renewed_in_vain :
    let s := Lab.sharing.after [Lab.readProject] (Lab.loggedOut Lab.shortLived)
    let run := (Lab.sharing.send Lab.readNetwork).outcome s
    let sent := Lab.sharing.sentBy Lab.readNetwork s
    sent.map (fun x => (x.request.token, x.status?)) =
        [(some "t", some 401), (none, some 201), (some "u", some 401)] ∧
      Renews Lab.keystone s.network.reaches (Lab.readNetwork.request? Lab.sharing) none
        (Lab.sharing.traffic [Lab.readProject] (Lab.loggedOut Lab.shortLived)) s.token run.1 sent
        run.2.token ∧
      run.2.token = some "u" ∧
      let t := Lab.loggedOut Lab.shortLived
      let once := (Lab.services.send Lab.readNetwork).outcome t
      (Lab.services.sentBy Lab.readNetwork t).map (fun x => (x.request.token, x.status?)) =
          [(none, some 201)] ∧
        SendsOnce t.network.reaches (Lab.readNetwork.request? Lab.services none) none none none
          once.1 (Lab.services.sentBy Lab.readNetwork t) once.2.token := by
  refine ⟨by decide +kernel, ?_, by decide +kernel, by decide +kernel, ?_⟩
  · exact (token_renewed_once Lab.sharing (Lab.loggedOut Lab.shortLived).network false
      [Lab.readProject] Lab.readNetwork).1 Lab.keystone rfl rfl
  · exact (token_renewed_once Lab.services (Lab.loggedOut Lab.shortLived).network false []
      Lab.readNetwork).2.1 rfl

end Rest

end VlanBinding
