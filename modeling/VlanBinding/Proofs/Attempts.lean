import VlanBinding.Proofs.Login

/-!
A single request of a client, with the token that its session holds before and after it. Where no
token is held one is asked for first, and a request that is rejected for the first time is attempted
again with a new one. Main statement: under Keystone a request is made in one attempt or in two, and
the exchanges of each attempt are a login at most and then the request itself at most.
-/

namespace VlanBinding

open VlanBinding.Http

namespace Rest

/-! ## Actions and the token held -/

namespace Action

variable {α β : Type} {reaches : Url → Bool}

/-- In every session with these servers, the relation holds between the token held, the result, the
exchanges, and the token held then. -/
def Turns (reaches : Url → Bool) (a : Action α)
    (rel : Option String → Except Error α → List Exchange → Option String → Prop) : Prop :=
  ∀ s, s.network.reaches = reaches → ∃ log, s.network.Leads log (a.outcome s).2.network ∧
    rel s.token (a.outcome s).1 log (a.outcome s).2.token

variable {rel : Option String → Except Error α → List Exchange → Option String → Prop}

theorem Turns.mono
    {more : Option String → Except Error α → List Exchange → Option String → Prop} {a : Action α}
    (ha : a.Turns reaches rel) (h : ∀ held r log after, rel held r log after →
      more held r log after) : a.Turns reaches more := by
  intro s hs
  obtain ⟨log, hlog, hrel⟩ := ha s hs
  exact ⟨log, hlog, h _ _ _ _ hrel⟩

theorem Turns.bind
    {first : Option String → Except Error β → List Exchange → Option String → Prop}
    {second : β → Option String → Except Error α → List Exchange → Option String → Prop}
    {a : Action β} {f : β → Action α} (ha : a.Turns reaches first)
    (hf : ∀ x, (f x).Turns reaches (second x))
    (hok : ∀ held x log between r rest after, first held (.ok x) log between →
      second x between r rest after → rel held r (log ++ rest) after)
    (herror : ∀ held e log after, first held (.error e) log after →
      rel held (.error e) log after) :
    (a >>= f).Turns reaches rel := by
  intro s hs
  obtain ⟨log, hlog, hfirst⟩ := ha s hs
  rw [outcome_bind]
  generalize a.outcome s = after at hlog hfirst
  obtain ⟨result, t⟩ := after
  cases result with
  | error e => exact ⟨log, hlog, herror _ _ _ _ hfirst⟩
  | ok x =>
      obtain ⟨rest, hrest, hsecond⟩ := hf x t (hlog.reaches_eq.trans hs)
      exact ⟨log ++ rest, hlog.trans hrest, hok _ _ _ _ _ _ _ hfirst hsecond⟩

/-- An action that sends nothing is known by its result and by the token held then. -/
theorem Turns.of_outcome {a : Action α}
    (h : ∀ s, (a.outcome s).2.network = s.network ∧
      rel s.token (a.outcome s).1 [] (a.outcome s).2.token) : a.Turns reaches rel := by
  intro s hs
  obtain ⟨hnetwork, hrel⟩ := h s
  rw [hnetwork]
  exact ⟨[], Network.Leads.refl _, hrel⟩

/-- An action that goes by the session that it finds. -/
theorem Turns.get_bind {f : Session → Action α}
    (hf : ∀ s, s.network.reaches = reaches → ∃ log,
      s.network.Leads log ((f s).outcome s).2.network ∧
      rel s.token ((f s).outcome s).1 log ((f s).outcome s).2.token) :
    (get >>= f).Turns reaches rel :=
  hf

end Action

/-! ## Single requests -/

theorem exchange_turns (reaches : Url → Bool) (path : String) (method : Method) (url : String)
    (query : List (String × String)) (token : Option String) (body : Option Json) :
    (Action.exchange path method url query token body).Turns reaches fun held r log after =>
      after = held ∧ Delivered reaches (requestTo? method url query token body) path r log := by
  rintro s rfl
  obtain ⟨r, log, network, hrun, hlog, hr⟩ := exchange_delivered path method url query token body s
  rw [hrun]
  exact ⟨log, hlog, rfl, hr⟩

/-! ## Logins -/

/-- Where tokens are asked for. -/
def loginUrl (k : Settings.Keystone) : String := joinUrl k.authUrl "auth/tokens"

/-- The token that an exchange hands out: it is a login, answered with success and a token. -/
def issued? (k : Settings.Keystone) (x : Exchange) : Option String :=
  if IsLogin k x.request then
    x.reply.response?.bind fun response =>
      if response.status.isSuccess then response.header? "x-subject-token" else none
  else none

variable {k : Settings.Keystone} {x : Exchange} {log : List Exchange}

theorem isLogin_of_issued? {token : String} (hx : issued? k x = some token) :
    IsLogin k x.request := by
  rw [issued?] at hx
  split at hx
  · assumption
  · cases hx

theorem issued?_of_not_isLogin (hx : ¬ IsLogin k x.request) : issued? k x = none := if_neg hx

/-- The error tells of a request that was answered with the status. -/
def Error.Tells (st : Status) (e : Error) : Prop := ∃ path body, e = .http path st body

theorem tells_ofStatus {path : String} {st st' : Status} {body : String}
    (h : (Error.ofStatus path st' body).Tells st) : st' = st := by
  obtain ⟨path', body', he⟩ := h
  rw [Error.ofStatus] at he
  split at he
  · cases he
  · split at he
    · cases he
    · cases he
      rfl

/-- The request for a token. -/
def loginRequest? (k : Settings.Keystone) : Option Http.Request :=
  requestTo? .post (loginUrl k) [] none (some (loginBody k).sorted)

theorem isLogin_of_loginRequest? {r : Http.Request} (hr : loginRequest? k = some r) :
    IsLogin k r := by
  rw [loginRequest?, requestTo?, Option.map_eq_some_iff] at hr
  obtain ⟨url, hurl, rfl⟩ := hr
  refine ⟨rfl, rfl, ?_⟩
  rw [← loginUrl, hurl, Option.map_some]

/-- What comes of asking for a token: the request cannot be sent, or it hands out no token, or it
hands out one. -/
inductive LoggedIn (k : Settings.Keystone) (reaches : Url → Bool) :
    Except Error String → List Exchange → Prop
  | unsent (hunsent : ¬ Deliverable reaches (loginRequest? k)) :
      LoggedIn k reaches (.error (.transport (loginUrl k))) []
  | failed {x : Exchange} {e : Error} (hlogin : IsLogin k x.request)
      (hissued : issued? k x = none) (htells : ∀ st, e.Tells st → x.status? = some st) :
      LoggedIn k reaches (.error e) [x]
  | issued {x : Exchange} {token : String} (hissued : issued? k x = some token) :
      LoggedIn k reaches (.ok token) [x]

/-- The response to a login is checked, and then searched for the token. -/
def granted (k : Settings.Keystone) (response : Response) : Except Error String :=
  if response.status.isSuccess then
    match response.header? "x-subject-token" with
    | some token => .ok token
    | none => .error (.invalidResponse (loginUrl k) (.missing "X-Subject-Token header"))
  else .error (.ofStatus (loginUrl k) response.status response.body)

theorem issueToken_eq (k : Settings.Keystone) :
    issueToken k = (do
      let response ← Action.exchange (loginUrl k) .post (loginUrl k) [] none
        (some (loginBody k).sorted)
      match granted k response with
      | .ok token => pure token
      | .error e => throw e) := by
  rw [issueToken]
  refine congrArg _ (funext fun response => ?_)
  rw [granted]
  cases response.status.isSuccess with
  | false => rfl
  | true => cases response.header? "x-subject-token" <;> rfl

variable {reaches : Url → Bool}

theorem loggedIn_of_granted {response : Response} (hlogin : IsLogin k x.request)
    (hreply : x.reply = .response response) : LoggedIn k reaches (granted k response) [x] := by
  rw [granted]
  cases hstatus : response.status.isSuccess with
  | false =>
      refine .failed hlogin ?_ fun st htells => ?_
      · simp [issued?, hreply, Reply.response?, hstatus]
      · rw [Exchange.status?_of_response hreply, tells_ofStatus htells]
  | true =>
      cases htoken : response.header? "x-subject-token" with
      | none =>
          refine .failed hlogin ?_ fun st htells => ?_
          · simp [issued?, hreply, Reply.response?, hstatus, htoken]
          · obtain ⟨_, _, he⟩ := htells
            cases he
      | some token =>
          apply LoggedIn.issued
          simp [issued?, hreply, Reply.response?, hstatus, htoken, hlogin]

theorem issueToken_turns (k : Settings.Keystone) :
    (issueToken k).Turns reaches fun held r log after =>
      after = held ∧ LoggedIn k reaches r log := by
  rw [issueToken_eq]
  have hcheck : ∀ response, (match granted k response with
      | .ok token => pure token
      | .error e => throw e : Action String).Turns reaches
        fun held r log after => after = held ∧ r = granted k response ∧ log = [] := by
    intro response
    apply Action.Turns.of_outcome
    intro s
    cases granted k response <;> exact ⟨rfl, rfl, rfl, rfl⟩
  apply (exchange_turns reaches _ _ _ _ _ _).bind hcheck
  · rintro held response log between r rest after ⟨rfl, hlog⟩ ⟨rfl, rfl, rfl⟩
    cases hlog.answered with
    | answered hr hreply =>
        have hlogin : IsLogin k _ := isLogin_of_loginRequest? hr
        exact ⟨rfl, loggedIn_of_granted hlogin hreply⟩
  · rintro held e log after ⟨rfl, hlog⟩
    refine ⟨rfl, ?_⟩
    cases hlog.answered with
    | unsent => exact .unsent fun hdeliverable => hlog.sent hdeliverable rfl
    | dropped hr hreply =>
        have hlogin : IsLogin k _ := isLogin_of_loginRequest? hr
        apply LoggedIn.failed hlogin
        · simp [issued?, hreply, Reply.response?]
        · rintro st ⟨_, _, he⟩
          cases he

/-- A token that is held is used; else one is asked for, and held from then on. -/
inductive Obtains (k : Settings.Keystone) (reaches : Url → Bool) :
    Option String → Except Error String → List Exchange → Option String → Prop
  | held (token : String) : Obtains k reaches (some token) (.ok token) [] (some token)
  | issued {token : String} {log : List Exchange} (hlogin : LoggedIn k reaches (.ok token) log) :
      Obtains k reaches none (.ok token) log (some token)
  | refused {e : Error} {log : List Exchange} (hlogin : LoggedIn k reaches (.error e) log) :
      Obtains k reaches none (.error e) log none

theorem heldToken_turns (k : Settings.Keystone) :
    (heldToken k).Turns reaches (Obtains k reaches) := by
  have hissue : (do
      let token ← issueToken k
      modify fun s => { s with token := some token }
      pure token : Action String).Turns reaches fun held r log after =>
        held = none → Obtains k reaches held r log after := by
    have hkeep (token : String) : (do
        modify fun s => { s with token := some token }
        pure token : Action String).Turns reaches fun _ r rest after =>
          r = .ok token ∧ rest = [] ∧ after = some token :=
      Action.Turns.of_outcome fun s => ⟨rfl, rfl, rfl, rfl⟩
    apply (issueToken_turns k).bind hkeep
    · rintro held token log between r rest after ⟨rfl, hlogin⟩ ⟨rfl, rfl, rfl⟩ rfl
      rw [List.append_nil]
      exact .issued hlogin
    · rintro held e log after ⟨rfl, hlogin⟩ rfl
      exact .refused hlogin
  apply Action.Turns.get_bind
  intro s hs
  cases htoken : s.token with
  | some token =>
      simp only [Action.outcome_pure, htoken]
      exact ⟨[], Network.Leads.refl _, .held token⟩
  | none =>
      obtain ⟨log, hlog, hrel⟩ := hissue s hs
      rw [htoken] at hrel
      simp only
      exact ⟨log, hlog, hrel rfl⟩

/-! ## Attempts -/

/-- What comes of one attempt at a request, `own` being the request with a token: the logins that
come first, and then what was sent of the request itself. -/
inductive Attempt (k : Settings.Keystone) (reaches : Url → Bool)
    (own : Option String → Option Http.Request) (path : String) :
    Option String → Except Error Response → List Exchange → List Exchange → Option String → Prop
  | refused {e : Error} {logins : List Exchange} (hlogin : LoggedIn k reaches (.error e) logins) :
      Attempt k reaches own path none (.error e) logins [] none
  | held {token : String} {r : Except Error Response} {sent : List Exchange}
      (hsent : Delivered reaches (own (some token)) path r sent) :
      Attempt k reaches own path (some token) r [] sent (some token)
  | issued {token : String} {r : Except Error Response} {logins sent : List Exchange}
      (hlogin : LoggedIn k reaches (.ok token) logins)
      (hsent : Delivered reaches (own (some token)) path r sent) :
      Attempt k reaches own path none r logins sent (some token)

/-- What comes of a request under Keystone: it is attempted once, or, when the first attempt is
rejected, once more with a new token. -/
inductive Attempts (k : Settings.Keystone) (reaches : Url → Bool)
    (own : Option String → Option Http.Request) (path : String) :
    Option String → Except Error Response → List Exchange → Option String → Prop
  | once {held after : Option String} {r : Except Error Response} {logins sent : List Exchange}
      (h : Attempt k reaches own path held r logins sent after)
      (hkept : ∀ response, r = .ok response → response.status ≠ 401) :
      Attempts k reaches own path held r (logins ++ sent) after
  | again {held between after : Option String} {rejected : Response}
      {r : Except Error Response} {logins sent logins' sent' : List Exchange}
      (h : Attempt k reaches own path held (.ok rejected) logins sent between)
      (hrejected : rejected.status = 401)
      (hagain : Attempt k reaches own path none r logins' sent' after) :
      Attempts k reaches own path held r ((logins ++ sent) ++ (logins' ++ sent')) after

section

variable (path : String) (method : Method) (url : String) (query : List (String × String))
variable (body : Option Json)

theorem present_turns (reaches : Url → Bool) (k : Settings.Keystone) :
    ((Credentials.keystone k).present path method url query body).Turns reaches
      fun held r log after => ∃ logins sent, log = logins ++ sent ∧
        Attempt k reaches (requestTo? method url query · body) path held r logins sent after := by
  have hsent (token : String) :=
    exchange_turns reaches path method url query (some token) body
  rw [Credentials.present, Credentials.current, map_eq_pure_bind, bind_assoc]
  simp only [pure_bind]
  apply (heldToken_turns k).bind hsent
  · rintro held token logins between r sent after hobtains ⟨rfl, hsent⟩
    refine ⟨logins, sent, rfl, ?_⟩
    cases hobtains with
    | held => exact .held hsent
    | issued hlogin => exact .issued hlogin hsent
  · rintro held e logins after hobtains
    refine ⟨logins, [], by rw [List.append_nil], ?_⟩
    cases hobtains with
    | refused hlogin => exact .refused hlogin

theorem send_turns (k : Settings.Keystone) :
    ((Credentials.keystone k).send path method url query body).Turns reaches
      (Attempts k reaches (requestTo? method url query · body) path) := by
  have hpresent := present_turns path method url query body reaches k
  have hagain : (do
      forgetToken
      (Credentials.keystone k).present path method url query body : Action Response).Turns reaches
        fun _ r log after => ∃ logins sent, log = logins ++ sent ∧
          Attempt k reaches (requestTo? method url query · body) path none r logins sent after := by
    have hforget : forgetToken.Turns reaches
        fun _ r log after => r = .ok ⟨⟩ ∧ log = [] ∧ after = none :=
      Action.Turns.of_outcome fun s => ⟨rfl, rfl, rfl, rfl⟩
    apply hforget.bind fun _ => hpresent
    · rintro held _ log between r rest after ⟨-, rfl, rfl⟩ hattempt
      exact hattempt
    · rintro held e log after ⟨he, -⟩
      cases he
  have hanswered (response : Response) : (if response.status = 401 ∧
      (Credentials.keystone k).canRenew then do
        forgetToken
        (Credentials.keystone k).present path method url query body
      else pure response : Action Response).Turns reaches fun held r log after =>
        (response.status = 401 ∧ ∃ logins sent, log = logins ++ sent ∧
          Attempt k reaches (requestTo? method url query · body) path none r logins sent after) ∨
        (response.status ≠ 401 ∧ r = .ok response ∧ log = [] ∧ after = held) := by
    by_cases hstatus : response.status = 401
    · simp only [hstatus, Credentials.canRenew, and_self, ↓reduceIte]
      exact hagain.mono fun held r log after h => Or.inl ⟨trivial, h⟩
    · simp only [hstatus, false_and, ↓reduceIte]
      exact Action.Turns.of_outcome fun s => ⟨rfl, Or.inr ⟨hstatus, rfl, rfl, rfl⟩⟩
  rw [send_eq]
  apply hpresent.bind hanswered
  · rintro held response log between r rest after ⟨logins, sent, rfl, hfirst⟩
      (⟨hstatus, logins', sent', rfl, hsecond⟩ | ⟨hstatus, rfl, rfl, rfl⟩)
    · exact .again hfirst hstatus hsecond
    · rw [List.append_nil]
      apply Attempts.once hfirst
      rintro response' h
      cases h
      exact hstatus
  · rintro held e log after ⟨logins, sent, rfl, hfirst⟩
    exact .once hfirst fun response h => by cases h

/-- The token that credentials stand for by themselves. -/
def Credentials.fixed? : Credentials → Option String
  | token t => some t
  | _ => none

theorem send_turns_of_fixed {c : Credentials} (hc : c.canRenew = false) :
    (c.send path method url query body).Turns reaches fun held r log after =>
      after = held ∧ Delivered reaches (requestTo? method url query c.fixed? body) path r log := by
  have hsend : c.send path method url query body =
      Action.exchange path method url query c.fixed? body := by
    cases c with
    | keystone k => cases hc
    | _ => simp [Credentials.send, Credentials.current, Credentials.canRenew, Credentials.fixed?]
  rw [hsend]
  exact exchange_turns reaches path method url query c.fixed? body

end

end Rest

end VlanBinding
