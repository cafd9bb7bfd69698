import VlanBinding.Proofs.Renewal

/-!
Single requests of the fabric client and what is made of their answers. Main statement: whatever the
credentials, a request is decided by one exchange, the last one, or by none; exchanges before that
are logins, and attempts that were rejected. What is made of the answer is read off the deciding
exchange: its value, and whether it says that something is absent or there already.
-/

namespace VlanBinding

open VlanBinding.Fabric VlanBinding.Http VlanBinding.Json

/-- The JSON of a successful answer; nothing at all counts as null. -/
def Http.Exchange.value? (x : Exchange) : Option Json :=
  x.reply.response?.bind fun response =>
    if response.status.isSuccess then
      if Text.isBlank response.body then some .null else parse? response.body
    else none

/-- What is found in the JSON of a successful answer. -/
def Http.Exchange.given? {α : Type} (get : Json → Option α) (x : Exchange) : Option α :=
  x.value?.bind get

/-- The uuid in a value, if it has one that is a string. -/
def Json.uuid? (v : Json) : Option String :=
  match v.member? "uuid" with
  | some (.str uuid) => some uuid
  | _ => none

/-- The object inside the member of its kind. -/
def Json.object? (α : Type) [IsObject α] (v : Json) : Option α :=
  (v.member? (IsObject.resource α).name).bind fun inner =>
    (decodeValue IsObject.decoder inner).toOption

namespace Rest

/-! ## Actions that go on without a request -/

namespace Action

variable {α β : Type} {reaches : Url → Bool}
variable {rel : Option String → Except Error α → List Exchange → Option String → Prop}

/-- A value that something is made of, and nothing more is sent. -/
theorem Turns.bind_pure
    {more : Option String → Except Error β → List Exchange → Option String → Prop}
    {a : Action α} {f : α → Action β} {g : α → Except Error β} (ha : a.Turns reaches rel)
    (hf : ∀ x s, (f x).outcome s = (g x, s))
    (hok : ∀ held x log after, rel held (.ok x) log after → more held (g x) log after)
    (herror : ∀ held e log after, rel held (.error e) log after → more held (.error e) log after) :
    (a >>= f).Turns reaches more := by
  intro s hs
  obtain ⟨log, hlog, hrel⟩ := ha s hs
  rw [outcome_bind]
  generalize a.outcome s = after at hlog hrel
  obtain ⟨result, t⟩ := after
  cases result with
  | error e => exact ⟨log, hlog, herror _ _ _ _ hrel⟩
  | ok x =>
      simp only [hf]
      exact ⟨log, hlog, hok _ _ _ _ hrel⟩

/-- An error that something is made of, and nothing more is sent. -/
theorem Turns.recover
    {more : Option String → Except Error α → List Exchange → Option String → Prop}
    {a : Action α} {f : Error → Action α} {g : Error → Except Error α} (ha : a.Turns reaches rel)
    (hf : ∀ e s, (f e).outcome s = (g e, s))
    (hok : ∀ held x log after, rel held (.ok x) log after → more held (.ok x) log after)
    (herror : ∀ held e log after, rel held (.error e) log after → more held (g e) log after) :
    (tryCatch a f).Turns reaches more := by
  intro s hs
  obtain ⟨log, hlog, hrel⟩ := ha s hs
  rw [outcome_tryCatch]
  generalize a.outcome s = after at hlog hrel
  obtain ⟨result, t⟩ := after
  cases result with
  | ok x => exact ⟨log, hlog, hok _ _ _ _ hrel⟩
  | error e =>
      simp only [hf]
      exact ⟨log, hlog, herror _ _ _ _ hrel⟩

end Action

/-! ## Requests -/

/-- What the client of the fabric controller asks for. -/
structure Ask where
  method : Method
  path : String
  query : List (String × String) := []
  body : Option Json := none
deriving Repr

/-- Is it a request for a token? Only under Keystone there are such. -/
def Credentials.LogsIn : Credentials → Http.Request → Prop
  | keystone k, r => IsLogin k r
  | _, _ => False

namespace FabricClient

/-- The request with a token, as it goes out. -/
def wording (c : FabricClient) (ask : Ask) (token : Option String) : Option Http.Request :=
  requestTo? ask.method (joinUrl c.baseUrl ask.path) ask.query token ask.body

/-- An exchange that decides nothing: a login, or an attempt that was rejected. -/
def Passed (c : FabricClient) (ask : Ask) (x : Exchange) : Prop :=
  c.credentials.LogsIn x.request ∨
    (∃ token, c.wording ask token = some x.request) ∧ x.status? = some 401

/-- Can the request be sent with the token that the client was given? -/
def Ready (c : FabricClient) (reaches : Url → Bool) (ask : Ask) : Prop :=
  c.misconfiguration? = none ∧ Deliverable reaches (c.wording ask c.credentials.fixed?)

instance (c : FabricClient) (reaches : Url → Bool) (ask : Ask) : Decidable (c.Ready reaches ask) :=
  inferInstanceAs (Decidable (_ ∧ _))

/-- The exchanges of one request, and what its deciding exchange tells, if there is one. Without
Keystone there are no others, and there is one if the request can be sent. -/
inductive Asked (c : FabricClient) (reaches : Url → Bool) (ask : Ask)
    (tells : Option Exchange → Prop) : List Exchange → Prop
  | unanswered {log : List Exchange} (hlog : ∀ x ∈ log, c.Passed ask x)
      (hfixed : c.credentials.canRenew = false → log = [] ∧ ¬ c.Ready reaches ask)
      (htells : tells none) : Asked c reaches ask tells log
  | answered {before : List Exchange} {x : Exchange} (hbefore : ∀ y ∈ before, c.Passed ask y)
      (hx : ∃ token, c.wording ask token = some x.request)
      (hfixed : c.credentials.canRenew = false →
        before = [] ∧ c.wording ask c.credentials.fixed? = some x.request)
      (htells : tells (some x)) : Asked c reaches ask tells (before ++ [x])

variable {c : FabricClient} {reaches : Url → Bool} {ask : Ask}
variable {tells more : Option Exchange → Prop} {log : List Exchange}

/-- An exchange that was granted, and is no login, decides. -/
theorem Asked.decides (h : Asked c reaches ask tells log) {x : Exchange} (hx : x ∈ log)
    (hown : ¬ c.credentials.LogsIn x.request) (hgranted : x.granted = true) :
    tells (some x) ∧ ∃ token, c.wording ask token = some x.request := by
  have hpassed {y : Exchange} (hy : c.Passed ask y) (hsame : x = y) : False := by
    subst hsame
    rcases hy with hlogin | ⟨-, hrejected⟩
    · exact hown hlogin
    · rw [Exchange.granted, hrejected] at hgranted
      cases hgranted
  cases h with
  | unanswered hlog _ _ => exact (hpassed (hlog x hx) rfl).elim
  | answered hbefore hasked _ htells =>
      rcases List.mem_append.mp hx with hx | hx
      · exact (hpassed (hbefore x hx) rfl).elim
      · obtain rfl := List.mem_singleton.mp hx
        exact ⟨htells, hasked⟩

theorem method_of_wording {token : Option String} {r : Http.Request}
    (hr : c.wording ask token = some r) : r.method = ask.method := by
  rw [wording, requestTo?, Option.map_eq_some_iff] at hr
  obtain ⟨url, -, rfl⟩ := hr
  rfl

theorem body_of_wording {token : Option String} {r : Http.Request}
    (hr : c.wording ask token = some r) : r.body = ask.body := by
  rw [wording, requestTo?, Option.map_eq_some_iff] at hr
  obtain ⟨url, -, rfl⟩ := hr
  rfl

theorem Asked.mono (h : Asked c reaches ask tells log) (hmore : ∀ x?, tells x? → more x?) :
    Asked c reaches ask more log := by
  cases h with
  | unanswered hlog hfixed htells => exact .unanswered hlog hfixed (hmore _ htells)
  | answered hbefore hx hfixed htells => exact .answered hbefore hx hfixed (hmore _ htells)

/-- A request without Keystone. -/
theorem Asked.of_fixed (hfixed : c.credentials.canRenew = false)
    (h : Asked c reaches ask tells log) :
    ∃ x? : Option Exchange, log = x?.toList ∧ tells x? ∧
      (∀ x ∈ x?, c.wording ask c.credentials.fixed? = some x.request) ∧
      (x? = none → ¬ c.Ready reaches ask) := by
  cases h with
  | unanswered _ hunsent htells =>
      obtain ⟨rfl, hready⟩ := hunsent hfixed
      exact ⟨none, rfl, htells, by simp, fun _ => hready⟩
  | @answered _ x _ _ hsent htells =>
      obtain ⟨rfl, hx⟩ := hsent hfixed
      exact ⟨some x, rfl, htells, by simpa using hx, by simp⟩

/-! ## Results -/

section Results

variable {α β : Type}

/-- The result is what the deciding exchange gives. It tells of absence and of conflict exactly if
the exchange does, as far as there is one; a refused login may tell of them, too. -/
structure Told (c : FabricClient) (get : Exchange → Option α) (r : Except Error α)
    (x? : Option Exchange) : Prop where
  ok_iff : ∀ a, r = .ok a ↔ x?.bind get = some a
  notFound : x?.isSome ∨ c.credentials.canRenew = false → ∀ e, r = .error e →
    (e.isNotFound = true ↔ x?.bind Exchange.status? = some 404)
  conflict : x?.isSome ∨ c.credentials.canRenew = false → ∀ e, r = .error e →
    (e.isConflict = true ↔ x?.bind Exchange.status? = some 409)

/-- An error that tells neither of absence nor of conflict. -/
def Plain (e : Error) : Prop := e.isNotFound = false ∧ e.isConflict = false

theorem plain_transport (path : String) : Plain (.transport path) := ⟨rfl, rfl⟩

theorem plain_invalidResponse (path : String) (flaw : Flaw) : Plain (.invalidResponse path flaw) :=
  ⟨rfl, rfl⟩

theorem plain_invalidConfig (reason : Misconfiguration) : Plain (.invalidConfig reason) :=
  ⟨rfl, rfl⟩

theorem Told.of_plain {get : Exchange → Option α} {e : Error} {x? : Option Exchange}
    (he : Plain e) (hget : x?.bind get = none) (hstatus : x?.bind Exchange.status? ≠ some 404 ∧
      x?.bind Exchange.status? ≠ some 409) : Told c get (.error e) x? where
  ok_iff := by simp [hget]
  notFound := by
    rintro - _ ⟨⟩
    simp [he.1, hstatus.1]
  conflict := by
    rintro - _ ⟨⟩
    simp [he.2, hstatus.2]

/-- The error of a request that nothing decided. -/
theorem told_none {get : Exchange → Option α} {e : Error}
    (he : c.credentials.canRenew = false → Plain e) : Told c get (.error e) none where
  ok_iff := by simp
  notFound := by
    rintro (h | hfixed) _ ⟨⟩
    · cases h
    · simp [(he hfixed).1]
  conflict := by
    rintro (h | hfixed) _ ⟨⟩
    · cases h
    · simp [(he hfixed).2]

end Results

/-! ## Responses -/

/-- The response of the deciding exchange. -/
theorem told_of_answered {request? : Option Http.Request} {path : String}
    {r : Except Error Response} (h : Answered request? path r log) :
    log = [] ∧ Told c (·.reply.response?) r none ∨
      ∃ x, log = [x] ∧ request? = some x.request ∧ Told c (·.reply.response?) r (some x) := by
  cases h with
  | unsent => exact Or.inl ⟨rfl, told_none fun _ => plain_transport path⟩
  | @dropped x hr hreply =>
      refine Or.inr ⟨x, rfl, hr, .of_plain (plain_transport path) ?_ ?_⟩
      · simp [hreply, Reply.response?]
      · simp [Exchange.status?_of_drop hreply]
  | @answered x response hr hreply =>
      refine Or.inr ⟨x, rfl, hr, ?_, ?_, ?_⟩
      · simp [hreply, Reply.response?]
      · rintro - _ ⟨⟩
      · rintro - _ ⟨⟩

theorem asked_of_attempt {k : Settings.Keystone} {path : String} {held after : Option String}
    {r : Except Error Response} {logins sent : List Exchange} (hk : c.credentials = .keystone k)
    (h : Attempt k reaches (c.wording ask) path held r logins sent after) :
    Asked c reaches ask (Told c (·.reply.response?) r) (logins ++ sent) := by
  have hrenews : c.credentials.canRenew ≠ false := by simp [hk, Credentials.canRenew]
  have hlogins : ∀ x ∈ logins, c.Passed ask x := by
    intro x hx
    left
    rw [hk]
    exact h.isLogin hx
  have hdelivered {token : String}
      (hsent : Delivered reaches (c.wording ask (some token)) path r sent) :
      Asked c reaches ask (Told c (·.reply.response?) r) (logins ++ sent) := by
    rcases told_of_answered (c := c) hsent.answered with ⟨rfl, htold⟩ | ⟨x, rfl, hx, htold⟩
    · rw [List.append_nil]
      exact .unanswered hlogins (fun hfixed => absurd hfixed hrenews) htold
    · exact .answered hlogins ⟨_, hx⟩ (fun hfixed => absurd hfixed hrenews) htold
  cases h with
  | refused =>
      rw [List.append_nil]
      apply Asked.unanswered hlogins (fun hfixed => absurd hfixed hrenews)
      exact told_none fun hfixed => absurd hfixed hrenews
  | held hsent | issued _ hsent => exact hdelivered hsent

theorem Asked.after {before : List Exchange} (hrenews : c.credentials.canRenew ≠ false)
    (hbefore : ∀ x ∈ before, c.Passed ask x) (h : Asked c reaches ask tells log) :
    Asked c reaches ask tells (before ++ log) := by
  cases h with
  | unanswered hlog _ htells =>
      exact .unanswered (List.forall_mem_append.mpr ⟨hbefore, hlog⟩)
        (fun hfixed => absurd hfixed hrenews) htells
  | answered hlog hx _ htells =>
      rw [← List.append_assoc]
      exact .answered (List.forall_mem_append.mpr ⟨hbefore, hlog⟩) hx
        (fun hfixed => absurd hfixed hrenews) htells

/-- A request that was rejected decides nothing. -/
theorem Asked.passed {rejected : Response} (hrejected : rejected.status = 401)
    (h : Asked c reaches ask (Told c (·.reply.response?) (.ok rejected)) log) :
    ∀ x ∈ log, c.Passed ask x := by
  cases h with
  | unanswered hlog _ _ => exact hlog
  | @answered _ x hbefore hx _ htold =>
      have hresponse : x.reply.response? = some rejected := (htold.ok_iff rejected).mp rfl
      have hstatus : x.status? = some 401 := by
        rw [Exchange.status?, hresponse, Option.map_some, hrejected]
      exact List.forall_mem_append.mpr
        ⟨hbefore, List.forall_mem_singleton.mpr (Or.inr ⟨hx, hstatus⟩)⟩

theorem asked_of_attempts {k : Settings.Keystone} {path : String} {held after : Option String}
    {r : Except Error Response} (hk : c.credentials = .keystone k)
    (h : Attempts k reaches (c.wording ask) path held r log after) :
    Asked c reaches ask (Told c (·.reply.response?) r) log := by
  have hrenews : c.credentials.canRenew ≠ false := by simp [hk, Credentials.canRenew]
  cases h with
  | once hattempt _ => exact asked_of_attempt hk hattempt
  | again hfirst hrejected hagain =>
      apply (asked_of_attempt hk hagain).after hrenews
      exact (asked_of_attempt hk hfirst).passed hrejected

/-- What comes of sending a request, whatever the credentials. -/
theorem send_asked (c : FabricClient) (reaches : Url → Bool) (ask : Ask) :
    (c.credentials.send ask.path ask.method (joinUrl c.baseUrl ask.path) ask.query ask.body).Turns
      reaches fun _ r log _ => Asked c reaches ask (Told c (·.reply.response?) r) log := by
  cases hk : c.credentials with
  | keystone k =>
      apply (send_turns ask.path ask.method _ ask.query ask.body k).mono
      intro held r log after h
      exact asked_of_attempts hk h
  | anonymous | token _ =>
      have hfixed : c.credentials.canRenew = false := by rw [hk]; rfl
      have hturns : (c.credentials.send ask.path ask.method (joinUrl c.baseUrl ask.path) ask.query
          ask.body).Turns reaches _ :=
        send_turns_of_fixed ask.path ask.method _ ask.query ask.body hfixed
      rw [hk] at hturns
      apply hturns.mono
      rintro held r log after ⟨-, hdelivered⟩
      rcases told_of_answered (c := c) hdelivered.answered with ⟨rfl, htold⟩ | ⟨x, rfl, hx, htold⟩
      · apply Asked.unanswered (by simp) (fun _ => ⟨rfl, fun hready => ?_⟩) htold
        have hdeliverable := hready.2
        rw [hk] at hdeliverable
        exact hdelivered.sent hdeliverable rfl
      · rw [← List.nil_append [x]]
        refine .answered (by simp) ⟨_, hx⟩ (fun _ => ⟨rfl, ?_⟩) htold
        rw [hk]
        exact hx

/-! ## Answers -/

/-- What a response comes to: a refusal, or its JSON. -/
def verdict (path : String) (response : Response) : Except Error Json :=
  if response.status.isSuccess then
    if Text.isBlank response.body then .ok .null
    else
      match parse? response.body with
      | some value => .ok value
      | none => .error (.invalidResponse path .notJson)
  else .error (.ofStatus path response.status response.body)

/-- Only a refusal tells of absence or of conflict. -/
theorem isNotFound_of_verdict {path : String} {response : Response} {e : Error}
    (h : verdict path response = .error e) :
    (e.isNotFound = true ↔ response.status = 404) ∧
      (e.isConflict = true ↔ response.status = 409) := by
  rw [verdict] at h
  split at h
  · rename_i hsuccess
    have hother : response.status ≠ 404 ∧ response.status ≠ 409 := by
      constructor <;> (intro hstatus; rw [hstatus] at hsuccess; cases hsuccess)
    have he : Plain e := by
      split at h
      · cases h
      · split at h
        · cases h
        · cases h
          exact plain_invalidResponse path .notJson
    simp [he.1, he.2, hother]
  · cases h
    exact ⟨isNotFound_ofStatus .., isConflict_ofStatus ..⟩

theorem value?_eq_verdict {x : Exchange} {response : Response} (path : String)
    (hx : x.reply.response? = some response) :
    x.value? = (verdict path response).toOption := by
  rw [Exchange.value?, hx, Option.bind_some, verdict]
  split
  · split
    · rfl
    · cases parse? response.body <;> rfl
  · rfl

theorem told_verdict {x : Exchange} {response : Response} (path : String)
    (hx : x.reply.response? = some response) :
    Told c Exchange.value? (verdict path response) (some x) := by
  have hstatus : x.status? = some response.status := by rw [Exchange.status?, hx, Option.map_some]
  constructor
  · intro v
    rw [Option.bind_some, value?_eq_verdict path hx]
    cases verdict path response <;> simp [Except.toOption]
  · intro _ e he
    rw [Option.bind_some, hstatus, Option.some.injEq]
    exact (isNotFound_of_verdict he).1
  · intro _ e he
    rw [Option.bind_some, hstatus, Option.some.injEq]
    exact (isNotFound_of_verdict he).2

theorem Told.of_error {α β : Type} {get : Exchange → Option α} {e : Error}
    {x? : Option Exchange} {get' : Exchange → Option β} (h : Told c get (.error e) x?)
    (hget : ∀ x, get x = none → get' x = none) : Told c get' (.error e) x? where
  ok_iff := by
    have hnone : x?.bind get' = none := by
      cases x? with
      | none => rfl
      | some x =>
          apply hget x
          apply Option.eq_none_iff_forall_ne_some.mpr
          intro a ha
          cases (h.ok_iff a).mpr ha
    simp [hnone]
  notFound := by
    rintro hdecided _ ⟨⟩
    exact h.notFound hdecided e rfl
  conflict := by
    rintro hdecided _ ⟨⟩
    exact h.conflict hdecided e rfl

theorem request_eq (c : FabricClient) (ask : Ask) :
    c.request ask.method ask.path ask.query ask.body = (do
      c.connect
      let response ← c.credentials.send ask.path ask.method (joinUrl c.baseUrl ask.path) ask.query
        ask.body
      match verdict ask.path response with
      | .ok value => pure value
      | .error e => throw e) := by
  rw [request]
  refine congrArg _ (funext fun _ => congrArg _ (funext fun response => ?_))
  rw [verdict]
  cases response.status.isSuccess with
  | false => rfl
  | true =>
      cases Text.isBlank response.body with
      | true => rfl
      | false => cases parse? response.body <;> rfl

theorem request_asked (c : FabricClient) (reaches : Url → Bool) (ask : Ask) :
    (c.request ask.method ask.path ask.query ask.body).Turns reaches
      fun _ r log _ => Asked c reaches ask (Told c Exchange.value? r) log := by
  have hchecked : (do
      let response ← c.credentials.send ask.path ask.method (joinUrl c.baseUrl ask.path) ask.query
        ask.body
      match verdict ask.path response with
      | .ok value => pure value
      | .error e => throw e : Action Json).Turns reaches
        fun _ r log _ => Asked c reaches ask (Told c Exchange.value? r) log := by
    have hcheck (response : Response) (s : Session) : (match verdict ask.path response with
        | .ok value => pure value
        | .error e => throw e : Action Json).outcome s = (verdict ask.path response, s) := by
      cases verdict ask.path response <;> rfl
    apply (send_asked c reaches ask).bind_pure hcheck
    · intro held response log after hasked
      apply hasked.mono
      intro x? htold
      obtain ⟨x, rfl, hx⟩ := Option.bind_eq_some_iff.mp ((htold.ok_iff response).mp rfl)
      exact told_verdict ask.path hx
    · intro held e log after hasked
      apply hasked.mono
      intro x? htold
      apply htold.of_error
      intro x hx
      rw [Exchange.value?, hx, Option.bind_none]
  intro s hs
  rw [request_eq, Action.outcome_bind, connect_outcome]
  cases hreason : if s.connected then none else c.misconfiguration? with
  | none => exact hchecked { s with connected := true } hs
  | some reason =>
      have hmisconfigured : c.misconfiguration? ≠ none := by
        intro hnone
        simp [hnone] at hreason
      refine ⟨[], Network.Leads.refl _, .unanswered (by simp) (fun _ => ⟨rfl, ?_⟩) ?_⟩
      · exact fun hready => hmisconfigured hready.1
      · exact told_none fun _ => plain_invalidConfig reason

/-! ## What is made of an answer -/

section Reading

variable {α β : Type} {get : Json → Option α}

/-- The action sends nothing. It comes to a value, or else to an error that tells neither of absence
nor of conflict. -/
def Yields (a : Action α) (value? : Option α) : Prop :=
  ∃ r, (∀ s, a.outcome s = (r, s)) ∧ r.toOption = value? ∧ ∀ e, r = .error e → Plain e

theorem yields_pure (a : α) : Yields (pure a) (some a) :=
  ⟨.ok a, fun _ => rfl, rfl, fun e he => by cases he⟩

theorem yields_throw {e : Error} (he : Plain e) : Yields (throw e : Action α) none :=
  ⟨.error e, fun _ => rfl, rfl, fun e' he' => by cases he'; exact he⟩

theorem Yields.bind {a : Action α} {value? : Option α} {f : α → Action β} {next : α → Option β}
    (ha : Yields a value?) (hf : ∀ x, Yields (f x) (next x)) :
    Yields (a >>= f) (value?.bind next) := by
  obtain ⟨r, hr, rfl, hplain⟩ := ha
  cases r with
  | error e =>
      refine ⟨.error e, fun s => ?_, rfl, fun e' he => ?_⟩
      · rw [Action.outcome_bind, hr]
      · obtain rfl := Except.error.inj he
        exact hplain e rfl
  | ok x =>
      obtain ⟨r', hr', hvalue, hplain'⟩ := hf x
      refine ⟨r', fun s => ?_, hvalue, hplain'⟩
      rw [Action.outcome_bind, hr]
      exact hr' s

theorem Yields.bind_pure {a : Action α} {value? : Option α} (ha : Yields a value?) (f : α → β) :
    Yields (a >>= fun x => pure (f x)) (value?.map f) := by
  rw [Option.map_eq_bind]
  exact ha.bind fun x => yields_pure (f x)

theorem granted_of_value? {x : Exchange} {v : Json} (h : x.value? = some v) : x.granted = true := by
  obtain ⟨response, hx, hv⟩ := Option.bind_eq_some_iff.mp h
  rw [Exchange.granted, Exchange.status?, hx, Option.map_some, Option.any_some]
  by_contra hsuccess
  rw [if_neg hsuccess] at hv
  cases hv

theorem status?_ne_of_granted {x : Exchange} {st : Status} (hx : x.granted = true)
    (hst : st.isSuccess = false) : x.status? ≠ some st := by
  intro h
  rw [Exchange.granted, h, Option.any_some, hst] at hx
  cases hx

theorem granted_of_given? {x : Exchange} {a : α} (h : x.given? get = some a) :
    x.granted = true := by
  obtain ⟨v, hv, -⟩ := Option.bind_eq_some_iff.mp h
  exact granted_of_value? hv

theorem given?_map (get : Json → Option α) (f : α → β) (x : Exchange) :
    x.given? (fun v => (get v).map f) = (x.given? get).map f := by
  rw [Exchange.given?, Exchange.given?, Option.map_bind]
  rfl

/-- A request whose answer is made something of. -/
theorem request_bind_asked (c : FabricClient) (reaches : Url → Bool) (ask : Ask)
    {f : Json → Action α} (hf : ∀ v, Yields (f v) (get v)) :
    (c.request ask.method ask.path ask.query ask.body >>= f).Turns reaches
      fun _ r log _ => Asked c reaches ask (Told c (·.given? get) r) log := by
  choose g hpure hget hplain using hf
  apply (request_asked c reaches ask).bind_pure hpure
  · intro held v log after hasked
    apply hasked.mono
    intro x? htold
    obtain ⟨x, rfl, hx⟩ := Option.bind_eq_some_iff.mp ((htold.ok_iff v).mp rfl)
    have hgranted := granted_of_value? hx
    have hgiven : x.given? get = (g v).toOption := by
      rw [Exchange.given?, hx, Option.bind_some, hget]
    cases hgv : g v with
    | ok a =>
        rw [hgv] at hgiven
        constructor
        · simp [hgiven, Except.toOption]
        · rintro - _ ⟨⟩
        · rintro - _ ⟨⟩
    | error e =>
        rw [hgv] at hgiven
        exact .of_plain (hplain v e hgv) hgiven
          ⟨status?_ne_of_granted hgranted rfl, status?_ne_of_granted hgranted rfl⟩
  · intro held e log after hasked
    apply hasked.mono
    intro x? htold
    apply htold.of_error
    intro x hx
    rw [Exchange.given?, hx, Option.bind_none]

/-- What comes of looking for something: it is found in the deciding exchange, or that exchange
says that it is absent. -/
structure Sought (c : FabricClient) (get : Json → Option α) (r : Except Error (Option α))
    (x? : Option Exchange) : Prop where
  found : ∀ a, r = .ok (some a) ↔ x?.bind (·.given? get) = some a
  absent : x?.isSome ∨ c.credentials.canRenew = false →
    (r = .ok none ↔ x?.bind Exchange.status? = some 404)
  stands : ∀ e, r = .error e → e.isNotFound = false

theorem orAbsent_asked {a : Action (Option α)}
    (ha : a.Turns reaches fun _ r log _ =>
      Asked c reaches ask (Told c (·.given? fun v => (get v).map some) r) log) :
    (orAbsent a).Turns reaches fun _ r log _ => Asked c reaches ask (Sought c get r) log := by
  have hhandle (e : Error) (s : Session) :
      (if e.isNotFound then pure none else throw e : Action (Option α)).outcome s =
        (if e.isNotFound then .ok none else .error e, s) := by
    split <;> rfl
  apply Action.Turns.recover ha hhandle
  · intro held o log after hasked
    apply hasked.mono
    intro x? htold
    obtain ⟨x, rfl, hx⟩ := Option.bind_eq_some_iff.mp ((htold.ok_iff o).mp rfl)
    rw [given?_map] at hx
    obtain ⟨a, ha, rfl⟩ := Option.map_eq_some_iff.mp hx
    have hstatus : x.status? ≠ some 404 := status?_ne_of_granted (granted_of_given? ha) rfl
    constructor
    · simp [ha]
    · simp [hstatus]
    · rintro _ ⟨⟩
  · intro held e log after hasked
    apply hasked.mono
    intro x? htold
    have hnone (a : α) : x?.bind (·.given? get) ≠ some a := by
      intro ha
      obtain ⟨x, rfl, hx⟩ := Option.bind_eq_some_iff.mp ha
      have hread : x.given? (fun v => (get v).map some) = some (some a) := by
        rw [given?_map, hx, Option.map_some]
      cases (htold.ok_iff (some a)).mpr hread
    cases he : e.isNotFound with
    | true =>
        constructor
        · simpa using hnone
        · intro hdecided
          simpa using (htold.notFound hdecided e rfl).mp he
        · rintro _ ⟨⟩
    | false =>
        constructor
        · simpa using hnone
        · intro hdecided
          have hstatus := mt (htold.notFound hdecided e rfl).mpr (by simp [he])
          simpa using hstatus
        · rintro _ ⟨⟩
          exact he

end Reading

/-! ## Looking for objects -/

section Objects

variable {α β : Type}

/-- The question for the uuid of a name. -/
def idAsk (r : Resource) (fqName : FqName) : Ask where
  method := .post
  path := "fqname-to-id"
  body := some (.obj [("fq_name", .strings fqName), ("type", .str r.name)])

/-- A request about an object that says no more than its uuid. -/
def objectAsk (method : Method) (r : Resource) (uuid : String) : Ask where
  method := method
  path := objectPath r uuid

/-- The question for the nodes of a host name. -/
def nodesAsk (hostname : String) : Ask where
  method := .get
  path := Resource.node.collection
  query := [("detail", "true"), ("filters", filterOf "node_hostname" hostname)]

theorem idOf_asked (c : FabricClient) (reaches : Url → Bool) (r : Resource) (fqName : FqName) :
    (c.idOf r fqName).Turns reaches fun _ res log _ =>
      Asked c reaches (idAsk r fqName) (Sought c Json.uuid? res) log := by
  apply orAbsent_asked
  apply request_bind_asked c reaches (idAsk r fqName)
  intro v
  rw [Json.uuid?]
  cases v.member? "uuid" with
  | none => exact yields_throw (plain_invalidResponse _ _)
  | some uuid =>
      cases uuid with
      | str uuid => exact yields_pure (some uuid)
      | null | bool | num | arr | obj => exact yields_throw (plain_invalidResponse _ _)

theorem yields_unwrap (α : Type) [IsObject α] (path : String) (v : Json) :
    Yields (unwrap α path v) (v.object? α) := by
  rw [unwrap, Json.object?]
  cases v.member? (IsObject.resource α).name with
  | none => exact yields_throw (plain_invalidResponse _ _)
  | some inner =>
      simp only [Option.bind_some]
      cases decodeValue (IsObject.decoder (α := α)) inner with
      | ok object => exact yields_pure object
      | error problem => exact yields_throw (plain_invalidResponse _ _)

theorem read_asked (α : Type) [IsObject α] (c : FabricClient) (reaches : Url → Bool)
    (uuid : String) :
    (c.read α uuid).Turns reaches fun _ r log _ =>
      Asked c reaches (objectAsk .get (IsObject.resource α) uuid) (Sought c (Json.object? α) r)
        log := by
  apply orAbsent_asked
  apply request_bind_asked c reaches (objectAsk .get (IsObject.resource α) uuid)
  intro v
  rw [map_eq_pure_bind]
  exact (yields_unwrap α _ v).bind_pure some

/-- The exchanges of a request about an object that goes by its name: those of the question for its
uuid, and those of the request if there is one. -/
inductive AskedByName (c : FabricClient) (reaches : Url → Bool) (ask : Ask)
    (next : String → Ask) (ends goes : Option Exchange → Prop) : List Exchange → Prop
  | ended {log : List Exchange}
      (h : Asked c reaches ask (fun x? => x?.bind (·.given? Json.uuid?) = none ∧ ends x?) log) :
      AskedByName c reaches ask next ends goes log
  | went {log rest : List Exchange} {uuid : String}
      (h : Asked c reaches ask (fun x? => x?.bind (·.given? Json.uuid?) = some uuid) log)
      (hrest : Asked c reaches (next uuid) goes rest) :
      AskedByName c reaches ask next ends goes (log ++ rest)

theorem AskedByName.mono {next : String → Ask} {ends goes ends' goes' : Option Exchange → Prop}
    (h : AskedByName c reaches ask next ends goes log) (hends : ∀ x?, ends x? → ends' x?)
    (hgoes : ∀ x?, goes x? → goes' x?) : AskedByName c reaches ask next ends' goes' log := by
  cases h with
  | ended h => exact .ended (h.mono fun x? hx => ⟨hx.1, hends x? hx.2⟩)
  | went h hrest => exact .went h (hrest.mono hgoes)

theorem idOf_bind_asked (c : FabricClient) (reaches : Url → Bool) (r : Resource)
    (fqName : FqName) (missing : Except Error α) {f : Option String → Action α}
    {next : String → Ask} {ends goes : Except Error α → Option Exchange → Prop}
    (hnone : ∀ s, (f none).outcome s = (missing, s))
    (hsome : ∀ uuid, (f (some uuid)).Turns reaches fun _ res log _ =>
      Asked c reaches (next uuid) (goes res) log)
    (habsent : ∀ x?, Sought c Json.uuid? (.ok none) x? → ends missing x?)
    (herror : ∀ e x?, Sought c Json.uuid? (.error e) x? → ends (.error e) x?) :
    (c.idOf r fqName >>= f).Turns reaches fun _ res log _ =>
      AskedByName c reaches (idAsk r fqName) next (ends res) (goes res) log := by
  have hnext (found : Option String) : (f found).Turns reaches fun _ res log _ =>
      (found = none ∧ res = missing ∧ log = []) ∨
        ∃ uuid, found = some uuid ∧ Asked c reaches (next uuid) (goes res) log := by
    cases found with
    | none =>
        apply Action.Turns.of_outcome
        intro s
        rw [hnone]
        exact ⟨rfl, Or.inl ⟨rfl, rfl, rfl⟩⟩
    | some uuid =>
        apply (hsome uuid).mono
        intro held res log after h
        exact Or.inr ⟨uuid, rfl, h⟩
  have hmissed {res : Except Error (Option String)} {x? : Option Exchange}
      (hres : ∀ uuid, res ≠ .ok (some uuid)) (h : Sought c Json.uuid? res x?) :
      x?.bind (·.given? Json.uuid?) = none := by
    apply Option.eq_none_iff_forall_ne_some.mpr
    intro uuid huuid
    exact hres uuid ((h.found uuid).mpr huuid)
  apply (idOf_asked c reaches r fqName).bind hnext
  · rintro held found log between res rest after hid (⟨rfl, rfl, rfl⟩ | ⟨uuid, rfl, hrest⟩)
    · rw [List.append_nil]
      exact .ended (hid.mono fun x? hx => ⟨hmissed (by simp) hx, habsent x? hx⟩)
    · exact .went (hid.mono fun x? hx => (hx.found uuid).mp rfl) hrest
  · intro held e log after hid
    exact .ended (hid.mono fun x? hx => ⟨hmissed (by simp) hx, herror e x? hx⟩)

/-- What comes of looking for an object under its name, as far as the question for its uuid decides
it. -/
structure Missed (c : FabricClient) (r : Except Error (Option α)) (x? : Option Exchange) :
    Prop where
  found : ∀ a, r ≠ .ok (some a)
  absent : x?.isSome ∨ c.credentials.canRenew = false →
    (r = .ok none ↔ x?.bind Exchange.status? = some 404)

theorem readByName_asked (α : Type) [IsObject α] (c : FabricClient) (reaches : Url → Bool)
    (fqName : FqName) :
    (c.readByName α fqName).Turns reaches fun _ r log _ =>
      AskedByName c reaches (idAsk (IsObject.resource α) fqName)
        (objectAsk .get (IsObject.resource α)) (Missed c r) (Sought c (Json.object? α) r) log := by
  apply idOf_bind_asked c reaches _ fqName (.ok none)
  · exact fun _ => rfl
  · exact fun uuid => read_asked α c reaches uuid
  · intro x? h
    refine ⟨by simp, fun hdecided => ?_⟩
    simpa using h.absent hdecided
  · intro e x? h
    refine ⟨by simp, fun hdecided => ?_⟩
    simpa using h.absent hdecided

end Objects

end FabricClient

/-! ## Calls -/

open VlanBinding.Integration (Call)

/-- A mapped error changes no value. -/
theorem mapError_eq_ok_iff {ε δ α : Type} {f : ε → δ} {r : Except ε α} {a : α} :
    r.mapError f = .ok a ↔ r = .ok a := by
  cases r <;> simp [Except.mapError]

/-- A call is answered with what its requests come to, as an error of its service if it is one. -/
theorem respond_of_perform {c : Services} (call : Call) {s : Session}
    {rel : Except Error call.Answer → List Exchange → Prop}
    (h : (c.perform call).Turns s.network.reaches fun _ r log _ => rel r log) :
    ∃ r, (c.respond call s).1 = r.mapError (fun e => call.failure (.rest e)) ∧
      rel r (s.network.exchangesSince (c.respond call s).2.network) := by
  obtain ⟨log, hleads, hrel⟩ := h s rfl
  refine ⟨((c.perform call).outcome s).1, rfl, ?_⟩
  have hlog : s.network.exchangesSince (c.respond call s).2.network = log :=
    hleads.exchangesSince_eq
  rw [hlog]
  exact hrel

/-- What a call sends is what leads to the network after it. -/
theorem leads_of_perform {c : Services} (call : Call) {s : Session}
    {rel : Except Error call.Answer → List Exchange → Prop}
    (h : (c.perform call).Turns s.network.reaches fun _ r log _ => rel r log) :
    s.network.Leads (s.network.exchangesSince (c.respond call s).2.network)
      (c.respond call s).2.network := by
  obtain ⟨log, hlog, -⟩ := h s rfl
  have hleads : s.network.Leads log (c.respond call s).2.network := hlog
  rw [hleads.exchangesSince_eq]
  exact hleads

/-- A call that sends a single request is answered with the coming reply, if that is no
redirect. -/
theorem reply_of_perform {c : Services} (call : Call) (s : Session)
    {rel : Except Error call.Answer → List Exchange → Prop} {x : Exchange} {response : Response}
    (h : (c.perform call).Turns s.network.reaches fun _ r log _ => rel r log)
    (hlog : s.network.exchangesSince (c.respond call s).2.network = [x])
    (hcoming : s.network.replies.head? = some (.response response))
    (hplain : response.status.isRedirect = false) : x.reply = .response response := by
  have hleads := leads_of_perform call h
  rw [hlog] at hleads
  exact hleads.reply_of_singleton hcoming hplain

theorem failure_of_fabric {call : Call} (hfabric : call.isCore = false) (e : Error) :
    call.failure (.rest e) = .fabric (.rest e) := by
  simp [Call.failure, hfabric]

end Rest

end VlanBinding
