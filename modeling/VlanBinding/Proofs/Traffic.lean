import VlanBinding.Rest.Session

/-!
What actions send and what they are answered, read off the network before and after them. Main
statement: what an action ensures about its result and its exchanges follows from what its parts
ensure, one rule for each way to put actions together.
-/

namespace VlanBinding

namespace Http

namespace Exchange

/-- The status of the response, if there was one. -/
def status? (x : Exchange) : Option Status := x.reply.response?.map Response.status

/-- Was the request answered with success? -/
def granted (x : Exchange) : Bool := x.status?.any Status.isSuccess

theorem status?_of_response {x : Exchange} {response : Response}
    (hreply : x.reply = .response response) : x.status? = some response.status := by
  rw [status?, hreply]
  rfl

theorem status?_of_drop {x : Exchange} (hreply : x.reply = .drop) : x.status? = none := by
  rw [status?, hreply]
  rfl

end Exchange

namespace Network

/-- What went over the network between two of its states. -/
def exchangesSince (before after : Network) : List Exchange := after.log.drop before.log.length

/-- A request goes out, and the exchange is what becomes of it. -/
structure Carries (before : Network) (x : Exchange) (after : Network) : Prop where
  delivered : x.request.deliver before.reaches maxDetours before.replies = (x, after.replies)
  log : after.log = before.log ++ [x]
  reaches : after.reaches = before.reaches

/-- These exchanges lead from one state of the network to the other, one after the other. -/
inductive Leads : Network → List Exchange → Network → Prop
  | refl (n : Network) : n.Leads [] n
  | cons {before between after : Network} {x : Exchange} {log : List Exchange}
      (hx : before.Carries x between) (hlog : between.Leads log after) :
      before.Leads (x :: log) after

variable {before between after : Network} {log rest : List Exchange} {x : Exchange}

theorem Carries.leads (hx : before.Carries x after) : before.Leads [x] after :=
  .cons hx (.refl after)

theorem Carries.token_of_detour (hx : before.Carries x after) :
    ∀ d ∈ x.detours, d.request.token = x.request.token := by
  intro d hd
  have hdelivered : x = (x.request.deliver before.reaches maxDetours before.replies).1 := by
    rw [hx.delivered]
  rw [hdelivered] at hd
  exact Request.token_of_detour hd

theorem Leads.trans (hfirst : before.Leads log between) (hrest : between.Leads rest after) :
    before.Leads (log ++ rest) after := by
  induction hfirst with
  | refl => exact hrest
  | cons hx _ ih => exact .cons hx (ih hrest)

theorem Leads.log_eq (h : before.Leads log after) : after.log = before.log ++ log := by
  induction h with
  | refl => rw [List.append_nil]
  | cons hx _ ih => rw [ih, hx.log, List.append_assoc, List.singleton_append]

/-- Where servers answer stays the same. -/
theorem Leads.reaches_eq (h : before.Leads log after) : after.reaches = before.reaches := by
  induction h with
  | refl => rfl
  | cons hx _ ih => rw [ih, hx.reaches]

/-- The exchanges that lead from one state to another are what went over the network
between them. -/
theorem Leads.exchangesSince_eq (h : before.Leads log after) :
    before.exchangesSince after = log := by
  rw [exchangesSince, h.log_eq, List.drop_left]

/-- Wherever a request is sent on to, it shows the token that it showed at first. -/
theorem Leads.token_of_detour (h : before.Leads log after) (hx : x ∈ log) :
    ∀ d ∈ x.detours, d.request.token = x.request.token := by
  induction h with
  | refl => cases hx
  | cons hfirst _ ih =>
      rcases List.mem_cons.mp hx with rfl | hx
      · exact hfirst.token_of_detour
      · exact ih hx

/-- A single request is answered with the coming reply, if that is no redirect. -/
theorem Leads.reply_of_singleton {response : Response} (h : before.Leads [x] after)
    (hcoming : before.replies.head? = some (.response response))
    (hplain : response.status.isRedirect = false) : x.reply = .response response := by
  obtain ⟨replies, hreplies⟩ := List.head?_eq_some_iff.mp hcoming
  have haccepted : x.request.move response = .accept := by
    rw [Request.move, hplain]
    rfl
  cases h with
  | cons hx _ =>
      have hdelivered := congrArg (·.1.reply) hx.delivered
      simp only [hreplies, Request.deliver, haccepted] at hdelivered
      exact hdelivered.symm

/-- A request that can go out goes out. -/
theorem send_of_reaches {r : Request} {n : Network}
    (hreaches : (n.reaches r.url && r.token.all isHeaderValue) = true) :
    ∃ x : Exchange, x.request = r ∧ (n.send r).1 = x.reply.response? ∧
      n.Carries x (n.send r).2 := by
  have hrequest := r.request_deliver n.reaches maxDetours n.replies
  rw [send, if_pos hreaches]
  cases hx : r.deliver n.reaches maxDetours n.replies with
  | mk x replies =>
      rw [hx] at hrequest
      exact ⟨x, hrequest, rfl, ⟨by rw [hrequest, hx], rfl, rfl⟩⟩

end Network

end Http

namespace Rest.Action

open VlanBinding.Http

variable {α β : Type}

/-- What an action comes to, and the session after it. -/
def outcome (a : Action α) (s : Session) : Except Error α × Session := a.run.run s

@[simp]
theorem outcome_pure (x : α) (s : Session) : (pure x : Action α).outcome s = (.ok x, s) := rfl

@[simp]
theorem outcome_throw (e : Error) (s : Session) :
    (throw e : Action α).outcome s = (.error e, s) := rfl

theorem outcome_bind (a : Action α) (f : α → Action β) (s : Session) :
    (a >>= f).outcome s =
      match a.outcome s with
      | (.ok x, t) => (f x).outcome t
      | (.error e, t) => (.error e, t) := by
  change (ExceptT.bindCont f (a.run.run s).1).run (a.run.run s).2 = _
  simp only [outcome]
  generalize a.run.run s = after
  obtain ⟨result, t⟩ := after
  cases result <;> rfl

theorem outcome_tryCatch (a : Action α) (f : Error → Action α) (s : Session) :
    (tryCatch a f).outcome s =
      match a.outcome s with
      | (.ok x, t) => (.ok x, t)
      | (.error e, t) => (f e).outcome t := by
  rw [outcome, ExceptT.run_tryCatch, StateT.run_bind]
  change (fun after : Except Error α × Session => _) (a.run.run s) = _
  simp only [outcome]
  generalize a.run.run s = after
  obtain ⟨result, t⟩ := after
  cases result <;> rfl

/-- Whatever the session, the result of the action and its exchanges meet a
condition. -/
def Ensures (a : Action α) (post : Except Error α → List Exchange → Prop) : Prop :=
  ∀ s, ∃ log, s.network.Leads log (a.outcome s).2.network ∧ post (a.outcome s).1 log

variable {post : Except Error α → List Exchange → Prop}

theorem Ensures.exchanges {a : Action α} (ha : a.Ensures post) (s : Session) :
    post (a.outcome s).1 (s.network.exchangesSince (a.outcome s).2.network) := by
  obtain ⟨log, hlog, hpost⟩ := ha s
  rw [hlog.exchangesSince_eq]
  exact hpost

theorem Ensures.mono {post' : Except Error α → List Exchange → Prop} {a : Action α}
    (ha : a.Ensures post) (hpost : ∀ r log, post r log → post' r log) :
    a.Ensures post' := by
  intro s
  obtain ⟨log, hlog, hr⟩ := ha s
  exact ⟨log, hlog, hpost _ _ hr⟩

theorem Ensures.pure {x : α} (hx : post (.ok x) []) : (pure x : Action α).Ensures post :=
  fun _ => ⟨[], Network.Leads.refl _, hx⟩

theorem Ensures.throw {e : Error} (he : post (.error e) []) :
    (throw e : Action α).Ensures post :=
  fun _ => ⟨[], Network.Leads.refl _, he⟩

/-- What comes after an action goes on from its exchanges. -/
theorem Ensures.bind {first : Except Error β → List Exchange → Prop} {a : Action β}
    {f : β → Action α} (ha : a.Ensures first)
    (hok : ∀ x log, first (.ok x) log →
      (f x).Ensures fun r rest => post r (log ++ rest))
    (herror : ∀ e log, first (.error e) log → post (.error e) log) :
    (a >>= f).Ensures post := by
  intro s
  obtain ⟨log, hlog, hfirst⟩ := ha s
  rw [outcome_bind]
  generalize a.outcome s = after at hlog hfirst
  obtain ⟨result, t⟩ := after
  cases result with
  | error e => exact ⟨log, hlog, herror e log hfirst⟩
  | ok x =>
      obtain ⟨rest, hrest, hpost⟩ := hok x log hfirst t
      exact ⟨log ++ rest, hlog.trans hrest, hpost⟩

theorem Ensures.tryCatch {first : Except Error α → List Exchange → Prop} {a : Action α}
    {f : Error → Action α} (ha : a.Ensures first)
    (hok : ∀ x log, first (.ok x) log → post (.ok x) log)
    (herror : ∀ e log, first (.error e) log →
      (f e).Ensures fun r rest => post r (log ++ rest)) :
    (tryCatch a f).Ensures post := by
  intro s
  obtain ⟨log, hlog, hfirst⟩ := ha s
  rw [outcome_tryCatch]
  generalize a.outcome s = after at hlog hfirst
  obtain ⟨result, t⟩ := after
  cases result with
  | ok x => exact ⟨log, hlog, hok x log hfirst⟩
  | error e =>
      obtain ⟨rest, hrest, hpost⟩ := herror e log hfirst t
      exact ⟨log ++ rest, hlog.trans hrest, hpost⟩

/-- An action that goes by the session that it finds. -/
theorem Ensures.get_bind {f : Session → Action α} (hf : ∀ s, (f s).Ensures post) :
    (get >>= f).Ensures post :=
  fun s => hf s s

/-- A change of the session that leaves the network alone. -/
theorem Ensures.modify {change : Session → Session}
    {post : Except Error PUnit → List Exchange → Prop}
    (hchange : ∀ s, (change s).network = s.network) (hpost : post (.ok ⟨⟩) []) :
    (modify change : Action PUnit).Ensures post := by
  intro s
  refine ⟨[], ?_, hpost⟩
  change s.network.Leads [] (change s).network
  rw [hchange s]
  exact Network.Leads.refl _

end Rest.Action

end VlanBinding
