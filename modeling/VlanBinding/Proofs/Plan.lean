import VlanBinding.Integration.Plan

/-!
What a plan comes to: the result and the state that a run of it leaves, with the exchanges
forgotten. Main statements: a plan that only reads leaves the state as it was, its result depends
on the answers to the calls it may make and on nothing else, and a strict plan, which passes on
every error, either goes as it would without failures or ends in an error.
-/

namespace VlanBinding.Integration.Plan

variable {α β σ : Type} {respond : Responder σ}

theorem toOption_eq_some_iff {r : Except Error α} {a : α} :
    r.toOption = some a ↔ r = .ok a := by
  cases r <;> simp [Except.toOption]

/-- The result of a run and the state after it. -/
def perform (respond : Responder σ) (p : Plan α) (s : σ) : Except Error α × σ :=
  ((p.run respond s).result, (p.run respond s).state)

@[simp]
theorem perform_pure (a : α) (s : σ) :
    (pure a : Plan α).perform respond s = (.ok a, s) := rfl

@[simp]
theorem perform_fail (e : Error) (s : σ) :
    (fail e : Plan α).perform respond s = (.error e, s) := rfl

@[simp]
theorem perform_ask (c : Call) (s : σ) :
    (ask c).perform respond s = respond c s := rfl

theorem perform_call (c : Call) (next : Except Error c.Answer → Plan α) (s : σ) :
    (call c next).perform respond s =
      (next (respond c s).1).perform respond (respond c s).2 := rfl

/-- A sequence goes on from where its first plan ended. -/
theorem perform_bind (p : Plan α) (f : α → Plan β) (s : σ) :
    (p >>= f).perform respond s =
      match p.perform respond s with
      | (.ok a, t) => (f a).perform respond t
      | (.error e, t) => (.error e, t) := by
  change (p.bind f).perform respond s = _
  simp only [perform, run_bind]
  cases (p.run respond s).result <;> rfl

theorem perform_bind_ok {p : Plan α} {f : α → Plan β} {s t : σ} {a : α}
    (hp : p.perform respond s = (.ok a, t)) :
    (p >>= f).perform respond s = (f a).perform respond t := by
  rw [perform_bind, hp]

theorem perform_bind_error {p : Plan α} {f : α → Plan β} {s t : σ} {e : Error}
    (hp : p.perform respond s = (.error e, t)) :
    (p >>= f).perform respond s = (.error e, t) := by
  rw [perform_bind, hp]

theorem perform_attempt (p : Plan α) (s : σ) :
    p.attempt.perform respond s =
      (.ok (p.perform respond s).1, (p.perform respond s).2) := by
  induction p generalizing s with
  | done r => rfl
  | call c next ih =>
      simp only [attempt, perform_call]
      exact ih _ _

/-- A sequence makes the calls of its first plan, and those of its second one unless
the first one fails. -/
theorem exchanges_bind (p : Plan α) (f : α → Plan β) (s : σ) :
    (∃ e, (p.run respond s).result = .error e ∧
      ((p >>= f).run respond s).exchanges = (p.run respond s).exchanges) ∨
    ∃ a, (p.run respond s).result = .ok a ∧
      ((p >>= f).run respond s).result =
        ((f a).run respond (p.run respond s).state).result ∧
      ((p >>= f).run respond s).exchanges =
        (p.run respond s).exchanges ++
          ((f a).run respond (p.run respond s).state).exchanges := by
  have hrun : (p >>= f).run respond s = _ := run_bind respond p f s
  cases hfirst : (p.run respond s).result with
  | ok a =>
      simp only [hfirst] at hrun
      exact Or.inr ⟨a, rfl, by rw [hrun], by rw [hrun]⟩
  | error e =>
      simp only [hfirst] at hrun
      exact Or.inl ⟨e, rfl, by rw [hrun]⟩

/-- A sequence that came to a value ran both its plans. -/
theorem run_bind_eq_ok {p : Plan α} {f : α → Plan β} {s : σ} {b : β}
    (hresult : ((p >>= f).run respond s).result = .ok b) :
    ∃ a, (p.run respond s).result = .ok a ∧
      ((f a).run respond (p.run respond s).state).result = .ok b ∧
      ((p >>= f).run respond s).exchanges =
        (p.run respond s).exchanges ++
          ((f a).run respond (p.run respond s).state).exchanges := by
  have hrun : (p >>= f).run respond s = _ := run_bind respond p f s
  cases hfirst : (p.run respond s).result with
  | ok a =>
      simp only [hfirst] at hrun
      rw [hrun] at hresult
      exact ⟨a, rfl, hresult, by rw [hrun]⟩
  | error e =>
      simp only [hfirst] at hrun
      rw [hrun] at hresult
      cases hresult

/-- What no call changes, no plan changes. -/
theorem perform_invariant {τ : Type} (view : σ → τ)
    (hcall : ∀ c s, view (respond c s).2 = view s) (p : Plan α) (s : σ) :
    view (p.perform respond s).2 = view s := by
  induction p generalizing s with
  | done r => rfl
  | call c next ih =>
      rw [perform_call, ih]
      exact hcall c s

/-! ## The calls that a plan may make -/

/-- Whatever the answers, every call that the plan makes is an allowed one. -/
def Within (allowed : Call → Prop) : Plan α → Prop
  | done _ => True
  | call c next => allowed c ∧ ∀ answer, (next answer).Within allowed

variable {allowed : Call → Prop}

@[simp]
theorem within_ask (c : Call) : (ask c).Within allowed ↔ allowed c :=
  ⟨fun h => h.1, fun h => ⟨h, fun _ => trivial⟩⟩

theorem Within.mono {more : Call → Prop} {p : Plan α} (hp : p.Within allowed)
    (h : ∀ c, allowed c → more c) : p.Within more := by
  induction p with
  | done r => trivial
  | call c next ih => exact ⟨h c hp.1, fun answer => ih answer (hp.2 answer)⟩

theorem Within.bind {p : Plan α} {f : α → Plan β} (hp : p.Within allowed)
    (hf : ∀ a, (f a).Within allowed) : (p >>= f).Within allowed := by
  change (p.bind f).Within allowed
  induction p with
  | done r =>
      cases r with
      | ok a => exact hf a
      | error e => trivial
  | call c next ih => exact ⟨hp.1, fun answer => ih answer (hp.2 answer)⟩

/-- Every call that was made is an allowed one. -/
theorem Within.of_mem_exchanges {p : Plan α} (hp : p.Within allowed) {s : σ}
    {x : Exchange} (hx : x ∈ (p.run respond s).exchanges) : allowed x.call := by
  induction p generalizing s with
  | done r => simp at hx
  | call c next ih =>
      rw [run_call] at hx
      rcases List.mem_cons.mp hx with rfl | hx
      · exact hp.1
      · exact ih _ (hp.2 _) hx

/-- Calls that change nothing make up plans that change nothing. -/
theorem Within.perform_state {p : Plan α} (hp : p.Within allowed)
    (hread : ∀ c s, allowed c → (respond c s).2 = s) (s : σ) :
    (p.perform respond s).2 = s := by
  induction p generalizing s with
  | done r => rfl
  | call c next ih =>
      rw [perform_call, hread c s hp.1]
      exact ih _ (hp.2 _) s

/-- Two states that answer the calls of a reading plan alike give it the same
result. -/
theorem Within.perform_result {p : Plan α} {s t : σ} (hp : p.Within allowed)
    (hread : ∀ c s, allowed c → (respond c s).2 = s)
    (hsame : ∀ c, allowed c → (respond c s).1 = (respond c t).1) :
    (p.perform respond s).1 = (p.perform respond t).1 := by
  induction p with
  | done r => rfl
  | call c next ih =>
      rw [perform_call, perform_call, hread c s hp.1, hread c t hp.1,
        hsame c hp.1]
      exact ih _ (hp.2 _)

/-! ## Errors -/

/-- The plan makes allowed calls only, and an error that one of them is answered
with is its own error. -/
def Strict (allowed : Call → Prop) : Plan α → Prop
  | done _ => True
  | call c next =>
      allowed c ∧ (∀ e, next (.error e) = done (.error e)) ∧
        ∀ a, (next (.ok a)).Strict allowed

@[simp]
theorem strict_pure (a : α) : (pure a : Plan α).Strict allowed := trivial

@[simp]
theorem strict_fail (e : Error) : (fail e : Plan α).Strict allowed := trivial

@[simp]
theorem strict_ofExcept (r : Except Error α) : (ofExcept r).Strict allowed := trivial

@[simp]
theorem strict_ask (c : Call) : (ask c).Strict allowed ↔ allowed c :=
  ⟨fun h => h.1, fun h => ⟨h, fun _ => rfl, fun _ => trivial⟩⟩

theorem Strict.bind {p : Plan α} {f : α → Plan β} (hp : p.Strict allowed)
    (hf : ∀ a, (f a).Strict allowed) : (p >>= f).Strict allowed := by
  change (p.bind f).Strict allowed
  induction p with
  | done r =>
      cases r with
      | ok a => exact hf a
      | error e => trivial
  | call c next ih =>
      refine ⟨hp.1, fun e => ?_, fun a => ih _ (hp.2.2 a)⟩
      change (next (.error e)).bind f = _
      rw [hp.2.1 e]
      rfl

/-- A strict plan that asks and then goes on with what it was told. -/
theorem Strict.ask_bind {c : Call} {f : c.Answer → Plan α} (hc : allowed c)
    (hf : ∀ a, (f a).Strict allowed) : (ask c >>= f).Strict allowed :=
  Strict.bind ((strict_ask c).mpr hc) hf

theorem Strict.mono {more : Call → Prop} {p : Plan α} (hp : p.Strict allowed)
    (h : ∀ c, allowed c → more c) : p.Strict more := by
  induction p with
  | done r => trivial
  | call c next ih => exact ⟨h c hp.1, hp.2.1, fun a => ih _ (hp.2.2 a)⟩

theorem Strict.within {p : Plan α} (hp : p.Strict allowed) : p.Within allowed := by
  induction p with
  | done r => trivial
  | call c next ih =>
      refine ⟨hp.1, fun answer => ?_⟩
      cases answer with
      | ok a => exact ih _ (hp.2.2 a)
      | error e =>
          rw [hp.2.1 e]
          trivial

/-- A responder that answers as another one does or else fails makes no other
difference to a strict plan. -/
theorem Strict.perform_eq_or_error {p : Plan α} {sound : Responder σ}
    (hp : p.Strict allowed)
    (hrespond : ∀ c s, respond c s = sound c s ∨ ∃ e, (respond c s).1 = .error e)
    (s : σ) :
    p.perform respond s = p.perform sound s ∨
      ∃ e, (p.perform respond s).1 = .error e := by
  induction p generalizing s with
  | done r => exact Or.inl rfl
  | call c next ih =>
      rcases hrespond c s with hsame | ⟨e, herror⟩
      · rw [perform_call, perform_call, hsame]
        cases hanswer : (sound c s).1 with
        | ok a => exact ih _ (hp.2.2 a) _
        | error e => exact Or.inl (by rw [hp.2.1 e]; rfl)
      · refine Or.inr ⟨e, ?_⟩
        rw [perform_call, herror, hp.2.1 e]
        rfl

end VlanBinding.Integration.Plan
