import VlanBinding.Proofs.Footprint
import VlanBinding.Proofs.Surfacing

/-!
Runs whose calls may fail. Main statements: a strict plan that reads comes to a value exactly if
none of its calls failed and the controller would have told that value; and a strict plan makes the
calls that it would make without failures, up to the first one that fails.
-/

namespace VlanBinding

open VlanBinding.Integration

namespace Integration

/-- All calls were answered. -/
def Unfailing (log : List Exchange) : Prop := ∀ x ∈ log, x.failed = false

theorem unfailing_append {log rest : List Exchange} :
    Unfailing (log ++ rest) ↔ Unfailing log ∧ Unfailing rest :=
  List.forall_mem_append

namespace Plan

variable {α β σ : Type} {respond : Responder σ} {allowed : Call → Prop} {s t : σ}

theorem run_bind_of_ok {p : Plan α} {a : α} (hp : (p.run respond s).result = .ok a)
    (f : α → Plan β) :
    (p >>= f).run respond s =
      ⟨((f a).run respond (p.run respond s).state).result,
        (p.run respond s).exchanges ++ ((f a).run respond (p.run respond s).state).exchanges,
        ((f a).run respond (p.run respond s).state).state⟩ := by
  change (p.bind f).run respond s = _
  rw [run_bind]
  simp only [hp]

theorem run_bind_of_error {p : Plan α} {e : Error} (hp : (p.run respond s).result = .error e)
    (f : α → Plan β) :
    (p >>= f).run respond s =
      ⟨.error e, (p.run respond s).exchanges, (p.run respond s).state⟩ := by
  change (p.bind f).run respond s = _
  rw [run_bind]
  simp only [hp]

theorem run_ask {c : Call} {a : c.Answer} (h : respond c s = (.ok a, t)) :
    (ask c).run respond s = ⟨.ok a, [⟨c, .ok a⟩], t⟩ := by
  rw [ask, run_call, h]
  rfl

/-- What is done with the value of a plan comes after the plan. -/
theorem run_bind_of_run {p : Plan α} {a : α} {log : List Exchange}
    (hp : p.run respond s = ⟨.ok a, log, t⟩) (f : α → Plan β) :
    (p >>= f).run respond s =
      ⟨((f a).run respond t).result, log ++ ((f a).run respond t).exchanges,
        ((f a).run respond t).state⟩ := by
  have hok : (p.run respond s).result = .ok a := by rw [hp]
  rw [run_bind_of_ok hok, hp]

theorem run_bind_of_run_error {p : Plan α} {e : Error} {log : List Exchange}
    (hp : p.run respond s = ⟨.error e, log, t⟩) (f : α → Plan β) :
    (p >>= f).run respond s = ⟨.error e, log, t⟩ := by
  have herror : (p.run respond s).result = .error e := by rw [hp]
  rw [run_bind_of_error herror, hp]

theorem run_bind_pure (p : Plan α) (f : α → β) (s : σ) :
    (p >>= fun a => pure (f a)).run respond s =
      ⟨(p.run respond s).result.map f, (p.run respond s).exchanges, (p.run respond s).state⟩ := by
  cases hresult : (p.run respond s).result with
  | ok a =>
      rw [run_bind_of_ok hresult]
      simp only [pure, run_done, List.append_nil, Except.map]
  | error e =>
      rw [run_bind_of_error hresult]
      simp only [Except.map]

/-- A strict plan does not come to a value where one of its calls failed. -/
theorem Strict.unfailing {p : Plan α} (hp : p.Strict allowed) {a : α}
    (hok : (p.run respond s).result = .ok a) : Unfailing (p.run respond s).exchanges := by
  intro x hx
  by_contra hfailed
  obtain ⟨e, he⟩ := x.exists_error_of_failed (by simpa using hfailed)
  obtain ⟨earlier, later, hsplit⟩ := List.append_of_mem hx
  obtain ⟨-, herror⟩ := hp.failed_last s hsplit he
  rw [hok] at herror
  cases herror

end Plan

end Integration

namespace Controller

variable {α σ : Type} {respond : Responder σ} {memory : σ → Controller} {s : σ}

namespace AnswersFrom

theorem result_of_unfailing (h : AnswersFrom respond memory) {p : Plan α}
    (hp : p.Strict fun c => c.isWrite = false)
    (hlog : Unfailing (p.run respond s).exchanges) :
    (p.run respond s).result = (p.perform answer (memory s)).1 := by
  induction p generalizing s with
  | done r => rfl
  | call c next ih =>
      rw [Plan.run_call] at hlog ⊢
      have hanswered := hlog _ List.mem_cons_self
      have hrest : Unfailing ((next (respond c s).1).run respond (respond c s).2).exchanges :=
        fun x hx => hlog x (List.mem_cons_of_mem _ hx)
      rw [Plan.perform_call, answer_state_of_read c _ hp.1]
      cases hanswer : (respond c s).1 with
      | error e => simp [Exchange.failed, hanswer] at hanswered
      | ok a =>
          rw [hanswer] at hrest
          rw [h.result_of_ok hanswer, ih _ (hp.2.2 a) hrest, h.memory_of_read hp.1]

/-- A strict plan that reads comes to a value if no call fails and this is the value told. -/
theorem result_eq_ok_iff (h : AnswersFrom respond memory) {p : Plan α}
    (hp : p.Strict fun c => c.isWrite = false) {a : α} :
    (p.run respond s).result = .ok a ↔
      Unfailing (p.run respond s).exchanges ∧ (p.perform answer (memory s)).1 = .ok a := by
  constructor
  · intro hok
    exact ⟨hp.unfailing hok, h.result_of_strict hp hok⟩
  · rintro ⟨hlog, hok⟩
    rw [h.result_of_unfailing hp hlog, hok]

end AnswersFrom

/-- Calls are answered from the controller that a state holds, or they fail and change nothing. -/
def FailsCleanly (respond : Responder σ) (memory : σ → Controller) : Prop :=
  ∀ c s, ((respond c s).1 = (answer c (memory s)).1 ∧
      memory (respond c s).2 = (answer c (memory s)).2) ∨
    (∃ e, (respond c s).1 = .error e) ∧ memory (respond c s).2 = memory s

theorem FailsCleanly.answersFrom (h : FailsCleanly respond memory) :
    AnswersFrom respond memory where
  result c s := (h c s).imp And.left And.left
  state c s := (h c s).imp And.right And.symm

/-- A controller in memory answers all questions about links. -/
theorem unfailing_answer {p : Plan α} (hp : p.Strict Call.asksLinks)
    (m : Controller) : Unfailing (p.run answer m).exchanges := by
  induction p generalizing m with
  | done r => exact fun x hx => by cases hx
  | call c next ih =>
      have hanswer : ∃ a, (answer c m).1 = .ok a := by
        cases c with
        | readInterface | readFabricName | readNode | getPort | getPortGroup => exact ⟨_, rfl⟩
        | _ => exact hp.1.elim
      obtain ⟨a, ha⟩ := hanswer
      rw [Plan.run_call, ha]
      exact List.forall_mem_cons.mpr ⟨rfl, ih _ (hp.2.2 a) _⟩

/-- What calls leave behind, made one after the other. -/
def made (calls : List Call) (m : Controller) : Controller :=
  calls.foldl (fun m c => (answer c m).2) m

theorem made_append (calls rest : List Call) (m : Controller) :
    made (calls ++ rest) m = made rest (made calls m) :=
  List.foldl_append

theorem made_of_reads {calls : List Call} (hcalls : ∀ c ∈ calls, c.isWrite = false)
    (m : Controller) : made calls m = m := by
  induction calls with
  | nil => rfl
  | cons c rest ih =>
      have hrest := ih fun c hc => hcalls c (List.mem_cons_of_mem _ hc)
      rw [made, List.foldl_cons, answer_state_of_read c m (hcalls c List.mem_cons_self)]
      exact hrest

/-- What a run without failures leaves behind is what its calls leave behind. -/
theorem run_answer_state (p : Plan α) (m : Controller) :
    (p.run answer m).state = made ((p.run answer m).exchanges.map (·.call)) m := by
  induction p generalizing m with
  | done r => rfl
  | call c next ih =>
      rw [Plan.run_call]
      exact ih _ _

/-- A run goes as it would without failures, or up to the first call that fails. -/
inductive Reaches (m : Controller) (sound : Outcome α Controller) :
    Except Error α → List Exchange → Controller → Prop
  | whole : Reaches m sound sound.result sound.exchanges sound.state
  | part {earlier : List Exchange} {x : Exchange} {e : Error} (hearlier : Unfailing earlier)
      (hfailed : x.answer = .error e)
      (hcalls : earlier.map (·.call) ++ [x.call] <+: sound.exchanges.map (·.call)) :
      Reaches m sound (.error e) (earlier ++ [x]) (made (earlier.map (·.call)) m)

/-- A run that starts with a call that is answered reaches as far as its rest does. -/
theorem Reaches.call {m t : Controller} {sound : Outcome α Controller} {r : Except Error α}
    {log : List Exchange} {c : Call} (a : c.Answer)
    (h : Reaches (answer c m).2 sound r log t) :
    Reaches m ⟨sound.result, ⟨c, .ok a⟩ :: sound.exchanges, sound.state⟩ r (⟨c, .ok a⟩ :: log)
      t := by
  cases h with
  | whole => exact .whole
  | @part earlier _ _ hearlier hfailed hcalls =>
      have hunfailing : Unfailing (⟨c, .ok a⟩ :: earlier) :=
        List.forall_mem_cons.mpr ⟨rfl, hearlier⟩
      exact .part hunfailing hfailed ((List.prefix_cons_inj c).mpr hcalls)

/-- A run goes to the end as it would without failures, or its last call is the one that failed. -/
theorem Reaches.ends {m t : Controller} {sound : Outcome α Controller} {r : Except Error α}
    {log : List Exchange} (h : Reaches m sound r log t) :
    r = sound.result ∧ log = sound.exchanges ∨
      ∃ earlier x e, log = earlier ++ [x] ∧ Unfailing earlier ∧ x.answer = .error e ∧
        r = .error e ∧ log.map (·.call) <+: sound.exchanges.map (·.call) := by
  cases h with
  | whole => exact Or.inl ⟨rfl, rfl⟩
  | @part earlier x e hearlier hfailed hcalls =>
      refine Or.inr ⟨earlier, x, e, rfl, hearlier, hfailed, rfl, ?_⟩
      rwa [List.map_append]

theorem FailsCleanly.run_strict (h : FailsCleanly respond memory) {allowed : Call → Prop}
    {p : Plan α} (hp : p.Strict allowed) (s : σ) :
    Reaches (memory s) (p.run answer (memory s)) (p.run respond s).result
      (p.run respond s).exchanges (memory (p.run respond s).state) := by
  induction p generalizing s with
  | done r => exact .whole
  | call c next ih =>
      rw [Plan.run_call, Plan.run_call]
      rcases h c s with ⟨hresult, hstate⟩ | ⟨⟨e, herror⟩, hstate⟩
      · rw [← hresult]
        cases (respond c s).1 with
        | error e =>
            rw [hp.2.1 e]
            simp only [Plan.run_done]
            rw [hstate]
            exact .whole
        | ok a =>
            apply Reaches.call
            rw [← hstate]
            exact ih _ (hp.2.2 a) _
      -- the plan stops at its first failure, and nothing has changed by then
      · rw [herror, hp.2.1 e]
        simp only [Plan.run_done]
        rw [hstate]
        have hunfailing : Unfailing [] := fun x hx => by cases hx
        exact .part (x := ⟨c, .error e⟩) hunfailing rfl (List.prefix_append [c] _)

end Controller

namespace Lab

theorem flaky_failsCleanly : Controller.FailsCleanly flaky Prod.snd :=
  fun c s => (flaky_cases c s).imp_right fun h => ⟨⟨_, h.1⟩, h.2⟩

end Lab

/-! ## Whether a host is managed -/

namespace Integration

variable {σ : Type} {respond : Responder σ}

/-- Whether a host is known is always told; it is told to be known only if no call fails. -/
theorem LinkSource.contains_result (respond : Responder σ) (host : String) (source : LinkSource)
    (s : σ) :
    ∃ known, ((source.contains host).run respond s).result = .ok known ∧
      (known = true → Unfailing ((source.contains host).run respond s).exchanges) := by
  cases source with
  | document index => exact ⟨_, rfl, fun _ x hx => by cases hx⟩
  | controller =>
      change ∃ known, ((Plan.call (.readNode host) _).run respond s).result = .ok known ∧
        (known = true → Unfailing ((Plan.call (.readNode host) _).run respond s).exchanges)
      rw [Plan.run_call]
      cases hanswer : (respond (.readNode host) s).1 with
      | error e => exact ⟨false, rfl, fun hknown => by cases hknown⟩
      | ok found =>
          refine ⟨found.isSome, rfl, fun _ x hx => ?_⟩
          obtain rfl := List.mem_singleton.mp hx
          rfl

namespace Integrator

/-- So it is with the attachment of a port. -/
theorem managed?_result (respond : Responder σ) (source : LinkSource) (port : Neutron.Port)
    (s : σ) :
    ∃ found, ((managed? source port).run respond s).result = .ok found ∧
      (found.isSome = true → Unfailing ((managed? source port).run respond s).exchanges) := by
  rw [managed?]
  cases Attachment.ofPort? port with
  | none => exact ⟨none, rfl, fun hfound => by cases hfound⟩
  | some a =>
      obtain ⟨known, hknown, hlog⟩ := source.contains_result respond a.host s
      simp only
      rw [Plan.run_bind_of_ok hknown]
      cases known with
      | false => exact ⟨none, rfl, fun hfound => by cases hfound⟩
      | true =>
          refine ⟨some a, rfl, fun _ => ?_⟩
          simp only [↓reduceIte]
          exact unfailing_append.mpr ⟨hlog rfl, fun x hx => by cases hx⟩

/-- A port is tagged if its attachment is found. -/
theorem isTagged_result {source : LinkSource} {port : Neutron.Port} {s : σ}
    {found : Option Attachment}
    (hfound : ((managed? source port).run respond s).result = .ok found) :
    (((enabled source).isTagged port).run respond s).result = .ok found.isSome := by
  rw [isTagged, Plan.run_bind_of_ok hfound]
  rfl

end Integrator

end Integration

end VlanBinding
