import VlanBinding.Proofs.History

/-!
Two plans that are run at the same time against one controller in memory. Each call is answered at
once, and the plans take turns in any order, while Neutron's list of ports may change in between.
Main statements: what every turn keeps, every run keeps, and a plan that asks for the inventory gets
on as it would alone, whatever happens between its calls.
-/

namespace VlanBinding

open VlanBinding.Fabric VlanBinding.Integration

namespace Integration.Plan

variable {α β : Type}

/-- What a plan has come to, once it makes no more calls. -/
def result? : Plan α → Option (Except Error α)
  | done result => some result
  | call .. => none

variable {start : Controller} {allowed : Call → Prop} {target more : Plan α → Prop}

/-- Whatever controllers of this inventory answer, the plan makes allowed calls until one of the
target plans is left of it. -/
inductive Until (start : Controller) (allowed : Call → Prop) (target : Plan α → Prop) :
    Plan α → Prop
  | here {p : Plan α} (h : target p) : Until start allowed target p
  | call {c : Call} {next : Except Error c.Answer → Plan α} (hc : allowed c)
      (hnext : ∀ s : Controller, s.inventory = start.inventory →
        Until start allowed target (next (Controller.answer c s).1)) :
      Until start allowed target (.call c next)

theorem Until.mono {p : Plan α} (hp : p.Until start allowed target)
    (h : ∀ q, target q → more q) : p.Until start allowed more := by
  induction hp with
  | here hq => exact .here (h _ hq)
  | call hc _ ih => exact .call hc ih

/-- A question that is answered, whatever with. -/
theorem Until.ask_bind {c : Call} {f : c.Answer → Plan α} (hc : allowed c)
    (hf : ∀ s : Controller, s.inventory = start.inventory →
      ∃ a, (Controller.answer c s).1 = .ok a ∧ (f a).Until start allowed target) :
    (ask c >>= f).Until start allowed target := by
  refine .call hc fun s hs => ?_
  obtain ⟨a, ha, hrest⟩ := hf s hs
  rw [ha]
  exact hrest

theorem Until.bind {target : Plan β → Prop} {p : Plan α} {f : α → Plan β}
    (hp : p.Until start allowed fun q => ∃ a, q = pure a ∧ (f a).Until start allowed target) :
    (p >>= f).Until start allowed target := by
  change (p.bind f).Until start allowed target
  induction hp with
  | here hq =>
      obtain ⟨a, rfl, hrest⟩ := hq
      exact hrest
  | call hc _ ih => exact .call hc ih

/-- What is asked about the inventory comes to what it would come to alone. -/
theorem Until.of_inventory {p : Plan α} (hp : p.Within Call.asksInventory)
    (hallowed : ∀ c : Call, c.asksInventory → allowed c) {a : α}
    (hresult : (p.perform Controller.answer start).1 = .ok a) :
    p.Until start allowed fun q => q = pure a := by
  induction p with
  | done r =>
      obtain rfl : r = .ok a := hresult
      exact .here rfl
  | call c next ih =>
      refine .call (hallowed c hp.1) fun s hs => ?_
      rw [Controller.answer_result_of_inventory hs hp.1]
      rw [perform_call, Controller.answer_state_of_asksInventory c start hp.1] at hresult
      exact ih _ (hp.2 _) hresult

theorem Until.inventory_bind {target : Plan β → Prop} {p : Plan α} {f : α → Plan β}
    (hp : p.Within Call.asksInventory) (hallowed : ∀ c : Call, c.asksInventory → allowed c)
    {a : α} (hresult : (p.perform Controller.answer start).1 = .ok a)
    (hf : (f a).Until start allowed target) : (p >>= f).Until start allowed target := by
  refine Until.bind ((Until.of_inventory hp hallowed hresult).mono ?_)
  rintro q rfl
  exact ⟨a, rfl, hf⟩

end Integration.Plan

/-! ## Races -/

/-- Which of the two plans. -/
inductive Side where
  | first
  | second
deriving DecidableEq, Repr

def Side.other : Side → Side
  | first => second
  | second => first

@[simp]
theorem Side.other_other (side : Side) : side.other.other = side := by
  cases side <;> rfl

theorem Side.other_ne (side : Side) : side.other ≠ side := by
  cases side <;> decide

theorem Side.eq_or_eq_other (s side : Side) : s = side ∨ s = side.other := by
  cases s <;> cases side <;> decide

/-- A plan makes its next call, or Neutron's list of ports changes. -/
inductive Move where
  | turn (side : Side)
  | listing (ports : List Neutron.Port)
deriving DecidableEq, Repr

/-- What is left of two plans, the controller that they share, and the exchanges so far. -/
structure Race where
  first : Plan Unit
  second : Plan Unit
  controller : Controller
  log : List (Side × Exchange) := []

namespace Race

/-- What is left of the plan of a side. -/
def plan (r : Race) : Side → Plan Unit
  | .first => r.first
  | .second => r.second

/-- What is left of the plan of a side is something else. -/
def withPlan (r : Race) (p : Plan Unit) : Side → Race
  | .first => { r with first := p }
  | .second => { r with second := p }

/-- The plan of a side makes a call. -/
def callBy (r : Race) (side : Side) (c : Call) (next : Except Error c.Answer → Plan Unit) :
    Race :=
  { r.withPlan (next (Controller.answer c r.controller).1) side with
    controller := (Controller.answer c r.controller).2
    log := r.log ++ [(side, ⟨c, (Controller.answer c r.controller).1⟩)] }

/-- A plan that has come to its end lets its turn pass. -/
def step (r : Race) : Move → Race
  | .turn side =>
    match r.plan side with
    | .done _ => r
    | .call c next => r.callBy side c next
  | .listing ports => { r with controller := r.controller.listing ports }

def play (r : Race) (moves : List Move) : Race := moves.foldl step r

section Calls

variable {r : Race} {side : Side} {c : Call} {next : Except Error c.Answer → Plan Unit}

@[simp]
theorem plan_callBy : (r.callBy side c next).plan side =
    next (Controller.answer c r.controller).1 := by
  cases side <;> rfl

@[simp]
theorem plan_callBy_other : (r.callBy side c next).plan side.other = r.plan side.other := by
  cases side <;> rfl

@[simp]
theorem controller_callBy : (r.callBy side c next).controller =
    (Controller.answer c r.controller).2 := rfl

end Calls

/-- What calls of either side and new lists keep, every run keeps. -/
theorem play_invariant {invariant : Race → Prop}
    (hcall : ∀ r side c next, invariant r → r.plan side = .call c next →
      invariant (r.callBy side c next))
    (hlisting : ∀ r ports, invariant r →
      invariant { r with controller := r.controller.listing ports })
    {r : Race} (hr : invariant r) (moves : List Move) : invariant (r.play moves) := by
  induction moves generalizing r with
  | nil => exact hr
  | cons m rest ih =>
      refine ih ?_
      cases m with
      | listing ports => exact hlisting r ports hr
      | turn side =>
          rw [step]
          cases hplan : r.plan side with
          | done result => exact hr
          | call c next => exact hcall r side c next hr hplan

/-- Each side is at a stage, which may depend on the controller and on the exchanges so far, and the
inventory is as it was at the start. -/
structure Staged (start : Controller)
    (stage : Side → Controller → List (Side × Exchange) → Plan Unit → Prop) (r : Race) :
    Prop where
  inventory : r.controller.inventory = start.inventory
  stage : ∀ side, stage side r.controller r.log (r.plan side)

section Stages

variable {start : Controller}
variable {stage : Side → Controller → List (Side × Exchange) → Plan Unit → Prop}
variable {r : Race} {side : Side} {c : Call} {next : Except Error c.Answer → Plan Unit}

/-- A side that makes a call gets to its next stage, and the other side stays at its own. -/
theorem Staged.callBy (hr : r.Staged start stage)
    (hown : stage side (Controller.answer c r.controller).2
      (r.log ++ [(side, ⟨c, (Controller.answer c r.controller).1⟩)])
      (next (Controller.answer c r.controller).1))
    (hother : stage side.other (Controller.answer c r.controller).2
      (r.log ++ [(side, ⟨c, (Controller.answer c r.controller).1⟩)]) (r.plan side.other)) :
    (r.callBy side c next).Staged start stage where
  inventory := (Controller.answer_inventory c r.controller).trans hr.inventory
  stage := by
    intro s
    rcases s.eq_or_eq_other side with rfl | rfl
    · rw [plan_callBy]
      exact hown
    · rw [plan_callBy_other]
      exact hother

theorem Staged.listing (hr : r.Staged start stage) (ports : List Neutron.Port)
    (h : ∀ side, stage side (r.controller.listing ports) r.log (r.plan side)) :
    ({ r with controller := r.controller.listing ports } : Race).Staged start stage where
  inventory := hr.inventory
  stage := by
    rintro (_ | _)
    · exact h .first
    · exact h .second

end Stages

/-- The calls that were made, each with the side that made it. -/
def calls (log : List (Side × Exchange)) : List (Side × Call) :=
  log.map fun turn => (turn.1, turn.2.call)

theorem mem_calls {log : List (Side × Exchange)} {side : Side} {c : Call} :
    (side, c) ∈ calls log ↔ ∃ x : Exchange, (side, x) ∈ log ∧ x.call = c := by
  simp [calls]

@[simp]
theorem calls_append_singleton (log : List (Side × Exchange)) (side : Side) (x : Exchange) :
    calls (log ++ [(side, x)]) = calls log ++ [(side, x.call)] := by
  simp [calls]

end Race

end VlanBinding
