import VlanBinding.Proofs.Undisturbed

/-!
A port goes while another one comes that needs the same interface. The notifications are handled at
the same time, and neither holds the other up: between the question whether another port needs the
interface and its deletion the other handling may find the interface there and leave it at that.
Main statement: the interface is there in the end unless it was deleted after that.
-/

namespace VlanBinding

open VlanBinding.Fabric VlanBinding.Integration

/-- The handling of a port that goes and that of a port that comes, with no call made yet. -/
def Race.handover (source : LinkSource) (gone fresh : Neutron.Port) (start : Controller) :
    Race where
  first := (Integrator.enabled source).handle (.deleted gone)
  second := (Integrator.enabled source).handle (.created fresh)
  controller := start

/-! ## How far either handling is -/

/-- The interface was deleted after the other handling had asked for it. -/
def DeletedSinceAsked (key : FqName) (log : List (Side × Exchange)) : Prop :=
  [(Side.second, Call.getVmi key), (Side.first, Call.deleteVmi key)].Sublist (Race.calls log)

/-- The handling of the port that goes was told of the other port. -/
def ToldOf (fresh gone : Neutron.Port) (a : Attachment) (log : List (Side × Exchange)) : Prop :=
  fresh.id ≠ gone.id ∧ ∃ ports, fresh ∈ ports ∧
    (Side.first, (⟨.getPorts a.network a.host, .ok ports⟩ : Exchange)) ∈ log

section Logs

variable {key : FqName} {log : List (Side × Exchange)} {side : Side} {x : Exchange}
variable {fresh gone : Neutron.Port} {a : Attachment}

theorem pair_sublist_append_singleton {α : Type} {x y z : α} {xs : List α} :
    [x, y].Sublist (xs ++ [z]) ↔ [x, y].Sublist xs ∨ x ∈ xs ∧ y = z := by
  have hreverse : ∀ ys : List α, [x, y].Sublist ys ↔ [y, x].Sublist ys.reverse :=
    fun ys => List.reverse_sublist.symm
  rw [hreverse, hreverse xs, List.reverse_append, List.reverse_singleton,
    List.singleton_append, List.cons_sublist_cons']
  simp [and_comm]

theorem DeletedSinceAsked.asked (h : DeletedSinceAsked key log) :
    (Side.second, Call.getVmi key) ∈ Race.calls log :=
  h.subset List.mem_cons_self

theorem DeletedSinceAsked.deleted (h : DeletedSinceAsked key log) :
    (Side.first, Call.deleteVmi key) ∈ Race.calls log :=
  h.subset (List.mem_cons_of_mem _ List.mem_cons_self)

theorem deletedSinceAsked_append :
    DeletedSinceAsked key (log ++ [(side, x)]) ↔
      DeletedSinceAsked key log ∨ (Side.second, Call.getVmi key) ∈ Race.calls log ∧
        (Side.first, Call.deleteVmi key) = (side, x.call) := by
  rw [DeletedSinceAsked, Race.calls_append_singleton]
  exact pair_sublist_append_singleton

theorem deletedSinceAsked_append_of_ne
    (hne : (Side.first, Call.deleteVmi key) ≠ (side, x.call)) :
    DeletedSinceAsked key (log ++ [(side, x)]) ↔ DeletedSinceAsked key log := by
  simp [deletedSinceAsked_append, hne]

theorem mem_calls_append_of_ne {c : Call} {other : Side} (hne : (other, c) ≠ (side, x.call)) :
    (other, c) ∈ Race.calls (log ++ [(side, x)]) ↔ (other, c) ∈ Race.calls log := by
  simp [hne]

theorem mem_calls_append_of_aside {c : Call} {other : Side} (hx : x.call.Aside)
    (hc : ¬ c.Aside) :
    (other, c) ∈ Race.calls (log ++ [(side, x)]) ↔ (other, c) ∈ Race.calls log :=
  mem_calls_append_of_ne fun hsame => hx.ne hc (Prod.mk.inj hsame).2.symm

theorem toldOf_append_of_ne (hne : ∀ network host, x.call ≠ .getPorts network host) :
    ToldOf fresh gone a (log ++ [(side, x)]) ↔ ToldOf fresh gone a log := by
  refine and_congr_right fun _ => exists_congr fun ports => and_congr_right fun _ => ?_
  rw [List.mem_append, List.mem_singleton, or_iff_left_iff_imp]
  intro hsame
  obtain ⟨-, rfl⟩ := Prod.mk.inj hsame
  exact absurd rfl (hne a.network a.host)

end Logs

/-- How far the handling of the port that goes is. -/
inductive Leaving (start : Controller) (source : LinkSource) (gone fresh : Neutron.Port)
    (a : Attachment) (key : FqName) (s : Controller) (log : List (Side × Exchange))
    (p : Plan Unit) : Prop
  | asking (next : Except Error (List Neutron.Port) → Plan Unit)
      (hplan : p = .call (.getPorts a.network a.host) next)
      (hnext : ∀ ports, ((next (.ok ports)).Until start Call.Aside fun q =>
          q = pure () ∨ q = Integrator.removeInterface key) ∧
        (fresh ∈ ports → fresh.id ≠ gone.id →
          (next (.ok ports)).Until start Call.Aside fun q => q = pure ()))
      (hsilent : ∀ x, (Side.first, x) ∉ log)
  /-- the other port is listed -/
  | keeping (hplan : p.Until start Call.Aside fun q => q = pure ())
      (hkept : (Side.first, Call.deleteVmi key) ∉ Race.calls log)
  | looking
      (hplan : p.Until start Call.Aside fun q =>
        q = pure () ∨ q = Integrator.removeInterface key)
      (htold : ¬ ToldOf fresh gone a log)
  | deleting (hplan : p.Until start Call.Aside fun q => q = Plan.ask (.deleteVmi key))
      (htold : ¬ ToldOf fresh gone a log) (hheld : (Keyed.get? key s.vmis).isSome = true)

/-- How far the handling of the port that comes is. -/
inductive Arriving (start : Controller) (source : LinkSource) (a : Attachment)
    (project : Project) (key : FqName) (s : Controller) (log : List (Side × Exchange))
    (p : Plan Unit) : Prop
  | asking (tag : UInt16)
      (hplan : p.Until start Call.Aside fun q =>
        q = Integrator.makeInterface source a tag project)
      (hasked : (Side.second, Call.getVmi key) ∉ Race.calls log)
  | creating
      (hplan : p.Until start Call.Aside fun q =>
        ∃ vmi : VirtualMachineInterface, vmi.fqName = key ∧ q = Plan.ask (.createVmi vmi))
      (hasked : (Side.second, Call.getVmi key) ∈ Race.calls log)
      (hnone : Keyed.get? key s.vmis = none) (hkept : ¬ DeletedSinceAsked key log)
  | settled (hplan : p = pure ()) (hasked : (Side.second, Call.getVmi key) ∈ Race.calls log)
      (hheld : (Keyed.get? key s.vmis).isSome = true ↔ ¬ DeletedSinceAsked key log)

/-- How far the handling of either side is. -/
def HandoverStage (start : Controller) (source : LinkSource) (gone fresh : Neutron.Port)
    (a : Attachment) (project : Project) (key : FqName) :
    Side → Controller → List (Side × Exchange) → Plan Unit → Prop
  | .first => Leaving start source gone fresh a key
  | .second => Arriving start source a project key

/-- Both handlings are under way, or over. -/
abbrev Underway (start : Controller) (source : LinkSource) (gone fresh : Neutron.Port)
    (a : Attachment) (project : Project) (key : FqName) : Race → Prop :=
  Race.Staged start (HandoverStage start source gone fresh a project key)

section Steps

variable {start s t : Controller} {source : LinkSource} {gone fresh : Neutron.Port}
variable {a : Attachment} {project : Project} {key : FqName}
variable {log log' : List (Side × Exchange)} {p : Plan Unit} {r : Race} {c : Call}
variable {next : Except Error c.Answer → Plan Unit}

/-- A port that goes does not mind calls of the other handling that keep its interface. -/
theorem Leaving.mono (h : Leaving start source gone fresh a key s log p)
    (hheld : (Keyed.get? key s.vmis).isSome = true → (Keyed.get? key t.vmis).isSome = true)
    (hfirst : ∀ x, (Side.first, x) ∈ log' → (Side.first, x) ∈ log) :
    Leaving start source gone fresh a key t log' p := by
  have htold : ToldOf fresh gone a log' → ToldOf fresh gone a log := by
    rintro ⟨hid, ports, hlisted, hmem⟩
    exact ⟨hid, ports, hlisted, hfirst _ hmem⟩
  cases h with
  | asking next hplan hnext hsilent =>
      exact .asking next hplan hnext fun x hx => hsilent x (hfirst x hx)
  | keeping hplan hkept =>
      refine .keeping hplan fun hmem => hkept ?_
      obtain ⟨x, hx, hcall⟩ := Race.mem_calls.mp hmem
      exact Race.mem_calls.mpr ⟨x, hfirst x hx, hcall⟩
  | looking hplan hnot => exact .looking hplan (hnot ∘ htold)
  | deleting hplan hnot hthere => exact .deleting hplan (hnot ∘ htold) (hheld hthere)

/-- A port that comes does not mind calls of the other handling that leave the interface
alone. -/
theorem Arriving.mono (h : Arriving start source a project key s log p)
    (hvmis : Keyed.get? key t.vmis = Keyed.get? key s.vmis)
    (hasked : (Side.second, Call.getVmi key) ∈ Race.calls log' ↔
      (Side.second, Call.getVmi key) ∈ Race.calls log)
    (hdeleted : DeletedSinceAsked key log' ↔ DeletedSinceAsked key log) :
    Arriving start source a project key t log' p := by
  cases h with
  | asking tag hplan hnot => exact .asking tag hplan (mt hasked.mp hnot)
  | creating hplan hyes hnone hkept =>
      exact .creating hplan (hasked.mpr hyes) (hvmis.trans hnone) (mt hdeleted.mp hkept)
  | settled hplan hyes hheld =>
      refine .settled hplan (hasked.mpr hyes) ?_
      rw [hvmis, hdeleted]
      exact hheld

/-- A port that comes does not mind calls of the other handling that leave interfaces alone. -/
theorem Arriving.callBy_first (h : Arriving start source a project key s log p)
    (hvmis : (Controller.answer c s).2.vmis = s.vmis) (hne : c ≠ .deleteVmi key)
    {result : Except Error c.Answer} :
    Arriving start source a project key (Controller.answer c s).2
      (log ++ [(.first, ⟨c, result⟩)]) p := by
  refine h.mono (by rw [hvmis]) ?_ ?_
  · exact mem_calls_append_of_ne (by simp)
  · refine deletedSinceAsked_append_of_ne ?_
    intro hsame
    exact hne (Prod.mk.inj hsame).2.symm

/-- A port that goes does not mind calls of the other handling that keep its interface. -/
theorem Leaving.callBy_second (h : Leaving start source gone fresh a key s log p)
    (hheld : (Keyed.get? key s.vmis).isSome = true →
      (Keyed.get? key (Controller.answer c s).2.vmis).isSome = true)
    {result : Except Error c.Answer} :
    Leaving start source gone fresh a key (Controller.answer c s).2
      (log ++ [(.second, ⟨c, result⟩)]) p :=
  h.mono hheld fun x hx => by simpa using hx

/-- The port that goes is told which ports are listed. -/
theorem Underway.first_asks (hr : Underway start source gone fresh a project key r)
    {next : Except Error (List Neutron.Port) → Plan Unit}
    (hnext : ∀ ports, ((next (.ok ports)).Until start Call.Aside fun q =>
        q = pure () ∨ q = Integrator.removeInterface key) ∧
      (fresh ∈ ports → fresh.id ≠ gone.id →
        (next (.ok ports)).Until start Call.Aside fun q => q = pure ()))
    (hsilent : ∀ x, (Side.first, x) ∉ r.log) :
    Underway start source gone fresh a project key
      (r.callBy .first (.getPorts a.network a.host) next) := by
  refine hr.callBy ?_ ((hr.stage .second).callBy_first rfl (by simp))
  have hlisted := hnext (r.controller.portsOf a.network a.host)
  by_cases htold : fresh ∈ r.controller.portsOf a.network a.host ∧ fresh.id ≠ gone.id
  · refine Leaving.keeping (hlisted.2 htold.1 htold.2) ?_
    rw [mem_calls_append_of_ne (by simp)]
    intro hmem
    obtain ⟨x, hx, -⟩ := Race.mem_calls.mp hmem
    exact hsilent x hx
  · refine Leaving.looking hlisted.1 ?_
    rintro ⟨hid, ports, hin, hmem⟩
    rcases List.mem_append.mp hmem with hbefore | hnow
    · exact hsilent _ hbefore
    · cases List.mem_singleton.mp hnow
      exact htold ⟨hin, hid⟩

/-- The port that goes looks for its interface. -/
theorem Underway.first_looks (hr : Underway start source gone fresh a project key r)
    (htold : ¬ ToldOf fresh gone a r.log)
    {next : Except Error (Option VirtualMachineInterface) → Plan Unit}
    (hremove : Integrator.removeInterface key = .call (.getVmi key) next) :
    Underway start source gone fresh a project key (r.callBy .first (.getVmi key) next) := by
  obtain ⟨next', hsame, hnone, hsome⟩ := Integrator.removeInterface_cases start key
  obtain rfl : next = next' := by
    rw [hremove] at hsame
    cases hsame
    rfl
  have hnot (result : Except Error (Option VirtualMachineInterface)) :
      ¬ ToldOf fresh gone a (r.log ++ [(.first, ⟨.getVmi key, result⟩)]) :=
    mt (toldOf_append_of_ne (by simp)).mp htold
  have hresult : (Controller.answer (.getVmi key) r.controller).1 =
      .ok (Keyed.get? key r.controller.vmis) := rfl
  refine hr.callBy ?_ ((hr.stage .second).callBy_first rfl (by simp))
  cases hvmi : Keyed.get? key r.controller.vmis with
  | none =>
      rw [hresult, hvmi, hnone]
      exact Leaving.looking (.here (Or.inl rfl)) (hnot _)
  | some vmi =>
      rw [hresult, hvmi]
      refine Leaving.deleting (hsome vmi) (hnot _) ?_
      change (Keyed.get? key r.controller.vmis).isSome = true
      rw [hvmi]
      rfl

/-- The port that goes has its interface deleted, which may have been asked for since. -/
theorem Underway.first_deletes (hr : Underway start source gone fresh a project key r)
    (htold : ¬ ToldOf fresh gone a r.log)
    (hheld : (Keyed.get? key r.controller.vmis).isSome = true) :
    Underway start source gone fresh a project key (r.callBy .first (.deleteVmi key) .done) := by
  have hgone : Keyed.get? key (Controller.answer (.deleteVmi key) r.controller).2.vmis = none := by
    simp [Controller.answer, Controller.deleteVmi, Keyed.get?_erase]
  have hcalls {log : List (Side × Exchange)} {result : Except Error Unit} :
      (Side.second, Call.getVmi key) ∈ Race.calls (log ++ [(.first, ⟨.deleteVmi key, result⟩)]) ↔
        (Side.second, Call.getVmi key) ∈ Race.calls log :=
    mem_calls_append_of_ne (by simp)
  refine hr.callBy (Leaving.looking (.here (Or.inl rfl))
    (mt (toldOf_append_of_ne (by simp)).mp htold)) ?_
  cases hr.stage .second with
  | asking tag hplan hasked => exact Arriving.asking tag hplan (mt hcalls.mp hasked)
  | creating hplan hasked hnone hkept =>
      rw [hnone] at hheld
      cases hheld
  | settled hplan hasked hkept =>
      refine Arriving.settled hplan (hcalls.mpr hasked) ?_
      have hdeleted : DeletedSinceAsked key
          (r.log ++ [(.first, ⟨.deleteVmi key, .ok ()⟩)]) :=
        deletedSinceAsked_append.mpr (Or.inr ⟨hasked, rfl⟩)
      exact iff_of_false (by simp [hgone]) (not_not_intro hdeleted)

theorem Underway.callBy_first (hr : Underway start source gone fresh a project key r)
    (hfirst : r.first = .call c next) :
    Underway start source gone fresh a project key (r.callBy .first c next) := by
  have hquiet (hc : c.Aside) : Arriving start source a project key
      (Controller.answer c r.controller).2
      (r.log ++ [(.first, ⟨c, (Controller.answer c r.controller).1⟩)]) r.second :=
    (hr.stage .second).callBy_first (Controller.answer_vmis_of_aside hc _) (hc.ne id)
  have hleaving : Leaving start source gone fresh a key r.controller r.log r.first :=
    hr.stage .first
  rw [hfirst] at hleaving
  cases hleaving with
  | asking next' hplan hnext hsilent =>
      cases hplan
      exact hr.first_asks hnext hsilent
  | keeping hplan hkept =>
      cases hplan with
      | here hq => cases hq
      | call hc hnext =>
          refine hr.callBy (Leaving.keeping (hnext _ hr.inventory) ?_) (hquiet hc)
          rw [mem_calls_append_of_aside hc id]
          exact hkept
  | looking hplan htold =>
      cases hplan with
      | here hq =>
          rcases hq with hq | hq
          · cases hq
          · have hcall : c = .getVmi key := by
              cases hq
              rfl
            subst hcall
            exact hr.first_looks htold hq.symm
      | call hc hnext =>
          refine hr.callBy (Leaving.looking (hnext _ hr.inventory) ?_) (hquiet hc)
          exact mt (toldOf_append_of_ne fun _ _ => hc.ne id).mp htold
  | deleting hplan htold hheld =>
      cases hplan with
      | here hq =>
          cases hq
          exact hr.first_deletes htold hheld
      | call hc hnext =>
          refine hr.callBy (Leaving.deleting (hnext _ hr.inventory) ?_ ?_) (hquiet hc)
          · exact mt (toldOf_append_of_ne fun _ _ => hc.ne id).mp htold
          · rw [Controller.answer_vmis_of_aside hc]
            exact hheld

theorem deletedSinceAsked_second {x : Exchange} :
    DeletedSinceAsked key (log ++ [(Side.second, x)]) ↔ DeletedSinceAsked key log :=
  deletedSinceAsked_append_of_ne (by simp)

/-- The port that comes looks whether its interface is there. -/
theorem Underway.second_looks (hr : Underway start source gone fresh a project key r)
    (hasked : (Side.second, Call.getVmi key) ∉ Race.calls r.log)
    {next : Except Error (Option VirtualMachineInterface) → Plan Unit}
    (hsome : ∀ vmi, next (.ok (some vmi)) = pure ())
    (hnone : (next (.ok none)).Until start Call.Aside fun q =>
      ∃ vmi : VirtualMachineInterface, vmi.fqName = key ∧ q = Plan.ask (.createVmi vmi)) :
    Underway start source gone fresh a project key (r.callBy .second (.getVmi key) next) := by
  have hlooked (result : Except Error (Option VirtualMachineInterface)) :
      (Side.second, Call.getVmi key) ∈
        Race.calls (r.log ++ [(.second, ⟨.getVmi key, result⟩)]) := by
    simp
  have hkept (result : Except Error (Option VirtualMachineInterface)) :
      ¬ DeletedSinceAsked key (r.log ++ [(.second, ⟨.getVmi key, result⟩)]) := by
    rw [deletedSinceAsked_second]
    exact fun hdeleted => hasked hdeleted.asked
  have hresult : (Controller.answer (.getVmi key) r.controller).1 =
      .ok (Keyed.get? key r.controller.vmis) := rfl
  have hsame : (Controller.answer (.getVmi key) r.controller).2 = r.controller := rfl
  refine hr.callBy ?_ ((hr.stage .first).callBy_second id)
  cases hvmi : Keyed.get? key r.controller.vmis with
  | none =>
      rw [hresult, hsame, hvmi]
      exact Arriving.creating hnone (hlooked _) hvmi (hkept _)
  | some vmi =>
      rw [hresult, hsame, hvmi, hsome]
      refine Arriving.settled rfl (hlooked _) (iff_of_true ?_ (hkept _))
      rw [hvmi]
      rfl

/-- The port that comes has its interface created. -/
theorem Underway.second_creates (hr : Underway start source gone fresh a project key r)
    (hasked : (Side.second, Call.getVmi key) ∈ Race.calls r.log)
    (hnone : Keyed.get? key r.controller.vmis = none) (hkept : ¬ DeletedSinceAsked key r.log)
    {vmi : VirtualMachineInterface} (hkey : vmi.fqName = key) :
    Underway start source gone fresh a project key (r.callBy .second (.createVmi vmi) .done) := by
  have hheld : (Keyed.get? key
      (Controller.answer (.createVmi vmi) r.controller).2.vmis).isSome = true := by
    change (Keyed.get? key (r.controller.createVmi vmi).vmis).isSome = true
    simp [Controller.get?_createVmi, hnone, hkey]
  refine hr.callBy (Arriving.settled rfl ?_ ?_) ((hr.stage .first).callBy_second fun _ => hheld)
  · rw [mem_calls_append_of_ne (by simp)]
    exact hasked
  · rw [deletedSinceAsked_second]
    exact iff_of_true hheld hkept

variable (h : Handover source start gone fresh a project)
variable (hkey : key = project.fqName ++ [a.interfaceName])
include h hkey

theorem Underway.callBy_second (hr : Underway start source gone fresh a project key r)
    (hsecond : r.second = .call c next) :
    Underway start source gone fresh a project key (r.callBy .second c next) := by
  have hquiet (hc : c.Aside) : Leaving start source gone fresh a key
      (Controller.answer c r.controller).2
      (r.log ++ [(.second, ⟨c, (Controller.answer c r.controller).1⟩)]) r.first := by
    refine (hr.stage .first).callBy_second fun hheld => ?_
    rwa [Controller.answer_vmis_of_aside hc]
  have harriving : Arriving start source a project key r.controller r.log r.second :=
    hr.stage .second
  rw [hsecond] at harriving
  cases harriving with
  | asking tag hplan hasked =>
      cases hplan with
      | here hq =>
          obtain ⟨next', hmake, hsome, hnone⟩ := h.makeInterface_cases hkey tag
          rw [hmake] at hq
          cases hq
          exact hr.second_looks hasked hsome hnone
      | call hc hnext =>
          refine hr.callBy (Arriving.asking tag (hnext _ hr.inventory) ?_) (hquiet hc)
          rw [mem_calls_append_of_aside hc id]
          exact hasked
  | creating hplan hasked hnone hkept =>
      cases hplan with
      | here hq =>
          obtain ⟨vmi, hname, hq⟩ := hq
          cases hq
          exact hr.second_creates hasked hnone hkept hname
      | call hc hnext =>
          refine hr.callBy (Arriving.creating (hnext _ hr.inventory) ?_ ?_ ?_) (hquiet hc)
          · simp [hasked]
          · rw [Controller.answer_vmis_of_aside hc]
            exact hnone
          · rw [deletedSinceAsked_second]
            exact hkept
  | settled hplan hasked hheld => cases hplan

/-- Every run keeps both handlings under way. -/
theorem Underway.play (moves : List Move) :
    Underway start source gone fresh a project key
      ((Race.handover source gone fresh start).play moves) := by
  refine Race.play_invariant ?_ ?_ ?_ moves
  · rintro r (_ | _) c next hr hplan
    · exact hr.callBy_first hplan
    · exact hr.callBy_second h hkey hplan
  · intro r ports hr
    apply hr.listing ports
    rintro (_ | _)
    · exact Leaving.mono (hr.stage .first) id fun _ => id
    · exact Arriving.mono (hr.stage .second) rfl Iff.rfl Iff.rfl
  · have hsilent : ¬ ToldOf fresh gone a [] := by
      rintro ⟨-, ports, -, hmem⟩
      cases hmem
    obtain ⟨tag, hcreate⟩ := h.create_until
    refine ⟨rfl, ?_⟩
    rintro (_ | _)
    · rcases h.handle_deleted_cases hkey with hremove | ⟨next, hplan, hnext⟩
      · exact Leaving.looking (hremove.mono fun _ => Or.inr) hsilent
      · exact Leaving.asking next hplan hnext fun x => List.not_mem_nil
    · exact Arriving.asking tag hcreate (by simp [Race.calls, Race.handover])

end Steps

/-! ## The end of a handover -/

theorem Integration.Plan.Until.target_of_result? {α : Type} {start : Controller}
    {allowed : Call → Prop} {target : Plan α → Prop} {p : Plan α} {result : Except Error α}
    (hp : p.Until start allowed target) (hresult : p.result? = some result) : target p := by
  cases hp with
  | here hq => exact hq
  | call hc hnext => cases hresult

namespace Controller

/-- However the calls of both handlings follow each other, the interface is there in the end
unless it was deleted after the port that comes had asked for it. It is there if the port that
comes was listed when the port that goes asked. -/
theorem held_iff_not_deletedSinceAsked {source : LinkSource} {start : Controller}
    {gone fresh : Neutron.Port} {a : Attachment} {project : Project}
    (h : Handover source start gone fresh a project) (moves : List Move)
    {leaving arriving : Except Error Unit} :
    let key := project.fqName ++ [a.interfaceName]
    let final := (Race.handover source gone fresh start).play moves
    final.first.result? = some leaving → final.second.result? = some arriving →
      leaving = .ok () ∧ arriving = .ok () ∧
      ((Keyed.get? key final.controller.vmis).isSome = true ↔
        ¬ DeletedSinceAsked key final.log) ∧
      (ToldOf fresh gone a final.log → (Keyed.get? key final.controller.vmis).isSome = true) := by
  intro key final hfirst hsecond
  have hunderway : Underway start source gone fresh a project key final :=
    Underway.play h rfl moves
  obtain ⟨harriving, hheld⟩ : final.second = pure () ∧
      ((Keyed.get? key final.controller.vmis).isSome = true ↔
        ¬ DeletedSinceAsked key final.log) := by
    have hstage : Arriving start source a project key final.controller final.log final.second :=
      hunderway.stage .second
    cases hstage with
    | asking tag hplan hasked =>
        rw [hplan.target_of_result? hsecond] at hsecond
        cases hsecond
    | creating hplan hasked hnone hkept =>
        obtain ⟨vmi, -, hask⟩ := hplan.target_of_result? hsecond
        rw [hask] at hsecond
        cases hsecond
    | settled hplan hasked hheld => exact ⟨hplan, hheld⟩
  obtain ⟨hleaving, htold⟩ : final.first = pure () ∧
      (ToldOf fresh gone a final.log → ¬ DeletedSinceAsked key final.log) := by
    have hstage : Leaving start source gone fresh a key final.controller final.log final.first :=
      hunderway.stage .first
    cases hstage with
    | asking next hplan hnext hsilent =>
        rw [hplan] at hfirst
        cases hfirst
    | keeping hplan hkept =>
        exact ⟨hplan.target_of_result? hfirst, fun _ hdeleted => hkept hdeleted.deleted⟩
    | looking hplan htold =>
        rcases hplan.target_of_result? hfirst with hdone | hremove
        · exact ⟨hdone, fun hyes => absurd hyes htold⟩
        · rw [hremove] at hfirst
          cases hfirst
    | deleting hplan htold hthere =>
        rw [hplan.target_of_result? hfirst] at hfirst
        cases hfirst
  rw [hleaving] at hfirst
  rw [harriving] at hsecond
  exact ⟨(Option.some.inj hfirst).symm, (Option.some.inj hsecond).symm, hheld,
    fun hyes => hheld.mpr (htold hyes)⟩

end Controller

/-! ## One interface, two handovers -/

namespace Lab

/-- The interface is there, and the port that it was made for is not listed any more. -/
def orphaned : Controller :=
  { start with vmis := [(adminName, { fqName := adminName })] }

theorem handover : Handover source orphaned adminPort otherAdminPort place admin where
  goneNeeds := by decide +kernel
  freshNeeds := by decide +kernel
  goneProject := Controller.projectOf?_eq_some_iff.mp (by decide +kernel)
  freshProject := Controller.projectOf?_eq_some_iff.mp (by decide +kernel)
  tagged := ⟨_, rfl, by decide +kernel⟩
  virtual := rfl
  profile := ⟨_, Plan.toOption_eq_some_iff.mp rfl⟩

def race : Race := .handover source adminPort otherAdminPort orphaned

/-- The first handling is over before the second one starts. -/
def inTurn : List Move :=
  List.replicate 4 (.turn .first) ++ .listing [otherAdminPort] ::
    List.replicate 7 (.turn .second)

/-- The first handling waits before it deletes the interface. -/
def crossed : List Move :=
  List.replicate 3 (.turn .first) ++ .listing [otherAdminPort] ::
    (List.replicate 3 (.turn .second) ++ [.turn .first])

end Lab

namespace Controller

/-- One after the other, the handlings delete the interface and create it anew. -/
theorem interface_created_anew :
    let final := Lab.race.play Lab.inTurn
    final.first.result? = some (.ok ()) ∧ final.second.result? = some (.ok ()) ∧
      (Race.calls final.log).map (·.2.name) =
        ["get_ports", "get_project", "get_virtual_machine_interface",
          "delete_virtual_machine_interface", "get_network", "get_project",
          "get_virtual_machine_interface", "get_virtual_network",
          "read_fabric_name_from_switch", "read_pi_from_switch",
          "create_virtual_machine_interface"] ∧
      ¬ DeletedSinceAsked Lab.adminName final.log ∧
      (Keyed.get? Lab.adminName final.controller.vmis).isSome = true := by
  intro final
  have hfirst : final.first.result? = some (.ok ()) := by decide +kernel
  have hsecond : final.second.result? = some (.ok ()) := by decide +kernel
  have hheld : (Keyed.get? Lab.adminName final.controller.vmis).isSome = true := by
    decide +kernel
  obtain ⟨-, -, hiff, -⟩ :=
    held_iff_not_deletedSinceAsked Lab.handover Lab.inTurn hfirst hsecond
  exact ⟨hfirst, hsecond, by decide +kernel, hiff.mp hheld, hheld⟩

/-- The interface of a port that is listed before its handling starts can be lost. -/
theorem interface_lost_in_handover :
    ¬ ∀ (source : LinkSource) (start : Controller) (gone fresh : Neutron.Port)
      (a : Attachment) (project : Project) (ports : List Neutron.Port)
      (earlier later : List Move),
      Handover source start gone fresh a project → fresh.id ≠ gone.id →
      gone ∉ start.corePorts → gone ∉ ports → fresh ∈ ports →
      (∀ m ∈ earlier, m = .turn .first) →
      (∀ m ∈ later, m = .turn .first ∨ m = .turn .second) →
      let final := (Race.handover source gone fresh start).play
        (earlier ++ .listing ports :: later)
      final.first.result? = some (.ok ()) → final.second.result? = some (.ok ()) →
      (Keyed.get? (project.fqName ++ [a.interfaceName]) final.controller.vmis).isSome =
        true := by
  intro hclaim
  have hheld := hclaim Lab.source Lab.orphaned Lab.adminPort Lab.otherAdminPort
    Lab.place Lab.admin [Lab.otherAdminPort] (List.replicate 3 (.turn .first))
    (List.replicate 3 (.turn .second) ++ [.turn .first])
    Lab.handover (by decide) (by decide) (by decide) (by decide) (by decide) (by decide)
    (by decide +kernel) (by decide +kernel)
  have hlost : (Keyed.get? Lab.adminName
      (Lab.race.play Lab.crossed).controller.vmis).isSome = false := by decide +kernel
  rw [← Bool.not_eq_true] at hlost
  exact hlost hheld

end Controller

end VlanBinding
