import VlanBinding.Proofs.Commutation
import VlanBinding.Proofs.Handover

/-!
Two ports go at the same time, and their interfaces are in one port group. Each handling reads the
group, writes back its list of references without its own interface, and has the interface deleted.
Nothing tells a handling that the group was written since it read it.
Main statement: the group is without both references in the end if one handling read it after the
other one had written it. If neither did, the reference to the interface of the one that wrote
first is there again.
-/

namespace VlanBinding

open VlanBinding.Fabric VlanBinding.Integration

/-! ## Both sides at once -/

namespace Race

/-- The sides, each with the name of the operation that it asked for. -/
def turns (log : List (Side × Exchange)) : List (Side × String) :=
  log.map fun turn => (turn.1, turn.2.call.name)

section Calls

variable {side : Side} {c : Call}

@[simp]
theorem turns_append_singleton (log : List (Side × Exchange)) (x : Exchange) :
    turns (log ++ [(side, x)]) = turns log ++ [(side, x.call.name)] := by
  simp [turns]

theorem mem_turns_of_mem_calls {log : List (Side × Exchange)}
    (hmem : (side, c) ∈ calls log) : (side, c.name) ∈ turns log := by
  obtain ⟨x, hx, rfl⟩ := mem_calls.mp hmem
  exact List.mem_map.mpr ⟨_, hx, rfl⟩

end Calls

/-- The handlings of two ports that go, with no call made yet. -/
def departures (source : LinkSource) (gone : Side → Neutron.Port) (start : Controller) :
    Race where
  first := (Integrator.enabled source).handle (.deleted (gone .first))
  second := (Integrator.enabled source).handle (.deleted (gone .second))
  controller := start

end Race

/-! ## Who read and wrote the group when -/

/-- The handling of a side wrote the port group. -/
def Wrote (side : Side) (log : List (Side × Exchange)) : Prop :=
  (side, "update_virtual_port_group") ∈ Race.turns log

/-- The handling of a side had an interface deleted. -/
def Deleted (side : Side) (log : List (Side × Exchange)) : Prop :=
  (side, "delete_virtual_machine_interface") ∈ Race.turns log

/-- The handling of a side read the port group as the other one had written it. -/
def Saw (side : Side) (log : List (Side × Exchange)) : Prop :=
  [(side.other, "update_virtual_port_group"), (side, "get_virtual_port_group")].Sublist
    (Race.turns log)

/-- Both handlings wrote the port group, and that of a side was the last one. -/
def WroteLast (side : Side) (log : List (Side × Exchange)) : Prop :=
  [(side.other, "update_virtual_port_group"), (side, "update_virtual_port_group")].Sublist
    (Race.turns log)

/-- One of the handlings read the port group after the other one had written it. -/
def InTurn (log : List (Side × Exchange)) : Prop := ∃ side, Saw side log

section Logs

variable {s side : Side} {log : List (Side × Exchange)} {x : Exchange}

theorem Saw.wrote (h : Saw side log) : Wrote side.other log :=
  h.subset List.mem_cons_self

theorem wrote_append : Wrote s (log ++ [(side, x)]) ↔
    Wrote s log ∨ s = side ∧ "update_virtual_port_group" = x.call.name := by
  simp [Wrote]

theorem deleted_append : Deleted s (log ++ [(side, x)]) ↔
    Deleted s log ∨ s = side ∧ "delete_virtual_machine_interface" = x.call.name := by
  simp [Deleted]

theorem saw_append : Saw s (log ++ [(side, x)]) ↔
    Saw s log ∨ Wrote s.other log ∧ s = side ∧ "get_virtual_port_group" = x.call.name := by
  rw [Saw, Race.turns_append_singleton, pair_sublist_append_singleton, Prod.mk.injEq]
  rfl

theorem wroteLast_append : WroteLast s (log ++ [(side, x)]) ↔
    WroteLast s log ∨
      Wrote s.other log ∧ s = side ∧ "update_virtual_port_group" = x.call.name := by
  rw [WroteLast, Race.turns_append_singleton, pair_sublist_append_singleton, Prod.mk.injEq]
  rfl

theorem wrote_append_of_ne (hne : x.call.name ≠ "update_virtual_port_group") :
    Wrote s (log ++ [(side, x)]) ↔ Wrote s log := by
  simp [wrote_append, hne.symm]

theorem saw_append_of_ne (hne : x.call.name ≠ "get_virtual_port_group") :
    Saw s (log ++ [(side, x)]) ↔ Saw s log := by
  simp [saw_append, hne.symm]

/-- Calls of one side change nothing of what the other side did. -/
theorem wrote_append_other :
    Wrote side.other (log ++ [(side, x)]) ↔ Wrote side.other log := by
  simp [wrote_append, side.other_ne]

theorem deleted_append_other :
    Deleted side.other (log ++ [(side, x)]) ↔ Deleted side.other log := by
  simp [deleted_append, side.other_ne]

theorem saw_append_other : Saw side.other (log ++ [(side, x)]) ↔ Saw side.other log := by
  simp [saw_append, side.other_ne]

end Logs

/-! ## The port group -/

/-- What the stored port group has become of the one at the start. -/
inductive Reduced (group : VirtualPortGroup) (vmi : Side → VirtualMachineInterface)
    (log : List (Side × Exchange)) : VirtualPortGroup → Prop
  | untouched (hwrote : ∀ s, ¬ Wrote s log) : Reduced group vmi log group
  | once (side : Side) (hwrote : Wrote side log) (hother : ¬ Wrote side.other log) :
      Reduced group vmi log (group.detach (vmi side))
  | both (hsaw : InTurn log) (hwrote : ∀ s, Wrote s log) :
      Reduced group vmi log ((group.detach (vmi .first)).detach (vmi .second))
  | overwritten (side : Side) (hsaw : ¬ InTurn log) (hlast : WroteLast side log) :
      Reduced group vmi log (group.detach (vmi side))

theorem Fabric.VirtualPortGroup.detach_comm (group : VirtualPortGroup)
    (v w : VirtualMachineInterface) :
    (group.detach v).detach w = (group.detach w).detach v :=
  VirtualPortGroup.keep_comm (fun ref => !VirtualPortGroup.denotes ref v)
    (fun ref => !VirtualPortGroup.denotes ref w) group

section Groups

variable {group g : VirtualPortGroup} {vmi : Side → VirtualMachineInterface}
variable {side : Side} {log : List (Side × Exchange)} {x : Exchange}

/-- A call that does not write the port group leaves it reduced as far as it is. It may read it
if its side has not written it. -/
theorem Reduced.append_of_ne (h : Reduced group vmi log g)
    (hupdate : x.call.name ≠ "update_virtual_port_group")
    (hget : x.call.name = "get_virtual_port_group" → ¬ Wrote side log) :
    Reduced group vmi (log ++ [(side, x)]) g := by
  have hsame : ∀ s, Wrote s (log ++ [(side, x)]) ↔ Wrote s log :=
    fun s => wrote_append_of_ne hupdate
  have hseen : (∀ s, Wrote s log) → (InTurn (log ++ [(side, x)]) ↔ InTurn log) := by
    intro hwrote
    refine exists_congr fun s => ?_
    rw [saw_append, or_iff_left_iff_imp]
    rintro ⟨-, rfl, hname⟩
    exact absurd (hwrote s) (hget hname.symm)
  cases h with
  | untouched hwrote => exact .untouched fun s => mt (hsame s).mp (hwrote s)
  | once other hwrote hother => exact .once other ((hsame _).mpr hwrote) (mt (hsame _).mp hother)
  | both hsaw hwrote => exact .both ((hseen hwrote).mpr hsaw) fun s => (hsame s).mpr (hwrote s)
  | overwritten last hsaw hlast =>
      have hwrote : ∀ s, Wrote s log := by
        intro s
        rcases s.eq_or_eq_other last with rfl | rfl
        · exact hlast.subset (List.mem_cons_of_mem _ List.mem_cons_self)
        · exact hlast.subset List.mem_cons_self
      exact .overwritten last (mt (hseen hwrote).mp hsaw) (wroteLast_append.mpr (Or.inl hlast))

/-- What a side that has not written the port group finds in it. -/
theorem Reduced.read (h : Reduced group vmi log g) (hown : ¬ Wrote side log) :
    (Wrote side.other log → g = group.detach (vmi side.other)) ∧
      (¬ Wrote side.other log → g = group) := by
  cases h with
  | untouched hwrote => exact ⟨fun hyes => absurd hyes (hwrote _), fun _ => rfl⟩
  | once writer hwrote hother =>
      rcases writer.eq_or_eq_other side with rfl | rfl
      · exact absurd hwrote hown
      · exact ⟨fun _ => rfl, fun hno => absurd hwrote hno⟩
  | both hsaw hwrote => exact absurd (hwrote side) hown
  | overwritten last hsaw hlast =>
      rcases side.eq_or_eq_other last with rfl | rfl
      · exact absurd (hlast.subset (List.mem_cons_of_mem _ List.mem_cons_self)) hown
      · exact absurd (hlast.subset List.mem_cons_self) hown

/-- A side writes back what it read, without its own interface. -/
theorem Reduced.write (hown : ¬ Wrote side log)
    (hsaw : Saw side log → g = group.detach (vmi side.other))
    (hnot : ¬ Saw side log → g = group) (hname : x.call.name = "update_virtual_port_group") :
    Reduced group vmi (log ++ [(side, x)]) (g.detach (vmi side)) := by
  have hseen : ∀ s, Saw s (log ++ [(side, x)]) ↔ Saw s log :=
    fun s => saw_append_of_ne (by simp [hname])
  have hwrote : Wrote side (log ++ [(side, x)]) :=
    wrote_append.mpr (Or.inr ⟨rfl, hname.symm⟩)
  have hother : ¬ Saw side.other log := by
    intro h
    exact hown (by simpa using h.wrote)
  by_cases hfirst : Wrote side.other log
  · by_cases hread : Saw side log
    · have hboth : (group.detach (vmi side.other)).detach (vmi side) =
          (group.detach (vmi .first)).detach (vmi .second) := by
        cases side with
        | first => exact VirtualPortGroup.detach_comm _ _ _
        | second => rfl
      rw [hsaw hread, hboth]
      refine .both ⟨side, (hseen side).mpr hread⟩ fun s => ?_
      rcases s.eq_or_eq_other side with rfl | rfl
      · exact hwrote
      · exact wrote_append_other.mpr hfirst
    · rw [hnot hread]
      refine .overwritten side ?_ (wroteLast_append.mpr (Or.inr ⟨hfirst, rfl, hname.symm⟩))
      rintro ⟨s, hs⟩
      rcases s.eq_or_eq_other side with rfl | rfl
      · exact hread ((hseen _).mp hs)
      · exact hother ((hseen _).mp hs)
  · have hread : ¬ Saw side log := fun h => hfirst h.wrote
    rw [hnot hread]
    exact .once side hwrote (mt wrote_append_other.mp hfirst)

end Groups

/-! ## Up to the interface -/

/-- Calls about what the operators set up, and about Neutron's ports. -/
def Integration.Call.Quiet (c : Call) : Prop := c.asksInventory ∨ c.listsPorts = true

theorem Integration.Call.Quiet.name_ne {c : Call} (hc : c.Quiet) :
    c.name ≠ "get_virtual_port_group" ∧ c.name ≠ "update_virtual_port_group" ∧
      c.name ≠ "delete_virtual_machine_interface" := by
  cases c with
  | getVmi | createVmi | deleteVmi | getPortGroup | updatePortGroup =>
      rcases hc with hc | hc
      · exact hc.elim
      · cases hc
  | _ => simp [Call.name]

theorem Controller.answer_state_of_quiet {c : Call} (hc : c.Quiet) (s : Controller) :
    (answer c s).2 = s := by
  refine answer_state_of_read c s ?_
  cases c with
  | createVmi | deleteVmi | updatePortGroup =>
      rcases hc with hc | hc
      · exact hc.elim
      · cases hc
  | _ => rfl

namespace Integration.Integrator

variable {source : LinkSource} {start : Controller} {port : Neutron.Port} {x : Need}

theorem remove_until (hneed : start.need? source port = some x) :
    ((enabled source).remove port).Until start Call.Quiet fun q =>
      q = removeInterface x.fqName := by
  obtain ⟨ha, project, hproject, howner⟩ := Controller.need?_eq_some_iff.mp hneed
  have hmanaged := congrArg Prod.fst (Controller.answer_managed? source port start)
  rw [ha] at hmanaged
  refine Plan.Until.inventory_bind (managed?_within (fun _ => trivial) source port)
    (fun _ => Or.inl) hmanaged ?_
  refine Plan.Until.inventory_bind (Controller.projectOf_strict port).within
    (fun _ => Or.inl) (congrArg Prod.fst (Controller.perform_projectOf_of_some hproject)) ?_
  refine .here ?_
  rw [howner, Need.fqName]

/-- A port that goes gets to its interface, unless another port needs it. -/
theorem handle_deleted_until (hneed : start.need? source port = some x) :
    ((enabled source).handle (.deleted port)).Until start Call.Quiet fun q =>
      q = pure () ∨ q = removeInterface x.fqName := by
  have hremove : ((enabled source).remove port).Until start Call.Quiet fun q =>
      q = pure () ∨ q = removeInterface x.fqName :=
    (remove_until hneed).mono fun _ => Or.inr
  simp only [handle, isEnabled, Bool.not_true, Bool.false_eq_true, ↓reduceIte]
  rcases neededByOther_cases (enabled source) port port.id with hplan | ⟨network, host, hplan⟩
  · rw [hplan]
    exact hremove
  · rw [hplan, bind_assoc]
    refine Plan.Until.ask_bind (Or.inr rfl) fun s _ => ⟨s.portsOf network host, rfl, ?_⟩
    have hresult := congrArg Prod.fst (Controller.perform_anyTagged [] source
      ((s.portsOf network host).filter fun other => other.id ≠ port.id) start)
    refine Plan.Until.inventory_bind (anyTagged_within (fun _ => trivial) _ _)
      (fun _ => Or.inl) hresult ?_
    split
    · exact .here (Or.inl rfl)
    · exact hremove

end Integration.Integrator

/-! ## Two handlings under way -/

/-- Two ports go whose interfaces, which are different ones, are in one port group. -/
structure Departures (source : LinkSource) (start : Controller) (gone : Side → Neutron.Port)
    (need : Side → Need) (vmi : Side → VirtualMachineInterface) (group : VirtualPortGroup) :
    Prop where
  needed : ∀ side, start.need? source (gone side) = some (need side)
  stored : ∀ side, Keyed.get? (need side).fqName start.vmis = some (vmi side)
  distinct : (need .first).fqName ≠ (need .second).fqName
  bonded : ∀ side, ∃ ref rest, (vmi side).portGroupBackRefs = ref :: rest ∧
    ref.uuid = group.uuid
  grouped : Keyed.get? group.uuid start.groups = some group

/-- How far the handling of one of the ports is. -/
inductive Departing (start : Controller) (group : VirtualPortGroup) (key : FqName)
    (vmi : Side → VirtualMachineInterface) (side : Side) (s : Controller)
    (log : List (Side × Exchange)) (p : Plan Unit) : Prop
  | looking
      (hplan : p.Until start Call.Quiet fun q =>
        q = pure () ∨ q = Integrator.removeInterface key)
      (hstored : Keyed.get? key s.vmis = some (vmi side))
      (hwrote : ¬ Wrote side log) (hdeleted : ¬ Deleted side log)
  | reading
      (hplan : p = Integrator.detach (vmi side) >>= fun _ => Plan.ask (.deleteVmi key))
      (hwrote : ¬ Wrote side log)
  | writing (g : VirtualPortGroup)
      (hplan : p = Plan.ask (.updatePortGroup (g.detach (vmi side))) >>= fun _ =>
        Plan.ask (.deleteVmi key))
      (hwrote : ¬ Wrote side log)
      (hsaw : Saw side log → g = group.detach (vmi side.other))
      (hnot : ¬ Saw side log → g = group)
  | deleting (hplan : p = Plan.ask (.deleteVmi key)) (hwrote : Wrote side log)
  | away (hplan : p = pure ()) (hwrote : Wrote side log)

/-- Both handlings are under way, or over. -/
structure Vacating (start : Controller) (group : VirtualPortGroup) (need : Side → Need)
    (vmi : Side → VirtualMachineInterface) (r : Race) : Prop where
  staged : r.Staged start fun side => Departing start group (need side).fqName vmi side
  reduced : ∃ g, Keyed.get? group.uuid r.controller.groups = some g ∧
    Reduced group vmi r.log g

section Steps

variable {source : LinkSource} {start s t : Controller} {gone : Side → Neutron.Port}
variable {need : Side → Need} {vmi : Side → VirtualMachineInterface}
variable {group : VirtualPortGroup} {key : FqName} {side : Side} {x : Exchange}
variable {log log' : List (Side × Exchange)} {p : Plan Unit} {r : Race} {c : Call}
variable {next : Except Error c.Answer → Plan Unit}

/-- What leaves the interface alone, and is none of the handling's own calls, does not matter. -/
theorem Departing.mono (h : Departing start group key vmi side s log p)
    (hvmis : Keyed.get? key t.vmis = Keyed.get? key s.vmis)
    (hwrote : Wrote side log' ↔ Wrote side log)
    (hdeleted : Deleted side log' ↔ Deleted side log) (hsaw : Saw side log' ↔ Saw side log) :
    Departing start group key vmi side t log' p := by
  cases h with
  | looking hplan hstored hnone hkept =>
      exact .looking hplan (hvmis.trans hstored) (mt hwrote.mp hnone) (mt hdeleted.mp hkept)
  | reading hplan hnone => exact .reading hplan (mt hwrote.mp hnone)
  | writing g hplan hnone hyes hno =>
      exact .writing g hplan (mt hwrote.mp hnone) (hyes ∘ hsaw.mp) (hno ∘ mt hsaw.mpr)
  | deleting hplan hdone => exact .deleting hplan (hwrote.mpr hdone)
  | away hplan hdone => exact .away hplan (hwrote.mpr hdone)

/-- A handling does not mind calls of the other one that leave its interface alone. -/
theorem Departing.callBy_other (h : Departing start group key vmi side.other s log p)
    (hvmis : Keyed.get? key (Controller.answer c s).2.vmis = Keyed.get? key s.vmis)
    {result : Except Error c.Answer} :
    Departing start group key vmi side.other (Controller.answer c s).2
      (log ++ [(side, ⟨c, result⟩)]) p :=
  h.mono hvmis wrote_append_other deleted_append_other saw_append_other

/-- A call that only reads leaves interfaces and port groups alone. -/
theorem Vacating.callBy_of_read (hr : Vacating start group need vmi r)
    (hc : (Controller.answer c r.controller).2 = r.controller)
    (hupdate : c.name ≠ "update_virtual_port_group")
    (hget : c.name = "get_virtual_port_group" → ¬ Wrote side r.log)
    (hown : Departing start group (need side).fqName vmi side r.controller
      (r.log ++ [(side, ⟨c, (Controller.answer c r.controller).1⟩)])
      (next (Controller.answer c r.controller).1)) :
    Vacating start group need vmi (r.callBy side c next) := by
  obtain ⟨g, hstored, hg⟩ := hr.reduced
  refine ⟨hr.staged.callBy (by rwa [hc]) ((hr.staged.stage _).callBy_other (by rw [hc])), g, ?_, ?_⟩
  · rw [Race.controller_callBy, hc]
    exact hstored
  · exact hg.append_of_ne hupdate hget

/-- A side makes a call on the way to its interface, or has got there. -/
theorem Vacating.looks (hr : Vacating start group need vmi r)
    (hplan : (r.plan side).Until start Call.Quiet fun q =>
      q = pure () ∨ q = Integrator.removeInterface (need side).fqName)
    (hstored : Keyed.get? (need side).fqName r.controller.vmis = some (vmi side))
    (hwrote : ¬ Wrote side r.log) (hdeleted : ¬ Deleted side r.log)
    (hcall : r.plan side = .call c next) :
    Vacating start group need vmi (r.callBy side c next) := by
  rw [hcall] at hplan
  cases hplan with
  | here hq =>
      rcases hq with hq | hq
      · cases hq
      · cases hq
        refine hr.callBy_of_read rfl (by simp [Call.name]) (by simp [Call.name]) ?_
        refine .reading ?_ (mt (wrote_append_of_ne (by simp [Call.name])).mp hwrote)
        simp only [Controller.answer, hstored]
        rfl
  | call hc hnext =>
      obtain ⟨hget, hupdate, hdelete⟩ := hc.name_ne
      refine hr.callBy_of_read (Controller.answer_state_of_quiet hc _) hupdate
        (fun h => absurd h hget) ?_
      refine .looking (hnext _ hr.staged.inventory) hstored
        (mt (wrote_append_of_ne hupdate).mp hwrote) ?_
      simpa [deleted_append, hdelete.symm] using hdeleted

variable (h : Departures source start gone need vmi group)
include h

/-- A side reads the port group. -/
theorem Vacating.reads (hr : Vacating start group need vmi r)
    (hplan : r.plan side = Integrator.detach (vmi side) >>= fun _ =>
      Plan.ask (.deleteVmi (need side).fqName))
    (hwrote : ¬ Wrote side r.log) (hcall : r.plan side = .call c next) :
    Vacating start group need vmi (r.callBy side c next) := by
  obtain ⟨ref, rest, hrefs, huuid⟩ := h.bonded side
  obtain ⟨g, hstored, hg⟩ := hr.reduced
  rw [hcall, Integrator.detach, hrefs] at hplan
  cases hplan
  have hsame : ∀ y : Exchange, y.call = .getPortGroup ref.uuid →
      (Saw side (r.log ++ [(side, y)]) ↔ Wrote side.other r.log) := by
    intro y hy
    rw [saw_append, hy]
    exact ⟨fun hsaw => hsaw.elim Saw.wrote And.left, fun hyes => Or.inr ⟨hyes, rfl, rfl⟩⟩
  refine hr.callBy_of_read rfl (by simp [Call.name]) (fun _ => hwrote) ?_
  obtain ⟨hyes, hno⟩ := hg.read hwrote
  refine .writing g ?_ (mt (wrote_append_of_ne (by simp [Call.name])).mp hwrote) ?_ ?_
  · simp only [Controller.answer, huuid, hstored]
    rfl
  · intro hsaw
    exact hyes ((hsame _ rfl).mp hsaw)
  · intro hnot
    exact hno (mt (hsame _ rfl).mpr hnot)

omit h in
/-- A side writes the port group. -/
theorem Vacating.writes (hr : Vacating start group need vmi r) {g : VirtualPortGroup}
    (hplan : r.plan side = Plan.ask (.updatePortGroup (g.detach (vmi side))) >>= fun _ =>
      Plan.ask (.deleteVmi (need side).fqName))
    (hwrote : ¬ Wrote side r.log)
    (hsaw : Saw side r.log → g = group.detach (vmi side.other))
    (hnot : ¬ Saw side r.log → g = group) (hcall : r.plan side = .call c next) :
    Vacating start group need vmi (r.callBy side c next) := by
  rw [hcall] at hplan
  cases hplan
  have hown : (g.detach (vmi side)).uuid = group.uuid := by
    by_cases hread : Saw side r.log
    · rw [hsaw hread]
      rfl
    · rw [hnot hread]
      rfl
  obtain ⟨old, hstored, -⟩ := hr.reduced
  have hread := Controller.get?_updateGroup group.uuid (g.detach (vmi side)) r.controller
    (by simp [Keyed.contains, hown, hstored])
  rw [if_pos hown] at hread
  refine ⟨hr.staged.callBy (.deleting rfl (wrote_append.mpr (Or.inr ⟨rfl, rfl⟩)))
    ((hr.staged.stage _).callBy_other ?_), _, hread, Reduced.write hwrote hsaw hnot rfl⟩
  rw [Controller.answer, Controller.updateGroup_vmis]

/-- A side has its interface deleted, which leaves the one of the other side alone. -/
theorem Vacating.deletes (hr : Vacating start group need vmi r)
    (hplan : r.plan side = Plan.ask (.deleteVmi (need side).fqName))
    (hwrote : Wrote side r.log) (hcall : r.plan side = .call c next) :
    Vacating start group need vmi (r.callBy side c next) := by
  rw [hcall] at hplan
  cases hplan
  have hne : (need side).fqName ≠ (need side.other).fqName := by
    cases side with
    | first => exact h.distinct
    | second => exact h.distinct.symm
  obtain ⟨g, hstored, hg⟩ := hr.reduced
  refine ⟨hr.staged.callBy (.away rfl (wrote_append.mpr (Or.inl hwrote)))
    ((hr.staged.stage _).callBy_other ?_), g, hstored,
    hg.append_of_ne (by simp [Call.name]) (by simp [Call.name])⟩
  simp [Controller.answer, Controller.deleteVmi, Keyed.get?_erase, hne]

theorem Vacating.callBy (hr : Vacating start group need vmi r)
    (hcall : r.plan side = .call c next) :
    Vacating start group need vmi (r.callBy side c next) := by
  cases hr.staged.stage side with
  | looking hplan hstored hwrote hdeleted => exact hr.looks hplan hstored hwrote hdeleted hcall
  | reading hplan hwrote => exact hr.reads h hplan hwrote hcall
  | writing g hplan hwrote hsaw hnot => exact hr.writes hplan hwrote hsaw hnot hcall
  | deleting hplan hwrote => exact hr.deletes h hplan hwrote hcall
  | away hplan hwrote =>
      rw [hcall] at hplan
      cases hplan

/-- Every run keeps both handlings under way. -/
theorem Vacating.play (moves : List Move) :
    Vacating start group need vmi ((Race.departures source gone start).play moves) := by
  refine Race.play_invariant (fun r side c next hr => hr.callBy h) ?_ ?_ moves
  · intro r ports hr
    refine ⟨hr.staged.listing ports fun side => ?_, hr.reduced⟩
    exact (hr.staged.stage side).mono rfl Iff.rfl Iff.rfl Iff.rfl
  · refine ⟨⟨rfl, fun side => ?_⟩, group, h.grouped, .untouched fun s => List.not_mem_nil⟩
    have hplan : (Race.departures source gone start).plan side =
        (Integrator.enabled source).handle (.deleted (gone side)) := by
      cases side <;> rfl
    rw [hplan]
    exact .looking (Integrator.handle_deleted_until (h.needed side)) (h.stored side)
      List.not_mem_nil List.not_mem_nil

end Steps

/-! ## The end of both handlings -/

/-- A handling that is over has had its interface deleted, or never looked for it. -/
theorem Departing.away_of_result? {start s : Controller} {group : VirtualPortGroup}
    {key : FqName} {vmi : Side → VirtualMachineInterface} {side : Side}
    {log : List (Side × Exchange)} {p : Plan Unit} {result : Except Error Unit}
    (h : Departing start group key vmi side s log p) (hresult : p.result? = some result)
    (hdeleted : Deleted side log) : result = .ok () ∧ Wrote side log := by
  cases h with
  | looking hplan hstored hwrote hkept => exact absurd hdeleted hkept
  | reading hplan hwrote =>
      rw [hplan, Integrator.detach] at hresult
      cases hrefs : (vmi side).portGroupBackRefs with
      | nil =>
          rw [hrefs] at hresult
          cases hresult
      | cons ref rest =>
          rw [hrefs] at hresult
          cases hresult
  | writing g hplan hwrote hsaw hnot =>
      rw [hplan] at hresult
      cases hresult
  | deleting hplan hwrote =>
      rw [hplan] at hresult
      cases hresult
  | away hplan hwrote =>
      rw [hplan] at hresult
      exact ⟨(Option.some.inj hresult).symm, hwrote⟩

namespace Controller

/-- However the calls of both handlings follow each other, both succeed. The port group is without
both references if one handling read it after the other one had written it, and else without the
reference of the one that wrote last. All other references stay as they are. -/
theorem group_after_departures {source : LinkSource} {start : Controller}
    {gone : Side → Neutron.Port} {need : Side → Need} {vmi : Side → VirtualMachineInterface}
    {group : VirtualPortGroup} (h : Departures source start gone need vmi group)
    (moves : List Move) {result : Side → Except Error Unit} :
    let final := (Race.departures source gone start).play moves
    (∀ side, (final.plan side).result? = some (result side)) →
    (∀ side, (side, Call.deleteVmi (need side).fqName) ∈ Race.calls final.log) →
      (∀ side, result side = .ok ()) ∧
      ∃ left, Keyed.get? group.uuid final.controller.groups = some left ∧
        (InTurn final.log → left = group.keep fun ref =>
          !VirtualPortGroup.denotes ref (vmi .first) &&
            !VirtualPortGroup.denotes ref (vmi .second)) ∧
        (¬ InTurn final.log → ∃ side, WroteLast side final.log ∧
          left = group.keep fun ref => !VirtualPortGroup.denotes ref (vmi side)) := by
  intro final hresult hdeleted
  have hvacating : Vacating start group need vmi final := Vacating.play h moves
  have hover : ∀ side, result side = .ok () ∧ Wrote side final.log := by
    intro side
    exact (hvacating.staged.stage side).away_of_result? (hresult side)
      (Race.mem_turns_of_mem_calls (hdeleted side))
  refine ⟨fun side => (hover side).1, ?_⟩
  obtain ⟨left, hstored, hleft⟩ := hvacating.reduced
  refine ⟨left, hstored, ?_⟩
  cases hleft with
  | untouched hwrote => exact absurd (hover .first).2 (hwrote .first)
  | once side hwrote hother => exact absurd (hover side.other).2 hother
  | both hsaw hwrote =>
      refine ⟨fun _ => ?_, absurd hsaw⟩
      simp only [VirtualPortGroup.detach, VirtualPortGroup.keep, List.filter_filter,
        Bool.and_comm]
  | overwritten side hsaw hlast => exact ⟨fun hyes => absurd hyes hsaw, fun _ => ⟨side, hlast, rfl⟩⟩

end Controller

/-! ## Two interfaces that leave one port group -/

/-- The interface that a call has deleted. -/
def Integration.Call.deletes? : Call → Option FqName
  | deleteVmi key => some key
  | _ => none

theorem Race.mem_calls_of_deletes? {log : List (Side × Exchange)} {side : Side} {key : FqName}
    (hmem : (side, some key) ∈ log.map fun turn => (turn.1, turn.2.call.deletes?)) :
    (side, Call.deleteVmi key) ∈ Race.calls log := by
  obtain ⟨⟨s, c, answer⟩, hturn, hsame⟩ := List.mem_map.mp hmem
  obtain ⟨rfl, hkey⟩ := Prod.mk.inj hsame
  refine Race.mem_calls.mpr ⟨_, hturn, ?_⟩
  cases c with
  | deleteVmi other => rw [Option.some.inj hkey]
  | _ => cases hkey

namespace Lab

def leaving : Side → Neutron.Port
  | .first => adminPort
  | .second => demoPort

def leavingNeed : Side → Need
  | .first => ⟨admin.fqName, place⟩
  | .second => ⟨demo.fqName, place⟩

def leavingVmi : Side → VirtualMachineInterface
  | .first => bondedVmi "vmi-1" adminName
  | .second => bondedVmi "vmi-2" demoName

/-- The port group that both interfaces are in, and a third one. -/
def bond : VirtualPortGroup :=
  bondOf
    [{ target := adminName, uuid := "vmi-1" },
      { target := ["default-domain", "admin", "storage"], uuid := "vmi-3" },
      { target := demoName, uuid := "vmi-2" }]

def crowded : Controller := { bonded with groups := [("vpg-1", bond)] }

theorem departures : Departures source crowded leaving leavingNeed leavingVmi bond where
  needed := by
    rintro (_ | _)
    · decide +kernel
    · decide +kernel
  stored := by
    rintro (_ | _)
    · rfl
    · rfl
  distinct := by decide +kernel
  bonded := by
    rintro (_ | _)
    · exact ⟨_, _, rfl, rfl⟩
    · exact ⟨_, _, rfl, rfl⟩
  grouped := rfl

/-- The second handling is carried out between the last two calls of the first one. -/
def nested : List Move :=
  List.replicate 5 (.turn .first) ++ List.replicate 6 (.turn .second) ++ [.turn .first]

/-- Both handlings read the port group before either of them writes it. -/
def overlapping : List Move :=
  List.replicate 4 (.turn .first) ++ List.replicate 4 (.turn .second) ++
    List.replicate 2 (.turn .first) ++ List.replicate 2 (.turn .second)

end Lab

namespace Controller

/-- A handling that reads what the other one wrote takes out its reference only. -/
theorem nested_departures_leave_third :
    let final := (Race.departures Lab.source Lab.leaving Lab.crowded).play Lab.nested
    (∀ side, (final.plan side).result? = some (.ok ())) ∧
      (∀ side, (side, Call.deleteVmi (Lab.leavingNeed side).fqName) ∈
        Race.calls final.log) ∧
      InTurn final.log ∧
      ∃ left, Keyed.get? "vpg-1" final.controller.groups = some left ∧
        left.vmiRefs.map (·.uuid) = ["vmi-3"] := by
  intro final
  have hresult : ∀ side, (final.plan side).result? = some (.ok ()) := by
    rintro (_ | _)
    · decide +kernel
    · decide +kernel
  have hdeleted : ∀ side, (side, Call.deleteVmi (Lab.leavingNeed side).fqName) ∈
      Race.calls final.log := by
    rintro (_ | _)
    · exact Race.mem_calls_of_deletes? (by decide +kernel)
    · exact Race.mem_calls_of_deletes? (by decide +kernel)
  have hturn : InTurn final.log := ⟨.second, by unfold Saw; decide +kernel⟩
  obtain ⟨-, left, hstored, hboth, -⟩ :=
    group_after_departures Lab.departures Lab.nested hresult hdeleted
  refine ⟨hresult, hdeleted, hturn, left, hstored, ?_⟩
  rw [hboth hturn]
  decide +kernel

/-- Detachments can undo each other: the reference to an interface that is deleted can be there
in the end. -/
theorem reference_restored_by_overlap :
    ¬ ∀ (source : LinkSource) (start : Controller) (gone : Side → Neutron.Port)
      (need : Side → Need) (vmi : Side → VirtualMachineInterface) (group : VirtualPortGroup)
      (moves : List Move), Departures source start gone need vmi group →
      (∀ m ∈ moves, ∃ side, m = .turn side) →
      let final := (Race.departures source gone start).play moves
      (∀ side, (final.plan side).result? = some (.ok ())) →
      (∀ side, (side, Call.deleteVmi (need side).fqName) ∈ Race.calls final.log) →
      ∃ left, Keyed.get? group.uuid final.controller.groups = some left ∧
        left.vmiRefs = group.vmiRefs.filter fun ref =>
          !VirtualPortGroup.denotes ref (vmi .first) &&
            !VirtualPortGroup.denotes ref (vmi .second) := by
  intro hclaim
  have hturns : ∀ m ∈ Lab.overlapping, ∃ side, m = .turn side := by
    intro m hm
    simp only [Lab.overlapping, List.mem_append, List.mem_replicate] at hm
    rcases hm with ((⟨-, h⟩ | ⟨-, h⟩) | ⟨-, h⟩) | ⟨-, h⟩ <;> exact ⟨_, h⟩
  obtain ⟨left, hstored, hleft⟩ := hclaim Lab.source Lab.crowded Lab.leaving Lab.leavingNeed
    Lab.leavingVmi Lab.bond Lab.overlapping Lab.departures hturns
    (by
      rintro (_ | _)
      · decide +kernel
      · decide +kernel)
    (by
      rintro (_ | _)
      · exact Race.mem_calls_of_deletes? (by decide +kernel)
      · exact Race.mem_calls_of_deletes? (by decide +kernel))
  have hthere : (Keyed.get? Lab.bond.uuid ((Race.departures Lab.source Lab.leaving
      Lab.crowded).play Lab.overlapping).controller.groups).map (·.vmiRefs.map (·.uuid)) =
      some ["vmi-1", "vmi-3"] := by decide +kernel
  rw [hstored, Option.map_some, hleft] at hthere
  revert hthere
  decide +kernel

end Controller

end VlanBinding
