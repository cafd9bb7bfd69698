import VlanBinding.Proofs.Selection

/-!
What the controller tells of the links of a host. Main statement: reading a host comes to the links
of its cabled cards, all of them and in the order in which the node refers to them, or to the first
thing that is wrong with the node; and a call that fails ends it, unless a card read before did.
-/

namespace VlanBinding

open VlanBinding.Integration
open VlanBinding.Fabric (Reference)
open VlanBinding.Topology (Link)

namespace Controller

variable {m : Controller} {host uuid : String} {fault : NodeFault} {read : List String}
  {result : Except Error Topology.Node} {calls : List Call}

/-! ## Cards -/

/-- The cards that the node of a host refers to, by uuid. -/
def cards (m : Controller) (host : String) : List String :=
  (Keyed.get? host m.nodes).elim [] fun node => node.ports.map (·.uuid)

/-- The interface that a card is cabled to, which is the first one that refers back to it. -/
def cable? (m : Controller) (uuid : String) : Option Reference :=
  (Keyed.get? uuid m.ports).bind fun card => card.interfaceBackRefs.head?

def cabled (m : Controller) (uuid : String) : Bool := (m.cable? uuid).isSome

/-- The card can be read. If it is cabled it has a name, and so have the interface at the other end
and its switch. -/
def Sound (m : Controller) (uuid : String) : Prop :=
  ∃ card, Keyed.get? uuid m.ports = some card ∧
    ∀ ref, card.interfaceBackRefs.head? = some ref → 2 ≤ ref.target.length ∧ card.fqName ≠ []

/-- What is wrong with a card; a reference is looked at before the name of the card. -/
inductive Flaw (m : Controller) (uuid : String) : NodeFault → Prop
  | unreadable (hnone : Keyed.get? uuid m.ports = none) : Flaw m uuid (.portUnreadable uuid)
  | malformed {card : Fabric.Port} {ref : Reference} (hcard : Keyed.get? uuid m.ports = some card)
      (href : card.interfaceBackRefs.head? = some ref) (htarget : ref.target.length < 2) :
      Flaw m uuid (.malformedReference ref.target)
  | unnamed {card : Fabric.Port} {ref : Reference} (hcard : Keyed.get? uuid m.ports = some card)
      (href : card.interfaceBackRefs.head? = some ref) (htarget : 2 ≤ ref.target.length)
      (hname : card.fqName = []) : Flaw m uuid (.unnamedPort card.uuid)

/-- The link of a cabled card: the last name of the card, and the last two of the interface. -/
inductive Plugged (m : Controller) (uuid : String) : Link → Prop
  | intro {card : Fabric.Port} {ref : Reference} {own front : List String}
      {name switchName portName : String} (hcard : Keyed.get? uuid m.ports = some card)
      (href : card.interfaceBackRefs.head? = some ref) (hname : card.fqName = own ++ [name])
      (htarget : ref.target = front ++ [switchName, portName]) :
      Plugged m uuid { name := some name, switchName, portName }

theorem Flaw.not_sound (h : m.Flaw uuid fault) : ¬ m.Sound uuid := by
  rintro ⟨card, hcard, hends⟩
  cases h with
  | unreadable hnone => rw [hnone] at hcard; cases hcard
  | malformed hfound href htarget =>
      obtain rfl := Option.some.inj (hfound.symm.trans hcard)
      have hlength := (hends _ href).1
      omega
  | unnamed hfound href htarget hname =>
      obtain rfl := Option.some.inj (hfound.symm.trans hcard)
      exact (hends _ href).2 hname

theorem exists_flaw_of_not_sound (h : ¬ m.Sound uuid) : ∃ fault, m.Flaw uuid fault := by
  cases hcard : Keyed.get? uuid m.ports with
  | none => exact ⟨_, .unreadable hcard⟩
  | some card =>
      have hends : ¬ ∀ ref, card.interfaceBackRefs.head? = some ref →
          2 ≤ ref.target.length ∧ card.fqName ≠ [] := fun hends => h ⟨card, hcard, hends⟩
      push Not at hends
      obtain ⟨ref, href, hbroken⟩ := hends
      by_cases htarget : 2 ≤ ref.target.length
      · exact ⟨_, .unnamed hcard href htarget (hbroken htarget)⟩
      · exact ⟨_, .malformed hcard href (by omega)⟩

/-! ## Reading the cards -/

/-- A sound card that is read adds its link, or none. -/
theorem linkOf?_of_sound (host : String) {card : Fabric.Port} (h : m.Sound uuid)
    (hcard : Keyed.get? uuid m.ports = some card) :
    ∃ link, LinkSource.linkOf? host card = .ok link ∧
      List.Forall₂ m.Plugged ([uuid].filter m.cabled) link.toList := by
  obtain ⟨found, hfound, hends⟩ := h
  obtain rfl := Option.some.inj (hcard.symm.trans hfound)
  have hcabled : m.cabled uuid = card.interfaceBackRefs.head?.isSome := by
    rw [cabled, cable?, hcard, Option.bind_some]
  rw [LinkSource.linkOf?]
  cases href : card.interfaceBackRefs.head? with
  | none =>
      rw [href] at hcabled
      exact ⟨none, rfl, by simp [hcabled]⟩
  | some ref =>
      rw [href] at hcabled
      obtain ⟨htarget, hname⟩ := hends ref href
      have hsplit := Fabric.Reference.parentAndName_isSome_iff.mpr htarget
      obtain ⟨⟨switchName, portName⟩, hpair⟩ := Option.isSome_iff_exists.mp hsplit
      obtain ⟨front, hfront⟩ := Fabric.Reference.parentAndName_eq_some_iff.mp hpair
      obtain ⟨own, name, hown⟩ := (List.eq_nil_or_concat' card.fqName).resolve_left hname
      have hlast : card.fqName.getLast? = some name := by simp [hown]
      have hplugged : m.Plugged uuid { name := some name, switchName, portName } :=
        .intro hcard href hown hfront
      refine ⟨some { name := some name, switchName, portName }, ?_, ?_⟩
      · simp only [hpair, hlast]
      · simpa [hcabled] using hplugged

/-- A flawed card that is read ends the reading. -/
theorem linkOf?_of_flaw (host : String) {card : Fabric.Port} (h : m.Flaw uuid fault)
    (hcard : Keyed.get? uuid m.ports = some card) :
    LinkSource.linkOf? host card = .error (.invalidNode host fault) := by
  rw [LinkSource.linkOf?]
  cases h with
  | unreadable hnone => rw [hnone] at hcard; cases hcard
  | @malformed _ ref hfound href htarget =>
      obtain rfl := Option.some.inj (hfound.symm.trans hcard)
      have hnone : ref.parentAndName = none := by
        rw [← Option.not_isSome_iff_eq_none, Fabric.Reference.parentAndName_isSome_iff]
        omega
      simp only [href, hnone]
  | @unnamed _ ref hfound href htarget hname =>
      obtain rfl := Option.some.inj (hfound.symm.trans hcard)
      have hsplit := Fabric.Reference.parentAndName_isSome_iff.mpr htarget
      obtain ⟨pair, hpair⟩ := Option.isSome_iff_exists.mp hsplit
      simp only [href, hpair, hname, List.getLast?_nil]

/-- Reading goes on after a sound card, and its link goes before those of the cards after it. -/
theorem run_collectLinks_cons_of_sound (host : String) {ref : Reference} (h : m.Sound ref.uuid)
    (rest : List Reference) :
    ∃ (link : Option Link) (found : Except Error (Option Fabric.Port)),
      List.Forall₂ m.Plugged ([ref.uuid].filter m.cabled) link.toList ∧
      let after := (LinkSource.collectLinks host rest).run answer m
      (LinkSource.collectLinks host (ref :: rest)).run answer m =
        ⟨after.result.map (link.toList ++ ·), ⟨.getPort ref.uuid, found⟩ :: after.exchanges,
          after.state⟩ := by
  have ⟨card, hcard, _⟩ := h
  have hanswer : answer (.getPort ref.uuid) m = (.ok (some card), m) := by
    simp only [answer, hcard]
  obtain ⟨link, hlink, hplugged⟩ := linkOf?_of_sound host h hcard
  refine ⟨link, .ok (some card), hplugged, ?_⟩
  have hread : (Plan.ofExcept (LinkSource.linkOf? host card)).run answer m =
      ⟨.ok link, [], m⟩ := by
    rw [hlink]
    rfl
  rw [LinkSource.collectLinks, Plan.run_bind_of_run (Plan.run_ask hanswer)]
  simp only
  rw [Plan.run_bind_of_run hread, Plan.run_bind_pure]
  rfl

theorem run_collectLinks_cons_of_flaw (host : String) {ref : Reference} (h : m.Flaw ref.uuid fault)
    (rest : List Reference) :
    ∃ found : Except Error (Option Fabric.Port),
      (LinkSource.collectLinks host (ref :: rest)).run answer m =
        ⟨.error (.invalidNode host fault), [⟨.getPort ref.uuid, found⟩], m⟩ := by
  have hanswer : answer (.getPort ref.uuid) m = (.ok (Keyed.get? ref.uuid m.ports), m) := rfl
  refine ⟨.ok (Keyed.get? ref.uuid m.ports), ?_⟩
  rw [LinkSource.collectLinks, Plan.run_bind_of_run (Plan.run_ask hanswer)]
  cases hcard : Keyed.get? ref.uuid m.ports with
  | none =>
      cases h with
      | unreadable => rfl
      | malformed hfound | unnamed hfound => rw [hcard] at hfound; cases hfound
  | some card =>
      have hread : (Plan.ofExcept (LinkSource.linkOf? host card)).run answer m =
          ⟨.error (.invalidNode host fault), [], m⟩ := by
        rw [linkOf?_of_flaw host h hcard]
        rfl
      simp only
      rw [Plan.run_bind_of_run_error hread]
      rfl

/-- All cards of a prefix are sound: their links go before what the other cards come to. -/
theorem run_collectLinks_append (host : String) (before : List Reference)
    (hbefore : ∀ ref ∈ before, m.Sound ref.uuid) (rest : List Reference) :
    ∃ (links : List Link) (log : List Exchange),
      List.Forall₂ m.Plugged ((before.map (·.uuid)).filter m.cabled) links ∧
      log.map (·.call) = (before.map (·.uuid)).map .getPort ∧
      let after := (LinkSource.collectLinks host rest).run answer m
      (LinkSource.collectLinks host (before ++ rest)).run answer m =
        ⟨after.result.map (links ++ ·), log ++ after.exchanges, after.state⟩ := by
  induction before with
  | nil =>
      refine ⟨[], [], .nil, rfl, ?_⟩
      intro after
      have hresult : after.result.map ([] ++ ·) = after.result := by
        cases after.result <;> rfl
      change after = ⟨after.result.map ([] ++ ·), after.exchanges, after.state⟩
      rw [hresult]
  | cons ref before ih =>
      -- a card gives one link or none, so the links are counted off against the cabled cards
      obtain ⟨hsound, hbefore⟩ := List.forall_mem_cons.mp hbefore
      obtain ⟨links, log, hlinks, hlog, hrun⟩ := ih hbefore
      obtain ⟨link, found, hlink, hcons⟩ :=
        run_collectLinks_cons_of_sound host hsound (before ++ rest)
      refine ⟨link.toList ++ links, ⟨.getPort ref.uuid, found⟩ :: log, ?_, ?_, ?_⟩
      · have hfilter : ((ref :: before).map (·.uuid)).filter m.cabled =
            [ref.uuid].filter m.cabled ++ (before.map (·.uuid)).filter m.cabled :=
          List.filter_append [ref.uuid] _
        rw [hfilter]
        exact List.rel_append hlink hlinks
      · simp only [List.map_cons, hlog]
      · simp only at hcons hrun ⊢
        rw [List.cons_append, hcons, hrun]
        cases ((LinkSource.collectLinks host rest).run answer m).result with
        | ok rest => simp only [Except.map, List.append_assoc, List.cons_append]
        | error e => simp only [Except.map, List.cons_append]

theorem run_collectLinks_of_sound (host : String) {refs : List Reference}
    (h : ∀ ref ∈ refs, m.Sound ref.uuid) :
    ∃ (links : List Link) (log : List Exchange),
      List.Forall₂ m.Plugged ((refs.map (·.uuid)).filter m.cabled) links ∧
      log.map (·.call) = (refs.map (·.uuid)).map .getPort ∧
      (LinkSource.collectLinks host refs).run answer m = ⟨.ok links, log, m⟩ := by
  obtain ⟨links, log, hlinks, hlog, hrun⟩ := run_collectLinks_append host refs h []
  have hempty : (LinkSource.collectLinks host []).run answer m = ⟨.ok [], [], m⟩ := rfl
  simp only [hempty, Except.map, List.append_nil] at hrun
  exact ⟨links, log, hlinks, hlog, hrun⟩

/-- Reading ends with the first card that is not sound. -/
theorem run_collectLinks_of_flaw (host : String) {before : List Reference} {ref : Reference}
    (hbefore : ∀ ref ∈ before, m.Sound ref.uuid) (hflaw : m.Flaw ref.uuid fault)
    (after : List Reference) :
    ∃ log : List Exchange,
      log.map (·.call) = (before.map (·.uuid) ++ [ref.uuid]).map .getPort ∧
      (LinkSource.collectLinks host (before ++ ref :: after)).run answer m =
        ⟨.error (.invalidNode host fault), log, m⟩ := by
  obtain ⟨links, log, -, hlog, hrun⟩ :=
    run_collectLinks_append host before hbefore (ref :: after)
  obtain ⟨found, hcons⟩ := run_collectLinks_cons_of_flaw host hflaw after
  simp only [hcons, Except.map] at hrun
  refine ⟨_, ?_, hrun⟩
  simp only [List.map_append, hlog, List.map_cons, List.map_nil]

/-- All cards are sound, or one is the first that is not. -/
theorem exists_first_flaw (m : Controller) (refs : List Reference) :
    (∀ ref ∈ refs, m.Sound ref.uuid) ∨
      ∃ before ref after fault, refs = before ++ ref :: after ∧
        (∀ ref ∈ before, m.Sound ref.uuid) ∧ m.Flaw ref.uuid fault := by
  induction refs with
  | nil => exact Or.inl (List.forall_mem_nil _)
  | cons ref rest ih =>
      by_cases hsound : m.Sound ref.uuid
      · rcases ih with hrest | ⟨before, flawed, after, fault, rfl, hbefore, hflaw⟩
        · exact Or.inl (List.forall_mem_cons.mpr ⟨hsound, hrest⟩)
        · exact Or.inr ⟨ref :: before, flawed, after, fault, rfl,
            List.forall_mem_cons.mpr ⟨hsound, hbefore⟩, hflaw⟩
      · obtain ⟨fault, hflaw⟩ := exists_flaw_of_not_sound hsound
        exact Or.inr ⟨[], ref, rest, fault, rfl, List.forall_mem_nil _, hflaw⟩

/-! ## Reading a host -/

/-- The cards of the host are all sound, and one of them is cabled. -/
structure Usable (m : Controller) (host : String) : Prop where
  sound : ∀ uuid ∈ m.cards host, m.Sound uuid
  cabled : ∃ uuid ∈ m.cards host, m.cabled uuid = true

/-- What is wrong with the node of a host, and the cards that are read to find it out: the flaw of
its first card that is not sound, or that none of its cards is cabled. -/
inductive Spoils (m : Controller) (host : String) : NodeFault → List String → Prop
  | card {before after : List String} {uuid : String} {fault : NodeFault}
      (hcards : m.cards host = before ++ uuid :: after) (hbefore : ∀ u ∈ before, m.Sound u)
      (hflaw : m.Flaw uuid fault) : Spoils m host fault (before ++ [uuid])
  | uncabled (hsound : ∀ uuid ∈ m.cards host, m.Sound uuid)
      (hnone : ∀ uuid ∈ m.cards host, m.cabled uuid = false) : Spoils m host .noLink (m.cards host)

theorem Spoils.not_usable (h : m.Spoils host fault read) : ¬ m.Usable host := by
  rintro ⟨hsound, uuid, huuid, hcabled⟩
  cases h with
  | card hcards _ hflaw => exact hflaw.not_sound (hsound _ (by simp [hcards]))
  | uncabled _ hnone => simp [hnone uuid huuid] at hcabled

/-- What reading the links of a host comes to, and the calls that it takes. -/
inductive Told (m : Controller) (host : String) :
    Except Error Topology.Node → List Call → Prop
  | unknown (hnone : Keyed.get? host m.nodes = none) :
      Told m host (.error (.nodeNotFound host)) [.readNode host]
  | spoilt {fault : NodeFault} {read : List String} (hknown : Keyed.get? host m.nodes ≠ none)
      (hspoils : m.Spoils host fault read) :
      Told m host (.error (.invalidNode host fault)) (.readNode host :: read.map .getPort)
  | usable {links : List Link} (hknown : Keyed.get? host m.nodes ≠ none) (husable : m.Usable host)
      (hlinks : List.Forall₂ m.Plugged ((m.cards host).filter m.cabled) links) :
      Told m host (.ok ⟨host, links⟩) (.readNode host :: (m.cards host).map .getPort)

/-- A controller that answers every call tells of a host in one of these ways. -/
theorem told (m : Controller) (host : String) :
    let run := (LinkSource.controller.resolve host).run answer m
    m.Told host run.result (run.exchanges.map (·.call)) := by
  intro run
  have hask : answer (.readNode host) m = (.ok (Keyed.get? host m.nodes), m) := rfl
  have hrun : run = _ := Plan.run_bind_of_run (Plan.run_ask hask) _
  cases hnode : Keyed.get? host m.nodes with
  | none =>
      rw [hrun, hnode]
      exact .unknown hnode
  | some node =>
      have hcards : m.cards host = node.ports.map (·.uuid) := by rw [cards, hnode]; rfl
      have hknown : Keyed.get? host m.nodes ≠ none := by simp [hnode]
      rw [hrun, hnode]
      simp only [List.singleton_append, List.map_cons]
      -- either all cards are read, and their links are counted, or the first flaw ends the reading
      rcases exists_first_flaw m node.ports with
        hsound | ⟨before, ref, after, fault, hsplit, hbefore, hflaw⟩
      · obtain ⟨links, log, hlinks, hcalls, hcollect⟩ :=
          run_collectLinks_of_sound host hsound
        have hall := List.forall_mem_map.mpr hsound
        rw [← hcards] at hlinks hcalls hall
        rw [Plan.run_bind_of_run hcollect]
        cases links with
        | nil =>
            have hnone : ∀ uuid ∈ m.cards host, m.cabled uuid = false := by
              simpa using List.forall₂_nil_right_iff.mp hlinks
            simp only [Plan.fail, Plan.run_done, List.append_nil, hcalls]
            exact .spoilt hknown (.uncabled hall hnone)
        | cons link rest =>
            obtain ⟨uuid, others, -, -, hfilter⟩ := List.forall₂_cons_right_iff.mp hlinks
            have huuid : uuid ∈ (m.cards host).filter m.cabled := hfilter ▸ List.mem_cons_self
            simp only [pure, Plan.run_done, List.append_nil, hcalls]
            exact .usable hknown ⟨hall, uuid, List.mem_filter.mp huuid⟩ hlinks
      · obtain ⟨log, hcalls, hcollect⟩ :=
          run_collectLinks_of_flaw host hbefore hflaw after
        rw [← hsplit] at hcollect
        rw [hsplit, List.map_append, List.map_cons] at hcards
        rw [Plan.run_bind_of_run_error hcollect, hcalls]
        exact .spoilt hknown (.card hcards (List.forall_mem_map.mpr hbefore) hflaw)

/-- The cards are read in the order in which the node refers to them. -/
theorem Told.prefix (h : m.Told host result calls) :
    calls <+: .readNode host :: (m.cards host).map .getPort := by
  cases h with
  | unknown => exact List.prefix_append [_] _
  | usable => exact List.prefix_rfl
  | spoilt _ hspoils =>
      apply (List.prefix_cons_inj _).mpr
      apply List.IsPrefix.map
      cases hspoils with
      | uncabled => exact List.prefix_rfl
      | @card before after uuid _ hcards =>
          exact ⟨after, by simp [hcards]⟩

/-- All cards that are read are sound, but for the last one. -/
theorem Told.sound_of_mem_dropLast (h : m.Told host result calls)
    (huuid : .getPort uuid ∈ calls.dropLast) : m.Sound uuid := by
  have hmem : .getPort uuid ∈ calls := List.dropLast_subset _ huuid
  cases h with
  | unknown => simp at hmem
  | usable _ husable => exact husable.sound uuid (by simpa using hmem)
  | spoilt _ hspoils =>
      cases hspoils with
      | uncabled hsound => exact hsound uuid (by simpa using hmem)
      | @card before after last _ hcards hbefore =>
          rw [List.map_append, ← List.cons_append, List.map_singleton,
            List.dropLast_concat] at huuid
          exact hbefore uuid (by simpa using huuid)

/-- A host that was asked about is known if it has a node. -/
theorem contains_of_unfailing {σ : Type} {respond : Responder σ} {memory : σ → Controller}
    (h : AnswersFrom respond memory) {s : σ}
    (hlog : Unfailing ((LinkSource.controller.contains host).run respond s).exchanges) :
    ((LinkSource.controller.contains host).run respond s).result =
      .ok (Keyed.get? host (memory s).nodes).isSome := by
  change ((Plan.call (.readNode host) _).run respond s).result = _
  change Unfailing ((Plan.call (.readNode host) _).run respond s).exchanges at hlog
  rw [Plan.run_call] at hlog ⊢
  have hanswered := hlog _ List.mem_cons_self
  cases hanswer : (respond (.readNode host) s).1 with
  | error e => simp [Exchange.failed, hanswer] at hanswered
  | ok node =>
      obtain rfl : Keyed.get? host (memory s).nodes = node :=
        Except.ok.inj (h.result_of_ok hanswer)
      rfl

/-- There is no more to it: the node is missing, its cards give links, or it is spoilt. -/
theorem Told.outcome (h : m.Told host result calls) :
    (result = .error (.nodeNotFound host) ↔ Keyed.get? host m.nodes = none) ∧
    ((∃ live, result = .ok live) ↔ m.Usable host) ∧
    (∀ live, result = .ok live → live.name = host ∧
      List.Forall₂ m.Plugged ((m.cards host).filter m.cabled) live.ports ∧
      calls = .readNode host :: (m.cards host).map .getPort) ∧
    (Keyed.get? host m.nodes ≠ none → ¬ m.Usable host → ∃ fault read, m.Spoils host fault read ∧
      result = .error (.invalidNode host fault) ∧
      calls = .readNode host :: read.map .getPort) := by
  cases h with
  | unknown hnone =>
      have hcards : m.cards host = [] := by rw [cards, hnone]; rfl
      have hunusable : ¬ m.Usable host := by
        rintro ⟨-, uuid, huuid, -⟩
        simp [hcards] at huuid
      simp [hnone, hunusable]
  | @spoilt fault read hknown hspoils =>
      refine ⟨by simp [hknown], by simp [hspoils.not_usable], (fun _ hok => by cases hok), ?_⟩
      exact fun _ _ => ⟨fault, read, hspoils, rfl, rfl⟩
  | @usable links hknown husable hlinks =>
      refine ⟨by simp [hknown], by simp [husable], ?_, fun _ hbad => absurd husable hbad⟩
      intro live hok
      obtain rfl := Except.ok.inj hok
      exact ⟨rfl, hlinks, rfl⟩

/-- Links that the controller tells. If no call fails, a host is unknown exactly if it has no node;
there are links exactly if its cards are usable, and these are the links of its cabled cards, in
order; and otherwise the error is the first thing that is wrong with the node. If a call fails,
reading ends with its error, and every card that was read before is sound. -/
theorem live_links_exact {σ : Type} {respond : Responder σ} {memory : σ → Controller}
    (h : FailsCleanly respond memory) (host : String) (s : σ) :
    let m := memory s
    let asked := (LinkSource.controller.contains host).run respond s
    let run := (LinkSource.controller.resolve host).run respond s
    let calls := run.exchanges.map (·.call)
    (Unfailing asked.exchanges → (asked.result = .ok false ↔ Keyed.get? host m.nodes = none)) ∧
    (Unfailing run.exchanges →
      (run.result = .error (.nodeNotFound host) ↔ Keyed.get? host m.nodes = none) ∧
      ((∃ live, run.result = .ok live) ↔ m.Usable host) ∧
      (∀ live, run.result = .ok live → live.name = host ∧
        List.Forall₂ m.Plugged ((m.cards host).filter m.cabled) live.ports ∧
        calls = .readNode host :: (m.cards host).map .getPort) ∧
      (Keyed.get? host m.nodes ≠ none → ¬ m.Usable host → ∃ fault read, m.Spoils host fault read ∧
        run.result = .error (.invalidNode host fault) ∧
        calls = .readNode host :: read.map .getPort)) ∧
    (¬ Unfailing run.exchanges → ∃ earlier x e,
      run.exchanges = earlier ++ [x] ∧ Unfailing earlier ∧ x.answer = .error e ∧
      run.result = .error e ∧ calls <+: .readNode host :: (m.cards host).map .getPort ∧
      ∀ uuid, .getPort uuid ∈ earlier.map (·.call) → m.Sound uuid) := by
  intro m asked run calls
  have htold : m.Told host _ _ := told m host
  have hstrict : (LinkSource.controller.resolve host).Strict Call.asksLinks :=
    LinkSource.resolve_strict (fun _ => trivial) (fun _ => trivial) _ host
  refine ⟨fun hasked => ?_, fun hrun => ?_, fun hrun => ?_⟩
  · have hresult : asked.result = _ := contains_of_unfailing h.answersFrom hasked
    rw [hresult]
    cases Keyed.get? host m.nodes <;> simp
  · rcases (h.run_strict hstrict s).ends with ⟨hresult, hlog⟩ | ⟨earlier, x, e, hlog, -, hx, -⟩
    · rw [← hresult, ← hlog] at htold
      exact htold.outcome
    · have hanswered := hrun x (by rw [hlog]; simp)
      simp [Exchange.failed, hx] at hanswered
  · rcases (h.run_strict hstrict s).ends with
      ⟨-, hlog⟩ | ⟨earlier, x, e, hlog, hearlier, hx, hresult, hprefix⟩
    · exact absurd (hlog ▸ unfailing_answer hstrict m) hrun
    · refine ⟨earlier, x, e, hlog, hearlier, hx, hresult, hprefix.trans htold.prefix, ?_⟩
      intro uuid huuid
      obtain ⟨rest, hcalls⟩ := hprefix
      apply htold.sound_of_mem_dropLast
      rw [← hcalls, hlog, List.map_append, List.append_assoc,
        List.dropLast_append_of_ne_nil (by simp)]
      exact List.mem_append_left _ huuid

end Controller

namespace Lab

/-- A host with a spare card between two that are cabled. Another host has a broken card between
those two. -/
def wired : Controller :=
  { start with
    nodes :=
      [("compute1", nodeOf "compute1" ["card-1", "card-spare", "card-2"]),
        ("compute2", nodeOf "compute2" ["card-1", "card-broken", "card-2"])]
    ports :=
      [("card-1", cardOf "compute1" "eth1" [cable1]),
        ("card-2", cardOf "compute1" "eth2" [cable2, cable1]),
        ("card-spare", cardOf "compute1" "eth3" []),
        ("card-broken", cardOf "compute2" "eth4" [{ target := ["xe-0/0/4"] }, cable1])] }

end Lab

/-- The host with the broken card is told to be so even if its last card cannot be asked for, but
not if the broken one cannot. -/
theorem Controller.live_links_of_two_hosts :
    FailsCleanly Lab.flaky Prod.snd ∧
      let run (host : String) (marks : List Bool) :=
        (LinkSource.controller.resolve host).run Lab.flaky (marks, Lab.wired)
      (run "compute1" []).result = .ok ⟨"compute1",
        [{ name := some "eth1", switchName := "leaf1", portName := "xe-0/0/1" },
          { name := some "eth2", switchName := "leaf2", portName := "xe-0/0/2" }]⟩ ∧
      Lab.wired.Usable "compute1" ∧
      (run "compute2" [false, false, false, true]).result =
        .error (.invalidNode "compute2" (.malformedReference ["xe-0/0/4"])) ∧
      (∃ fault read, Lab.wired.Spoils "compute2" fault read) ∧
      (run "compute2" [false, false, true]).result = .error (.fabric (.other "timeout")) ∧
      ∃ earlier x, (run "compute2" [false, false, true]).exchanges = earlier ++ [x] ∧
        Unfailing earlier := by
  refine ⟨Lab.flaky_failsCleanly, ?_⟩
  intro run
  have hexact (host : String) (marks : List Bool) :=
    live_links_exact Lab.flaky_failsCleanly host (marks, Lab.wired)
  have hlinks : (run "compute1" []).result = .ok ⟨"compute1",
      [{ name := some "eth1", switchName := "leaf1", portName := "xe-0/0/1" },
        { name := some "eth2", switchName := "leaf2", portName := "xe-0/0/2" }]⟩ := by
    decide +kernel
  have hbroken : (run "compute2" [false, false, false, true]).result =
      .error (.invalidNode "compute2" (.malformedReference ["xe-0/0/4"])) := by
    decide +kernel
  have hasked : ∀ x ∈ (run "compute1" []).exchanges, x.failed = false := by decide +kernel
  have hspared : ∀ x ∈ (run "compute2" [false, false, false, true]).exchanges,
      x.failed = false := by
    decide +kernel
  have hfailed : ∃ x ∈ (run "compute2" [false, false, true]).exchanges, x.failed = true := by
    decide +kernel
  have hknown : Keyed.get? "compute2" Lab.wired.nodes ≠ none := by
    have hsome : (Keyed.get? "compute2" Lab.wired.nodes).isSome = true := by decide +kernel
    intro hnone
    rw [hnone] at hsome
    cases hsome
  obtain ⟨-, husable, -, hspoilt⟩ := (hexact "compute2" [false, false, false, true]).2.1 hspared
  have hunusable : ¬ Lab.wired.Usable "compute2" := by
    rw [← husable]
    rintro ⟨live, hlive⟩
    cases hbroken.symm.trans hlive
  obtain ⟨fault, read, hspoils, -⟩ := hspoilt hknown hunusable
  have hlost : ¬ Unfailing (run "compute2" [false, false, true]).exchanges := by
    intro hunfailing
    obtain ⟨x, hx, hfails⟩ := hfailed
    rw [hunfailing x hx] at hfails
    cases hfails
  obtain ⟨earlier, x, -, hlog, hearlier, -⟩ :=
    (hexact "compute2" [false, false, true]).2.2 hlost
  refine ⟨hlinks, ?_, hbroken, ⟨fault, read, hspoils⟩, by decide +kernel, earlier, x, hlog,
    hearlier⟩
  exact ((hexact "compute1" []).2.1 hasked).2.1.mp ⟨_, hlinks⟩

end VlanBinding
