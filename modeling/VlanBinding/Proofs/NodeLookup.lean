import VlanBinding.Proofs.Bytes
import VlanBinding.Proofs.GroupUpdate
import VlanBinding.Proofs.Lacking

/-!
Looking a node up by its host name. Main statement: whatever the host name, one condition is asked
for that holds it as a JSON string, and whatever the list in the answer, the first node of exactly
that name is found in it.
-/

namespace VlanBinding

open VlanBinding.Fabric VlanBinding.Http VlanBinding.Json
open VlanBinding.Integration (Call)

namespace Rest

variable {c : FabricClient} {reaches : Url → Bool} {hostname : String} {log : List Exchange}

/-! ## The question -/

/-- A request that asks for all that is known of the nodes with this host name, and for nothing
else. -/
structure FabricClient.AsksForNode (c : FabricClient) (hostname : String) (r : Http.Request) :
    Prop where
  method : r.method = .get
  body : r.body = none
  url : ∃ base query literal, Url.parse? (joinUrl c.baseUrl "nodes") = some base ∧
    r.url = { base with query := some query } ∧
    Form.decodePairs query.toList = Form.decodePairs (base.query.getD "").toList ++
      [(some "detail", some "true"), (some "filters", some ("node_hostname==" ++ literal))] ∧
    literal = (Json.str hostname).compact ∧ parse? literal = some (.str hostname)

theorem parse?_compact_str (s : String) : parse? (Json.str s).compact = some (.str s) := by
  have hparse : parse? (Json.str s).compact = some (Json.str s).sorted :=
    parse?_write Style.spacing_compact trivial (Nat.zero_le _)
  exact hparse

theorem FabricClient.asksForNode_of_wording {token : Option String} {r : Http.Request}
    (h : c.wording (nodesAsk hostname) token = some r) : c.AsksForNode hostname r := by
  rw [wording, requestTo?, Option.map_eq_some_iff] at h
  obtain ⟨base, hbase, rfl⟩ := h
  obtain ⟨query, hquery, hpairs⟩ := Url.decodePairs_addPairs ("detail", "true")
    [("filters", filterOf "node_hostname" hostname)] base
  refine ⟨rfl, rfl, base, query, _, hbase, ?_, hpairs, rfl, parse?_compact_str hostname⟩
  rw [← hquery]
  exact Url.addPairs_eq _ _

/-! ## The answer -/

theorem mapM_eq_none_iff {α β : Type} {f : α → Option β} {items : List α} :
    items.mapM f = none ↔ ∃ item ∈ items, f item = none := by
  induction items with
  | nil => simp
  | cons item items ih =>
      rw [List.mapM_cons]
      cases hitem : f item with
      | none => simp [hitem]
      | some a =>
          cases hrest : items.mapM f with
          | none => simpa [hitem, hrest] using ih
          | some as => simpa [hitem, hrest] using ih

theorem FabricClient.nodes?_eq (v : Json) :
    nodes? v = match v.listed? "nodes" with
      | some items => items.mapM (Json.object? Node)
      | none => some [] :=
  rfl

/-- What comes of looking for a host name in listed items. Every item has to be a node, also behind
the one that is looked for. -/
structure LooksUp {ε : Type} (hostname : String) (items : List Json)
    (r : Except ε (Option Node)) : Prop where
  found : ∀ node, r = .ok (some node) ↔ node.hostname = some hostname ∧
    ∃ before after, items.mapM (Json.object? Node) = some (before ++ node :: after) ∧
      ∀ other ∈ before, other.hostname ≠ some hostname
  unknown : r = .ok none ↔ ∃ nodes, items.mapM (Json.object? Node) = some nodes ∧
    ∀ node ∈ nodes, node.hostname ≠ some hostname
  failed : (∃ e, r = .error e) ↔ ∃ item ∈ items, Json.object? Node item = none

theorem looksUp_of_told {ε : Type} {items : List Json} {r : Except ε (Option Node)}
    (h : ∀ found, r = .ok found ↔ (items.mapM (Json.object? Node)).map (fun nodes =>
      nodes.find? fun node => node.hostname == some hostname) = some found) :
    LooksUp hostname items r := by
  constructor
  · intro node
    simp only [h, Option.map_eq_some_iff, List.find?_eq_some_iff_append, beq_iff_eq,
      Bool.not_eq_true', beq_eq_false_iff_ne]
    constructor
    · rintro ⟨nodes, hnodes, hname, before, after, rfl, hbefore⟩
      exact ⟨hname, before, after, hnodes, hbefore⟩
    · rintro ⟨hname, before, after, hnodes, hbefore⟩
      exact ⟨_, hnodes, hname, before, after, rfl, hbefore⟩
  · simp only [h, Option.map_eq_some_iff, List.find?_eq_none, beq_iff_eq]
  · rw [← mapM_eq_none_iff]
    cases hnodes : items.mapM (Json.object? Node) with
    | none =>
        rw [hnodes] at h
        cases r with
        | error e => simp
        | ok found => simpa using (h found).mp rfl
    | some nodes =>
        rw [hnodes] at h
        rw [(h _).mpr rfl]
        simp

theorem LooksUp.mapError {ε δ : Type} {items : List Json} {r : Except ε (Option Node)}
    (h : LooksUp hostname items r) (f : ε → δ) : LooksUp hostname items (r.mapError f) where
  found node := mapError_eq_ok_iff.trans (h.found node)
  unknown := mapError_eq_ok_iff.trans h.unknown
  failed := by
    rw [← h.failed]
    cases r <;> simp [Except.mapError]

/-! ## The lookup -/

/-- A lookup, with all that goes over the network for it. -/
structure FabricClient.LookupOf (c : FabricClient) (reaches : Url → Bool) (hostname : String)
    {ε : Type} (r : Except ε (Option Node)) (log : List Exchange) : Prop where
  /-- but for logins there is one question, which may be put again -/
  asks : ∀ x ∈ log, c.credentials.LogsIn x.request ∨ c.AsksForNode hostname x.request
  sent : c.credentials.canRenew = false → c.Ready reaches (nodesAsk hostname) →
    ∃ x, log = [x] ∧ c.AsksForNode hostname x.request
  /-- without the question there is no result -/
  unasked : (∀ x ∈ log, c.credentials.LogsIn x.request) → ∃ e, r = .error e
  listed : ∀ x ∈ log, c.AsksForNode hostname x.request →
    ∀ items, x.given? (Json.listed? "nodes") = some items → LooksUp hostname items r
  found : ∀ node, r = .ok (some node) → ∃ x ∈ log, c.AsksForNode hostname x.request ∧
    (x.given? (Json.listed? "nodes")).isSome = true

theorem FabricClient.LookupOf.mapError {ε δ : Type} {r : Except ε (Option Node)}
    (h : c.LookupOf reaches hostname r log) (f : ε → δ) :
    c.LookupOf reaches hostname (r.mapError f) log where
  asks := h.asks
  sent := h.sent
  unasked hlogins := by
    obtain ⟨e, rfl⟩ := h.unasked hlogins
    exact ⟨f e, rfl⟩
  listed x hx hasks items hitems := (h.listed x hx hasks items hitems).mapError f
  found node hr := h.found node (mapError_eq_ok_iff.mp hr)

theorem FabricClient.AsksForNode.not_logsIn {r : Http.Request} (h : c.AsksForNode hostname r) :
    ¬ c.credentials.LogsIn r := by
  intro hlogin
  cases hk : c.credentials with
  | keystone k =>
      rw [hk] at hlogin
      have hmethod := h.method
      rw [hlogin.1] at hmethod
      cases hmethod
  | anonymous | token _ =>
      rw [hk] at hlogin
      exact hlogin

theorem FabricClient.lookupOf_of_asked {r : Except Error (Option Node)}
    (h : c.Asked reaches (nodesAsk hostname)
      (c.Told (·.given? fun v => (nodes? v).map fun nodes =>
        nodes.find? fun node => node.hostname == some hostname) r) log) :
    c.LookupOf reaches hostname r log where
  asks x hx := (h.requests.1 x hx).imp_right fun ⟨_, hwording⟩ => asksForNode_of_wording hwording
  sent hfixed hready := by
    obtain ⟨x?, hlog, -, hsent, hunsent⟩ := h.of_fixed hfixed
    cases x? with
    | none => exact absurd hready (hunsent rfl)
    | some x => exact ⟨x, hlog, asksForNode_of_wording (hsent x rfl)⟩
  unasked hlogins := by
    cases h with
    | unanswered _ _ htold =>
        cases r with
        | error e => exact ⟨e, rfl⟩
        | ok found => cases (htold.ok_iff found).mp rfl
    | answered _ hx _ _ =>
        obtain ⟨token, hwording⟩ := hx
        exact absurd (hlogins _ (by simp)) (asksForNode_of_wording hwording).not_logsIn
  listed x hx hasks items hitems := by
    obtain ⟨htold, -⟩ := h.decides hx hasks.not_logsIn (granted_of_given? hitems)
    apply looksUp_of_told
    intro found
    obtain ⟨v, hv, hlisted⟩ := Option.bind_eq_some_iff.mp hitems
    rw [htold.ok_iff, Option.bind_some, Exchange.given?, hv, Option.bind_some, nodes?_eq, hlisted]
  found node hr := by
    cases h with
    | unanswered _ _ htold =>
        cases (htold.ok_iff _).mp hr
    | @answered _ x _ hx _ htold =>
        obtain ⟨token, hwording⟩ := hx
        refine ⟨x, by simp, asksForNode_of_wording hwording, ?_⟩
        have hgiven := (htold.ok_iff _).mp hr
        rw [Option.bind_some, given?_map, Option.map_eq_some_iff] at hgiven
        obtain ⟨nodes, hnodes, hfind⟩ := hgiven
        obtain ⟨v, hv, hlist⟩ := Option.bind_eq_some_iff.mp hnodes
        rw [Exchange.given?, hv, Option.bind_some]
        rw [nodes?_eq] at hlist
        cases hlisted : v.listed? "nodes" with
        | some items => rfl
        | none =>
            rw [hlisted] at hlist
            cases hlist
            cases hfind

/-- A node is looked up by exactly its host name, whatever that is and whatever is answered. -/
theorem node_looked_up_exactly (c : Services) (hostname : String) (s : Session) :
    let run := c.respond (.readNode hostname) s
    c.fabric.LookupOf s.network.reaches hostname run.1
      (s.network.exchangesSince run.2.network) := by
  intro run
  obtain ⟨r, hrun, hasked⟩ := respond_of_perform (.readNode hostname)
    (FabricClient.nodeOf_asked c.fabric s.network.reaches hostname)
  have hresult : run.1 = r.mapError fun e => Call.failure (.readNode hostname) (.rest e) := hrun
  rw [hresult]
  exact (FabricClient.lookupOf_of_asked hasked).mapError _

end Rest

namespace Lab

def oddHost : String := "rack \"1\\\n-é"

/-- What the controller tells of a node. -/
def toldNode (uuid hostname : String) : Json :=
  .obj [("node", .obj [("fq_name", .strings ["node"]), ("node_hostname", .str hostname),
    ("uuid", .str uuid)])]

/-- More nodes than were asked for: one whose host name is longer, one without a host name, and two
of the same. -/
def toldNodes : List Json :=
  [toldNode "node-1" (oddHost ++ "2"), .obj [("node", .obj [("fq_name", .strings ["node"])])],
    toldNode "node-2" oddHost, toldNode "node-3" oddHost]

def toldList : List (String × Json) := [("nodes", .arr toldNodes)]

def searching : List Reply := [.response { body := (Json.obj toldList).compact }]

def oddNode (uuid hostname : String) : Node where
  uuid := uuid
  fqName := ["node"]
  hostname := some hostname

end Lab

namespace Rest

/-- Of the nodes that are told, the first of the very host name is found. -/
theorem odd_host_looked_up :
    ∃ x, Lab.traffic Lab.fixed (.readNode Lab.oddHost) Lab.searching = [x] ∧
      Lab.fixed.fabric.AsksForNode Lab.oddHost x.request ∧
      x.given? (Json.listed? "nodes") = some Lab.toldNodes ∧
      (Lab.fixed.respond (.readNode Lab.oddHost) (Lab.loggedOut Lab.searching)).1 =
        .ok (some (Lab.oddNode "node-2" Lab.oddHost)) := by
  have hlookup := node_looked_up_exactly Lab.fixed Lab.oddHost (Lab.loggedOut Lab.searching)
  have hready : Lab.fixed.fabric.Ready Lab.reaches (FabricClient.nodesAsk Lab.oddHost) := by
    decide +kernel
  obtain ⟨x, hlog, hasks⟩ := hlookup.sent rfl hready
  have hreply : x.reply = .response { body := (Json.obj Lab.toldList).compact } :=
    reply_of_perform (.readNode Lab.oddHost) (Lab.loggedOut Lab.searching)
      (FabricClient.nodeOf_asked Lab.fixed.fabric Lab.reaches Lab.oddHost) hlog rfl rfl
  have hintegral : (Json.obj Lab.toldList).Integral := by
    simp [Lab.toldList, Lab.toldNodes, Lab.toldNode, Integral, IntegralMembers, IntegralItems,
      Json.strings]
  have hvalue : x.value? = some (Json.obj Lab.toldList).sorted :=
    Exchange.value?_of_compact hreply hintegral (by decide +kernel)
  have hitems : x.given? (Json.listed? "nodes") = some Lab.toldNodes := by
    rw [Exchange.given?, hvalue]
    rfl
  have hnodes : Lab.toldNodes.mapM (Json.object? Node) =
      some ([Lab.oddNode "node-1" (Lab.oddHost ++ "2"), { fqName := ["node"] }] ++
        Lab.oddNode "node-2" Lab.oddHost :: [Lab.oddNode "node-3" Lab.oddHost]) := rfl
  refine ⟨x, hlog, hasks, hitems, ?_⟩
  exact ((hlookup.listed x (by rw [hlog]; exact List.mem_singleton_self x) hasks _ hitems).found
    _).mpr ⟨rfl, _, _, hnodes, by decide⟩

end Rest

end VlanBinding
