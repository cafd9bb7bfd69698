import VlanBinding.Proofs.PathEnd
import VlanBinding.Proofs.Traffic
import VlanBinding.Service.Handler

/-!
Asking the service about a host. A host is put into the URL as it is. Main statement: the request
leads to what was asked for exactly if the host can stand in a path as it is, and then the service
replies with what it knows of the very host; others are cut short, decoded, or lost on the way.
-/

namespace VlanBinding

open VlanBinding.Http VlanBinding.Http.Url VlanBinding.Integration VlanBinding.Service

/-! ## Requests about a host -/

namespace Service

/-- A request as the service takes it from its target. -/
def Request.ofTarget (target : String) : Request where
  path := (splitTarget target).1
  query := (splitTarget target).2

/-- The request leads to an endpoint with exactly this host, and with the layout that was asked
for. -/
structure Request.AsksAbout (r : Request) (endpoint : List Char → Endpoint)
    (q : Cli.HostQuery) : Prop where
  path : ∃ name, Endpoint.ofPath? r.path = some (endpoint name) ∧
    Percent.decodeText? name = some q.host
  layout : Layout.ofQuery? r.query = some ⟨some q.pretty⟩

theorem Request.asksAbout_iff {r : Request} {endpoint : List Char → Endpoint} {q : Cli.HostQuery}
    {path query : List Char} (hpath : r.path = path) (hquery : r.query = query) :
    r.AsksAbout endpoint q ↔
      (∃ name, Endpoint.ofPath? path = some (endpoint name) ∧
        Percent.decodeText? name = some q.host) ∧ Layout.ofQuery? query = some ⟨some q.pretty⟩ := by
  subst hpath hquery
  exact ⟨fun h => ⟨h.path, h.layout⟩, fun h => ⟨h.1, h.2⟩⟩

/-- The endpoints that tell of a host: the word for them in a path, and what they look up. -/
inductive Endpoint.TellsOfHost :
    String → (List Char → Endpoint) → (LinkSource → String → Plan Json) → Prop
  | topology : TellsOfHost "topology" topology topologyJson
  | bindings : TellsOfHost "bindings" bindings bindingsJson

variable {kind : String} {endpoint : List Char → Endpoint}
variable {look : LinkSource → String → Plan Json}

theorem Endpoint.ofPath?_eq_some_iff (h : TellsOfHost kind endpoint look) {path name : List Char} :
    ofPath? path = some (endpoint name) ↔
      Text.splitAt '/' path = [[], "api".toList, kind.toList, name] ∧ name ≠ [] := by
  constructor
  · intro hpath
    rw [ofPath?] at hpath
    split at hpath
    · split_ifs at hpath <;> cases h <;> cases hpath
    · rename_i api word c cs hsplit
      split_ifs at hpath with hapi hports htopology hbindings
      · cases h <;> cases hpath
      · cases h <;> cases hpath
        exact ⟨by rw [hsplit, htopology, not_not.mp hapi], by simp⟩
      · cases h <;> cases hpath
        exact ⟨by rw [hsplit, hbindings, not_not.mp hapi], by simp⟩
    · cases hpath
  · rintro ⟨hsplit, hname⟩
    obtain ⟨c, cs, rfl⟩ := List.exists_cons_of_ne_nil hname
    rw [ofPath?, hsplit]
    cases h <;> rfl

/-- What is replied to a request about a host. -/
def answerAbout (source : LinkSource) (look : LinkSource → String → Plan Json)
    (q : Cli.HostQuery) : Plan Reply := do
  match ← (look source q.host).attempt with
  | .ok value => pure (.ok value.sorted q.pretty)
  | .error e => pure (.ofError e)

/-- Such a request is replied to with what the source tells of the very host. -/
theorem respond_of_asksAbout {s : Service} {source : LinkSource} {r : Request}
    {q : Cli.HostQuery} (hsource : s.integrator = .enabled source)
    (htells : Endpoint.TellsOfHost kind endpoint look) (hmethod : r.method = "GET")
    (h : r.AsksAbout endpoint q) : s.respond r = answerAbout source look q := by
  obtain ⟨⟨name, hpath, hname⟩, hlayout⟩ := h
  have hinspected : s.inspect name r look = answerAbout source look q := by
    rw [inspect, named, hname, layoutOf, hlayout, hsource]
    rfl
  rw [← hinspected, respond, hpath, hmethod]
  cases htells <;> rfl

end Service

namespace Cli

variable {kind connection authority : String} {endpoint : List Char → Endpoint}
variable {look : LinkSource → String → Plan Json}

/-- The command asks about a host, of which an endpoint tells. -/
inductive Command.Inspects : Command → String → (List Char → Endpoint) → HostQuery → Prop
  | resolve (q : HostQuery) : (resolve q).Inspects "topology" .topology q
  | bindings (q : HostQuery) : (bindings q).Inspects "bindings" .bindings q

/-! ## The URL -/

variable {secure : Bool} {front : List (List Char)}

/-- The URL of a path of the service, whatever slashes the connection ends in. -/
theorem parse?_apiUrl (h : IsBase connection secure authority [])
    (hfront : ∀ segment ∈ front, Plain segment) {path : String} {text : List Char}
    (hpath : trimStart path.toList = written front ++ text) :
    Url.parse? (apiUrl connection path) =
      some { secure, authority, query := queryOf ((trailing text).takeWhile (· ≠ '#')),
             path := String.ofList
              (slashed (behind ("api".toList :: front).reverse text).reverse) } := by
  have hsegments : ∀ segment ∈ "api".toList :: front, Plain segment :=
    List.forall_mem_cons.mpr ⟨by decide, hfront⟩
  have htext : apiUrl connection path = String.ofList
      (trimEnd connection.toList ++ '/' :: (written ("api".toList :: front) ++ text)) := by
    rw [apiUrl, hpath]
    simp [written]
  rw [htext]
  exact h.parse?_behind hsegments text

/-- The segments of the path under which a host is asked about, the last one first. -/
def askedPath (kind : String) (host : List Char) : List (List Char) :=
  behind [kind.toList, "api".toList] host

theorem parse?_hostUrl (h : IsBase connection secure authority [])
    (hkind : Endpoint.TellsOfHost kind endpoint look) (host : String) :
    Url.parse? (apiUrl connection (hostPath kind host)) =
      some { secure, authority,
             query := queryOf ((trailing host.toList).takeWhile (· ≠ '#')),
             path := String.ofList (slashed (askedPath kind host.toList).reverse) } := by
  have hplain : ∀ segment ∈ [kind.toList], Plain segment := by
    cases hkind <;> decide
  have hpath : trimStart (hostPath kind host).toList = written [kind.toList] ++ host.toList := by
    rw [hostPath]
    cases hkind <;> simp [trimStart, written]
  exact parse?_apiUrl h hplain hpath

theorem parse?_statusUrl (h : IsBase connection secure authority []) :
    Url.parse? (apiUrl connection "status") =
      some { secure, authority, path := "/api/status" } := by
  have hpath : trimStart "status".toList = written [] ++ "status".toList := by decide
  have hquery : queryOf ((trailing "status".toList).takeWhile (· ≠ '#')) = none := by
    decide +kernel
  have hbehind : String.ofList (slashed (behind ["api".toList].reverse "status".toList).reverse) =
      "/api/status" := by decide +kernel
  rw [parse?_apiUrl h (List.forall_mem_nil _) hpath, hquery, hbehind]

/-! ## The target -/

/-- Path and query of a target are taken for what they were. -/
theorem splitTarget_slashed {segments : List (List Char)}
    (h : ∀ segment ∈ segments, ∀ c ∈ segment, c ≠ '/' ∧ c ≠ '?' ∧ c ≠ '#') (query : String) :
    Request.splitTarget (String.ofList (slashed segments) ++ "?" ++ query) =
      (slashed segments, query.toList.takeWhile (· ≠ '#')) := by
  have hmarks : ∀ c ∈ slashed segments, c ≠ '?' ∧ c ≠ '#' := by
    intro c hc
    obtain ⟨piece, hpiece, hc⟩ := List.mem_flatten.mp hc
    obtain ⟨segment, hsegment, rfl⟩ := List.mem_map.mp hpiece
    rcases List.mem_cons.mp hc with rfl | hc
    · decide
    · exact (h segment hsegment c hc).2
  have hchars : (String.ofList (slashed segments) ++ "?" ++ query).toList =
      slashed segments ++ '?' :: query.toList := by simp
  have horigin : Request.dropOrigin (slashed segments ++ '?' :: query.toList) =
      slashed segments ++ '?' :: query.toList := by
    cases segments <;> rfl
  have hhash : (slashed segments ++ '?' :: query.toList).takeWhile (· ≠ '#') =
      slashed segments ++ '?' :: query.toList.takeWhile (· ≠ '#') := by
    rw [takeWhile_ne_append fun c hc => (hmarks c hc).2, List.takeWhile_cons_of_pos (by decide)]
  have hquery : ∀ c ∈ slashed segments, c ≠ '?' := fun c hc => (hmarks c hc).1
  rw [Request.splitTarget, hchars, horigin, hhash]
  simp only [takeWhile_ne_append hquery, dropWhile_ne_append hquery]
  simp

/-- The pair that says how the answer is to be laid out. -/
def prettyPair (pretty : Bool) : String × String := ("pretty", if pretty then "true" else "false")

theorem layout_of_prettyPair (pretty : Bool) :
    Layout.ofQuery? ((Form.encodePairs [prettyPair pretty]).takeWhile (· ≠ '#')) =
      some ⟨some pretty⟩ := by
  cases pretty <;> decide +kernel

theorem asksAbout_iff_addressable
    (hkind : Endpoint.TellsOfHost kind endpoint look) (q : HostQuery) {url : Url}
    (hurl : url = { secure, authority,
                    query := queryOf ((trailing q.host.toList).takeWhile (· ≠ '#')),
                    path := String.ofList (slashed (askedPath kind q.host.toList).reverse) }) :
    (Request.ofTarget (url.addPairs [prettyPair q.pretty]).target).AsksAbout endpoint q ↔
      Addressable q.host.toList := by
  have hfront : ∀ segment ∈ [kind.toList, "api".toList], ∀ c ∈ segment,
      c ≠ '/' ∧ c ≠ '?' ∧ c ≠ '#' := by
    cases hkind <;> simp
  have hunparted : ∀ segment ∈ (askedPath kind q.host.toList).reverse, ∀ c ∈ segment,
      c ≠ '/' ∧ c ≠ '?' ∧ c ≠ '#' :=
    fun segment hsegment => behind_unparted hfront _ segment (List.mem_reverse.mp hsegment)
  obtain ⟨query, hquery, -⟩ := decodePairs_addPairs (prettyPair q.pretty) [] url
  have hsplit : Request.splitTarget (url.addPairs [prettyPair q.pretty]).target =
      (slashed (askedPath kind q.host.toList).reverse, query.toList.takeWhile (· ≠ '#')) := by
    have htext : (url.addPairs [prettyPair q.pretty]).target =
        String.ofList (slashed (askedPath kind q.host.toList).reverse) ++ "?" ++ query := by
      rw [target, hquery, path_addPairs, hurl]
    rw [htext, splitTarget_slashed hunparted]
  have hends (name : List Char) :
      Endpoint.ofPath? (slashed (askedPath kind q.host.toList).reverse) = some (endpoint name) ↔
        askedPath kind q.host.toList = [name, kind.toList, "api".toList] ∧ name ≠ [] := by
    rw [Endpoint.ofPath?_eq_some_iff hkind]
    exact and_congr_left' (splitAt_behind_iff hfront q.host.toList name)
  rw [Request.asksAbout_iff (congrArg Prod.fst hsplit) (congrArg Prod.snd hsplit),
    ← behind_iff_addressable [kind.toList, "api".toList] q.host.toList]
  simp only [hends, Percent.decodeText?_eq_some_iff, and_assoc]
  refine and_iff_left_of_imp fun haddressable => ?_
  rw [askedPath, behind_iff_addressable] at haddressable
  have hnone : url.query = none := by rw [hurl, haddressable.queryOf_eq]
  have hpairs : (url.addPairs [prettyPair q.pretty]).query =
      some (String.ofList (Form.encodePairs [prettyPair q.pretty])) := by
    rw [addPairs.eq_def, hnone]
    rfl
  obtain rfl := Option.some.inj (hquery.symm.trans hpairs)
  rw [String.toList_ofList]
  exact layout_of_prettyPair q.pretty

/-! ## What is sent -/

/-- A request that reaches a server. -/
theorem fetch_of_parse {text : String} {url : Url} {n : Network}
    (hurl : Url.parse? text = some url) (query : List (String × String))
    (hreaches : n.reaches (url.addPairs query) = true) :
    ∃ x : Http.Exchange, x.request = { method := .get, url := url.addPairs query } ∧
      n.Carries x (fetch text query n).2 := by
  obtain ⟨x, hx, -, hcarries⟩ := Network.send_of_reaches (n := n)
    (r := { method := .get, url := url.addPairs query }) (by simpa using hreaches)
  refine ⟨x, hx, ?_⟩
  simp only [fetch, hurl]
  exact hcarries

/-- A command about a host sends a request about it, behind one that shows that the service is
there. -/
theorem execute_of_inspects (w : Wording) (find : String → File) {i : Invocation} {q : HostQuery}
    (h : i.command.Inspects kind endpoint q) {n : Network}
    (hprobe : (fetch (apiUrl i.serverConnection "status") [] n).1.isSome = true) :
    (execute w find i n).2 =
      (fetch (apiUrl i.serverConnection (hostPath kind q.host)) [prettyPair q.pretty]
        (fetch (apiUrl i.serverConnection "status") [] n).2).2 := by
  generalize hc : i.command = c at h
  cases h with
  | resolve | bindings =>
      simp only [execute, askService, hc]
      generalize fetch (apiUrl i.serverConnection "status") [] n = probed at hprobe
      obtain ⟨response, rest⟩ := probed
      obtain ⟨response, rfl⟩ := Option.isSome_iff_exists.mp hprobe
      dsimp only [askHost, prettyPair]

theorem Command.Inspects.tellsOfHost {c : Command} {q : HostQuery}
    (h : c.Inspects kind endpoint q) : ∃ look, Endpoint.TellsOfHost kind endpoint look := by
  cases h with
  | resolve => exact ⟨_, .topology⟩
  | bindings => exact ⟨_, .bindings⟩

/-- The service is asked about the host that was given exactly if the host can stand in a path as
it is, and then it replies with what its source tells of the very host. -/
theorem asked_about_iff_addressable (w : Wording) (find : String → File) (i : Invocation)
    {q : HostQuery} (hcommand : i.command.Inspects kind endpoint q)
    (hconnection : IsBase i.serverConnection secure authority []) (n : Network)
    (hreaches : ∀ url, url.secure = secure → url.authority = authority → n.reaches url = true)
    (hprobe : (fetch (apiUrl i.serverConnection "status") [] n).1.isSome = true) :
    ∃ probe r, (execute w find i n).2.log = n.log ++ [probe, r] ∧
      probe.request.url.target = "/api/status" ∧ r.request.method = .get ∧
      ((Request.ofTarget r.request.url.target).AsksAbout endpoint q ↔
        Addressable q.host.toList) ∧
      (Addressable q.host.toList → ∃ look, Endpoint.TellsOfHost kind endpoint look ∧
        ∀ (s : Service) (source : LinkSource), s.integrator = .enabled source →
          s.respond (Request.ofTarget r.request.url.target) = answerAbout source look q) := by
  obtain ⟨look, htells⟩ := hcommand.tellsOfHost
  obtain ⟨probe, hprobed, hfirst⟩ := fetch_of_parse (parse?_statusUrl hconnection) []
    (hreaches _ (secure_addPairs _ _) (authority_addPairs _ _))
  -- the service can still be reached behind the probe, whatever it was answered
  have hstill (url : Url) (hsecure : url.secure = secure) (hauthority : url.authority = authority) :
      (fetch (apiUrl i.serverConnection "status") [] n).2.reaches url = true := by
    rw [hfirst.reaches]
    exact hreaches url hsecure hauthority
  obtain ⟨r, hr, hsecond⟩ := fetch_of_parse (parse?_hostUrl hconnection htells q.host)
    [prettyPair q.pretty] (hstill _ (secure_addPairs _ _) (authority_addPairs _ _))
  have hlog : (execute w find i n).2.log = n.log ++ [probe, r] := by
    rw [execute_of_inspects w find hcommand hprobe, hsecond.log, hfirst.log, List.append_assoc,
      List.singleton_append]
  have hasks : (Request.ofTarget r.request.url.target).AsksAbout endpoint q ↔
      Addressable q.host.toList := by
    rw [hr]
    exact asksAbout_iff_addressable htells q rfl
  have hstatus : probe.request.url.target = "/api/status" := by
    rw [hprobed]
    rfl
  refine ⟨probe, r, hlog, hstatus, by rw [hr], hasks, fun haddressable => ?_⟩
  exact ⟨look, htells, fun s source hsource =>
    respond_of_asksAbout hsource htells rfl (hasks.mpr haddressable)⟩

end Cli

namespace Lab

/-- A call of the tool, with slashes behind the server connection. -/
def inquiry (command : Cli.Command) : Cli.Invocation where
  serverConnection := "http://server:3366//"
  command

/-- The service is there, and says little. -/
def listening : Network where
  reaches url := !url.secure && url.authority == "server:3366"
  replies := [.response {}]

/-- The targets of the requests that a command makes. -/
def targets (command : Cli.Command) : List String :=
  (Cli.execute {} (fun path => ⟨path, none⟩) (inquiry command) listening).2.log.map
    (·.request.url.target)

theorem isBase (command : Cli.Command) :
    IsBase (inquiry command).serverConnection false "server:3366" [] where
  plain := List.forall_mem_nil _
  ends := by simp
  spelt := by
    have horigin : Origin false "server:3366".toList "server:3366" :=
      ⟨by simp, by simp [isSlash], by decide +kernel⟩
    have hchars : "http://server:3366//".toList =
        schemeOf false ++ "://".toList ++ ("server:3366".toList ++ []) ++ List.replicate 2 '/' := by
      decide
    exact ⟨_, 2, horigin, hchars⟩

theorem reaches_listening (url : Url) (hsecure : url.secure = false)
    (hauthority : url.authority = "server:3366") : listening.reaches url = true := by
  simp [listening, hsecure, hauthority]

/-- A host with a blank, a letter that is not ASCII, and a percent sign at its end. -/
def oddInquiry : Cli.HostQuery := ⟨"räck 1%", true⟩

end Lab

namespace Cli

example : Lab.targets (.resolve ⟨"compute1#spare", false⟩) =
    ["/api/status", "/api/topology/compute1?pretty=false"] := by decide +kernel

/-- A host that can stand in a path is asked about, with its blank and all. -/
theorem odd_host_asked_about :
    ∃ probe r, (execute {} (fun path => ⟨path, none⟩) (Lab.inquiry (.bindings Lab.oddInquiry))
        Lab.listening).2.log = [probe, r] ∧
      (Request.ofTarget r.request.url.target).AsksAbout .bindings Lab.oddInquiry := by
  obtain ⟨probe, r, hlog, -, -, hasks, -⟩ := asked_about_iff_addressable {}
    (fun path => ⟨path, none⟩) (Lab.inquiry (.bindings Lab.oddInquiry)) (.bindings _)
    (Lab.isBase _) Lab.listening Lab.reaches_listening (by decide +kernel)
  have haddressable : Addressable Lab.oddInquiry.host.toList := by
    constructor
    · decide
    · simp [Lab.oddInquiry]
    · rintro _ ⟨⟩
      decide
    · exact Percent.decode_eq_utf8_iff.mp (by decide +kernel)
    · decide
  exact ⟨probe, r, hlog, hasks.mpr haddressable⟩

/-- A host with a slash is asked about under a path that leads nowhere. -/
theorem host_with_slash_not_asked_about :
    ¬ ∀ (w : Wording) (find : String → File) (i : Invocation) (kind authority : String)
        (endpoint : List Char → Endpoint) (q : HostQuery) (n : Network),
      i.command.Inspects kind endpoint q → IsBase i.serverConnection false authority [] →
      (∀ url, url.secure = false → url.authority = authority → n.reaches url = true) →
      (fetch (apiUrl i.serverConnection "status") [] n).1.isSome = true → q.host ≠ "" →
      ∃ probe r, (execute w find i n).2.log = n.log ++ [probe, r] ∧
        (Request.ofTarget r.request.url.target).AsksAbout endpoint q := by
  intro hclaim
  obtain ⟨probe, r, hlog, hasks⟩ := hclaim {} (fun path => ⟨path, none⟩)
    (Lab.inquiry (.resolve ⟨"rack1/compute1", false⟩)) "topology" "server:3366" .topology
    ⟨"rack1/compute1", false⟩ Lab.listening (.resolve _) (Lab.isBase _) Lab.reaches_listening
    (by decide +kernel) (by decide)
  have htargets : Lab.targets (.resolve ⟨"rack1/compute1", false⟩) =
      ["/api/status", "/api/topology/rack1/compute1?pretty=false"] := by decide +kernel
  rw [Lab.targets, hlog] at htargets
  obtain ⟨-, htarget⟩ := List.cons.inj htargets
  have hr : r.request.url.target = "/api/topology/rack1/compute1?pretty=false" :=
    (List.cons.inj htarget).1
  obtain ⟨name, hpath, -⟩ := hasks.path
  rw [hr] at hpath
  have hnowhere : Endpoint.ofPath? (Request.ofTarget
      "/api/topology/rack1/compute1?pretty=false").path = none := by decide +kernel
  rw [hnowhere] at hpath
  cases hpath

end Cli

end VlanBinding
