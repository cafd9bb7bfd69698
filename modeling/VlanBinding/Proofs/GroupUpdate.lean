import VlanBinding.Proofs.Bytes
import VlanBinding.Proofs.Json.Sorting
import VlanBinding.Proofs.Records
import VlanBinding.Proofs.Tolerance

/-!
Port groups that are read, changed and written back. Main statement: of a group that the controller
tells, only its uuid, its name and its references to interfaces are written again, where its uuid
leads; taking an interface out leaves the references to others as they were told.
-/

namespace VlanBinding

open VlanBinding.Fabric VlanBinding.Http VlanBinding.Json VlanBinding.Schema

/-! ## Values that decoders find -/

namespace Json

section Decoding

variable {α : Type} {d : Decoder α}

theorem string_ofJson {v : Json} {s : String} (h : Decoder.string (.ofJson v) = .ok s) :
    v = .str s := by
  cases v <;> cases h
  rfl

theorem list_ofJson {v : Json} {xs : List α} (h : Decoder.list d (.ofJson v) = .ok xs) :
    ∃ items, v = .arr items ∧ Decoder.items d (items.map Source.ofJson) = .ok xs := by
  cases v with
  | arr items =>
      refine ⟨items, rfl, ?_⟩
      rw [Source.ofJson, ofItems_eq_map, Decoder.list] at h
      cases hitems : Decoder.items d (items.map Source.ofJson) with
      | error e => simp [hitems] at h
      | ok values =>
          simp only [hitems] at h
          cases h
          rfl
  | null | bool _ | num _ | str _ | obj _ => cases h

/-- What is made of the values that are kept of a list is what is made of the items they were read
from. -/
theorem map_filter_of_items {β : Type} {items : List Json} {xs : List α}
    (h : Decoder.items d (items.map Source.ofJson) = .ok xs) {keep : α → Bool}
    {keepItem : Json → Bool} {f : α → β} {fItem : Json → β}
    (hitem : ∀ item ∈ items, ∀ x, d (.ofJson item) = .ok x →
      keepItem item = keep x ∧ fItem item = f x) :
    (xs.filter keep).map f = (items.filter keepItem).map fItem := by
  induction items generalizing xs with
  | nil =>
      cases h
      rfl
  | cons item rest ih =>
      obtain ⟨hfirst, hrest⟩ := List.forall_mem_cons.mp hitem
      rw [List.map_cons, Decoder.items] at h
      cases hx : d (.ofJson item) with
      | error e => simp [hx] at h
      | ok x =>
          simp only [hx] at h
          obtain ⟨values, hvalues, rfl⟩ := map_eq_ok_iff.mp h
          obtain ⟨hkeep, hf⟩ := hfirst x hx
          rw [List.filter_cons, List.filter_cons, hkeep]
          cases keep x with
          | true => simp [hf, ih hvalues hrest]
          | false => simpa using ih hvalues hrest

theorem strings_ofJson {v : Json} {texts : List String}
    (h : Decoder.list .string (.ofJson v) = .ok texts) : v = .strings texts := by
  obtain ⟨items, rfl, hitems⟩ := list_ofJson h
  have hmap : (texts.filter fun _ => true).map Json.str = (items.filter fun _ => true).map id :=
    map_filter_of_items hitems fun item _ s hs => ⟨rfl, string_ofJson hs⟩
  rw [strings, arr.injEq]
  simpa using hmap.symm

mutual

/-- A value known as a whole is that value, with its members sorted. -/
theorem toJson?_ofJson : ∀ v : Json, (Source.ofJson v).toJson? = some v.sorted
  | null | bool _ | num _ | str _ => rfl
  | arr items => by
      rw [Source.ofJson, Source.toJson?, if_neg (by decide), toItems?_ofItems items]
      rfl
  | obj members => by
      rw [Source.ofJson, Source.toJson?, if_neg (by decide), toMembers?_ofMembers members]
      rfl

theorem toItems?_ofItems : ∀ items : List Json,
    Source.toItems? (Source.ofItems items) = some (sortedItems items)
  | [] => rfl
  | item :: rest => by
      rw [Source.ofItems, Source.toItems?, toJson?_ofJson item, toItems?_ofItems rest]
      rfl

theorem toMembers?_ofMembers : ∀ members : List (String × Json),
    Source.toMembers? (Source.ofMembers members) = some (sortedValues members)
  | [] => rfl
  | (key, value) :: rest => by
      simp only [Source.ofMembers, Source.toMembers?, toJson?_ofJson value,
        toMembers?_ofMembers rest, sortedValues]

end

theorem sorted_strings (texts : List String) : (strings texts).sorted = strings texts := by
  rw [strings, sorted, sortedItems_eq_map, List.map_map]
  rfl

theorem sorted_of_part? {v part : Json} {key : String} {place : Nat} (h : v.sorted = v)
    (hpart : v.part? key place = some part) : part.sorted = part := by
  cases v with
  | arr items => exact sorted_of_mem_arr h (List.mem_of_getElem? hpart)
  | obj members =>
      obtain ⟨before, after, hmembers, -⟩ := List.lookup_eq_some_iff.mp hpart
      have hmem : (key, part) ∈ members := by simp [hmembers]
      exact sorted_of_mem_obj h hmem
  | null | bool _ | num _ | str _ => cases hpart

theorem sorted_of_member? {v member : Json} {key : String} (h : v.sorted = v)
    (hmember : v.member? key = some member) : member.sorted = member := by
  cases v with
  | obj members =>
      have hpart : (Json.obj members).part? key 0 = some member := hmember
      exact sorted_of_part? h hpart
  | null | bool _ | num _ | str _ | arr _ => cases hmember

/-- A part of a value, unless it is null. -/
def present? : Option Json → Option Json
  | some .null => none
  | part? => part?

/-- What a field that may be null finds in a part of a value. -/
theorem nullable_ofJson {part : Json} {a? : Option α} {write : α → Json}
    (hwrite : ∀ a, d (.ofJson part) = .ok a → write a = part)
    (h : d.nullable (.ofJson part) = .ok a?) : a?.map write = present? (some part) := by
  by_cases hnull : part = .null
  · subst hnull
    cases h
    rfl
  · have hsource : Source.ofJson part ≠ .null := by
      cases part <;> simp_all [Source.ofJson]
    have hpresent : present? (some part) = some part := by
      cases part <;> simp_all [present?]
    rw [nullable_of_ne_null hsource] at h
    obtain ⟨a, ha, rfl⟩ := map_eq_ok_iff.mp h
    rw [hpresent, Option.map_some, hwrite a ha]

/-- What a record has in a field that may be null, written again, is the part of the value that the
field is read from. -/
theorem map_get_of_nullable {R : Type} {r : JsonRecord R} {v : Json} {y : R} {key : String}
    {place : Nat} {get : R → Option α} {write : α → Json}
    (hkeys : (r.fields.map (·.key)).Nodup) (h : decodeValue (.record r) v = .ok y)
    (hplace : r.fields[place]?.map (·.key) = some key) (hkeeps : r.Keeps key d.nullable get)
    (hstart : get r.start = none)
    (hwrite : ∀ part, v.part? key place = some part →
      ∀ a, d (.ofJson part) = .ok a → write a = part) :
    (get y).map write = present? (v.part? key place) := by
  cases hpart : v.part? key place with
  | some part =>
      exact nullable_ofJson (hwrite part hpart) (get_of_part? hkeys h hplace hkeeps hpart)
  | none =>
      rw [get_of_part?_eq_none hkeys h hplace hkeeps hpart, hstart]
      rfl

end Decoding

end Json

namespace Fabric

/-! ## References -/

namespace Reference

theorem keeps_target : schema.Keeps "to" (Decoder.list Decoder.string) target := by
  constructor <;> simp +contextual [schema]

theorem keeps_uuid : schema.Keeps "uuid" Decoder.string uuid := by
  constructor <;> simp +contextual [schema]

theorem keeps_href : schema.Keeps "href" Decoder.string.nullable href := by
  constructor <;> simp +contextual [schema]

theorem keeps_attr : schema.Keeps "attr" Decoder.value.nullable attr := by
  constructor <;> simp +contextual [schema]

/-- A reference as it is written again: its name, its uuid, which is empty if there was none, and
what there was of its address and its data. -/
def rewritten (item : Json) : Json :=
  .obj (optionalMember "attr" id (present? (item.part? "attr" 3)) ++
    optionalMember "href" id (present? (item.part? "href" 2)) ++
    [("to", (item.part? "to" 0).getD .null), ("uuid", (item.part? "uuid" 1).getD (.str ""))])

theorem toJson_sorted (ref : Reference) :
    ref.toJson.sorted = .obj (optionalMember "attr" id (ref.attr.map Json.sorted) ++
      optionalMember "href" id (ref.href.map .str) ++
      [("to", .strings ref.target), ("uuid", .str ref.uuid)]) := by
  have htarget := sorted_strings ref.target
  obtain ⟨target, uuid, href, attr⟩ := ref
  rw [← htarget]
  cases href <;> cases attr <;> rfl

theorem distinct_keys : (schema.fields.map (·.key)).Nodup := by decide

/-- A reference is written again with the parts that it was read from. -/
theorem rewritten_eq {item : Json} {ref : Reference} (hsorted : item.sorted = item)
    (h : decodeValue decoder item = .ok ref) : rewritten item = ref.toJson.sorted := by
  have htarget : (item.part? "to" 0).getD .null = .strings ref.target := by
    obtain ⟨part, hpart⟩ : ∃ part, item.part? "to" 0 = some part :=
      exists_part? distinct_keys h rfl rfl rfl rfl
    rw [hpart]
    exact strings_ofJson (get_of_part? distinct_keys h rfl keeps_target hpart)
  have huuid : (item.part? "uuid" 1).getD (.str "") = .str ref.uuid := by
    cases hpart : item.part? "uuid" 1 with
    | some part => exact string_ofJson (get_of_part? distinct_keys h rfl keeps_uuid hpart)
    | none => rw [get_of_part?_eq_none distinct_keys h rfl keeps_uuid hpart]; rfl
  have hhref : ref.href.map .str = present? (item.part? "href" 2) := by
    apply map_get_of_nullable distinct_keys h rfl keeps_href rfl
    intro part _ s hs
    exact (string_ofJson hs).symm
  have hattr : ref.attr.map Json.sorted = present? (item.part? "attr" 3) := by
    apply map_get_of_nullable distinct_keys h rfl keeps_attr rfl
    intro part hpart a ha
    have hpartSorted := sorted_of_part? hsorted hpart
    rw [Decoder.value, toJson?_ofJson] at ha
    cases ha
    rw [hpartSorted, hpartSorted]
  rw [rewritten, toJson_sorted, htarget, huuid, hhref, hattr]

end Reference

/-! ## Port groups -/

namespace VirtualPortGroup

theorem distinct_keys : (schema.fields.map (·.key)).Nodup := by decide

theorem keeps_uuid : schema.Keeps "uuid" Decoder.string uuid := by
  constructor <;> simp +contextual [schema, -Bool.exists_bool]

theorem keeps_fqName : schema.Keeps "fq_name" (Decoder.list Decoder.string) fqName := by
  constructor <;> simp +contextual [schema, -Bool.exists_bool]

theorem keeps_vmiRefs :
    schema.Keeps "virtual_machine_interface_refs" (Decoder.list Reference.decoder) vmiRefs := by
  constructor <;> simp +contextual [schema, -Bool.exists_bool]

/-- The references of a group that was told, when an interface is taken out: those that do not
denote it, in order and as they were told. -/
def keptRefs (vmi : VirtualMachineInterface) (refs? : Option Json) : List Json :=
  let items :=
    match refs? with
    | some (.arr items) => items
    | _ => []
  (items.filter fun item => (decodeValue Reference.decoder item).toOption.any fun ref =>
    !denotes ref vmi).map Reference.rewritten

theorem toJson_sorted (g : VirtualPortGroup) :
    (IsObject.toJson g).sorted = .obj [("fq_name", .strings g.fqName), ("uuid", .str g.uuid),
      ("virtual_machine_interface_refs", .arr (g.vmiRefs.map fun ref => ref.toJson.sorted))] := by
  have hname : (Json.strings g.fqName).sorted = .strings g.fqName := sorted_strings g.fqName
  have hrefs : (Reference.listToJson g.vmiRefs).sorted =
      .arr (g.vmiRefs.map fun ref => ref.toJson.sorted) := by
    rw [Reference.listToJson, Json.sorted, sortedItems_eq_map, List.map_map]
    rfl
  rw [← hname, ← hrefs]
  rfl

variable {v : Json} {g : VirtualPortGroup}

theorem keptRefs_eq (vmi : VirtualMachineInterface) (hsorted : v.sorted = v)
    (h : decodeValue (.record schema) v = .ok g) :
    keptRefs vmi (v.part? "virtual_machine_interface_refs" 4) =
      (g.detach vmi).vmiRefs.map fun ref => ref.toJson.sorted := by
  cases hpart : v.part? "virtual_machine_interface_refs" 4 with
  | none =>
      have hnone : g.vmiRefs = [] := get_of_part?_eq_none distinct_keys h rfl keeps_vmiRefs hpart
      simp [keptRefs, detach, hnone]
  | some part =>
      obtain ⟨items, rfl, hitems⟩ :=
        list_ofJson (get_of_part? distinct_keys h rfl keeps_vmiRefs hpart)
      have hpartSorted := sorted_of_part? hsorted hpart
      symm
      apply map_filter_of_items hitems
      intro item hitem ref href
      have hdecode : decodeValue Reference.decoder item = .ok ref := href
      refine ⟨?_, Reference.rewritten_eq (sorted_of_mem_arr hpartSorted hitem) hdecode⟩
      simp [hdecode, Except.toOption]

end VirtualPortGroup

end Fabric

namespace Rest.FabricClient

variable {c : FabricClient} {reaches : Url → Bool} {ask : Ask} {log : List Exchange}
variable {tells : Option Exchange → Prop}

/-- All exchanges of a request but logins are for it, and all but the last were rejected. -/
theorem Asked.requests (h : Asked c reaches ask tells log) :
    (∀ y ∈ log, c.credentials.LogsIn y.request ∨ ∃ token, c.wording ask token = some y.request) ∧
      ∀ y ∈ log.dropLast, c.credentials.LogsIn y.request ∨ y.status? = some 401 := by
  have hpassed {y : Exchange} (hy : c.Passed ask y) :
      (c.credentials.LogsIn y.request ∨ ∃ token, c.wording ask token = some y.request) ∧
        (c.credentials.LogsIn y.request ∨ y.status? = some 401) :=
    ⟨hy.imp_right And.left, hy.imp_right And.right⟩
  cases h with
  | unanswered hlog _ _ =>
      exact ⟨fun y hy => (hpassed (hlog y hy)).1,
        fun y hy => (hpassed (hlog y (List.dropLast_subset _ hy))).2⟩
  | answered hbefore hx _ _ =>
      rw [List.dropLast_concat]
      refine ⟨fun y hy => ?_, fun y hy => (hpassed (hbefore y hy)).2⟩
      rcases List.mem_append.mp hy with hy | hy
      · exact (hpassed (hbefore y hy)).1
      · obtain rfl := List.mem_singleton.mp hy
        exact Or.inr hx

theorem sorted_of_value? {x : Exchange} {v : Json} (h : x.value? = some v) : v.sorted = v := by
  obtain ⟨response, -, hv⟩ := Option.bind_eq_some_iff.mp h
  split at hv
  · split at hv
    · cases hv
      rfl
    · exact sorted_parse? hv
  · cases hv

end Rest.FabricClient

namespace Rest

variable {c : Services} {uuid : String} {s : Session} {x : Exchange}
variable {members : List (String × Json)} {g : VirtualPortGroup}

/-- What is written of a group. -/
def groupBody (uuid : String) (fqName : Json) (refs : List Json) : Json :=
  .obj [("virtual-port-group", .obj [("fq_name", fqName), ("uuid", .str uuid),
    ("virtual_machine_interface_refs", .arr refs)])]

/-- The request that writes a group again. -/
def regroupAsk (uuid : String) (fqName : Json) (refs : List Json) : Ask :=
  { FabricClient.objectAsk .put .virtualPortGroup uuid with
    body := some (groupBody uuid fqName refs) }

/-- A request that writes a group again, as a server gets it. -/
structure WritesGroup (c : FabricClient) (uuid : String) (fqName : Json) (refs : List Json)
    (r : Http.Request) : Prop where
  body : r.body = some (groupBody uuid fqName refs)
  targets : ∀ secure authority root, Url.IsBase c.baseUrl secure authority root →
    Targets secure authority root .put .virtualPortGroup uuid r

theorem FabricClient.writesGroup_of_wording {c : FabricClient} {uuid : String} {fqName : Json}
    {refs : List Json} {token : Option String} {r : Http.Request}
    (hr : c.wording (regroupAsk uuid fqName refs) token = some r) :
    WritesGroup c uuid fqName refs r where
  body := body_of_wording hr
  targets := fun _ _ _ hbase => targets_of_wording hr rfl rfl hbase

/-- A group that is told is read. -/
theorem getPortGroup_of_told (hx : x ∈ s.network.exchangesSince
      (c.respond (.getPortGroup uuid) s).2.network)
    (hown : ¬ c.fabric.credentials.LogsIn x.request)
    (htold : x.given? (Json.member? "virtual-port-group") = some (.obj members))
    (hgroup : decodeValue IsObject.decoder (.obj members) = .ok g) :
    (c.respond (.getPortGroup uuid) s).1 = .ok (some g) := by
  obtain ⟨r, hrun, hasked⟩ := respond_of_perform (.getPortGroup uuid)
    (FabricClient.read_asked VirtualPortGroup c.fabric s.network.reaches uuid)
  obtain ⟨hsought, -⟩ := hasked.decides hx hown (FabricClient.granted_of_given? htold)
  obtain ⟨v, hv, hmember⟩ := Option.bind_eq_some_iff.mp htold
  have hfound : x.given? (Json.object? VirtualPortGroup) = some g := by
    rw [Exchange.given?, hv, Option.bind_some, Json.object?]
    change (v.member? "virtual-port-group").bind _ = _
    rw [hmember, Option.bind_some, hgroup]
    rfl
  rw [hrun]
  exact mapError_eq_ok_iff.mpr ((hsought.found g).mpr hfound)

/-- The body in which a group is written after an interface was taken out of it. -/
theorem updateAsk_detach (hsorted : (Json.obj members).sorted = .obj members)
    (hgroup : decodeValue IsObject.decoder (.obj members) = .ok g) (huuid : g.uuid ≠ "")
    (vmi : VirtualMachineInterface) :
    ∃ fqName, members.lookup "fq_name" = some fqName ∧
      members.lookup "uuid" = some (.str g.uuid) ∧
      FabricClient.updateAsk (g.detach vmi) g.uuid = regroupAsk g.uuid fqName
        (VirtualPortGroup.keptRefs vmi (members.lookup "virtual_machine_interface_refs")) := by
  have hname : ∃ part, (Json.obj members).part? "fq_name" 1 = some part :=
    exists_part? VirtualPortGroup.distinct_keys hgroup rfl rfl rfl rfl
  obtain ⟨fqName, hname⟩ := hname
  have hfqName : fqName = .strings g.fqName := strings_ofJson
    (get_of_part? VirtualPortGroup.distinct_keys hgroup rfl VirtualPortGroup.keeps_fqName hname)
  have hid : (Json.obj members).part? "uuid" 0 = some (.str g.uuid) := by
    cases hpart : (Json.obj members).part? "uuid" 0 with
    | some part =>
        rw [string_ofJson (get_of_part? VirtualPortGroup.distinct_keys hgroup rfl
          VirtualPortGroup.keeps_uuid hpart)]
    | none =>
        have hempty : g.uuid = "" := get_of_part?_eq_none VirtualPortGroup.distinct_keys hgroup rfl
          VirtualPortGroup.keeps_uuid hpart
        exact absurd hempty huuid
  refine ⟨fqName, hname, hid, ?_⟩
  have hrefs := VirtualPortGroup.keptRefs_eq vmi hsorted hgroup
  have hbody := VirtualPortGroup.toJson_sorted (g.detach vmi)
  rw [← hrefs] at hbody
  rw [FabricClient.updateAsk, FabricClient.wrap, hbody, hfqName]
  rfl

/-- A group that is told, and out of which an interface is taken, is written in one request. What
is told of it besides its uuid, its name and its references to interfaces is not in that request,
and of the references just those to the interface are left out, the others being as they were
told. The path of the request names the group if the uuid can stand in a path. -/
theorem group_written_again (c : Services) (uuid : String) (s t : Session) (x : Exchange)
    (members : List (String × Json)) (g : VirtualPortGroup) (vmi : VirtualMachineInterface)
    (hx : x ∈ s.network.exchangesSince (c.respond (.getPortGroup uuid) s).2.network)
    (hown : ¬ c.fabric.credentials.LogsIn x.request)
    (htold : x.given? (Json.member? "virtual-port-group") = some (.obj members))
    (hgroup : decodeValue IsObject.decoder (.obj members) = .ok g) (huuid : g.uuid ≠ "") :
    (c.respond (.getPortGroup uuid) s).1 = .ok (some g) ∧
      ∃ fqName, members.lookup "fq_name" = some fqName ∧
        members.lookup "uuid" = some (.str g.uuid) ∧
        let refs :=
          VirtualPortGroup.keptRefs vmi (members.lookup "virtual_machine_interface_refs")
        let ask := regroupAsk g.uuid fqName refs
        let sent := t.network.exchangesSince
          (c.respond (.updatePortGroup (g.detach vmi)) t).2.network
        (∀ y ∈ sent, c.fabric.credentials.LogsIn y.request ∨
            (∃ token, c.fabric.wording ask token = some y.request) ∧
              WritesGroup c.fabric g.uuid fqName refs y.request) ∧
          (∀ y ∈ sent.dropLast, c.fabric.credentials.LogsIn y.request ∨ y.status? = some 401) ∧
          (c.fabric.credentials.canRenew = false → c.fabric.Ready t.network.reaches ask →
            ∃ y, sent = [y] ∧ WritesGroup c.fabric g.uuid fqName refs y.request ∧
              c.fabric.wording ask c.fabric.credentials.fixed? = some y.request) := by
  obtain ⟨v, hv, hmember⟩ := Option.bind_eq_some_iff.mp htold
  have hsorted : (Json.obj members).sorted = .obj members :=
    sorted_of_member? (FabricClient.sorted_of_value? hv) hmember
  obtain ⟨fqName, hname, hid, hask⟩ := updateAsk_detach hsorted hgroup huuid vmi
  refine ⟨getPortGroup_of_told hx hown htold hgroup, fqName, hname, hid, ?_⟩
  intro refs ask sent
  have hstored : IsObject.uuid? (g.detach vmi) = some g.uuid := if_neg huuid
  obtain ⟨r, -, hasked⟩ := respond_of_perform (.updatePortGroup (g.detach vmi))
    (FabricClient.updateGroup_asked hstored c.fabric t.network.reaches)
  rw [hask] at hasked
  obtain ⟨hrequests, hrejected⟩ := hasked.requests
  refine ⟨fun y hy => (hrequests y hy).imp_right fun hwording => ⟨hwording, ?_⟩, hrejected,
    fun hfixed hready => ?_⟩
  · obtain ⟨token, hwording⟩ := hwording
    exact FabricClient.writesGroup_of_wording hwording
  · obtain ⟨y?, hsent, -, hy, hunsent⟩ := hasked.of_fixed hfixed
    cases y? with
    | none => exact absurd hready (hunsent rfl)
    | some y => exact ⟨y, hsent, FabricClient.writesGroup_of_wording (hy y rfl), hy y rfl⟩

end Rest

/-! ## A group that is told -/

namespace Http

/-- The text of an object is read as the object. -/
theorem Exchange.value?_of_compact {x : Exchange} {members : List (String × Json)}
    (hreply : x.reply = .response { body := (Json.obj members).compact })
    (hintegral : (Json.obj members).Integral) (hheight : (Json.obj members).height ≤ depthLimit) :
    x.value? = some (Json.obj members).sorted := by
  have hblank : Text.isBlank (Json.obj members).compact = false := by
    rw [Text.isBlank, Json.compact, String.toList_ofList]
    cases members <;> simp [Json.write, Text.isWhite]
  have hparse : parse? (Json.obj members).compact = some (Json.obj members).sorted :=
    parse?_write Style.spacing_compact hintegral hheight
  have hsuccess : Status.isSuccess 200 = true := rfl
  simp [Exchange.value?, hreply, Reply.response?, hsuccess, hblank, hparse]

end Http

namespace Lab

/-- What the controller tells of a group with a uuid. -/
def toldMembers (uuid : String) : List (String × Json) :=
  [("display_name", .str "vpg-1"),
    ("fq_name", .strings ["default-global-system-config", "fabric", "vpg-1"]),
    ("physical_interface_refs", .arr [.obj [("to", .strings ["switch", "port"])]]),
    ("uuid", .str uuid),
    ("virtual_machine_interface_refs",
      .arr [.obj [("to", .strings ["domain", "project", "leaving"]), ("uuid", .str "vmi-1")],
        .obj [("attr", .obj [("vlans", .arr [.nat 100])]), ("href", .null),
          ("to", .strings ["domain", "project", "staying"])]])]

def toldGroup (uuid : String) : Json := .obj [("virtual-port-group", .obj (toldMembers uuid))]

/-- What is read of it. -/
def readGroup (uuid : String) : VirtualPortGroup where
  uuid := uuid
  fqName := ["default-global-system-config", "fabric", "vpg-1"]
  interfaceRefs := [{ target := ["switch", "port"] }]
  vmiRefs := [{ target := ["domain", "project", "leaving"], uuid := "vmi-1" },
    { target := ["domain", "project", "staying"],
      attr := some (.obj [("vlans", .arr [.nat 100])]) }]

def leavingInterface : VirtualMachineInterface where
  uuid := some "vmi-1"
  fqName := ["domain", "project", "leaving"]

/-- The reference that stays: with its data, without an address. -/
def stayingRef : Json :=
  .obj [("attr", .obj [("vlans", .arr [.nat 100])]),
    ("to", .strings ["domain", "project", "staying"]), ("uuid", .str "")]

def groupName : Json := .strings ["default-global-system-config", "fabric", "vpg-1"]

def telling (uuid : String) : List Reply := [.response { body := (toldGroup uuid).compact }]

/-- The group without the interface that leaves is to be written. -/
def regroup (uuid : String) : Integration.Call :=
  .updatePortGroup ((readGroup uuid).detach leavingInterface)

end Lab

namespace Rest

/-- The group is told in one answer. -/
theorem given?_telling (uuid : String) :
    ∃ x ∈ Lab.traffic Lab.fixed (.getPortGroup "vpg-1") (Lab.telling uuid),
      x.given? (Json.member? "virtual-port-group") = some (.obj (Lab.toldMembers uuid)) := by
  let s := Lab.loggedOut (Lab.telling uuid)
  have hread := FabricClient.read_asked VirtualPortGroup Lab.fixed.fabric Lab.reaches "vpg-1"
  obtain ⟨r, -, hasked⟩ :=
    respond_of_perform (c := Lab.fixed) (s := s) (.getPortGroup "vpg-1") hread
  obtain ⟨x?, hlog, -, -, hunsent⟩ := hasked.of_fixed rfl
  cases x? with
  | none => exact absurd (by decide +kernel) (hunsent rfl)
  | some x =>
      have hreply : x.reply = .response { body := (Lab.toldGroup uuid).compact } :=
        reply_of_perform (.getPortGroup "vpg-1") s hread hlog rfl rfl
      have hintegral : (Lab.toldGroup uuid).Integral := by
        simp [Lab.toldGroup, Lab.toldMembers, Integral, IntegralMembers, IntegralItems,
          Json.strings, InRange, Json.nat]
      have hvalue : x.value? = some (Lab.toldGroup uuid).sorted :=
        Exchange.value?_of_compact hreply hintegral (of_decide_eq_true rfl)
      refine ⟨x, ?_, ?_⟩
      · rw [Lab.traffic, hlog]
        exact List.mem_singleton_self x
      · rw [Exchange.given?, hvalue]
        rfl

theorem decode_toldMembers (uuid : String) :
    decodeValue IsObject.decoder (.obj (Lab.toldMembers uuid)) = .ok (Lab.readGroup uuid) := rfl

/-- Of two references the one to the interface is left out, and of the rest of the group nothing is
written but its uuid and its name. -/
theorem told_group_written_again :
    (Lab.fixed.respond (.getPortGroup "vpg-1") (Lab.loggedOut (Lab.telling "vpg-1"))).1 =
        .ok (some (Lab.readGroup "vpg-1")) ∧
      ∃ y, Lab.traffic Lab.fixed (Lab.regroup "vpg-1") [] = [y] ∧
        WritesGroup Lab.fixed.fabric "vpg-1" Lab.groupName [Lab.stayingRef] y.request ∧
        y.request.url.path = "/virtual-port-group/vpg-1" := by
  obtain ⟨x, hx, htold⟩ := given?_telling "vpg-1"
  obtain ⟨hread, fqName, hname, -, -, -, hsent⟩ := group_written_again Lab.fixed "vpg-1"
    (Lab.loggedOut (Lab.telling "vpg-1")) (Lab.loggedOut []) x (Lab.toldMembers "vpg-1")
    (Lab.readGroup "vpg-1") Lab.leavingInterface hx id htold (decode_toldMembers "vpg-1")
    (by decide)
  obtain rfl : Lab.groupName = fqName := Option.some.inj hname
  obtain ⟨y, hlog, hwrites, -⟩ := hsent rfl (by decide +kernel)
  have hpath : (Lab.traffic Lab.fixed (Lab.regroup "vpg-1") []).map (·.request.url.path) =
      ["/virtual-port-group/vpg-1"] := by decide +kernel
  have hsame : Lab.traffic Lab.fixed (Lab.regroup "vpg-1") [] = [y] := hlog
  rw [hsame] at hpath
  exact ⟨hread, y, hlog, hwrites, List.singleton_inj.mp hpath⟩

/-- A group with a uuid that climbs the path is written over a project. -/
theorem group_written_elsewhere :
    (Lab.fixed.respond (.getPortGroup "vpg-1") (Lab.loggedOut (Lab.telling "../project/p1"))).1 =
        .ok (some (Lab.readGroup "../project/p1")) ∧
      ∃ y, Lab.traffic Lab.fixed (Lab.regroup "../project/p1") [] = [y] ∧
        (y.request.method, y.request.url.path) = (.put, "/project/p1") ∧
        ¬ y.request.url.Names ["virtual-port-group"] "../project/p1" := by
  constructor
  · obtain ⟨x, hx, htold⟩ := given?_telling "../project/p1"
    exact getPortGroup_of_told hx id htold (decode_toldMembers "../project/p1")
  · have hlog : (Lab.traffic Lab.fixed (Lab.regroup "../project/p1") []).map
        (fun y => (y.request.method, y.request.url.path)) = [(.put, "/project/p1")] := by
      decide +kernel
    obtain ⟨y, hlog, htarget⟩ := List.map_eq_singleton_iff.mp hlog
    exact ⟨y, hlog, htarget, not_names_project (Prod.mk.inj htarget).2 (by decide)⟩

end Rest

end VlanBinding
