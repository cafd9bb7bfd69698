import VlanBinding.Fabric.Object
import VlanBinding.Neutron.Body
import VlanBinding.Proofs.Json.Sorting
import VlanBinding.Proofs.Records

/-!
Models that are written as JSON text and read back. Every value of Neutron is read back as it was;
an object of the fabric controller is read back without what is never written of it, if its text is
not nested too deep to be read at all.
-/

namespace VlanBinding

namespace Json

open VlanBinding.Schema

/-! ## Texts and what they carry -/

section Carries

variable {α R : Type} {n : Nat} {d : Decoder α} {v : Json} {a : α}

/-- A value is nested no deeper than `n`, and a decoder finds `a` in its text. -/
structure Carries (n : Nat) (d : Decoder α) (v : Json) (a : α) : Prop where
  found : d v.written = .ok a
  integral : v.Integral
  height : v.height ≤ n

/-- The text may be set in any style that puts no more than blanks between tokens. -/
theorem Carries.decodeText_write {style : Style} (hstyle : style.Spacing)
    (h : Carries depthLimit d v a) :
    Json.decodeText d (String.ofList (v.write style 0)) = .ok a := by
  simp only [Json.decodeText, read_write hstyle h.integral h.height, h.found]
  rfl

theorem Carries.decodeText (h : Carries depthLimit d v a) : decodeText d v.compact = .ok a :=
  h.decodeText_write Style.spacing_compact

theorem Carries.mono {m : Nat} (h : Carries n d v a) (hle : n ≤ m) : Carries m d v a :=
  ⟨h.found, h.integral, Nat.le_trans h.height hle⟩

theorem carries_str (n : Nat) (s : String) : Carries n .string (.str s) s :=
  ⟨rfl, trivial, Nat.zero_le n⟩

theorem carries_bool (n : Nat) (b : Bool) : Carries n .bool (.bool b) b :=
  ⟨rfl, trivial, Nat.zero_le n⟩

/-- A value as such is carried with its members sorted. -/
theorem carries_value (hv : v.Integral) (hheight : v.height ≤ n) : Carries n .value v v.sorted :=
  ⟨by rw [Decoder.value, toJson?_written], hv, hheight⟩

theorem integral_int {i : Int} (hlow : Int64.minValue.toInt ≤ i) (hhigh : i < UInt64.size) :
    (Json.num (.int i)).Integral := by
  have hmin : Int64.minValue.toInt = -Decimal.twoTo 63 := by decide
  have hsize : (UInt64.size : Int) = Decimal.twoTo 64 := by decide
  constructor <;> omega

theorem writtenItems_eq_map (items : List Json) : writtenItems items = items.map written := by
  induction items with
  | nil => rfl
  | cons item rest ih => rw [writtenItems, ih, List.map_cons]

theorem writtenMembers_eq_map (members : List (String × Json)) :
    writtenMembers members =
      (members.map fun m => (m.1, m.2.written)).map fun m => (some m.1, m.2) := by
  induction members with
  | nil => rfl
  | cons member rest ih => rw [writtenMembers, ih, List.map_cons, List.map_cons]

theorem items_written {write : α → Json} {xs : List α}
    (h : ∀ x ∈ xs, d (write x).written = .ok x) :
    Decoder.items d ((xs.map write).map written) = .ok xs := by
  induction xs with
  | nil => rfl
  | cons x xs ih =>
      obtain ⟨hx, hxs⟩ := List.forall_mem_cons.mp h
      simp only [List.map_cons, Decoder.items, hx, ih hxs]
      rfl

/-- An array carries a list if its items carry the items. -/
theorem carries_list {write : α → Json} {xs : List α} (h : ∀ x ∈ xs, Carries n d (write x) x) :
    Carries (n + 1) (.list d) (.arr (xs.map write)) xs where
  found := by
    rw [written, writtenItems_eq_map]
    simp only [Decoder.list, items_written fun x hx => (h x hx).found]
    rfl
  integral := by
    apply integralItems_iff.mpr
    exact List.forall_mem_map.mpr fun x hx => (h x hx).integral
  height := by
    apply Nat.succ_le_succ
    apply heightItems_le_iff.mpr
    exact List.forall_mem_map.mpr fun x hx => (h x hx).height

theorem carries_strings (n : Nat) (texts : List String) :
    Carries (n + 1) (.list .string) (.strings texts) texts :=
  carries_list fun s _ => carries_str n s

/-! ## Objects -/

/-- Members in the order of the fields, nested no deeper than `n`, and what their text makes of a
record. -/
structure CarriesFields (n : Nat) (fields : List (Field Source DecodeError R))
    (members : List (String × Json)) (x y : R) : Prop where
  gives : Record.Gives fields (members.map fun m => (m.1, m.2.written)) x y
  integral : ∀ m ∈ members, m.2.Integral
  height : ∀ m ∈ members, m.2.height ≤ n

variable {key : String} {fields : List (Field Source DecodeError R)}
variable {members : List (String × Json)} {x y : R}

theorem CarriesFields.record {r : JsonRecord R} (hkeys : (r.fields.map (·.key)).Nodup)
    (h : CarriesFields n r.fields members r.start y) :
    Carries (n + 1) (.record r) (.obj members) y where
  found := by
    rw [written, writtenMembers_eq_map]
    exact record_obj_of_gives hkeys h.gives
  integral := integralMembers_iff.mpr h.integral
  height := Nat.succ_le_succ (heightMembers_le_iff.mpr h.height)

theorem CarriesFields.nil (n : Nat) (x : R) : CarriesFields n [] [] x x where
  gives := .nil x
  integral := List.forall_mem_nil _
  height := List.forall_mem_nil _

theorem CarriesFields.cons {field : Field Source DecodeError R} {z : R} {v : Json}
    (htake : field.take v.written x = .ok z) (hv : v.Integral) (hheight : v.height ≤ n)
    (h : CarriesFields n fields members z y) :
    CarriesFields n (field :: fields) ((field.key, v) :: members) x y where
  gives := .take htake h.gives
  integral := List.forall_mem_cons.mpr ⟨hv, h.integral⟩
  height := List.forall_mem_cons.mpr ⟨hheight, h.height⟩

/-- A field that is never written. -/
theorem CarriesFields.unwritten {field : Field Source DecodeError R}
    (hneeded : field.needed = false) (h : CarriesFields n fields members x y) :
    CarriesFields n (field :: fields) members x y where
  gives := .skip hneeded h.gives
  integral := h.integral
  height := h.height

theorem CarriesFields.required {put : α → R → R} (ha : Carries n d v a)
    (h : CarriesFields n fields members (put a x) y) :
    CarriesFields n (required key d put :: fields) ((key, v) :: members) x y :=
  .cons ((take_required put).mpr ⟨a, ha.found, rfl⟩) ha.integral ha.height h

theorem CarriesFields.defaulted {put : α → R → R} (ha : Carries n d v a)
    (h : CarriesFields n fields members (put a x) y) :
    CarriesFields n (defaulted key d put :: fields) ((key, v) :: members) x y :=
  .cons ((take_defaulted put).mpr ⟨a, ha.found, rfl⟩) ha.integral ha.height h

theorem written_ne_null (hv : v ≠ .null) : v.written ≠ .null := by
  cases v with
  | null => exact absurd rfl hv
  | bool | num | str | arr | obj => simp [written]

/-- Null stands for no value, and so for no other. -/
theorem carries_nullable {write : α → Json} {a? : Option α}
    (ha : ∀ a ∈ a?, write a ≠ .null ∧ Carries n d (write a) a) :
    Carries n d.nullable ((a?.map write).getD .null) a? := by
  cases a? with
  | none => exact ⟨rfl, trivial, Nat.zero_le n⟩
  | some a =>
      obtain ⟨hnull, ha⟩ := ha a rfl
      refine ⟨?_, ha.integral, ha.height⟩
      rw [Option.map_some, Option.getD_some, nullable_of_ne_null (written_ne_null hnull), ha.found]
      rfl

/-- A field that is null when it has no value. -/
theorem CarriesFields.nullable {write : α → Json} {put : Option α → R → R} {a? : Option α}
    (ha : ∀ a ∈ a?, write a ≠ .null ∧ Carries n d (write a) a)
    (h : CarriesFields n fields members (put a? x) y) :
    CarriesFields n (Json.optional key d put :: fields) (nullableMember key write a? :: members)
      x y := by
  have hcarries := carries_nullable ha
  exact .cons ((take_optional put).mpr ⟨a?, hcarries.found, rfl⟩) hcarries.integral
    hcarries.height h

/-- A field that is left out when it has no value; null would be taken for none. -/
theorem CarriesFields.optional {write : α → Json} {put : Option α → R → R} {a? : Option α}
    (ha : ∀ a ∈ a?, write a ≠ .null ∧ Carries n d (write a) a) (hnone : put none x = x)
    (h : CarriesFields n fields members (put a? x) y) :
    CarriesFields n (optional key d put :: fields) (optionalMember key write a? ++ members)
      x y := by
  cases a? with
  | none =>
      rw [hnone] at h
      exact h.unwritten rfl
  | some a => exact h.nullable ha

theorem CarriesFields.optional_str {put : Option String → R → R} {s? : Option String}
    (hnone : put none x = x) (h : CarriesFields n fields members (put s? x) y) :
    CarriesFields n (Json.optional key .string put :: fields)
      (optionalMember key .str s? ++ members) x y :=
  .optional (fun s _ => ⟨by simp, carries_str n s⟩) hnone h

end Carries

end Json

open VlanBinding.Json

/-! ## Values of Neutron -/

namespace Neutron

theorem Port.carries (p : Port) : Carries 1 Port.decoder p.toJson p := by
  apply CarriesFields.record (by decide)
  rw [← List.append_nil (_ ++ _)]
  simp only [List.append_assoc, List.cons_append]
  apply CarriesFields.defaulted (carries_str 0 p.id)
  iterate 6 apply CarriesFields.optional_str rfl
  exact .nil 0 p

theorem carries_int64 (n : Nat) (i : Int64) :
    Carries n .int64 (.num (.int i.toInt)) i where
  found := by
    have hrange := And.intro i.minValue_le_toInt i.toInt_le
    rw [written, Decoder.int64, if_pos hrange, Int64.ofInt_toInt]
  integral := integral_int i.minValue_le_toInt (Int.lt_trans i.toInt_lt (by decide))
  height := Nat.zero_le n

theorem Network.carries (n : Network) : Carries 1 Network.decoder n.toJson n := by
  apply CarriesFields.record (by decide)
  rw [← List.append_nil (_ ++ _)]
  simp only [List.append_assoc, List.cons_append]
  apply CarriesFields.defaulted (carries_str 0 n.id)
  apply CarriesFields.optional_str rfl
  apply CarriesFields.optional (fun i _ => ⟨by simp, carries_int64 0 i⟩) rfl
  exact .nil 0 n

theorem PortBody.carries (b : PortBody) : Carries 2 PortBody.decoder b.toJson b :=
  CarriesFields.record (by decide) (.required b.port.carries (.nil 1 b))

theorem PortUpdateBody.carries (b : PortUpdateBody) :
    Carries 2 PortUpdateBody.decoder b.toJson b :=
  CarriesFields.record (by decide)
    (.required b.port.carries (.required b.previousPort.carries (.nil 1 b)))

theorem NetworkBody.carries (b : NetworkBody) : Carries 2 NetworkBody.decoder b.toJson b :=
  CarriesFields.record (by decide) (.required b.network.carries (.nil 1 b))

theorem PortsBody.carries (b : PortsBody) : Carries 3 PortsBody.decoder b.toJson b := by
  have hports : Carries 2 (.list Port.decoder) (.arr (b.ports.map Port.toJson)) b.ports :=
    carries_list fun p _ => p.carries
  exact CarriesFields.record (by decide) (.defaulted hports (.nil 2 b))

end Neutron

/-! ## Objects of the fabric controller -/

namespace Fabric

/-- A reference whose text is read back: its data are a value as such, with sorted members and
without null, floating point numbers and deep nesting. -/
def Reference.Plain (ref : Reference) : Prop :=
  ∀ a ∈ ref.attr, a ≠ .null ∧ a.Integral ∧ a.sorted = a ∧ a.height ≤ 124

theorem Reference.carries {ref : Reference} (h : ref.Plain) :
    Carries 125 Reference.decoder ref.toJson ref := by
  apply CarriesFields.record (by decide)
  rw [← List.append_nil (_ ++ _)]
  simp only [List.append_assoc, List.cons_append]
  apply CarriesFields.required ((carries_strings 0 ref.target).mono (by decide))
  apply CarriesFields.defaulted (carries_str 124 ref.uuid)
  apply CarriesFields.optional_str rfl
  apply CarriesFields.optional
  · intro a ha
    obtain ⟨hnull, hintegral, hsorted, hheight⟩ := h a ha
    have hcarries := carries_value hintegral hheight
    rw [hsorted] at hcarries
    exact ⟨hnull, hcarries⟩
  · rfl
  · exact .nil 124 ref

theorem Reference.carries_list {refs : List Reference} (h : ∀ ref ∈ refs, ref.Plain) :
    Carries 126 (.list Reference.decoder) (Reference.listToJson refs) refs :=
  Json.carries_list fun ref href => Reference.carries (h ref href)

theorem carries_fqName (fqName : FqName) :
    Carries 126 (.list .string) (.strings fqName) fqName :=
  (carries_strings 0 fqName).mono (by decide)

theorem carries_uint16 (n : Nat) (tag : UInt16) : Carries n .uint16 (.nat tag.toNat) tag where
  found := by
    have hrange : (0 : Int) ≤ tag.toNat ∧ (tag.toNat : Int) < UInt16.size :=
      ⟨Int.natCast_nonneg _, Int.ofNat_lt.mpr tag.toNat_lt⟩
    rw [nat, written, Decoder.uint16, if_pos hrange, Int.toNat_natCast, UInt16.ofNat_toNat]
  integral := by
    have hlow : Int64.minValue.toInt ≤ 0 := by decide
    have hlt : tag.toNat < UInt64.size := Nat.lt_trans tag.toNat_lt (by decide)
    apply integral_int <;> omega
  height := Nat.zero_le n

theorem InterfaceProperties.carries (p : InterfaceProperties) :
    Carries 1 InterfaceProperties.decoder p.toJson p := by
  apply CarriesFields.record (by decide)
  rw [← List.append_nil (optionalMember _ _ _)]
  apply CarriesFields.optional (fun tag _ => ⟨by simp [nat], carries_uint16 0 tag⟩) rfl
  exact .nil 0 p

theorem KeyValuePair.carries (p : KeyValuePair) : Carries 1 KeyValuePair.decoder p.toJson p :=
  CarriesFields.record (by decide)
    (.required (carries_str 0 p.key) (.required (carries_str 0 p.value) (.nil 0 p)))

theorem KeyValuePairs.carries (p : KeyValuePairs) : Carries 3 KeyValuePairs.decoder p.toJson p := by
  have hpairs : Carries 2 (.list KeyValuePair.decoder) (.arr (p.pairs.map KeyValuePair.toJson))
      p.pairs := Json.carries_list fun pair _ => pair.carries
  exact CarriesFields.record (by decide) (.defaulted hpairs (.nil 2 p))

theorem IdPerms.carries (p : IdPerms) : Carries 1 IdPerms.decoder p.toJson p := by
  apply CarriesFields.record (by decide)
  apply CarriesFields.optional_str rfl
  exact .defaulted (carries_bool 0 p.enable) (.nil 0 p)

/-- What is left of an object when it is written: without the members that never are. -/
def Resource.asWritten : (r : Resource) → r.Object → r.Object
  | .virtualMachineInterface, (i : VirtualMachineInterface) => { i with portGroupBackRefs := [] }
  | .physicalInterface, (i : PhysicalInterface) => { i with portGroupBackRefs := [] }
  | .virtualPortGroup, (g : VirtualPortGroup) =>
      { g with userCreated := false, interfaceRefs := [] }
  | .node, (n : Node) => { n with ports := [] }
  | .port, (p : Port) => { p with interfaceBackRefs := [] }
  | .project, p => p
  | .virtualNetwork, n => n
  | .physicalRouter, r => r

/-- The references of an object that are written. -/
def Resource.writtenRefs : (r : Resource) → r.Object → List Reference
  | .virtualMachineInterface, (i : VirtualMachineInterface) => i.networkRefs
  | .virtualPortGroup, (g : VirtualPortGroup) => g.vmiRefs
  | .physicalRouter, (r : PhysicalRouter) => r.fabricRefs
  | _, _ => []

theorem VirtualMachineInterface.carries {i : VirtualMachineInterface}
    (h : ∀ ref ∈ i.networkRefs, ref.Plain) :
    Carries depthLimit IsObject.decoder (IsObject.toJson i)
      (Resource.virtualMachineInterface.asWritten i) := by
  apply CarriesFields.record (by decide)
  rw [← List.append_nil (_ ++ _)]
  simp only [List.append_assoc, List.cons_append, List.nil_append]
  apply CarriesFields.optional_str rfl
  apply CarriesFields.required (carries_fqName i.fqName)
  apply CarriesFields.defaulted (carries_str 126 i.parentType)
  apply CarriesFields.defaulted (Reference.carries_list h)
  apply CarriesFields.optional (fun p _ => ⟨by simp [InterfaceProperties.toJson],
    p.carries.mono (by decide)⟩) rfl
  apply CarriesFields.optional (fun p _ => ⟨by simp [KeyValuePairs.toJson],
    p.carries.mono (by decide)⟩) rfl
  apply CarriesFields.optional (fun p _ => ⟨by simp [IdPerms.toJson],
    p.carries.mono (by decide)⟩) rfl
  apply CarriesFields.unwritten rfl
  exact .nil 126 _

theorem Node.carries (n : Node) :
    Carries depthLimit IsObject.decoder (IsObject.toJson n) (Resource.node.asWritten n) := by
  apply CarriesFields.record (by decide)
  rw [← List.append_nil (_ ++ _)]
  simp only [List.cons_append, List.nil_append]
  apply CarriesFields.defaulted (carries_str 126 n.uuid)
  apply CarriesFields.required (carries_fqName n.fqName)
  apply CarriesFields.optional_str rfl
  apply CarriesFields.unwritten rfl
  exact .nil 126 _

/-- Objects of a kind are read back from their text as far as they are written. -/
theorem Resource.carries {r : Resource} {x : r.Object} (h : ∀ ref ∈ r.writtenRefs x, ref.Plain) :
    Carries depthLimit IsObject.decoder (IsObject.toJson x) (r.asWritten x) := by
  cases r with
  | virtualMachineInterface => exact VirtualMachineInterface.carries h
  | node => exact Node.carries x
  | project | virtualNetwork =>
      apply CarriesFields.record (by decide)
      apply CarriesFields.defaulted (carries_str 126 x.uuid)
      apply CarriesFields.required (carries_fqName x.fqName)
      exact .nil 126 x
  | physicalInterface | port =>
      apply CarriesFields.record (by decide)
      apply CarriesFields.defaulted (carries_str 126 x.uuid)
      apply CarriesFields.required (carries_fqName x.fqName)
      apply CarriesFields.unwritten rfl
      exact .nil 126 _
  | virtualPortGroup =>
      apply CarriesFields.record (by decide)
      apply CarriesFields.defaulted (carries_str 126 x.uuid)
      apply CarriesFields.required (carries_fqName x.fqName)
      apply CarriesFields.unwritten rfl
      apply CarriesFields.unwritten rfl
      apply CarriesFields.defaulted (Reference.carries_list h)
      exact .nil 126 _
  | physicalRouter =>
      apply CarriesFields.record (by decide)
      apply CarriesFields.defaulted (carries_str 126 x.uuid)
      apply CarriesFields.required (carries_fqName x.fqName)
      apply CarriesFields.defaulted (Reference.carries_list h)
      exact .nil 126 x

theorem Resource.toJson_asWritten (r : Resource) (x : r.Object) :
    IsObject.toJson (r.asWritten x) = IsObject.toJson x := by
  cases r <;> rfl

end Fabric

/-! ## Models and their texts -/

open VlanBinding.Fabric

/-- Models survive as text. What Neutron is told or tells is read back as it was; an object of the
fabric controller is read back but for what is never written, if its references can be, and its
text does not change any more. -/
theorem models_read_back :
    (∀ p : Neutron.Port, decodeText Neutron.Port.decoder p.toJson.compact = .ok p) ∧
      (∀ n : Neutron.Network, decodeText Neutron.Network.decoder n.toJson.compact = .ok n) ∧
      (∀ b : Neutron.PortBody, decodeText Neutron.PortBody.decoder b.toJson.compact = .ok b) ∧
      (∀ b : Neutron.PortUpdateBody,
        decodeText Neutron.PortUpdateBody.decoder b.toJson.compact = .ok b) ∧
      (∀ b : Neutron.NetworkBody,
        decodeText Neutron.NetworkBody.decoder b.toJson.compact = .ok b) ∧
      (∀ b : Neutron.PortsBody, decodeText Neutron.PortsBody.decoder b.toJson.compact = .ok b) ∧
      ∀ (r : Resource) (x : r.Object), (∀ ref ∈ r.writtenRefs x, ref.Plain) →
        decodeText IsObject.decoder (IsObject.toJson x).compact = .ok (r.asWritten x) ∧
          (IsObject.toJson (r.asWritten x)).compact = (IsObject.toJson x).compact := by
  have hshort {m : Nat} (hm : m ≤ 3) : m ≤ depthLimit := Nat.le_trans hm (by decide)
  refine ⟨fun p => ?_, fun n => ?_, fun b => ?_, fun b => ?_, fun b => ?_, fun b => ?_,
    fun r x hrefs => ⟨?_, ?_⟩⟩
  · exact (p.carries.mono (hshort (by decide))).decodeText
  · exact (n.carries.mono (hshort (by decide))).decodeText
  · exact (b.carries.mono (hshort (by decide))).decodeText
  · exact (b.carries.mono (hshort (by decide))).decodeText
  · exact (b.carries.mono (hshort (by decide))).decodeText
  · exact (b.carries.mono (hshort (by decide))).decodeText
  · exact (Resource.carries hrefs).decodeText
  · rw [r.toJson_asWritten]

namespace Lab

/-- Arrays inside each other. -/
def nest : Nat → Json
  | 0 => .arr []
  | n + 1 => .arr [nest n]

theorem integral_nest (n : Nat) : (nest n).Integral := by
  induction n with
  | zero => trivial
  | succ n ih => exact ⟨ih, trivial⟩

theorem sorted_nest (n : Nat) : (nest n).sorted = nest n := by
  induction n with
  | zero => rfl
  | succ n ih => rw [nest, sorted, sortedItems, ih, sortedItems]

theorem height_nest (n : Nat) : (nest n).height = n + 1 := by
  induction n with
  | zero => rfl
  | succ n ih => rw [nest, height, heightItems, heightItems, ih, Nat.max_zero]

/-- A group with one reference, and with data on its link. -/
def linkedGroup (attr : Json) : VirtualPortGroup where
  uuid := "vpg-1"
  fqName := ["default-global-system-config", "fabric", "vpg-1"]
  userCreated := true
  interfaceRefs := [{ target := ["switch", "port"], uuid := "pi-1" }]
  vmiRefs := [{ target := ["domain", "project", "vmi"], uuid := "vmi-1", attr := some attr }]

end Lab

/-- The data on the link of a group come back, its interfaces of switches do not. -/
theorem linked_group_read_back :
    let attr : Json := .obj [("local", .bool true), ("vlans", .arr [.nat 100, .str ""])]
    let kept : VirtualPortGroup :=
      { Lab.linkedGroup attr with userCreated := false, interfaceRefs := [] }
    decodeText IsObject.decoder (IsObject.toJson (Lab.linkedGroup attr)).compact = .ok kept ∧
      (IsObject.toJson kept).compact = (IsObject.toJson (Lab.linkedGroup attr)).compact := by
  have hplain : ∀ ref ∈ Resource.virtualPortGroup.writtenRefs (Lab.linkedGroup
      (.obj [("local", .bool true), ("vlans", .arr [.nat 100, .str ""])])), ref.Plain := by
    rintro ref hmem a ha
    obtain rfl := List.mem_singleton.mp hmem
    obtain rfl := Option.some.inj ha
    refine ⟨by simp, ?_, by rfl, by decide⟩
    simp [Integral, IntegralMembers, IntegralItems, nat, InRange, Decimal.twoTo]
  exact models_read_back.2.2.2.2.2.2 .virtualPortGroup (Lab.linkedGroup _) hplain

/-- Data that are nested one level deeper than is allowed of a reference make a text that cannot
be read, although there is no null in them and no floating point number. -/
theorem deep_link_not_read_back :
    let attr := Lab.nest 124
    attr ≠ .null ∧ attr.Integral ∧ attr.sorted = attr ∧ attr.height = 125 ∧
      ∀ g : VirtualPortGroup, decodeText IsObject.decoder
        (IsObject.toJson (Lab.linkedGroup attr)).compact ≠ .ok g := by
  have hheight := Lab.height_nest 124
  have hnull : Lab.nest 124 ≠ .null := by
    intro hnull
    rw [hnull] at hheight
    cases hheight
  refine ⟨hnull, Lab.integral_nest 124, Lab.sorted_nest 124, hheight, ?_⟩
  have hnone : (decodeText (IsObject.decoder (α := VirtualPortGroup))
      (IsObject.toJson (Lab.linkedGroup (Lab.nest 124))).compact).toOption.isNone = true := by
    rw [decodeText, Json.read, compact, String.toList_ofList]
    decide +kernel
  intro g hg
  rw [hg] at hnone
  cases hnone

end VlanBinding
