import VlanBinding.Fabric.Resource
import VlanBinding.Json.Decoder

/-!
References between objects of the fabric controller, and the small records inside its objects.
-/

namespace VlanBinding.Fabric

open VlanBinding.Json

/-- A reference to an object: its name, its uuid if known, and the data of the link. -/
structure Reference where
  target : FqName
  uuid : String := ""
  href : Option String := none
  attr : Option Json := none
deriving Repr, Inhabited

namespace Reference

/-- The own name of the object. -/
def name (r : Reference) : Option String := r.target.getLast?

/-- The last two names of the object; of an interface they are its switch and itself. -/
def parentAndName (r : Reference) : Option (String × String) :=
  match r.target.reverse with
  | name :: parent :: _ => some (parent, name)
  | _ => none

def schema : JsonRecord Reference where
  name := "ObjectReference"
  start := ⟨[], "", none, none⟩
  fields :=
    [ required "to" (.list .string) fun v r => { r with target := v },
      defaulted "uuid" .string fun v r => { r with uuid := v },
      optional "href" .string fun v r => { r with href := v },
      optional "attr" .value fun v r => { r with attr := v } ]

def decoder : Decoder Reference := .record schema

def toJson (r : Reference) : Json :=
  .obj (("to", .strings r.target) :: ("uuid", .str r.uuid) ::
    optionalMember "href" .str r.href ++
    optionalMember "attr" id r.attr)

/-- An array of references. -/
def listToJson (refs : List Reference) : Json := .arr (refs.map toJson)

end Reference

/-- Who created an object, and whether it is in force. -/
structure IdPerms where
  creator : Option String := none
  enable : Bool := true
deriving DecidableEq, Repr, Inhabited

namespace IdPerms

def createdBy (creator : String) : IdPerms := { creator := some creator }

def schema : JsonRecord IdPerms where
  name := "IdPerms"
  start := {}
  fields :=
    [ optional "creator" .string fun v p => { p with creator := v },
      defaulted "enable" .bool fun v p => { p with enable := v } ]

def decoder : Decoder IdPerms := .record schema

def toJson (p : IdPerms) : Json :=
  .obj (optionalMember "creator" .str p.creator ++ [("enable", .bool p.enable)])

end IdPerms

structure KeyValuePair where
  key : String
  value : String
deriving DecidableEq, Repr, Inhabited

namespace KeyValuePair

def schema : JsonRecord KeyValuePair where
  name := "KeyValuePair"
  start := ⟨"", ""⟩
  fields :=
    [ required "key" .string fun v p => { p with key := v },
      required "value" .string fun v p => { p with value := v } ]

def decoder : Decoder KeyValuePair := .record schema

def toJson (p : KeyValuePair) : Json := .obj [("key", .str p.key), ("value", .str p.value)]

end KeyValuePair

/-- Pairs in order; of two pairs with one key the first counts. -/
structure KeyValuePairs where
  pairs : List KeyValuePair := []
deriving DecidableEq, Repr, Inhabited

namespace KeyValuePairs

def ofList (pairs : List (String × String)) : KeyValuePairs :=
  ⟨pairs.map fun (key, value) => ⟨key, value⟩⟩

def get? (p : KeyValuePairs) (key : String) : Option String :=
  (p.pairs.find? (·.key == key)).map (·.value)

def schema : JsonRecord KeyValuePairs where
  name := "KeyValuePairs"
  start := {}
  fields :=
    [defaulted "key_value_pair" (.list KeyValuePair.decoder) fun v p => { p with pairs := v }]

def decoder : Decoder KeyValuePairs := .record schema

def toJson (p : KeyValuePairs) : Json :=
  .obj [("key_value_pair", .arr (p.pairs.map KeyValuePair.toJson))]

end KeyValuePairs

/-- The VLAN tag of a sub-interface. -/
structure InterfaceProperties where
  vlanTag : Option UInt16 := none
deriving DecidableEq, Repr, Inhabited

namespace InterfaceProperties

def schema : JsonRecord InterfaceProperties where
  name := "VirtualMachineInterfacePropertiesType"
  start := {}
  fields := [optional "sub_interface_vlan_tag" .uint16 fun v p => { p with vlanTag := v }]

def decoder : Decoder InterfaceProperties := .record schema

def toJson (p : InterfaceProperties) : Json :=
  .obj (optionalMember "sub_interface_vlan_tag" (fun t => .nat t.toNat) p.vlanTag)

end InterfaceProperties

end VlanBinding.Fabric
