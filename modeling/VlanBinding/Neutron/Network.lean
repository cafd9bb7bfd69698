import VlanBinding.Json.Decoder

/-!
A Neutron network with the two provider attributes that give it a VLAN tag.
-/

namespace VlanBinding.Neutron

open VlanBinding.Json

structure Network where
  id : String := ""
  networkType : Option String := none
  segmentationId : Option Int64 := none
deriving DecidableEq, Repr, Inhabited

namespace Network

/-- Tag 0 means untagged and 4095 is reserved. -/
def tagRange (tag : Int) : Bool := 1 ≤ tag && tag ≤ 4094

/-- The tag of a VLAN network; a network of another type has none, whatever its segmentation. -/
def vlanTag (n : Network) : Option UInt16 :=
  if n.networkType = some "vlan" then
    match n.segmentationId with
    | some id => if tagRange id.toInt then some (UInt16.ofNat id.toInt.toNat) else none
    | none => none
  else none

def schema : JsonRecord Network where
  name := "NeutronNetwork"
  start := {}
  fields :=
    [ defaulted "id" .string fun v n => { n with id := v },
      optional "provider:network_type" .string fun v n => { n with networkType := v },
      optional "provider:segmentation_id" .int64 fun v n => { n with segmentationId := v } ]

def decoder : Decoder Network := .record schema

def toJson (n : Network) : Json :=
  .obj (("id", .str n.id) ::
    optionalMember "provider:network_type" .str n.networkType ++
    optionalMember "provider:segmentation_id" (fun i => .num (.int i.toInt)) n.segmentationId)

end Network

end VlanBinding.Neutron
