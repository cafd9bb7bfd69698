/-!
The tokens of a YAML text. Indentation has become brackets: a block collection has a start and an
end token as a flow collection has.
-/

namespace VlanBinding.Yaml

/-- The tag of a node: a handle and a name under it. -/
structure Tag where
  handle : String
  name : String
deriving DecidableEq, Repr, Inhabited

inductive Token where
  | directive
  | documentStart
  | documentEnd
  | blockSequenceStart
  | blockMappingStart
  | blockEnd
  | flowSequenceStart
  | flowSequenceEnd
  | flowMappingStart
  | flowMappingEnd
  | blockEntry
  | flowEntry
  | key
  | value
  | aliasOf (name : String)
  | anchor (name : String)
  | tag (tag : Tag)
  | scalar (text : String) (plain : Bool)
deriving DecidableEq, Repr, Inhabited

end VlanBinding.Yaml
