import VlanBinding.Json.Decoder

/-!
What the service tells of itself, and what a request may ask of the form of an answer.
-/

namespace VlanBinding.Service

open VlanBinding.Json

/-- The state of the service. -/
structure Status where
  version : String
  enabled : Bool
  /-- the kind of the source of links, empty if the integration is switched off -/
  topologyMode : String
  startedAt : String
deriving DecidableEq, Repr, Inhabited

namespace Status

def schema : JsonRecord Status where
  name := "ServiceStatus"
  start := ⟨"", false, "", ""⟩
  fields :=
    [ required "version" .string fun v s => { s with version := v },
      required "enabled" .bool fun v s => { s with enabled := v },
      required "topology_mode" .string fun v s => { s with topologyMode := v },
      required "started_at" .string fun v s => { s with startedAt := v } ]

def decoder : Decoder Status := .record schema

def toJson (s : Status) : Json :=
  .obj [("version", .str s.version), ("enabled", .bool s.enabled),
    ("topology_mode", .str s.topologyMode), ("started_at", .str s.startedAt)]

end Status

/-- Whether JSON is to be indented. -/
structure Layout where
  pretty : Option Bool := none
deriving DecidableEq, Repr, Inhabited

namespace Layout

def isPretty (l : Layout) : Bool := l.pretty.getD false

def schema : JsonRecord Layout where
  name := "PrettyQueryParams"
  start := {}
  fields := [placed "pretty" .bool fun v l => { l with pretty := v }]

def decoder : Decoder Layout := .record schema

end Layout

end VlanBinding.Service
