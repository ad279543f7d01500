import ChainIndex.Block.Basic

/-!
# ChainIndex.Block.Event

Events, the phase of block execution they were emitted in, and their JSON forms.
-/

namespace ChainIndex

/-- A phase of block execution. -/
inductive Phase where
  /-- While the extrinsic at this index is applied. -/
  | applyExtrinsic (index : UInt32)
  | finalization
  | initialization
  deriving DecidableEq

namespace Phase

def toJson : Phase → Json
  | .applyExtrinsic index => .object [("ApplyExtrinsic", .ofUInt32 index)]
  | .finalization => .string "Finalization"
  | .initialization => .string "Initialization"

/-- Reads a phase that carries nothing. -/
def ofCase? (name : String) : Option Phase :=
  if name = "Finalization" then some .finalization
  else if name = "Initialization" then some .initialization
  else none

def ofJson? (value : Json) : Option Phase :=
  match value with
  | .object [(name, index)] =>
    if name = "ApplyExtrinsic" then index.toUInt32?.map .applyExtrinsic
    else value.toCase?.bind ofCase?
  | _ => value.toCase?.bind ofCase?

def format : Json.Format Phase := ⟨.any, ofJson?, toJson⟩

end Phase

/-- An event emitted by a runtime. -/
structure Event where
  pallet : String
  method : String
  data : List Json
  deriving DecidableEq

namespace Event

def toJson (event : Event) : Json :=
  .object [
    ("section", .string event.pallet),
    ("method", .string event.method),
    ("data", .array event.data)]

def ofJson? (value : Json) : Option Event := do
  let m ← value.members? ["section", "method", "data"]
  let pallet ← m.required "section" Json.toString?
  let method ← m.required "method" Json.toString?
  let data ← m.required "data" (Json.toList? Json.toAny?)
  return ⟨pallet, method, data⟩

def shape : Json.Shape := .record [("section", .any), ("method", .any), ("data", .any)]

end Event

/-- An event with its phase and topics. -/
structure EventRecord where
  phase : Phase
  event : Event
  topics : List BlockHash
  deriving DecidableEq

namespace EventRecord

def toJson (record : EventRecord) : Json :=
  .object [
    ("phase", record.phase.toJson),
    ("event", record.event.toJson),
    ("topics", .ofList BlockHash.toJson record.topics)]

def ofJson? (value : Json) : Option EventRecord := do
  let m ← value.members? ["phase", "event", "topics"]
  let phase ← m.required "phase" Phase.ofJson?
  let event ← m.required "event" Event.ofJson?
  let topics ← m.required "topics" (Json.toList? BlockHash.ofJson?)
  return ⟨phase, event, topics⟩

def shape : Json.Shape := .record [("phase", .any), ("event", Event.shape), ("topics", .any)]

def format : Json.Format EventRecord := ⟨shape, ofJson?, toJson⟩

end EventRecord

end ChainIndex
