import ChainIndex.Index.Block

/-!
# ChainIndex.Index.Filter

Filters for blocks, extrinsics and events.

A filter is a list of conditions of which one has to hold, and the empty list lets
everything pass; the parts of one condition all have to hold, and an absent part holds of
everything.
-/

namespace ChainIndex

/-- A range of runtime versions, both bounds included; an absent bound does not bound. -/
structure VersionRange where
  lower : Option UInt32
  upper : Option UInt32
  deriving DecidableEq

namespace VersionRange

/-- Whether a version lies in a range. -/
def contains (range : VersionRange) (version : UInt32) : Bool :=
  range.lower.all (· ≤ version) && range.upper.all (version ≤ ·)

def toJson (range : VersionRange) : Json :=
  .array [.ofOption .ofUInt32 range.lower, .ofOption .ofUInt32 range.upper]

/-- Reads a range; bounds may be left out at the end. -/
def ofJson? (value : Json) : Option VersionRange := do
  match ← value.toList? (Json.toOption? Json.toUInt32?) with
  | [] => some ⟨none, none⟩
  | [lower] => some ⟨lower, none⟩
  | [lower, upper] => some ⟨lower, upper⟩
  | _ => none

def format : Json.Format VersionRange := ⟨.any, ofJson?, toJson⟩

end VersionRange

/-- A condition on blocks, extrinsics or events. -/
structure Condition where
  specVersion : Option VersionRange
  pallet : Option String
  method : Option String
  /-- The outcome of extrinsics; blocks and events have none. -/
  success : Option Bool
  deriving DecidableEq

namespace Condition

/-- The condition that holds of everything. -/
def anything : Condition := ⟨none, none, none, none⟩

def toJson (c : Condition) : Json :=
  .object [
    ("specVersion", .ofOption VersionRange.toJson c.specVersion),
    ("module", .ofOption .string c.pallet),
    ("method", .ofOption .string c.method),
    ("success", .ofOption .bool c.success)]

/-- Reads a condition; every part may be missing. -/
def ofJson? (value : Json) : Option Condition := do
  let m ← value.members? ["specVersion", "module", "method", "success"]
  let specVersion ← m.defaulted "specVersion" none (Json.toOption? VersionRange.ofJson?)
  let pallet ← m.defaulted "module" none (Json.toOption? Json.toString?)
  let method ← m.defaulted "method" none (Json.toOption? Json.toString?)
  let success ← m.defaulted "success" none (Json.toOption? Json.toBool?)
  return ⟨specVersion, pallet, method, success⟩

def shape : Json.Shape :=
  .record [("specVersion", .any), ("module", .any), ("method", .any), ("success", .any)]

/-- Whether the version is one of those asked for. -/
def holdsOfVersion (c : Condition) (version : UInt32) : Bool :=
  c.specVersion.all (·.contains version)

/-- Whether the condition holds of an extrinsic. -/
def holdsOfExtrinsic (c : Condition) (x : IndexedExtrinsic) : Bool :=
  c.holdsOfVersion x.specVersion && c.pallet.all (x.extrinsic.pallet = ·) &&
    c.method.all (x.extrinsic.method = ·) && c.success.all (x.success = ·)

/-- Whether a name is the one asked for, where the empty name asks for any. -/
def isNamed (asked : Option String) (name : String) : Bool :=
  asked.all fun wanted => wanted = "" ∨ wanted = name

/-- Whether the condition holds of an event. -/
def holdsOfEvent (c : Condition) (e : IndexedEvent) : Bool :=
  c.holdsOfVersion e.specVersion && isNamed c.pallet e.event.event.pallet &&
    isNamed c.method e.event.event.method

def format : Json.Format Condition := ⟨shape, ofJson?, toJson⟩

end Condition

/-- Whether a block passes a filter. -/
def keepsBlock (filter : Option Condition) (b : IndexedBlock) : Bool :=
  filter.all (·.holdsOfVersion b.specVersion)

/-- The extrinsics that pass a filter. -/
def filterExtrinsics (filters : List Condition) (xs : List IndexedExtrinsic) :
    List IndexedExtrinsic :=
  if filters.isEmpty then xs else xs.filter fun x => filters.any (·.holdsOfExtrinsic x)

/-- The events that pass a filter. -/
def filterEvents (filters : List Condition) (es : List IndexedEvent) : List IndexedEvent :=
  if filters.isEmpty then es else es.filter fun e => filters.any (·.holdsOfEvent e)

/-- The filters an indexer applies. -/
structure Filters where
  block : Option Condition
  calls : List Condition
  events : List Condition
  deriving DecidableEq

/-- What is indexed of an interval of heights. -/
structure Batch where
  first : BlockNumber
  last : BlockNumber
  blocks : List IndexedBlock
  extrinsics : List IndexedExtrinsic
  events : List IndexedEvent
  deriving DecidableEq

namespace Batch

/-- The batch of an interval, with the blocks fetched for it. -/
def ofBlocks (filters : Filters) (first last : BlockNumber) (fetched : List IndexedBlock) :
    Batch :=
  let blocks := fetched.filter (keepsBlock filters.block)
  { first, last, blocks
    extrinsics := filterExtrinsics filters.calls (blocks.flatMap IndexedBlock.extrinsics)
    events := filterEvents filters.events (blocks.flatMap IndexedBlock.indexedEvents) }

def toJson (b : Batch) : Json :=
  .object [
    ("start", .ofUInt64 b.first),
    ("end", .ofUInt64 b.last),
    ("blocks", .ofList IndexedBlock.toJson b.blocks),
    ("extrinsics", .ofList IndexedExtrinsic.toJson b.extrinsics),
    ("events", .ofList IndexedEvent.toJson b.events)]

end Batch

end ChainIndex
