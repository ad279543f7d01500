import ChainIndex.Block.Event
import ChainIndex.Fetch.Error

/-!
# ChainIndex.Index.Block

Blocks with the context in which they are indexed: the version of the runtime that executed
them, their events and their time, and their extrinsics and events one by one.
-/

namespace ChainIndex

/-- A block with its context. -/
structure IndexedBlock where
  block : SignedBlock
  hash : BlockHash
  specVersion : UInt32
  /-- The time in milliseconds, from the call that sets it. -/
  timestamp : Option UInt64
  events : List EventRecord
  deriving DecidableEq

/-- An extrinsic with the events it emitted. -/
structure IndexedExtrinsic where
  /-- Its place in the block. -/
  index : UInt32
  extrinsic : Extrinsic
  blockHash : BlockHash
  blockNumber : BlockNumber
  specVersion : UInt32
  events : List EventRecord
  /-- Whether one of the events says that it succeeded. -/
  success : Bool
  deriving DecidableEq

/-- An event with its place. -/
structure IndexedEvent where
  /-- Its place among the events of the block. -/
  index : UInt32
  event : EventRecord
  blockHash : BlockHash
  blockNumber : BlockNumber
  specVersion : UInt32
  /-- The extrinsic that emitted it. -/
  extrinsicIndex : Option UInt32
  deriving DecidableEq

/-- Whether a call sets the time of its block. -/
def Extrinsic.setsTime (call : Extrinsic) : Bool :=
  call.pallet = "timestamp" ∧ call.method = "set"

/-- A time in milliseconds: an unsigned integer, or a text that is one. -/
def readTime? : Json → Option UInt64
  | .number (.natural n) => some n
  | .string text => (Text.parseUnsigned 10 text).toOption
  | _ => none

/-- The time of a block, from the first argument of the first call that sets it. -/
def SignedBlock.time (block : SignedBlock) : Except FetchError (Option UInt64) :=
  match block.extrinsics.find? Extrinsic.setsTime with
  | none => .ok none
  | some call =>
    match call.args.head?.bind readTime? with
    | some time => .ok (some time)
    | none => .error (.invalidTimestamp block.number)

namespace IndexedBlock

/-- The number of the block. -/
def number (b : IndexedBlock) : BlockNumber := b.block.number

/-- The block with its context; it is refused if its time cannot be read. -/
def ofBlock (block : SignedBlock) (events : List EventRecord) (specVersion : UInt32) :
    Except FetchError IndexedBlock := do
  let timestamp ← block.time
  return ⟨block, block.hash, specVersion, timestamp, events⟩

/-- The events emitted while the extrinsic at a place was applied. -/
def eventsOf (b : IndexedBlock) (index : UInt32) : List EventRecord :=
  b.events.filter fun record => record.phase = .applyExtrinsic index

/-- Whether one of some events says that the extrinsic succeeded. -/
def succeeded (events : List EventRecord) : Bool :=
  events.any fun record => record.event.method = "ExtrinsicSuccess"

/-- The extrinsics of a block, each with the events it emitted. -/
def extrinsics (b : IndexedBlock) : List IndexedExtrinsic :=
  b.block.extrinsics.mapIdx fun i extrinsic =>
    let index := UInt32.ofNat i
    let events := b.eventsOf index
    ⟨index, extrinsic, b.hash, b.number, b.specVersion, events, succeeded events⟩

/-- The extrinsic during which something in this phase happened. -/
def extrinsicOf : Phase → Option UInt32
  | .applyExtrinsic index => some index
  | .finalization | .initialization => none

/-- The events of a block, each with the extrinsic that emitted it. -/
def indexedEvents (b : IndexedBlock) : List IndexedEvent :=
  b.events.mapIdx fun i event =>
    ⟨UInt32.ofNat i, event, b.hash, b.number, b.specVersion, extrinsicOf event.phase⟩

def toJson (b : IndexedBlock) : Json :=
  .object [
    ("block", b.block.toJson),
    ("hash", b.hash.toJson),
    ("number", .ofUInt64 b.number),
    ("specVersion", .ofUInt32 b.specVersion),
    ("timestamp", .ofOption .ofUInt64 b.timestamp),
    ("events", .ofList EventRecord.toJson b.events)]

end IndexedBlock

def IndexedExtrinsic.toJson (x : IndexedExtrinsic) : Json :=
  .object [
    ("idx", .ofUInt32 x.index),
    ("extrinsic", x.extrinsic.toJson),
    ("blockHash", x.blockHash.toJson),
    ("blockNumber", .ofUInt64 x.blockNumber),
    ("specVersion", .ofUInt32 x.specVersion),
    ("events", .ofList EventRecord.toJson x.events),
    ("success", .bool x.success)]

def IndexedEvent.toJson (e : IndexedEvent) : Json :=
  .object [
    ("idx", .ofUInt32 e.index),
    ("event", e.event.toJson),
    ("blockHash", e.blockHash.toJson),
    ("blockNumber", .ofUInt64 e.blockNumber),
    ("specVersion", .ofUInt32 e.specVersion),
    ("extrinsicIdx", .ofOption .ofUInt32 e.extrinsicIndex)]

end ChainIndex
