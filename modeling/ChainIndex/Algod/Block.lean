import ChainIndex.Block.Basic

/-!
# ChainIndex.Algod.Block

What an algod node answers: its status and its blocks, which are addressed by round, and
the header and signed block that a round is served as.

The node leaves out members that hold their zero value, so every member of a block but the
genesis hash has that value where it is missing.
-/

namespace ChainIndex.Algod

/-! ## Status -/

/-- The status of a node. -/
structure NodeStatus where
  lastRound : UInt64
  lastVersion : String
  timeSinceLastRound : UInt64
  catchupTime : UInt64
  deriving DecidableEq

namespace NodeStatus

def toJson (status : NodeStatus) : Json :=
  .object [
    ("last-round", .ofUInt64 status.lastRound),
    ("last-version", .string status.lastVersion),
    ("time-since-last-round", .ofUInt64 status.timeSinceLastRound),
    ("catchup-time", .ofUInt64 status.catchupTime)]

def names : List String := ["last-round", "last-version", "time-since-last-round", "catchup-time"]

/-- Reads a status; only the last round is required. -/
def ofJson? (value : Json) : Option NodeStatus := do
  let m ← value.members? names
  let lastRound ← m.required "last-round" Json.toUInt64?
  let lastVersion ← m.defaulted "last-version" "" Json.toString?
  let timeSinceLastRound ← m.defaulted "time-since-last-round" 0 Json.toUInt64?
  let catchupTime ← m.defaulted "catchup-time" 0 Json.toUInt64?
  return ⟨lastRound, lastVersion, timeSinceLastRound, catchupTime⟩

def shape : Json.Shape := .record (names.map fun name => (name, .any))

def format : Json.Format NodeStatus := ⟨shape, ofJson?, toJson⟩

end NodeStatus

/-! ## Blocks -/

/-- The block of a round. -/
structure Block where
  round : UInt64
  /-- The hash the node itself gives the block before. -/
  prev : String
  /-- The hash of the first block of the network, in base64. -/
  genesisHash : String
  genesisId : String
  /-- Seconds since the epoch. -/
  timestamp : Int64
  seed : String
  txnRoot : String
  protocol : String
  transactions : List Json
  deriving DecidableEq

namespace Block

def toJson (b : Block) : Json :=
  .object [
    ("rnd", .ofUInt64 b.round),
    ("prev", .string b.prev),
    ("gh", .string b.genesisHash),
    ("gen", .string b.genesisId),
    ("ts", .ofInt64 b.timestamp),
    ("seed", .string b.seed),
    ("txn", .string b.txnRoot),
    ("proto", .string b.protocol),
    ("txns", .array b.transactions)]

def names : List String := ["rnd", "prev", "gh", "gen", "ts", "seed", "txn", "proto", "txns"]

def ofJson? (value : Json) : Option Block := do
  let m ← value.members? names
  let round ← m.defaulted "rnd" 0 Json.toUInt64?
  let prev ← m.defaulted "prev" "" Json.toString?
  let genesisHash ← m.required "gh" Json.toString?
  let genesisId ← m.defaulted "gen" "" Json.toString?
  let timestamp ← m.defaulted "ts" 0 Json.toInt64?
  let seed ← m.defaulted "seed" "" Json.toString?
  let txnRoot ← m.defaulted "txn" "" Json.toString?
  let protocol ← m.defaulted "proto" "" Json.toString?
  let transactions ← m.defaulted "txns" [] (Json.toList? Json.toAny?)
  return ⟨round, prev, genesisHash, genesisId, timestamp, seed, txnRoot, protocol, transactions⟩

def shape : Json.Shape := .record (names.map fun name => (name, .any))

/-- The JSON form of the answer that carries a block. -/
def answerToJson (b : Block) : Json := .object [("block", b.toJson)]

/-- Reads the answer that carries a block. -/
def answerOfJson? (value : Json) : Option Block := do
  let m ← value.members? ["block"]
  m.required "block" ofJson?

/-- The members of the answer that carries a block. -/
def answerShape : Json.Shape := .record [("block", shape)]

/-! ## Rounds as blocks of the chain -/

/-- The derived hash of a round's block. -/
def hash (b : Block) : BlockHash := deriveHash b.genesisHash b.round

/-- The derived hash of the block before; the first block has the zero hash as parent. -/
def parentHash (b : Block) : BlockHash :=
  if b.round = 0 then BlockHash.zero else deriveHash b.genesisHash (b.round - 1)

/-- The header a round is served as. -/
def header (b : Block) : Header := ⟨b.hash, b.round, b.parentHash, []⟩

/-- The signed block a round is served as; it carries no extrinsics. -/
def signed (b : Block) : SignedBlock := ⟨b.header, [], none⟩

def format : Json.Format Block := ⟨shape, ofJson?, toJson⟩

/-- The written form of the answer that carries a block. -/
def answerFormat : Json.Format Block := ⟨answerShape, answerOfJson?, answerToJson⟩

end Block

end ChainIndex.Algod
