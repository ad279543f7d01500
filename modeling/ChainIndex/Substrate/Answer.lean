import ChainIndex.Block.Runtime
import ChainIndex.JsonRpc.Failure

/-!
# ChainIndex.Substrate.Answer

What a node whose blocks are addressed by hash answers: headers and blocks with numbers and
extrinsics in hexadecimal.
-/

namespace ChainIndex.Substrate

/-- A header as a node sends it. -/
structure NodeHeader where
  parentHash : String
  /-- The number in hexadecimal. -/
  number : String
  stateRoot : String
  extrinsicsRoot : String
  logs : List String
  deriving DecidableEq

namespace NodeHeader

/-- A text without any leading `0x`. -/
def dropMarkers : List Char → List Char
  | '0' :: 'x' :: rest => dropMarkers rest
  | text => text

/-- The block number. -/
def blockNumber (header : NodeHeader) : Except Text.NumeralError UInt64 :=
  (Text.readUnsigned 16 (dropMarkers header.number.toList)).map UInt64.ofNat

def names : List String := ["parentHash", "number", "stateRoot", "extrinsicsRoot", "digest"]

def toJson (header : NodeHeader) : Json :=
  .object [
    ("parentHash", .string header.parentHash),
    ("number", .string header.number),
    ("stateRoot", .string header.stateRoot),
    ("extrinsicsRoot", .string header.extrinsicsRoot),
    ("digest", Header.digestToJson header.logs)]

/-- Reads a digest, which may be empty. -/
def digestOfJson? (value : Json) : Option (List String) := do
  let m ← value.members? ["logs"]
  m.defaulted "logs" [] (Json.toList? Json.toString?)

/-- Reads a header; only the parent hash and the number are required. -/
def ofJson? (value : Json) : Option NodeHeader := do
  let m ← value.members? names
  let parentHash ← m.required "parentHash" Json.toString?
  let number ← m.required "number" Json.toString?
  let stateRoot ← m.defaulted "stateRoot" "" Json.toString?
  let extrinsicsRoot ← m.defaulted "extrinsicsRoot" "" Json.toString?
  let logs ← m.defaulted "digest" [] digestOfJson?
  return ⟨parentHash, number, stateRoot, extrinsicsRoot, logs⟩

def shape : Json.Shape :=
  .record [("parentHash", .any), ("number", .any), ("stateRoot", .any),
    ("extrinsicsRoot", .any), ("digest", Header.digestShape)]

def format : Json.Format NodeHeader := ⟨shape, ofJson?, toJson⟩

end NodeHeader

/-- A block as a node sends it, without its justifications. -/
structure NodeBlock where
  header : NodeHeader
  /-- The encoded extrinsics. -/
  extrinsics : List String
  deriving DecidableEq

namespace NodeBlock

def toJson (block : NodeBlock) : Json :=
  .object [
    ("header", block.header.toJson),
    ("extrinsics", .ofList .string block.extrinsics)]

def ofJson? (value : Json) : Option NodeBlock := do
  let m ← value.members? ["header", "extrinsics"]
  let header ← m.required "header" NodeHeader.ofJson?
  let extrinsics ← m.defaulted "extrinsics" [] (Json.toList? Json.toString?)
  return ⟨header, extrinsics⟩

def shape : Json.Shape := .record [("header", NodeHeader.shape), ("extrinsics", .any)]

def format : Json.Format NodeBlock := ⟨shape, ofJson?, toJson⟩

end NodeBlock

/-- A block as a node sends it. -/
structure NodeSignedBlock where
  block : NodeBlock
  justifications : Option Json
  deriving DecidableEq

namespace NodeSignedBlock

def toJson (block : NodeSignedBlock) : Json :=
  .object [
    ("block", block.block.toJson),
    ("justifications", .ofOption id block.justifications)]

def ofJson? (value : Json) : Option NodeSignedBlock := do
  let m ← value.members? ["block", "justifications"]
  let block ← m.required "block" NodeBlock.ofJson?
  let justifications ← m.defaulted "justifications" none (Json.toOption? Json.toAny?)
  return ⟨block, justifications⟩

def shape : Json.Shape := .record [("block", NodeBlock.shape), ("justifications", .any)]

def format : Json.Format NodeSignedBlock := ⟨shape, ofJson?, toJson⟩

end NodeSignedBlock

end ChainIndex.Substrate
