import ChainIndex.Block.Hash
import ChainIndex.Json.Document
import ChainIndex.Json.Members

/-!
# ChainIndex.Block.Basic

Headers, extrinsics and signed blocks, and their JSON forms.

These are the shapes every chain family is served in.  `toJson` writes a value, `ofJson?`
reads one, and `shape` names the members a reader of texts needs.
-/

namespace ChainIndex

/-- The place of a block in the chain. -/
abbrev BlockNumber := UInt64

namespace BlockHash

/-- A hash as a JSON string. -/
def toJson (hash : BlockHash) : Json := .string hash.toText

def ofJson? : Json → Option BlockHash
  | .string text => (ofText text).toOption
  | _ => none

def format : Json.Format BlockHash := ⟨.any, ofJson?, toJson⟩

end BlockHash

/-! ## Headers -/

/-- The header of a block. -/
structure Header where
  hash : BlockHash
  number : BlockNumber
  parentHash : BlockHash
  /-- The digest items, in hexadecimal. -/
  logs : List String
  deriving DecidableEq

namespace Header

/-- The JSON form of a digest. -/
def digestToJson (logs : List String) : Json :=
  .object [("logs", Json.ofList .string logs)]

/-- Reads a digest. -/
def digestOfJson? (value : Json) : Option (List String) := do
  let m ← value.members? ["logs"]
  m.required "logs" (Json.toList? Json.toString?)

/-- The members of a digest. -/
def digestShape : Json.Shape := .record [("logs", .any)]

def toJson (header : Header) : Json :=
  .object [
    ("hash", header.hash.toJson),
    ("number", .ofUInt64 header.number),
    ("parentHash", header.parentHash.toJson),
    ("digest", digestToJson header.logs)]

def ofJson? (value : Json) : Option Header := do
  let m ← value.members? ["hash", "number", "parentHash", "digest"]
  let hash ← m.required "hash" BlockHash.ofJson?
  let number ← m.required "number" Json.toUInt64?
  let parentHash ← m.required "parentHash" BlockHash.ofJson?
  let logs ← m.required "digest" digestOfJson?
  return ⟨hash, number, parentHash, logs⟩

def shape : Json.Shape :=
  .record [("hash", .any), ("number", .any), ("parentHash", .any), ("digest", digestShape)]

def format : Json.Format Header := ⟨shape, ofJson?, toJson⟩

end Header

/-! ## Extrinsics -/

/-- A call included in a block.  Calls that need the runtime metadata to be decoded carry
their bytes in `raw` and neither pallet nor method. -/
structure Extrinsic where
  pallet : String
  method : String
  args : List Json
  signer : Option String
  raw : Option String
  deriving DecidableEq

namespace Extrinsic

/-- An undecoded call. -/
def undecoded (raw : String) : Extrinsic := ⟨"", "", [], none, some raw⟩

def toJson (call : Extrinsic) : Json :=
  .object [
    ("section", .string call.pallet),
    ("method", .string call.method),
    ("args", .array call.args),
    ("signer", .ofOption .string call.signer),
    ("raw", .ofOption .string call.raw)]

def ofJson? (value : Json) : Option Extrinsic := do
  let m ← value.members? ["section", "method", "args", "signer", "raw"]
  let pallet ← m.required "section" Json.toString?
  let method ← m.required "method" Json.toString?
  let args ← m.required "args" (Json.toList? Json.toAny?)
  let signer ← m.optional "signer" Json.toString?
  let raw ← m.optional "raw" Json.toString?
  return ⟨pallet, method, args, signer, raw⟩

def shape : Json.Shape :=
  .record [("section", .any), ("method", .any), ("args", .any), ("signer", .any), ("raw", .any)]

def format : Json.Format Extrinsic := ⟨shape, ofJson?, toJson⟩

end Extrinsic

/-! ## Signed blocks -/

/-- A block together with its finality justifications. -/
structure SignedBlock where
  header : Header
  extrinsics : List Extrinsic
  justifications : Option Json
  deriving DecidableEq

namespace SignedBlock

/-- The hash of the block. -/
def hash (block : SignedBlock) : BlockHash := block.header.hash

/-- The number of the block. -/
def number (block : SignedBlock) : BlockNumber := block.header.number

/-- The JSON form of header and extrinsics. -/
def bodyToJson (block : SignedBlock) : Json :=
  .object [
    ("header", block.header.toJson),
    ("extrinsics", .ofList Extrinsic.toJson block.extrinsics)]

/-- Reads header and extrinsics. -/
def bodyOfJson? (value : Json) : Option (Header × List Extrinsic) := do
  let m ← value.members? ["header", "extrinsics"]
  let header ← m.required "header" Header.ofJson?
  let extrinsics ← m.required "extrinsics" (Json.toList? Extrinsic.ofJson?)
  return (header, extrinsics)

def toJson (block : SignedBlock) : Json :=
  .object [
    ("block", block.bodyToJson),
    ("justifications", .ofOption id block.justifications)]

def ofJson? (value : Json) : Option SignedBlock := do
  let m ← value.members? ["block", "justifications"]
  let (header, extrinsics) ← m.required "block" bodyOfJson?
  let justifications ← m.optional "justifications" Json.toAny?
  return ⟨header, extrinsics, justifications⟩

def shape : Json.Shape :=
  .record [
    ("block", .record [("header", Header.shape), ("extrinsics", .items Extrinsic.shape)]),
    ("justifications", .any)]

def format : Json.Format SignedBlock := ⟨shape, ofJson?, toJson⟩

end SignedBlock

end ChainIndex
