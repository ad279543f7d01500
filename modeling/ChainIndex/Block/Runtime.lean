import ChainIndex.Block.Basic

/-!
# ChainIndex.Block.Runtime

The runtime that executes blocks: its version, its metadata, and their JSON forms.
-/

namespace ChainIndex

/-- A name with a version, as runtimes list the interfaces they serve. -/
def namedVersionToJson (entry : String × UInt32) : Json :=
  .array [.string entry.1, .ofUInt32 entry.2]

/-- Reads a name with a version. -/
def namedVersionOfJson? : Json → Option (String × UInt32)
  | .array [name, version] => do
    let name ← name.toString?
    let version ← version.toUInt32?
    return (name, version)
  | _ => none

/-- The version of a runtime. -/
structure RuntimeVersion where
  specName : String
  implName : String
  authoringVersion : UInt32
  /-- Goes up with every runtime upgrade. -/
  specVersion : UInt32
  implVersion : UInt32
  transactionVersion : UInt32
  /-- The interfaces served, with their versions. -/
  apis : List (String × UInt32)
  deriving DecidableEq

namespace RuntimeVersion

def toJson (v : RuntimeVersion) : Json :=
  .object [
    ("specName", .string v.specName),
    ("implName", .string v.implName),
    ("authoringVersion", .ofUInt32 v.authoringVersion),
    ("specVersion", .ofUInt32 v.specVersion),
    ("implVersion", .ofUInt32 v.implVersion),
    ("transactionVersion", .ofUInt32 v.transactionVersion),
    ("apis", .ofList namedVersionToJson v.apis)]

def names : List String :=
  ["specName", "implName", "authoringVersion", "specVersion", "implVersion",
    "transactionVersion", "apis"]

/-- Reads a runtime version; every member is required. -/
def ofJson? (value : Json) : Option RuntimeVersion := do
  let m ← value.members? names
  let specName ← m.required "specName" Json.toString?
  let implName ← m.required "implName" Json.toString?
  let authoringVersion ← m.required "authoringVersion" Json.toUInt32?
  let specVersion ← m.required "specVersion" Json.toUInt32?
  let implVersion ← m.required "implVersion" Json.toUInt32?
  let transactionVersion ← m.required "transactionVersion" Json.toUInt32?
  let apis ← m.required "apis" (Json.toList? namedVersionOfJson?)
  return ⟨specName, implName, authoringVersion, specVersion, implVersion, transactionVersion, apis⟩

/-- Reads a runtime version as a node sends it, where zero versions and the list of
interfaces may be missing. -/
def ofNodeJson? (value : Json) : Option RuntimeVersion := do
  let m ← value.members? names
  let specName ← m.required "specName" Json.toString?
  let implName ← m.required "implName" Json.toString?
  let authoringVersion ← m.defaulted "authoringVersion" 0 Json.toUInt32?
  let specVersion ← m.required "specVersion" Json.toUInt32?
  let implVersion ← m.defaulted "implVersion" 0 Json.toUInt32?
  let transactionVersion ← m.defaulted "transactionVersion" 0 Json.toUInt32?
  let apis ← m.defaulted "apis" [] (Json.toList? namedVersionOfJson?)
  return ⟨specName, implName, authoringVersion, specVersion, implVersion, transactionVersion, apis⟩

def shape : Json.Shape := .record (names.map fun name => (name, .any))

def format : Json.Format RuntimeVersion := ⟨shape, ofJson?, toJson⟩

/-- The written form of a runtime version as a node sends it. -/
def nodeFormat : Json.Format RuntimeVersion := ⟨shape, ofNodeJson?, toJson⟩

end RuntimeVersion

/-- The calls and events of one module of a runtime. -/
structure ModuleMetadata where
  name : String
  calls : List String
  events : List String
  deriving DecidableEq

namespace ModuleMetadata

def toJson (m : ModuleMetadata) : Json :=
  .object [
    ("name", .string m.name),
    ("calls", .ofList .string m.calls),
    ("events", .ofList .string m.events)]

def ofJson? (value : Json) : Option ModuleMetadata := do
  let m ← value.members? ["name", "calls", "events"]
  let name ← m.required "name" Json.toString?
  let calls ← m.required "calls" (Json.toList? Json.toString?)
  let events ← m.required "events" (Json.toList? Json.toString?)
  return ⟨name, calls, events⟩

def shape : Json.Shape := .record [("name", .any), ("calls", .any), ("events", .any)]

end ModuleMetadata

/-- The metadata of a runtime. -/
structure RuntimeMetadata where
  magic : UInt32
  version : UInt8
  /-- The decoded modules; empty where the metadata is not decoded. -/
  modules : List ModuleMetadata
  /-- The encoded metadata in hexadecimal, where a node delivered it. -/
  raw : Option String
  deriving DecidableEq

namespace RuntimeMetadata

/-- The letters `meta` read as a little-endian word; encoded metadata starts with them. -/
def magicWord : UInt32 := 0x6174656d

def toJson (m : RuntimeMetadata) : Json :=
  .object [
    ("magic", .ofUInt32 m.magic),
    ("version", .ofUInt64 m.version.toUInt64),
    ("modules", .ofList ModuleMetadata.toJson m.modules),
    ("raw", .ofOption .string m.raw)]

/-- Reads runtime metadata. -/
def ofJson? (value : Json) : Option RuntimeMetadata := do
  let m ← value.members? ["magic", "version", "modules", "raw"]
  let magic ← m.required "magic" Json.toUInt32?
  let version ← m.required "version" Json.toUInt8?
  let modules ← m.required "modules" (Json.toList? ModuleMetadata.ofJson?)
  let raw ← m.optional "raw" Json.toString?
  return ⟨magic, version, modules, raw⟩

def shape : Json.Shape :=
  .record [("magic", .any), ("version", .any), ("modules", .items ModuleMetadata.shape),
    ("raw", .any)]

def format : Json.Format RuntimeMetadata := ⟨shape, ofJson?, toJson⟩

end RuntimeMetadata

end ChainIndex
