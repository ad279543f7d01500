import ChainIndex.Api.Basic
import ChainIndex.Substrate.Node

/-!
# ChainIndex.Substrate.Chain

The chain api over a node whose blocks are addressed by hash.

Nothing is remembered but the connection.  Extrinsics are passed on as they are encoded,
and events are not served, since both can only be decoded with the runtime metadata.
-/

namespace ChainIndex.Substrate

open JsonRpc

/-! ## From the node's answers to blocks -/

/-- Reads a hash that came in answer to a method. -/
def readHash (method : Method) (text : String) : Except ApiError BlockHash :=
  match BlockHash.ofText text with
  | .ok hash => .ok hash
  | .error fault =>
    .error (.invalidResponse
      (method.name ++ ": invalid block hash " ++ text ++ ": " ++ fault.message))

/-- The header of a block, as its node sent it. -/
def readHeader (hash : BlockHash) (header : NodeHeader) : Except ApiError Header := do
  match header.blockNumber with
  | .error fault =>
    throw (.invalidResponse ("invalid block number " ++ header.number ++ ": " ++ fault.message))
  | .ok number =>
    let parentHash ← readHash .header header.parentHash
    return ⟨hash, number, parentHash, header.logs⟩

/-- A block, as its node sent it. -/
def readBlock (hash : BlockHash) (block : NodeSignedBlock) : Except ApiError SignedBlock := do
  let header ← readHeader hash block.block.header
  return ⟨header, block.block.extrinsics.map .undecoded, block.justifications⟩

/-- The word that four bytes make, the lowest first. -/
def littleEndian (a b c d : UInt8) : UInt32 :=
  UInt32.ofNat (a.toNat + 256 * (b.toNat + 256 * (c.toNat + 256 * d.toNat)))

/-- Reads the magic word and the version of encoded metadata. -/
def readMetadata (raw : String) : Except ApiError RuntimeMetadata :=
  match Text.Hex.decode (String.ofList (NodeHeader.dropMarkers raw.toList)) with
  | .error fault => .error (.invalidResponse ("invalid metadata hex: " ++ fault.message))
  | .ok bytes =>
    match bytes with
    | a :: b :: c :: d :: version :: _ =>
      let magic := littleEndian a b c d
      if magic = RuntimeMetadata.magicWord then .ok ⟨magic, version, [], some raw⟩
      else
        .error (.invalidResponse ("invalid metadata magic 0x" ++ Text.hexDigits magic.toNat))
    | _ =>
      .error (.invalidResponse ("metadata too short: " ++ toString bytes.length ++ " bytes"))

/-! ## The api -/

/-- What the api keeps. -/
structure Chain where
  connection : Connection
  connector : Connector

namespace Chain

/-- The api over the node at an address, before it is connected. -/
def ofUrl (url : Url) : Chain := ⟨.initial, .ofUrl url⟩

/-- The connector within the api. -/
def connectorPart : Task.Part Chain Connector :=
  ⟨Chain.connector, fun c connector => { c with connector }⟩

def transition (source target : ConnectionState) : Attempt Chain Http.Exchange Unit := do
  let moved ← ExceptT.lift (Task.step fun (c : Chain) =>
    let (moved, connection) := c.connection.transition source target
    (moved, { c with connection }))
  match moved with
  | .ok () => return ()
  | .error state => throw (.notConnected "connect" state)

def disconnect : Task Chain Http.Exchange Unit :=
  Task.modify fun c => { c with connection := c.connection.disconnect }

def ensureActive (method : Method) : Attempt Chain Http.Exchange Unit :=
  ExceptT.mk (Task.read fun c => c.connection.ensureActive method.name)

/-- Puts a request to the node. -/
def onNode {α : Type} (asking : Node.Asking α) : Attempt Chain Http.Exchange α := do
  match ← ExceptT.lift (asking.within connectorPart) with
  | .ok a => return a
  | .error failure => throw (.ofJsonRpc failure)

/-- Connects unless the connection is active, and checks that the node answers. -/
def connect : Attempt Chain Http.Exchange Unit := do
  let state ← ExceptT.lift (Task.read fun (c : Chain) => c.connection.state)
  if state = .active then return ()
  transition .disconnected .connected
  match ← ExceptT.lift (Node.chainName.within connectorPart) with
  | .ok _ => transition .connected .active
  | .error failure =>
    ExceptT.lift disconnect
    throw (.ofJsonRpc failure)

/-- The version of the runtime at a block, or at the last one. -/
def runtimeVersion (hash : Option BlockHash) : Attempt Chain Http.Exchange RuntimeVersion := do
  ensureActive .runtimeVersion
  onNode (Node.runtimeVersion (hash.map BlockHash.toText))

/-- The description of the runtime at a block, or at the last one. -/
def metadata (hash : Option BlockHash) : Attempt Chain Http.Exchange RuntimeMetadata := do
  ensureActive .metadata
  let raw ← onNode (Node.metadata (hash.map BlockHash.toText))
  (readMetadata raw : Except ApiError RuntimeMetadata)

def chainName : Attempt Chain Http.Exchange String := do
  ensureActive .chainName
  onNode Node.chainName

/-- The identity of the network: the hash of block 0, as the node writes it. -/
def genesisHash : Attempt Chain Http.Exchange String := do
  ensureActive .genesisHash
  match ← onNode (Node.blockHash 0) with
  | some hash => return hash
  | none => throw (.notFound 0)

/-- The hash of the block of a number. -/
def blockHash (number : BlockNumber) : Attempt Chain Http.Exchange BlockHash := do
  ensureActive .blockHash
  match ← onNode (Node.blockHash number) with
  | some hash => (readHash .blockHash hash : Except ApiError BlockHash)
  | none => throw (.notFound number)

/-- The hash of the last finalized block. -/
def finalizedHead : Attempt Chain Http.Exchange BlockHash := do
  ensureActive .finalizedHead
  let hash ← onNode Node.finalizedHead
  (readHash .finalizedHead hash : Except ApiError BlockHash)

/-- The header of a block. -/
def header (hash : BlockHash) : Attempt Chain Http.Exchange Header := do
  ensureActive .header
  match ← onNode (Node.header hash.toText) with
  | some header => (readHeader hash header : Except ApiError Header)
  | none => throw (.missingBlock hash)

/-- A block. -/
def block (hash : BlockHash) : Attempt Chain Http.Exchange SignedBlock := do
  ensureActive .block
  match ← onNode (Node.block hash.toText) with
  | some block => (readBlock hash block : Except ApiError SignedBlock)
  | none => throw (.missingBlock hash)

/-- Whether a method is served. -/
def serves : Method → Bool
  | .eventsAt | .eventsRange => false
  | _ => true

/-- A call of a method that is not served. -/
def unserved {α : Type} (method : Method) : Attempt Chain Http.Exchange α :=
  throw (.unsupportedMethod method.name)

/-- The chain api over the node. -/
def api : Api Chain Http.Exchange
  | .connectionState => Task.read fun c => c.connection.state
  | .supports method => .done (serves method)
  | .connect => connect
  | .disconnect => disconnect
  | .runtimeVersion hash => runtimeVersion hash
  | .metadata hash => metadata hash
  | .chainName => chainName
  | .genesisHash => genesisHash
  | .blockHash number => blockHash number
  | .finalizedHead => finalizedHead
  | .header hash => header hash
  | .block hash => block hash
  | .eventsAt _ => unserved .eventsAt
  | .eventsRange _ _ => unserved .eventsRange
  | .blockByNumber number => blockThroughHash blockHash block number

end Chain

end ChainIndex.Substrate
