import ChainIndex.Algod.Client
import ChainIndex.Api.Basic
import ChainIndex.Registry

/-!
# ChainIndex.Algod.Chain

The chain api over a node whose blocks are addressed by round.

Blocks get their derived hash as they are fetched, and a registry remembers which round a
hash stands for: `blockHash` registers a block until it is read, `finalizedHead` pins the
last round, and `header` and `block` answer from the registry alone.  `blockByNumber`
fetches without the registry, so that fetching a range leaves it as it is.
-/

namespace ChainIndex.Algod

/-- What the api keeps. -/
structure Chain where
  connection : Connection
  registry : Registry Block

namespace Chain

/-- An api that was never connected. -/
def initial : Chain := ⟨.initial, .empty⟩

def chainName : String := "algorand"

/-- The version of the one runtime there is. -/
def runtime : RuntimeVersion := ⟨"mainnet-1.0", chainName, 0, 1, 0, 0, []⟩

/-- The description of that runtime. -/
def description : RuntimeMetadata := ⟨RuntimeMetadata.magicWord, 14, [], none⟩

/-! ## Steps -/

def transition (source target : ConnectionState) : Attempt Chain Client Unit := do
  let moved ← ExceptT.lift (Task.step fun (c : Chain) =>
    let (moved, connection) := c.connection.transition source target
    (moved, { c with connection }))
  match moved with
  | .ok () => return ()
  | .error state => throw (.notConnected "connect" state)

def disconnect : Task Chain Client Unit :=
  Task.modify fun c => { c with connection := c.connection.disconnect }

def ensureActive (method : Method) : Attempt Chain Client Unit :=
  ExceptT.mk (Task.read fun c => c.connection.ensureActive method.name)

/-- Looks up the hash of a round, or pins it, or the like: one step on the registry. -/
def onRegistry {α : Type} (f : Registry Block → α × Registry Block) : Attempt Chain Client α :=
  ExceptT.lift (Task.step fun c =>
    let (a, registry) := f c.registry
    (a, { c with registry }))

/-- Asks for the last round. -/
def askLastRound : Attempt Chain Client UInt64 := do
  match ← ExceptT.lift Client.askLastRound with
  | .ok round => return round
  | .error e => throw (.ofClient e)

/-- Asks for the block of a round. -/
def askBlock (round : UInt64) : Attempt Chain Client Block := do
  match ← ExceptT.lift (Client.askBlock round) with
  | .ok block => return block
  | .error e => throw (.ofClient e)

/-- Fetches the block of a round; a block of another round is refused. -/
def fetch (round : UInt64) : Attempt Chain Client (BlockHash × Block) := do
  let block ← askBlock round
  if block.round = round then return (deriveHash block.genesisHash round, block)
  else
    throw (.invalidResponse ("requested round " ++ toString round.toNat ++
      ", node returned round " ++ toString block.round.toNat))

/-! ## Operations -/

/-- Connects unless the connection is active, and checks that the node answers. -/
def connect : Attempt Chain Client Unit := do
  let state ← ExceptT.lift (Task.read fun (c : Chain) => c.connection.state)
  if state = .active then return ()
  transition .disconnected .connected
  match ← ExceptT.lift Client.askLastRound with
  | .ok _ => transition .connected .active
  | .error e =>
    ExceptT.lift disconnect
    throw (.ofClient e)

/-- The version of the runtime, which is the same at every block. -/
def runtimeVersion : Attempt Chain Client RuntimeVersion := do
  ensureActive .runtimeVersion
  return runtime

/-- The description of the runtime, which is the same at every block. -/
def metadata : Attempt Chain Client RuntimeMetadata := do
  ensureActive .metadata
  return description

def name : Attempt Chain Client String := do
  ensureActive .chainName
  return chainName

/-- The identity of the network: the hash that round 1 gives the block before. -/
def genesisHash : Attempt Chain Client String := do
  ensureActive .genesisHash
  let block ← askBlock 1
  return block.prev

/-- The hash of a round, from the registry if it is there. -/
def blockHash (round : BlockNumber) : Attempt Chain Client BlockHash := do
  ensureActive .blockHash
  match ← onRegistry fun r => r.revive round with
  | some hash => return hash
  | none =>
    let (hash, block) ← fetch round
    onRegistry fun r => ((), r.put hash round block)
    return hash

/-- The hash of the last round, which becomes the pinned one. -/
def finalizedHead : Attempt Chain Client BlockHash := do
  ensureActive .finalizedHead
  let round ← askLastRound
  match ← onRegistry fun r => r.pinNumber round with
  | some hash => return hash
  | none =>
    let (hash, block) ← fetch round
    let pinned ← onRegistry fun r => r.putPinned hash round block
    if pinned then return hash else throw (.missingBlock hash)

/-- The header of a registered block. -/
def header (hash : BlockHash) : Attempt Chain Client Header := do
  ensureActive .header
  match ← ExceptT.lift (Task.read fun (c : Chain) => c.registry.get? hash) with
  | some (_, block) => return block.header
  | none => throw (.missingBlock hash)

/-- A registered block; a transient entry is dropped when it is read, and a retired one is
not served. -/
def block (hash : BlockHash) : Attempt Chain Client SignedBlock := do
  ensureActive .block
  match ← ExceptT.lift (Task.read fun (c : Chain) => c.registry.entry? hash) with
  | none | some (_, _, .retired) => throw (.missingBlock hash)
  | some (_, block, .pinned) => return block.signed
  | some (_, block, .transient) =>
    let _ ← onRegistry fun r => r.evict hash
    return block.signed

/-- The events of a block, of which there are none. -/
def events (method : Method) : Attempt Chain Client (List EventRecord) := do
  ensureActive method
  return []

/-- The block of a round, fetched without the registry. -/
def blockByNumber (round : BlockNumber) : Attempt Chain Client SignedBlock := do
  ensureActive .block
  let (_, block) ← fetch round
  return block.signed

/-! ## The api -/

/-- The chain api over the node's client. -/
def api : Api Chain Client
  | .connectionState => Task.read fun c => c.connection.state
  | .supports _ => .done true
  | .connect => connect
  | .disconnect => disconnect
  | .runtimeVersion _ => runtimeVersion
  | .metadata _ => metadata
  | .chainName => name
  | .genesisHash => genesisHash
  | .blockHash number => blockHash number
  | .finalizedHead => finalizedHead
  | .header hash => header hash
  | .block hash => block hash
  | .eventsAt _ => events .eventsAt
  | .eventsRange _ _ => events .eventsRange
  | .blockByNumber number => blockByNumber number

end Chain

end ChainIndex.Algod
