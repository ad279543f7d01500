import ChainIndex.Index.Filter
import ChainIndex.Service.Config
import ChainIndex.Toml.Document
import ChainIndex.Url.Reader

/-!
# ChainIndex.Index.Config

The configuration of an indexer, the checks it has to pass, and the errors of an indexer.

Every part of a configuration may be left out and then has its default.  A configuration
is read from JSON or from a TOML text.
-/

namespace ChainIndex

/-- Why an indexer did not start or ended early. -/
inductive IndexerError where
  /-- The configuration is refused, in the words given. -/
  | config (text : String)
  | service (source : ServiceError)
  | api (source : ApiError)
  | fetch (source : FetchError)
  deriving DecidableEq

/-- The wording of an error, where this library words it. -/
def IndexerError.message? : IndexerError → Option String
  | .config text => some ("Configuration error: " ++ text)
  | .service source => source.message?.map ("ApiService error: " ++ ·)
  | .api source => source.message?.map ("Api error: " ++ ·)
  | .fetch source => source.message?.map ("Fetch error: " ++ ·)

/-- How the node is reached. -/
structure NetworkConfig where
  family : String
  endpoint : String
  genesisHash : Option String
  token : Option String
  deriving DecidableEq

namespace NetworkConfig

/-- The node unless told otherwise. -/
def standard : NetworkConfig := ⟨"substrate", "http://127.0.0.1:9933", none, none⟩

def toJson (c : NetworkConfig) : Json :=
  .object [
    ("family", .string c.family),
    ("endpoint", .string c.endpoint),
    ("genesis_hash", .ofOption .string c.genesisHash),
    ("api_token", .ofOption .string c.token)]

/-- Reads the part about the node. -/
def ofJson? (value : Json) : Option NetworkConfig := do
  let m ← value.members? ["family", "endpoint", "genesis_hash", "api_token"]
  let family ← m.defaulted "family" standard.family Json.toString?
  let endpoint ← m.defaulted "endpoint" standard.endpoint Json.toString?
  let genesisHash ← m.defaulted "genesis_hash" none (Json.toOption? Json.toString?)
  let token ← m.defaulted "api_token" none (Json.toOption? Json.toString?)
  return ⟨family, endpoint, genesisHash, token⟩

def shape : Json.Shape :=
  .record [("family", .any), ("endpoint", .any), ("genesis_hash", .any), ("api_token", .any)]

end NetworkConfig

/-- The configuration of an indexer. -/
structure IndexerConfig where
  network : NetworkConfig
  /-- The first height to index. -/
  startHeight : BlockNumber
  /-- The last height to index; without one the head of the chain is followed. -/
  endHeight : Option BlockNumber
  /-- How many heights make a batch. -/
  batchSize : UInt64
  /-- How many blocks are fetched at a time. -/
  concurrency : UInt64
  /-- How long to wait for new blocks, in milliseconds. -/
  pollInterval : UInt64
  filters : Filters
  deriving DecidableEq

namespace IndexerConfig

/-- The configuration unless told otherwise. -/
def standard : IndexerConfig :=
  ⟨.standard, 1, none, 100, ServiceConfig.defaultConcurrency, 6000, ⟨none, [], []⟩⟩

def toJson (c : IndexerConfig) : Json :=
  .object [
    ("network", c.network.toJson),
    ("start_height", .ofUInt64 c.startHeight),
    ("end_height", .ofOption .ofUInt64 c.endHeight),
    ("batch_size", .ofUInt64 c.batchSize),
    ("fetch_concurrency", .ofUInt64 c.concurrency),
    ("poll_interval_ms", .ofUInt64 c.pollInterval),
    ("block_filter", .ofOption Condition.toJson c.filters.block),
    ("call_filters", .ofList Condition.toJson c.filters.calls),
    ("event_filters", .ofList Condition.toJson c.filters.events)]

def ofJson? (value : Json) : Option IndexerConfig := do
  let m ← value.members? ["network", "start_height", "end_height", "batch_size",
    "fetch_concurrency", "poll_interval_ms", "block_filter", "call_filters", "event_filters"]
  let network ← m.defaulted "network" standard.network NetworkConfig.ofJson?
  let startHeight ← m.defaulted "start_height" standard.startHeight Json.toUInt64?
  let endHeight ← m.defaulted "end_height" none (Json.toOption? Json.toUInt64?)
  let batchSize ← m.defaulted "batch_size" standard.batchSize Json.toUInt64?
  let concurrency ← m.defaulted "fetch_concurrency" standard.concurrency Json.toUInt64?
  let pollInterval ← m.defaulted "poll_interval_ms" standard.pollInterval Json.toUInt64?
  let block ← m.defaulted "block_filter" none (Json.toOption? Condition.ofJson?)
  let calls ← m.defaulted "call_filters" [] (Json.toList? Condition.ofJson?)
  let events ← m.defaulted "event_filters" [] (Json.toList? Condition.ofJson?)
  return ⟨network, startHeight, endHeight, batchSize, concurrency, pollInterval,
    ⟨block, calls, events⟩⟩

def shape : Json.Shape :=
  .record [("network", NetworkConfig.shape), ("start_height", .any), ("end_height", .any),
    ("batch_size", .any), ("fetch_concurrency", .any), ("poll_interval_ms", .any),
    ("block_filter", Condition.shape), ("call_filters", .items Condition.shape),
    ("event_filters", .items Condition.shape)]

/-- The family of the chain. -/
def family (c : IndexerConfig) : Except IndexerError ChainFamily :=
  (ChainFamily.ofText c.network.family).mapError .config

/-- The address of the node. -/
def endpoint (c : IndexerConfig) : Except IndexerError Url :=
  (Url.ofText c.network.endpoint).mapError fun fault =>
    .config ("Invalid endpoint " ++ Text.quoteText c.network.endpoint ++ ": " ++ fault.message)

/-- The configuration of the service. -/
def service (c : IndexerConfig) : Except IndexerError ServiceConfig := do
  let family ← c.family
  let endpoint ← c.endpoint
  return .ofParts family endpoint c.network.genesisHash c.network.token (some c.concurrency)

/-- Checks a configuration: family and address can be read, batches and fetches are not
empty, and the heights are not in the wrong order. -/
def check (c : IndexerConfig) : Except IndexerError Unit := do
  let _ ← c.family
  let _ ← c.endpoint
  if c.batchSize = 0 then throw (.config "batch_size must be greater than 0.")
  if c.concurrency = 0 then throw (.config "fetch_concurrency must be greater than 0.")
  match c.endHeight with
  | some last =>
    if last < c.startHeight then
      throw (.config ("start_height " ++ toString c.startHeight.toNat ++ " is above end_height " ++
        toString last.toNat ++ "."))
  | none => pure ()

def format : Json.Format IndexerConfig := ⟨shape, ofJson?, toJson⟩

/-- The configuration that a TOML text gives; without a text, or with one that cannot be
read, it is the usual one. -/
def load (text : Option String) : IndexerConfig :=
  (text.bind (Toml.read format)).getD standard

end IndexerConfig

end ChainIndex
