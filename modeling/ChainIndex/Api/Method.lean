/-!
# ChainIndex.Api.Method

The closed table of methods of a chain api.
-/

namespace ChainIndex

/-- A method of a chain api. -/
inductive Method where
  | runtimeVersion
  | metadata
  | chainName
  | genesisHash
  | blockHash
  | finalizedHead
  | header
  | block
  | eventsAt
  | eventsRange
  deriving DecidableEq

namespace Method

/-- Every method, in the order of the table. -/
def all : List Method := [
  .runtimeVersion, .metadata, .chainName, .genesisHash, .blockHash, .finalizedHead, .header,
  .block, .eventsAt, .eventsRange]

/-- The name a method is called by. -/
def name : Method → String
  | .runtimeVersion => "state_getRuntimeVersion"
  | .metadata => "state_getMetadata"
  | .chainName => "system_chain"
  | .genesisHash => "chain_getGenesisHash"
  | .blockHash => "chain_getBlockHash"
  | .finalizedHead => "chain_getFinalizedHead"
  | .header => "chain_getHeader"
  | .block => "chain_getBlock"
  | .eventsAt => "state_getEvents"
  | .eventsRange => "state_queryEvents"

/-- The method of a name. -/
def ofName? (name : String) : Option Method := all.find? fun method => method.name = name

/-- The position of the parameter that selects the block whose state is read. -/
def blockParameter? : Method → Option Nat
  | .runtimeVersion | .metadata | .header | .block | .eventsAt => some 0
  | .chainName | .genesisHash | .blockHash | .finalizedHead | .eventsRange => none

/-- Each method is found under its name. -/
@[simp] theorem ofName?_name (method : Method) : ofName? method.name = some method := by
  cases method <;> decide

end Method

end ChainIndex
