import ChainIndex.JsonRpc.Connector
import ChainIndex.Substrate.Answer

/-!
# ChainIndex.Substrate.Node

The requests that are put to a node whose blocks are addressed by hash.
-/

namespace ChainIndex.Substrate.Node

open JsonRpc

/-- A request that may fail. -/
abbrev Asking (α : Type) : Type := Task Connector Http.Exchange (Except Failure α)

/-- The hash of the block of a number; none if the node does not know it. -/
def blockHash (number : UInt64) : Asking (Option String) :=
  Connector.request "chain_getBlockHash" [.ofUInt64 number] Connector.stringFormat

/-- The hash of the last finalized block. -/
def finalizedHead : Asking String :=
  Connector.requestSome "finalized head" "chain_getFinalizedHead" [] Connector.stringFormat

/-- The header of a block; none if the node does not know it. -/
def header (hash : String) : Asking (Option NodeHeader) :=
  Connector.request "chain_getHeader" [.string hash] NodeHeader.format

/-- A block; none if the node does not know it. -/
def block (hash : String) : Asking (Option NodeSignedBlock) :=
  Connector.request "chain_getBlock" [.string hash] NodeSignedBlock.format

/-- The version of the runtime at a block, or at the last one. -/
def runtimeVersion (hash : Option String) : Asking RuntimeVersion :=
  Connector.requestSome "runtime version" "state_getRuntimeVersion" [.ofOption .string hash]
    RuntimeVersion.nodeFormat

/-- The encoded description of the runtime at a block, or at the last one. -/
def metadata (hash : Option String) : Asking String :=
  Connector.requestSome "metadata" "state_getMetadata" [.ofOption .string hash]
    Connector.stringFormat

def chainName : Asking String :=
  Connector.requestSome "system_chain" "system_chain" [] Connector.stringFormat

/-- Checks that a node answers, and gives its address. -/
def check (url : Url) : Task Connector Http.Exchange (Except Failure Url) := do
  let name ← chainName
  return name.map fun _ => url

end ChainIndex.Substrate.Node
