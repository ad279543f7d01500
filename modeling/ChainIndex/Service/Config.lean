import ChainIndex.Api.Error
import ChainIndex.Family
import ChainIndex.Url.Basic

/-!
# ChainIndex.Service.Config

What a service is told about its node, and the errors of starting one.
-/

namespace ChainIndex

/-- What a service is told about its node. -/
structure ServiceConfig where
  family : ChainFamily
  endpoint : Url
  /-- The identity the network must have, if it is checked. -/
  genesisHash : Option String
  /-- The token for a node that asks for one. -/
  token : String
  /-- How many blocks are fetched at a time. -/
  concurrency : UInt64
  deriving DecidableEq

namespace ServiceConfig

/-- The token that nodes set up for trying out ask for. -/
def defaultToken : String := String.ofList (List.replicate 64 'a')

/-- How many blocks are fetched at a time unless told otherwise. -/
def defaultConcurrency : UInt64 := 16

/-- The configuration with defaults for what is left out; at least one block is fetched at a
time. -/
def ofParts (family : ChainFamily) (endpoint : Url) (genesisHash token : Option String)
    (concurrency : Option UInt64) : ServiceConfig where
  family := family
  endpoint := endpoint
  genesisHash := genesisHash
  token := token.getD defaultToken
  concurrency := max 1 (concurrency.getD defaultConcurrency)

def toJson (c : ServiceConfig) : Json :=
  .object [
    ("chain_family", c.family.toJson),
    ("endpoint", .string c.endpoint.toText),
    ("genesis_hash", .ofOption .string c.genesisHash),
    ("api_token", .string c.token),
    ("fetch_concurrency", .ofUInt64 c.concurrency)]

end ServiceConfig

/-- Why a service did not start or give a view. -/
inductive ServiceError where
  /-- The network is not the one that was asked for. -/
  | genesisMismatch (expected actual : String)
  | api (source : ApiError)
  | client (source : Algod.ClientError)
  | jsonRpc (source : JsonRpc.Failure)
  deriving DecidableEq

/-- The wording of an error, where this library words it. -/
def ServiceError.message? : ServiceError → Option String
  | .genesisMismatch expected actual =>
    some ("Network genesisHash doesn't match expected genesisHash. expected=\"" ++ expected ++
      "\" actual=\"" ++ actual ++ "\"")
  | .api source => source.message?.map ("Api error: " ++ ·)
  | .client source => source.message?.map ("ChainClient error: " ++ ·)
  | .jsonRpc source => source.message?.map ("JsonRpcConnector error: " ++ ·)

end ChainIndex
