import ChainIndex.Algod.Chain
import ChainIndex.Algod.Remote
import ChainIndex.Service.Basic
import ChainIndex.Substrate.Chain

/-!
# ChainIndex.Service.Spawn

Services over nodes that are reached over HTTP.

The node is asked once whether it is there before the api of its family is built over it.
-/

namespace ChainIndex

/-- The chain api over a node whose blocks are addressed by round, reached over HTTP. -/
def Algod.Remote.api (node : Algod.Remote) : Api (Algod.Chain × Unit) Http.Exchange :=
  Algod.Chain.api.answeredBy node.serve

/-- What a service is spawned over. -/
inductive Backend where
  | algod (node : Algod.Remote) (chain : Algod.Chain)
  | substrate (chain : Substrate.Chain)

namespace Service

variable {σ : Type}

/-- Spawns a service over a node whose blocks are addressed by round. -/
def spawnAlgod (config : ServiceConfig) : Starting σ Http.Exchange (Backend × Service) := do
  let url ← ExceptT.adapt ServiceError.client
    (ExceptT.mk (Algod.Remote.check config.endpoint (some config.token)))
  match Algod.Remote.ofUrl url (some config.token) with
  | .error e => throw (.client e)
  | .ok node =>
    let (service, chain, _) ← ExceptT.lift
      (Task.isolated (init config node.api).run (.initial, ()))
    let service ← (service : Except ServiceError Service)
    return (.algod node chain, service)

/-- Spawns a service over a node whose blocks are addressed by hash. -/
def spawnSubstrate (config : ServiceConfig) : Starting σ Http.Exchange (Backend × Service) := do
  let (url, _) ← ExceptT.lift
    (Task.isolated (Substrate.Node.check config.endpoint) (.ofUrl config.endpoint))
  match url with
  | .error e => throw (.jsonRpc e)
  | .ok url =>
    let (service, chain) ← ExceptT.lift
      (Task.isolated (init config Substrate.Chain.api).run (.ofUrl url))
    let service ← (service : Except ServiceError Service)
    return (.substrate chain, service)

/-- Spawns a service over the node of its configuration. -/
def spawn (config : ServiceConfig) : Starting σ Http.Exchange (Backend × Service) :=
  match config.family with
  | .algorand => spawnAlgod config
  | .substrate => spawnSubstrate config

end Service

end ChainIndex
