import ChainIndex.Fetch.Basic
import ChainIndex.Service.Config
import ChainIndex.Service.View

/-!
# ChainIndex.Service.Basic

The service: a connected chain api of a network whose identity was checked.

It remembers the version of the runtime that was resolved last, hands out views of blocks,
and republishes the state of the connection until it is closed.
-/

namespace ChainIndex

/-- The network that a service is connected to. -/
structure Network where
  chain : String
  specName : String
  genesisHash : String
  deriving DecidableEq

/-- A service. -/
structure Service where
  config : ServiceConfig
  network : Network
  /-- The version of the runtime that was resolved last, once one was. -/
  runtime : Option RuntimeVersion
  /-- Whether the state of the connection is still republished. -/
  republishing : Bool
  /-- The state of the connection as it was last republished. -/
  watched : ConnectionState
  deriving DecidableEq

namespace Service

variable {σ : Type} {S : Signature}

/-- A task that may fail with an error of the service. -/
abbrev Starting (σ : Type) (S : Signature) (α : Type) : Type := ExceptT ServiceError (Task σ S) α

/-- A task on the api. -/
def onApi {α : Type} (task : Attempt σ S α) : Starting σ S α :=
  ExceptT.adapt ServiceError.api task

/-- Starts a service over an api: connects it, checks the identity of the network and
resolves the version of the runtime. -/
def init (config : ServiceConfig) (api : Api σ S) : Starting σ S Service := do
  onApi api.connect
  let state ← ExceptT.lift api.connectionState
  let genesisHash ← onApi api.genesisHash
  match config.genesisHash with
  | some expected =>
    if expected ≠ genesisHash then
      ExceptT.lift api.disconnect
      throw (.genesisMismatch expected genesisHash)
  | none => pure ()
  let chain ← onApi api.chainName
  let runtime ← onApi (api.runtimeVersion none)
  return ⟨config, ⟨chain, runtime.specName, genesisHash⟩, some runtime, true, state⟩

/-- Republishes the state of the connection. -/
def observe (service : Service) (state : ConnectionState) : Service :=
  if service.republishing then { service with watched := state } else service

/-- Disconnects the api and ends the republishing. -/
def close (service : Service) (api : Api σ S) : Task σ S Service := do
  api.disconnect
  return { service with republishing := false, watched := .disconnected }

/-- The fetcher of the service. -/
def fetcher (service : Service) (api : Api σ S) (schedule : Schedule σ S) : Fetcher σ S :=
  ⟨api, service.config.concurrency.toNat, schedule⟩

/-- A view of a block.  The version of the runtime is resolved at the parent, if one is
given, and is otherwise the one that was resolved last; only where none was is it asked for. -/
def view (service : Service) (api : Api σ S) (hash : BlockHash) (parent : Option BlockHash) :
    Task σ S (Except ServiceError View × Service) :=
  match parent with
  | some parent => do
    match ← (api.runtimeVersion (some parent)).run with
    | .ok runtime => return (.ok ⟨hash, runtime⟩, { service with runtime := some runtime })
    | .error e => return (.error (.api e), service)
  | none =>
    match service.runtime with
    | some runtime => return (.ok ⟨hash, runtime⟩, service)
    | none => do
      match ← (api.runtimeVersion none).run with
      | .ok runtime => return (.ok ⟨hash, runtime⟩, service)
      | .error e => return (.error (.api e), service)

end Service

end ChainIndex
