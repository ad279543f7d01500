import ChainIndex.Api.Basic
import ChainIndex.Fetch.Window
import ChainIndex.Index.Block

/-!
# ChainIndex.Fetch.Basic

Fetching blocks by height from a chain api, alone or with the context they are indexed in.
-/

namespace ChainIndex

/-- How blocks are fetched. -/
structure Fetcher (σ : Type) (S : Signature) where
  api : Api σ S
  /-- How many heights are worked on at a time; zero counts as one. -/
  limit : Nat
  schedule : Schedule σ S

namespace Fetcher

variable {σ : Type} {S : Signature}

/-- Fetches the block of a height. -/
def block (f : Fetcher σ S) (height : BlockNumber) : Task σ S (Except FetchError SignedBlock) := do
  let block ← (f.api.blockByNumber height).run
  return block.mapError (FetchError.block height)

/-- Fetches the blocks from `first` to `last`. -/
def range (f : Fetcher σ S) (first last : BlockNumber) :
    Task σ S (Except FetchError (List SignedBlock)) :=
  if last < first then .done (.error (.invalidRange first last))
  else Window.fetch f.block f.limit f.schedule (.range first last)

/-- Fetches the blocks of some heights, in their order. -/
def listed (f : Fetcher σ S) (heights : List BlockNumber) :
    Task σ S (Except FetchError (List SignedBlock)) :=
  Window.fetch f.block f.limit f.schedule (.listed heights)

/-- The block at which the runtime that executed a block is found: its parent, or itself at
height 0. -/
def runtimeAt (height : BlockNumber) (block : SignedBlock) : BlockHash :=
  if height = 0 then block.hash else block.header.parentHash

/-- Fetches the block of a height with its context. -/
def indexed (f : Fetcher σ S) (withEvents : Bool) (height : BlockNumber) :
    Task σ S (Except FetchError IndexedBlock) := ExceptT.run do
  let block ← (ExceptT.mk (f.block height) : ExceptT FetchError (Task σ S) SignedBlock)
  let version ← ExceptT.adapt (FetchError.block height)
    (f.api.runtimeVersion (some (runtimeAt height block)))
  let events ←
    if withEvents then ExceptT.adapt (FetchError.events block.hash) (f.api.eventsAt block.hash)
    else pure []
  (IndexedBlock.ofBlock block events version.specVersion : Except FetchError IndexedBlock)

/-- Fetches the blocks from `first` to `last` with their context; an api that serves no
events gives blocks without events. -/
def indexedRange (f : Fetcher σ S) (first last : BlockNumber) :
    Task σ S (Except FetchError (List IndexedBlock)) := do
  if last < first then return .error (.invalidRange first last)
  else
    let withEvents ← f.api.supports .eventsAt
    Window.fetch (f.indexed withEvents) f.limit f.schedule (.range first last)

end Fetcher

end ChainIndex
