import ChainIndex.Index.Config
import ChainIndex.Service.Basic

/-!
# ChainIndex.Index.Run

The work of an indexer: one batch of heights after the other, from the first height to the
last one or to the head of the chain, which is then waited for to move on.

The state of a run is that of the chain api and the next height to index; the height moves
on when a batch was taken.
-/

namespace ChainIndex.Indexer

/-- What an indexer asks of those around it. -/
inductive Query where
  /-- Whether it may go on. -/
  | goOn
  /-- To take a batch; the answer tells whether it was taken. -/
  | deliver (batch : Batch)
  /-- To wait some milliseconds. -/
  | pause (duration : UInt64)

/-- The questions of an indexer. -/
def Surroundings : Signature where
  Query := Query
  Answer
    | .goOn | .deliver _ => Bool
    | .pause _ => Unit

/-- A run over an api, with the next height beside its state. -/
abbrev Running (σ : Type) (S : Signature) (α : Type) : Type :=
  ExceptT IndexerError (Task (σ × BlockNumber) (S.sum Surroundings)) α

variable {σ : Type} {S : Signature} {α : Type}

/-- A task on the api. -/
def onApi (task : Task σ S α) : Task (σ × BlockNumber) (S.sum Surroundings) α :=
  (task.within .first).inLeft

/-- A question to those around. -/
def askAround (query : Query) :
    Task (σ × BlockNumber) (S.sum Surroundings) (Surroundings.Answer query) :=
  (Task.question (S := Surroundings) query).inRight

/-- What comes after a turn of the loop. -/
inductive Turn where
  | again
  | ended
  deriving DecidableEq

/-- The sum of two heights, or the largest height if they add up to more. -/
def addHeights (a b : UInt64) : UInt64 :=
  if a.toNat + b.toNat < 0x10000000000000000 then a + b else 0xFFFFFFFFFFFFFFFF

/-- The number of the block at the head of the chain. -/
def headNumber (api : Api σ S) : Running σ S BlockNumber := do
  let header ← ExceptT.adapt IndexerError.api (ExceptT.mk (onApi (ExceptT.run do
    let head ← api.finalizedHead
    api.header head)))
  return header.number

/-- The height up to which there is something to do; none if nothing is left. -/
def target (config : IndexerConfig) (api : Api σ S) (start : BlockNumber) :
    Running σ S (Option BlockNumber) :=
  match config.endHeight with
  | some last => return if last < start then none else some last
  | none => some <$> headNumber api

/-- Indexes the heights from `start` to `last` and has them taken. -/
def indexBatch (config : IndexerConfig) (fetcher : Fetcher σ S) (start last : BlockNumber) :
    Running σ S Turn := do
  let blocks ← ExceptT.adapt IndexerError.fetch
    (ExceptT.mk (onApi (fetcher.indexedRange start last)))
  let batch := Batch.ofBlocks config.filters start last blocks
  let taken : Bool ← ExceptT.lift (askAround (.deliver batch))
  if taken then
    ExceptT.lift (Task.modify fun s => (s.1, addHeights last 1))
    return if last = 0xFFFFFFFFFFFFFFFF then .ended else .again
  else return .ended

/-- One turn of the loop. -/
def turn (config : IndexerConfig) (fetcher : Fetcher σ S) : Running σ S Turn := do
  let mayGoOn : Bool ← ExceptT.lift (askAround .goOn)
  if !mayGoOn then return .ended
  let start ← ExceptT.lift (Task.read Prod.snd)
  match ← target config fetcher.api start with
  | none => return .ended
  | some target =>
    if target < start then
      ExceptT.lift (askAround (.pause config.pollInterval))
      return .again
    else
      indexBatch config fetcher start (min target (addHeights start (config.batchSize - 1)))

/-- Runs the loop for some turns at most, and tells whether it has ended. -/
def run (config : IndexerConfig) (fetcher : Fetcher σ S) : (turns : Nat) → Running σ S Turn
  | 0 => return .again
  | turns + 1 => do
    match ← turn config fetcher with
    | .ended => return .ended
    | .again => run config fetcher turns

/-- Runs the loop and closes the service, however the loop ends. -/
def serve (config : IndexerConfig) (service : Service) (api : Api σ S) (schedule : Schedule σ S)
    (turns : Nat) : Task (σ × BlockNumber) (S.sum Surroundings) (Except IndexerError Turn) := do
  let result ← (run config (service.fetcher api schedule) turns).run
  let _ ← onApi (service.close api)
  return result

end ChainIndex.Indexer
