import ChainIndex.Algod.Chain
import ChainIndex.Algod.Simulation
import ChainIndex.Index.Run

/-!
# ChainIndex.Index.Rehearsal

Running an indexer over a simulated node, without any waiting.

Whenever the indexer has nothing to index, the script of the rehearsal changes the node
until there is something again; when the script is at its end, the indexer is stopped.
-/

namespace ChainIndex

/-- A simulated node and the surroundings of an indexer over it. -/
structure Rehearsal where
  simulation : Algod.Simulation
  /-- The changes that are still to come. -/
  script : List Algod.Simulation.Change
  /-- The height after those that were taken. -/
  next : BlockNumber
  goesOn : Bool
  /-- Whether batches are kept. -/
  keeps : Bool
  /-- Whether batches that would be kept are taken. -/
  takes : Bool
  batches : List Batch

namespace Rehearsal

/-- Changes the node until there is something to index or to fail at. -/
def proceed : List Algod.Simulation.Change → Rehearsal → Rehearsal
  | [], r => { r with script := [], goesOn := false }
  | change :: script, r =>
    let simulation := r.simulation.apply change
    if r.next ≤ simulation.lastRound ∨ simulation.statusFails then { r with simulation, script }
    else proceed script { r with simulation }

/-- The clock of a rehearsal, on which no time passes. -/
def clock : Server Clock Unit := fun _ k => ((), k)

/-- Answers a request to the node. -/
def serveClient : Server Algod.Client Rehearsal := fun query r =>
  let (answer, simulation, _) := (Algod.Simulation.serve query).run clock r.simulation ()
  (answer, { r with simulation })

/-- Has a batch taken, or not. -/
def take (r : Rehearsal) (batch : Batch) : Bool × Rehearsal :=
  let next := Indexer.addHeights batch.last 1
  if !r.keeps then (true, { r with next })
  else if r.takes then (true, { r with next, batches := r.batches ++ [batch] })
  else (false, r)

/-- Answers a question of the indexer. -/
def serveIndexer : Server Indexer.Surroundings Rehearsal
  | .goOn, r => (r.goesOn, r)
  | .deliver batch, r => r.take batch
  | .pause _, r => ((), proceed r.script r)

/-- Answers every question. -/
def serve : Server (Algod.Client.sum Indexer.Surroundings) Rehearsal
  | .inl query, r => serveClient query r
  | .inr query, r => serveIndexer query r

/-- How many turns of the loop a rehearsal allows. -/
def turns : Nat := 1000000000

/-- How a rehearsal ended. -/
inductive Ending where
  /-- The service did not start. -/
  | unready (error : ServiceError)
  /-- The configuration was refused. -/
  | refused (error : IndexerError)
  /-- The indexer started and ended with this result, this next height of its own, and this
  rehearsal. -/
  | ended (result : Except IndexerError Unit) (next : BlockNumber) (rehearsal : Rehearsal)

/-- Starts an indexer over the simulated node and runs it to its end. -/
def run (config : IndexerConfig) (r : Rehearsal) : Ending :=
  match config.service with
  | .error e => .refused e
  | .ok serviceConfig =>
    let (started, chain, r) :=
      (Service.init serviceConfig Algod.Chain.api).run.run serveClient .initial r
    match started, config.check with
    | .error e, _ => .unready e
    | .ok _, .error e => .refused e
    | .ok service, .ok () =>
      let task := Indexer.serve config service Algod.Chain.api .inOrder turns
      let (result, (_, next), r) := task.run serve (chain, config.startHeight) r
      .ended (result.map fun _ => ()) next r

end Rehearsal

end ChainIndex
