import ChainIndex.Algod.Client
import ChainIndex.Table

/-!
# ChainIndex.Algod.Simulation

A node held in memory.

It serves made-up blocks up to its last round, counts the requests for every round, and can
be told to fail.  Its answers to block requests can be delayed so that later rounds are
answered first; the delay is a question to a clock.
-/

namespace ChainIndex

/-- Questions to a clock: to wait until a time, in milliseconds. -/
def Clock : Signature := ⟨Nat, fun _ => Unit⟩

namespace Algod

/-! ## Made-up blocks -/

/-- The text of a number with at least `width` digits. -/
def zeroPadded (width n : Nat) : String :=
  let digits := Nat.toDigits 10 n
  String.ofList (List.replicate (width - digits.length) '0' ++ digits)

/-- The hash that a made-up block gives the block before; round 0 has none. -/
def simulatedPrev (round : UInt64) : String :=
  if round = 0 then "" else "blk-MOCK" ++ zeroPadded 48 (round.toNat - 1)

/-- The protocol of made-up blocks. -/
def simulatedProtocol : String := "https://github.com/algorandfoundation/specs/tree/abc54f7"

/-- A made-up block. -/
def simulatedBlock (round : UInt64) (genesisHash : String) : Block where
  round := round
  prev := simulatedPrev round
  genesisHash := genesisHash
  genesisId := "testnet-v1.0"
  timestamp := 1600000000 + round.toInt64 * 4
  seed := "seed-" ++ toString round.toNat
  txnRoot := ""
  protocol := simulatedProtocol
  transactions := []

/-- The body a node sends for a made-up block. -/
def simulatedBlockBody (round : UInt64) (genesisHash : String) : Json :=
  let b := simulatedBlock round genesisHash
  .object [("block", .object [
    ("rnd", .ofUInt64 b.round),
    ("prev", .string b.prev),
    ("gh", .string b.genesisHash),
    ("gen", .string b.genesisId),
    ("ts", .ofInt64 b.timestamp),
    ("seed", .string b.seed),
    ("proto", .string b.protocol)])]

/-- The body a node sends for its status. -/
def simulatedStatusBody (lastRound : UInt64) : Json :=
  NodeStatus.toJson ⟨lastRound, simulatedProtocol, 1250000000, 0⟩

/-! ## The node -/

/-- How the requests for a round fail. -/
inductive SimulatedFailure where
  | network
  | notFound
  deriving DecidableEq

/-- A simulated node. -/
structure Simulation where
  genesisHash : String
  /-- The hash that round 1 gives the block before, if not the made-up one. -/
  firstPrev : Option String
  lastRound : UInt64
  /-- Whether answers are delayed. -/
  shuffled : Bool
  statusFails : Bool
  failures : Table UInt64 SimulatedFailure
  /-- Blocks that are served in place of the made-up ones. -/
  replacements : Table UInt64 Block
  /-- How many requests there were for each round. -/
  requests : Table UInt64 Nat
  /-- The time, in milliseconds. -/
  now : Nat

namespace Simulation

/-- The genesis hash of the network that is simulated unless another is given. -/
def testnetGenesis : String := "SGO1GKSzyE7IEPItTxCByw9x8FmnrCDexi9/cOUJOiI="

/-- A node with the given last round. -/
def ofLastRound (lastRound : UInt64) : Simulation :=
  ⟨testnetGenesis, none, lastRound, false, false, .empty, .empty, .empty, 0⟩

/-- How many requests there were for a round. -/
def requestsFor (s : Simulation) (round : UInt64) : Nat := (s.requests.get? round).getD 0

/-- How many requests there were. -/
def totalRequests (s : Simulation) : Nat := s.requests.rows.foldl (fun total row => total + row.2) 0

/-- The hash that the block of a round gives the block before. -/
def prevOf (s : Simulation) (round : UInt64) : String :=
  match s.firstPrev with
  | some prev => if round = 1 then prev else simulatedPrev round
  | none => simulatedPrev round

/-- The block of a round. -/
def blockOf (s : Simulation) (round : UInt64) : Block :=
  match s.replacements.get? round with
  | some block => block
  | none => { simulatedBlock round s.genesisHash with prev := s.prevOf round }

/-- What a request for a round is answered, when `lastRound` was the last round. -/
def answerFor (s : Simulation) (lastRound round : UInt64) : Except ClientError Block :=
  match s.failures.get? round with
  | some .network => .error (.serverFailure ("mock algod dropped round " ++ toString round.toNat))
  | some .notFound => .error (.notFound round)
  | none => if lastRound < round then .error (.notFound round) else .ok (s.blockOf round)

/-- Counts a request for a round. -/
def count (s : Simulation) (round : UInt64) : Simulation :=
  { s with requests := s.requests.insert round (s.requestsFor round + 1) }

/-- How long an answer is delayed: the more, the further the round is below the last one. -/
def delay (s : Simulation) (round : UInt64) : Nat :=
  if s.shuffled then min (s.lastRound.toNat - round.toNat) 25 else 0

/-! ## Changes -/

/-- A change of what the node does. -/
inductive Change where
  | lastRound (round : UInt64)
  | roundFailure (round : UInt64) (failure : SimulatedFailure)
  | statusFailure (fails : Bool)
  | replacement (round : UInt64) (block : Block)

/-- Makes a change. -/
def apply (s : Simulation) : Change → Simulation
  | .lastRound round => { s with lastRound := round }
  | .roundFailure round failure => { s with failures := s.failures.insert round failure }
  | .statusFailure fails => { s with statusFails := fails }
  | .replacement round block => { s with replacements := s.replacements.insert round block }

/-! ## Answers -/

/-- Waits until a time. -/
def waitUntil (time : Nat) : Task Simulation Clock Unit := do
  Task.question (S := Clock) time
  Task.modify fun s => { s with now := max s.now time }

/-- Answers the requests of a client. -/
def serve : (query : Client.Query) → Task Simulation Clock (Client.Answer query)
  | .lastRound => Task.read fun s =>
    if s.statusFails then .error (.serverFailure "mock algod status unavailable")
    else .ok s.lastRound
  | .block round => do
    let (lastRound, start, delay) ← Task.step fun (s : Simulation) =>
      ((s.lastRound, s.now, s.delay round), s.count round)
    if 0 < delay then waitUntil (start + delay)
    Task.read fun s => s.answerFor lastRound round

end Simulation

end Algod

end ChainIndex
