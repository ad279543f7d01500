import ChainIndex.Proofs.Algod.Calls
import ChainIndex.Proofs.Table

/-!
# ChainIndex.Proofs.Algod.Rounds

A chain over a node of rounds as a store of rounds.

The store holds fetched blocks by round.  One of its rounds may be pinned, one retired, and
all others are transient.  There are no hashes but those of the blocks, no second table and
no slots to inherit: this is what the calls of a chain come down to as long as its hashes
tell rounds apart (`ChainIndex.Proofs.Algod.Refinement`).
-/

namespace ChainIndex.Algod

open ChainIndex.Task

/-- A store of rounds. -/
structure Rounds where
  store : Table UInt64 Block
  pinned : Option UInt64
  retired : Option UInt64
  transient : Finset UInt64

namespace Rounds

/-- The store that holds nothing. -/
def empty : Rounds := ⟨.empty, none, none, ∅⟩

/-! ## Reading and writing -/

/-- A stored round whose block has this hash. -/
def find? (m : Rounds) (hash : BlockHash) : Option (UInt64 × Block) :=
  m.store.rows.find? fun row => row.2.hash = hash

/-- Adds a fetched round as a transient one. -/
def add (m : Rounds) (round : UInt64) (block : Block) : Rounds :=
  { m with store := m.store.insert round block, transient := insert round m.transient }

/-- Makes a retired round transient again. -/
def revive (m : Rounds) (round : UInt64) : Rounds :=
  if m.retired = some round then
    { m with retired := none, transient := insert round m.transient }
  else m

/-- Drops a transient round. -/
def drop (m : Rounds) (round : UInt64) : Rounds :=
  { m with store := m.store.erase round, transient := m.transient.erase round }

/-- Pins a round: the one pinned before is retired, and everything else is dropped.  Pinning
the pinned round changes nothing. -/
def pin (m : Rounds) (round : UInt64) (block : Block) : Rounds :=
  if m.pinned = some round then m
  else
    { store := (m.store.insert round block).filter fun row =>
        row.1 = round ∨ m.pinned = some row.1
      pinned := some round
      retired := m.pinned
      transient := ∅ }

/-- What pinning a round that is not pinned leaves in the store. -/
theorem get?_store_pin {m : Rounds} {round : UInt64} (h : m.pinned ≠ some round) (block : Block)
    (n : UInt64) :
    (m.pin round block).store.get? n =
      if n = round then some block else if m.pinned = some n then m.store.get? n else none := by
  rw [pin, if_neg h, Table.get?_filter, Table.get?_insert]
  by_cases hn : n = round
  · simp [hn]
  · rw [if_neg hn, if_neg hn]
    by_cases hp : m.pinned = some n
    · cases m.store.get? n <;> simp [hp]
    · simp [hn, hp]

theorem pin_of_pinned {m : Rounds} {round : UInt64} (h : m.pinned = some round) (block : Block) :
    m.pin round block = m := by
  rw [pin, if_pos h]

theorem pinned_pin (m : Rounds) (round : UInt64) (block : Block) :
    (m.pin round block).pinned = some round := by
  unfold pin
  split
  · next h => exact h
  · rfl

theorem retired_pin {m : Rounds} {round : UInt64} (h : m.pinned ≠ some round) (block : Block) :
    (m.pin round block).retired = m.pinned := by
  rw [pin, if_neg h]

theorem transient_pin {m : Rounds} {round : UInt64} (h : m.pinned ≠ some round) (block : Block) :
    (m.pin round block).transient = ∅ := by
  rw [pin, if_neg h]

/-- Pinning a round that was just added is pinning it at once. -/
theorem pin_add {m : Rounds} {round : UInt64} (h : m.pinned ≠ some round) (block : Block) :
    (m.add round block).pin round block = m.pin round block := by
  unfold pin add
  rw [if_neg h, if_neg h, Table.insert_insert]

/-! ## Calls -/

/-- Fetches the block of a round; a block of another round is refused. -/
def fetch (round : UInt64) : Attempt Rounds Client Block := do
  let answer ← ExceptT.lift (Client.askBlock round)
  ExceptT.mk (.done (accept round answer))

/-- The hash of a round, which is fetched only if it is not stored. -/
def blockHash (round : BlockNumber) : Attempt Rounds Client BlockHash := do
  match ← ExceptT.lift (Task.read fun (m : Rounds) => m.store.get? round) with
  | some block =>
    ExceptT.lift (Task.modify fun (m : Rounds) => m.revive round)
    return block.hash
  | none =>
    let block ← fetch round
    ExceptT.lift (Task.modify fun (m : Rounds) => m.add round block)
    return block.hash

/-- The hash of the last round, which is pinned; it is fetched only if it is not stored. -/
def finalizedHead : Attempt Rounds Client BlockHash := do
  match ← ExceptT.lift Client.askLastRound with
  | .error e => throw (.ofClient e)
  | .ok round =>
    match ← ExceptT.lift (Task.read fun (m : Rounds) => m.store.get? round) with
    | some block =>
      ExceptT.lift (Task.modify fun (m : Rounds) => m.pin round block)
      return block.hash
    | none =>
      let block ← fetch round
      ExceptT.lift (Task.modify fun (m : Rounds) => m.pin round block)
      return block.hash

/-- The header of any stored round with this hash. -/
def header (hash : BlockHash) : Attempt Rounds Client Header := do
  match ← ExceptT.lift (Task.read fun (m : Rounds) => m.find? hash) with
  | some (_, block) => return block.header
  | none => throw (.missingBlock hash)

/-- The block of a stored round with this hash: the pinned one is served, a transient one is
served and dropped, and no other one is served. -/
def block (hash : BlockHash) : Attempt Rounds Client SignedBlock := do
  let m ← ExceptT.lift (Task.read fun (m : Rounds) => m)
  match m.find? hash with
  | none => throw (.missingBlock hash)
  | some (round, block) =>
    if m.pinned = some round then return block.signed
    else if round ∈ m.transient then
      ExceptT.lift (Task.modify fun (m : Rounds) => m.drop round)
      return block.signed
    else throw (.missingBlock hash)

/-- The block of a round, fetched without the store. -/
def blockByNumber (round : BlockNumber) : Attempt Rounds Client SignedBlock := do
  let block ← fetch round
  return block.signed

/-! ## What the calls do -/

variable {κ : Type} (server : Server Client κ) (m : Rounds) (k : κ)

@[simp] theorem attempt_fetch (round : UInt64) :
    attempt server (fetch round) m k =
      (accept round (server (.block round) k).1, m, (server (.block round) k).2) := by
  unfold fetch
  rw [attempt_bind, attempt_lift, run_askBlock]
  rfl

/-- A stored round is revived and its hash given; any other one is fetched and added. -/
theorem attempt_blockHash (round : UInt64) :
    attempt server (blockHash round) m k =
      match m.store.get? round with
      | some block => (.ok block.hash, m.revive round, k)
      | none =>
        match accept round (server (.block round) k).1 with
        | .error e => (.error e, m, (server (.block round) k).2)
        | .ok block => (.ok block.hash, m.add round block, (server (.block round) k).2) := by
  unfold blockHash
  rw [attempt_bind, attempt_lift, run_read]
  cases m.store.get? round with
  | some block => rfl
  | none =>
    simp only
    rw [attempt_bind, attempt_fetch]
    cases accept round (server (.block round) k).1 with
    | error e => rfl
    | ok block => rfl

/-- The last round is pinned, and before that fetched if it is not stored. -/
theorem attempt_finalizedHead :
    attempt server finalizedHead m k =
      match ((server .lastRound k).1 : Except ClientError UInt64) with
      | .error e => (.error (.ofClient e), m, (server .lastRound k).2)
      | .ok round =>
        match m.store.get? round with
        | some block => (.ok block.hash, m.pin round block, (server .lastRound k).2)
        | none =>
          match accept round (server (.block round) (server .lastRound k).2).1 with
          | .error e => (.error e, m, (server (.block round) (server .lastRound k).2).2)
          | .ok block =>
            (.ok block.hash, m.pin round block,
              (server (.block round) (server .lastRound k).2).2) := by
  unfold finalizedHead
  rw [attempt_bind, attempt_lift, run_askLastRound]
  cases hr : ((server .lastRound k).1 : Except ClientError UInt64) with
  | error e => rfl
  | ok round =>
    simp only
    rw [attempt_bind, attempt_lift, run_read]
    cases m.store.get? round with
    | some block => rfl
    | none =>
      simp only
      rw [attempt_bind, attempt_fetch]
      cases accept round (server (.block round) (server .lastRound k).2).1 with
      | error e => rfl
      | ok block => rfl

/-- A header is given for any stored round, whatever its role. -/
theorem attempt_header (hash : BlockHash) :
    attempt server (header hash) m k =
      (match m.find? hash with
        | some (_, block) => .ok block.header
        | none => .error (.missingBlock hash), m, k) := by
  unfold header
  rw [attempt_bind, attempt_lift, run_read]
  cases m.find? hash with
  | none => rfl
  | some found => rfl

/-- A pinned block stays where it is, a transient one is given away, and a retired one is kept back.
-/
theorem attempt_block (hash : BlockHash) :
    attempt server (block hash) m k =
      match m.find? hash with
      | none => (.error (.missingBlock hash), m, k)
      | some (round, block) =>
        if m.pinned = some round then (.ok block.signed, m, k)
        else if round ∈ m.transient then (.ok block.signed, m.drop round, k)
        else (.error (.missingBlock hash), m, k) := by
  unfold block
  rw [attempt_bind, attempt_lift, run_read]
  simp only
  cases m.find? hash with
  | none => rfl
  | some found =>
    obtain ⟨round, block⟩ := found
    by_cases hpin : m.pinned = some round
    · simp only [if_pos hpin, attempt_pure]
    · by_cases ht : round ∈ m.transient
      · simp only [if_neg hpin, if_pos ht]
        rfl
      · simp only [if_neg hpin, if_neg ht, attempt_throw]

/-- The block of a round is fetched, whatever is stored. -/
theorem attempt_blockByNumber (round : UInt64) :
    attempt server (blockByNumber round) m k =
      ((accept round (server (.block round) k).1).map Block.signed, m,
        (server (.block round) k).2) := by
  unfold blockByNumber
  rw [attempt_bind, attempt_fetch]
  cases accept round (server (.block round) k).1 with
  | error e => rfl
  | ok block => rfl

end Rounds

/-! ## Sequences of calls -/

/-- A call that asks for blocks, their hashes or their headers. -/
inductive Lookup where
  | blockHash (round : BlockNumber)
  | finalizedHead
  | header (hash : BlockHash)
  | block (hash : BlockHash)
  | blockByNumber (round : BlockNumber)

namespace Lookup

/-- The call to a chain api. -/
def call : Lookup → Call
  | .blockHash round => .blockHash round
  | .finalizedHead => .finalizedHead
  | .header hash => .header hash
  | .block hash => .block hash
  | .blockByNumber round => .blockByNumber round

/-- Makes calls one after another and gathers the answers. -/
def each {σ : Type} {S : Signature} (serve : (lookup : Lookup) → Task σ S lookup.call.Answer) :
    List Lookup → Task σ S (List ((lookup : Lookup) × lookup.call.Answer))
  | [] => .done []
  | lookup :: lookups => do
    let answer ← serve lookup
    let answers ← each serve lookups
    return ⟨lookup, answer⟩ :: answers

end Lookup

/-- Serves a call from a store of rounds. -/
def Rounds.serve : (lookup : Lookup) → Task Rounds Client lookup.call.Answer
  | .blockHash round => Rounds.blockHash round
  | .finalizedHead => Rounds.finalizedHead
  | .header hash => Rounds.header hash
  | .block hash => Rounds.block hash
  | .blockByNumber round => Rounds.blockByNumber round

/-- Serves a call from a chain. -/
def Chain.serve (lookup : Lookup) : Task Chain Client lookup.call.Answer := Chain.api lookup.call

/-- The block that an exchange with the node brought. -/
def blockSeen? : Exchange Client → Option Block
  | ⟨.lastRound, _⟩ => none
  | ⟨.block _, answer⟩ => Except.toOption answer

/-- The blocks that a record of exchanges with the node brought. -/
def blocksSeen (record : List (Exchange Client)) : List Block := record.filterMap blockSeen?

/-- The blocks of a longer record are those of its parts. -/
theorem blocksSeen_append (record more : List (Exchange Client)) :
    blocksSeen (record ++ more) = blocksSeen record ++ blocksSeen more :=
  List.filterMap_append

/-- Different rounds among some blocks have different hashes. -/
def HashedApart (blocks : List Block) : Prop :=
  ∀ a ∈ blocks, ∀ b ∈ blocks, a.round ≠ b.round → a.hash ≠ b.hash

instance (blocks : List Block) : Decidable (HashedApart blocks) :=
  inferInstanceAs (Decidable (∀ a ∈ blocks, ∀ b ∈ blocks, a.round ≠ b.round → a.hash ≠ b.hash))

end ChainIndex.Algod
