import ChainIndex.Algod.Chain
import ChainIndex.Proofs.Task.Run

/-!
# ChainIndex.Proofs.Algod.Calls

What each call to a chain over a node of rounds does, as one equation per call.

An equation gives the answer, the state after the call and the state of the node from the
state of the registry and the node's answers.  Whoever reasons about a run of calls rewrites
with these and need not look into the calls.
-/

namespace ChainIndex.Algod

open ChainIndex.Task

variable {σ κ : Type}

@[simp] theorem run_askLastRound (server : Server Client κ) (s : σ) (k : κ) :
    Client.askLastRound.run server s k =
      ((server .lastRound k).1, s, (server .lastRound k).2) := rfl

@[simp] theorem run_askBlock (server : Server Client κ) (round : UInt64) (s : σ) (k : κ) :
    (Client.askBlock round).run server s k =
      ((server (.block round) k).1, s, (server (.block round) k).2) := rfl

/-- What becomes of the node's answer to a question for the block of a round. -/
def accept (round : UInt64) : Except ClientError Block → Except ApiError Block
  | .error e => .error (.ofClient e)
  | .ok block =>
    if block.round = round then .ok block
    else
      .error (.invalidResponse ("requested round " ++ toString round.toNat ++
        ", node returned round " ++ toString block.round.toNat))

/-- A block that is accepted is the one the node answered, and is of that round. -/
theorem accept_eq_ok {round : UInt64} {answer : Except ClientError Block} {block : Block} :
    accept round answer = .ok block ↔ answer = .ok block ∧ block.round = round := by
  unfold accept
  cases answer with
  | error e => simp
  | ok b =>
    by_cases hr : b.round = round
    · simp only [if_pos hr, Except.ok.injEq]
      constructor
      · rintro rfl
        exact ⟨rfl, hr⟩
      · exact fun h => h.1
    · simp only [if_neg hr, reduceCtorEq, Except.ok.injEq, false_iff, not_and]
      rintro rfl
      exact hr

namespace Chain

variable (server : Server Client κ) (c : Chain) (k : κ)

/-! ## Steps -/

/-- Checking the connection asks nothing and changes nothing. -/
@[simp] theorem attempt_ensureActive (method : Method) :
    attempt server (ensureActive method) c k = (c.connection.ensureActive method.name, c, k) :=
  rfl

@[simp] theorem attempt_onRegistry {α : Type} (f : Registry Block → α × Registry Block) :
    attempt server (onRegistry f) c k =
      (.ok (f c.registry).1, { c with registry := (f c.registry).2 }, k) := rfl

/-- The last round is what the node says, and nothing changes. -/
@[simp] theorem attempt_askLastRound :
    attempt server askLastRound c k =
      (Except.mapError .ofClient (server .lastRound k).1, c, (server .lastRound k).2) := by
  unfold askLastRound
  rw [attempt_bind, attempt_lift, run_askLastRound]
  cases ha : ((server .lastRound k).1 : Except ClientError UInt64) with
  | error e => rfl
  | ok round => rfl

/-- A block is what the node says, and nothing changes. -/
@[simp] theorem attempt_askBlock (round : UInt64) :
    attempt server (askBlock round) c k =
      (Except.mapError .ofClient (server (.block round) k).1, c,
        (server (.block round) k).2) := by
  unfold askBlock
  rw [attempt_bind, attempt_lift, run_askBlock]
  cases ha : ((server (.block round) k).1 : Except ClientError Block) with
  | error e => rfl
  | ok block => rfl

/-- Fetching the block of a round is asking for it and checking its round. -/
@[simp] theorem attempt_fetch (round : UInt64) :
    attempt server (fetch round) c k =
      ((accept round (server (.block round) k).1).map fun block => (block.hash, block), c,
        (server (.block round) k).2) := by
  unfold fetch
  rw [attempt_bind, attempt_askBlock]
  cases ha : ((server (.block round) k).1 : Except ClientError Block) with
  | error e => rfl
  | ok block =>
    unfold accept
    by_cases hr : block.round = round
    · subst hr
      simp only [mapError_ok, ↓reduceIte, attempt_pure, Except.map, Block.hash]
    · simp only [mapError_ok, if_neg hr, attempt_throw, Except.map]

/-! ## Calls

The connection is looked at before anything else, and none of these calls touches it. -/

/-- A connection that is not active is reported with the operation it was needed for. -/
theorem ensureActive_of_inactive {connection : Connection} (h : connection.state ≠ .active)
    (operation : String) :
    connection.ensureActive operation = .error (.notConnected operation connection.state) := by
  unfold Connection.ensureActive
  cases hstate : connection.state with
  | active => exact absurd hstate h
  | disconnected => rfl
  | connected => rfl

/-- Without an active connection, nothing else is done. -/
theorem attempt_guarded {α : Type} {c : Chain} (hinactive : c.connection.state ≠ .active)
    (method : Method) (x : Attempt Chain Client α) :
    attempt server (do ensureActive method; x) c k =
      (.error (.notConnected method.name c.connection.state), c, k) := by
  rw [attempt_bind, attempt_ensureActive, ensureActive_of_inactive hinactive]

theorem ensureActive_of_active {connection : Connection} (h : connection.state = .active)
    (operation : String) : connection.ensureActive operation = .ok () := by
  rw [Connection.ensureActive, h]

variable {c} (hactive : c.connection.state = .active)
include hactive

/-- A registered round is answered from the registry; any other one is fetched and put. -/
theorem attempt_blockHash (round : UInt64) :
    attempt server (blockHash round) c k =
      match c.registry.hashOf? round with
      | some hash => (.ok hash, { c with registry := (c.registry.revive round).2 }, k)
      | none =>
        match accept round (server (.block round) k).1 with
        | .error e => (.error e, c, (server (.block round) k).2)
        | .ok block =>
          (.ok block.hash, { c with registry := c.registry.put block.hash round block },
            (server (.block round) k).2) := by
  unfold blockHash
  rw [attempt_bind, attempt_ensureActive, ensureActive_of_active hactive]
  simp only
  rw [attempt_bind, attempt_onRegistry]
  cases hof : c.registry.hashOf? round with
  | some hash =>
    simp only [Registry.revive, hof, attempt_pure]
  | none =>
    simp only [Registry.revive, hof]
    rw [attempt_bind, attempt_fetch]
    cases accept round (server (.block round) k).1 with
    | error e => rfl
    | ok block => rfl

/-- The last round is pinned if it is registered, and otherwise fetched, put and pinned. -/
theorem attempt_finalizedHead :
    attempt server finalizedHead c k =
      match ((server .lastRound k).1 : Except ClientError UInt64) with
      | .error e => (.error (.ofClient e), c, (server .lastRound k).2)
      | .ok round =>
        match c.registry.pinNumber round with
        | (some hash, r) => (.ok hash, { c with registry := r }, (server .lastRound k).2)
        | (none, r) =>
          match accept round (server (.block round) (server .lastRound k).2).1 with
          | .error e =>
            (.error e, { c with registry := r },
              (server (.block round) (server .lastRound k).2).2)
          | .ok block =>
            (if (r.putPinned block.hash round block).1 then .ok block.hash
              else .error (.missingBlock block.hash),
              { c with registry := (r.putPinned block.hash round block).2 },
              (server (.block round) (server .lastRound k).2).2) := by
  unfold finalizedHead
  rw [attempt_bind, attempt_ensureActive, ensureActive_of_active hactive]
  simp only
  rw [attempt_bind, attempt_askLastRound]
  cases hr : ((server .lastRound k).1 : Except ClientError UInt64) with
  | error e => rfl
  | ok round =>
    simp only [mapError_ok]
    rw [attempt_bind, attempt_onRegistry]
    cases hp : c.registry.pinNumber round with
    | mk found r =>
      cases found with
      | some hash => rfl
      | none =>
        simp only
        rw [attempt_bind, attempt_fetch]
        cases accept round (server (.block round) (server .lastRound k).2).1 with
        | error e => rfl
        | ok block =>
          simp only [Except.map]
          rw [attempt_bind, attempt_onRegistry]
          cases hpp : r.putPinned block.hash round block with
          | mk pinned r' => cases pinned <;> rfl

/-- A header is answered from the registry alone. -/
theorem attempt_header (hash : BlockHash) :
    attempt server (header hash) c k =
      (match c.registry.get? hash with
        | some (_, block) => .ok block.header
        | none => .error (.missingBlock hash), c, k) := by
  unfold header
  rw [attempt_bind, attempt_ensureActive, ensureActive_of_active hactive]
  simp only
  rw [attempt_bind, attempt_lift, run_read]
  cases c.registry.get? hash with
  | none => rfl
  | some found => rfl

/-- A block is answered from the registry alone: a pinned one is kept, a transient one
dropped, and a retired one not served. -/
theorem attempt_block (hash : BlockHash) :
    attempt server (block hash) c k =
      match c.registry.entry? hash with
      | some (_, block, .pinned) => (.ok block.signed, c, k)
      | some (_, block, .transient) =>
        (.ok block.signed, { c with registry := (c.registry.evict hash).2 }, k)
      | some (_, _, .retired) | none => (.error (.missingBlock hash), c, k) := by
  unfold block
  rw [attempt_bind, attempt_ensureActive, ensureActive_of_active hactive]
  simp only
  rw [attempt_bind, attempt_lift, run_read]
  cases c.registry.entry? hash with
  | none => rfl
  | some found =>
    obtain ⟨number, block, slot⟩ := found
    cases slot <;> rfl

/-- The block of a round is fetched without the registry. -/
theorem attempt_blockByNumber (round : UInt64) :
    attempt server (blockByNumber round) c k =
      ((accept round (server (.block round) k).1).map Block.signed, c,
        (server (.block round) k).2) := by
  unfold blockByNumber
  rw [attempt_bind, attempt_ensureActive, ensureActive_of_active hactive]
  simp only
  rw [attempt_bind, attempt_fetch]
  cases accept round (server (.block round) k).1 with
  | error e => rfl
  | ok block => rfl

end Chain

end ChainIndex.Algod
