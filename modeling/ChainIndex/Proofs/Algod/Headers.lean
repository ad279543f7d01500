import ChainIndex.Proofs.Algod.Agreement
import ChainIndex.Proofs.Algod.Conduct

/-!
# ChainIndex.Proofs.Algod.Headers

The headers that a chain over a node of rounds serves.

The node may answer anything, and may answer differently each time.  Still every header is
that of a round whose hash is derived from the genesis hash its block was fetched with, and
its parent hash is derived from the same genesis hash: this is all there is in a registry of
fetched blocks (`Derived`), and headers are answered from nothing else.
-/

namespace ChainIndex.Algod

open ChainIndex.Task

variable {κ : Type} (server : Server Client κ)

/-- After any calls, every registered block is under its round and its derived hash. -/
theorem derived_calls {s : Session Chain Client κ} (h : Derived s.state.registry)
    (next : List Call) : Derived (s.calls Chain.api server next).2.state.registry := by
  have hterms : (Chain.terms Derived).state s.state := h
  refine Session.state_calls server (fun call => ?_) (fun _ _ => trivial) hterms next
  exact (Chain.fulfils_api call).mono fun _ _ _ => trivial

/-- A call keeps every block under the hash derived from it. -/
theorem derived_call {s : Session Chain Client κ} (h : Derived s.state.registry) (next : Call) :
    Derived (s.call Chain.api server next).2.state.registry := derived_calls server h [next]

/-- In a chain that was just set up, and after any calls, every block is under the hash derived from
it. -/
theorem derived_sessionAfter (node : κ) (before : List Call) :
    Derived (Chain.sessionAfter server node before).state.registry :=
  derived_calls server derived_empty before

/-! ## Single calls -/

variable {server} {s : Session Chain Client κ}

/-- A header is served from what is registered. -/
theorem get?_of_header {hash : BlockHash} {header : Header}
    (hanswer : (s.call Chain.api server (.header hash)).1 = .ok header) :
    ∃ round block, s.state.registry.get? hash = some (round, block) ∧ header = block.header := by
  change (attempt server.recording (Chain.header hash) s.state (s.node, s.record)).1 = .ok header
    at hanswer
  by_cases hactive : s.state.connection.state = .active
  · rw [Chain.attempt_header server.recording _ hactive] at hanswer
    cases hget : s.state.registry.get? hash with
    | none =>
      rw [hget] at hanswer
      cases hanswer
    | some found =>
      rw [hget] at hanswer
      exact ⟨found.1, found.2, rfl, (Except.ok.inj hanswer).symm⟩
  · rw [Chain.header, Chain.attempt_guarded _ _ hactive] at hanswer
    cases hanswer

/-- A registered hash has a header. -/
theorem header_of_get? (hactive : s.state.connection.state = .active) {hash : BlockHash}
    {round : UInt64} {block : Block} (hget : s.state.registry.get? hash = some (round, block)) :
    (s.call Chain.api server (.header hash)).1 = .ok block.header := by
  change (attempt server.recording (Chain.header hash) s.state (s.node, s.record)).1 = _
  rw [Chain.attempt_header server.recording _ hactive, hget]

/-- A block is served from what is registered. -/
theorem get?_of_block {hash : BlockHash} {signed : SignedBlock}
    (hanswer : (s.call Chain.api server (.block hash)).1 = .ok signed) :
    ∃ round block, s.state.registry.get? hash = some (round, block) ∧ signed = block.signed := by
  change (attempt server.recording (Chain.block hash) s.state (s.node, s.record)).1 = .ok signed
    at hanswer
  by_cases hactive : s.state.connection.state = .active
  · rw [Chain.attempt_block server.recording _ hactive] at hanswer
    rw [Registry.get?]
    cases hentry : s.state.registry.entry? hash with
    | none =>
      rw [hentry] at hanswer
      cases hanswer
    | some found =>
      rw [hentry] at hanswer
      obtain ⟨round, block, slot⟩ := found
      cases slot with
      | retired => cases hanswer
      | pinned | transient => exact ⟨round, block, rfl, (Except.ok.inj hanswer).symm⟩
  · rw [Chain.block, Chain.attempt_guarded _ _ hactive] at hanswer
    cases hanswer

/-- A hash that was given for a round is registered under it. -/
theorem hashOf?_of_blockHash (h : Derived s.state.registry) {round : BlockNumber} {hash : BlockHash}
    (hanswer : (s.call Chain.api server (.blockHash round)).1 = .ok hash) :
    let after := (s.call Chain.api server (.blockHash round)).2.state
    after.connection.state = .active ∧ after.registry.hashOf? round = some hash := by
  intro after
  have hafter : after =
      (attempt server.recording (Chain.blockHash round) s.state (s.node, s.record)).2.1 := rfl
  change (attempt server.recording (Chain.blockHash round) s.state (s.node, s.record)).1 = .ok hash
    at hanswer
  clear_value after
  by_cases hactive : s.state.connection.state = .active
  · rw [Chain.attempt_blockHash server.recording _ hactive] at hanswer hafter
    cases hof : s.state.registry.hashOf? round with
    | some known =>
      simp only [hof, Except.ok.injEq] at hanswer hafter
      subst hanswer hafter
      refine ⟨hactive, ?_⟩
      rw [Registry.revive_of_hashOf?_eq_some hof]
      exact hof
    | none =>
      simp only [hof] at hanswer hafter
      cases ha : accept round (server.recording (.block round) (s.node, s.record)).1 with
      | error e =>
        rw [ha] at hanswer
        cases hanswer
      | ok block =>
        simp only [ha, Except.ok.injEq] at hanswer hafter
        subst hanswer hafter
        refine ⟨hactive, ?_⟩
        rw [Registry.put_eq, Registry.hashOf?_announceIf,
          (Registry.placed_place h.sound block.hash round block).hashOf?, if_pos rfl]
  · rw [Chain.blockHash, Chain.attempt_guarded _ _ hactive] at hanswer
    cases hanswer

/-- A head that was given is pinned, and registered under the last round of the node. -/
theorem pinned_of_finalizedHead (h : Derived s.state.registry) {head : BlockHash}
    (hanswer : (s.call Chain.api server .finalizedHead).1 = .ok head) :
    let after := (s.call Chain.api server .finalizedHead).2.state
    after.connection.state = .active ∧ after.registry.pinned = some head ∧
      ∃ round, (server .lastRound s.node).1 = .ok round ∧
        after.registry.hashOf? round = some head := by
  intro after
  have hafter : after =
      (attempt server.recording Chain.finalizedHead s.state (s.node, s.record)).2.1 := rfl
  change (attempt server.recording Chain.finalizedHead s.state (s.node, s.record)).1 = .ok head
    at hanswer
  clear_value after
  by_cases hactive : s.state.connection.state = .active
  · rw [Chain.attempt_finalizedHead server.recording _ hactive] at hanswer hafter
    simp only [recording_apply] at hanswer hafter
    cases hlast : ((server .lastRound s.node).1 : Except ClientError UInt64) with
    | error e =>
      rw [hlast] at hanswer
      cases hanswer
    | ok round =>
      simp only [hlast] at hanswer hafter
      obtain ⟨-, heq⟩ | ⟨hash, changed, r', hof, hpr, heq⟩ := Registry.pinNumber_cases h.sound round
      · simp only [heq] at hanswer hafter
        cases ha : accept round (server (.block round) (server .lastRound s.node).2).1 with
        | error e =>
          rw [ha] at hanswer
          cases hanswer
        | ok block =>
          obtain ⟨changed, r', hpr, hput⟩ :=
            Registry.putPinned_eq h.sound block.hash round block
          simp only [ha, hput, ↓reduceIte, Except.ok.injEq] at hanswer hafter
          subst hanswer hafter
          refine ⟨hactive, ?_, round, rfl, ?_⟩
          · rw [Registry.pinned_announceIf, hpr.pinned]
          · rw [Registry.hashOf?_announceIf, hpr.hashOf?,
              (Registry.placed_place h.sound block.hash round block).hashOf?, if_pos rfl]
            simp
      · simp only [heq, Except.ok.injEq] at hanswer hafter
        subst hanswer hafter
        refine ⟨hactive, ?_, round, rfl, ?_⟩
        · rw [Registry.pinned_announceIf, hpr.pinned]
        · rw [Registry.hashOf?_announceIf, hpr.hashOf?, hof]
          simp
  · rw [Chain.finalizedHead, Chain.attempt_guarded _ _ hactive] at hanswer
    cases hanswer

/-! ## Headers -/

/-- After any calls to a chain over a node that answers anything, every registered block is
under its own round and under the hash derived from it.  So a hash that was just given for a
number leads to a header with this hash and number, and whatever header or block is served
describes the block that is registered with the hash. -/
theorem served_describes (server : Server Client κ) (node : κ) (before : List Call) :
    let s := Chain.sessionAfter server node before
    (∀ number hash block, s.state.registry.blocks.get? number = some ⟨hash, block⟩ →
      block.round = number ∧ hash = deriveHash block.genesisHash number) ∧
    (∀ number hash, (s.call Chain.api server (.blockHash number)).1 = .ok hash →
      ∃ header, ((s.call Chain.api server (.blockHash number)).2.call Chain.api server
          (.header hash)).1 = .ok header ∧ header.hash = hash ∧ header.number = number) ∧
    (∀ hash header, (s.call Chain.api server (.header hash)).1 = .ok header →
      ∃ number block, s.state.registry.get? hash = some (number, block) ∧
        Describes header hash block) ∧
    (∀ hash signed, (s.call Chain.api server (.block hash)).1 = .ok signed →
      ∃ number block, s.state.registry.get? hash = some (number, block) ∧
        Describes signed.header hash block) := by
  intro s
  have hs : Derived s.state.registry := derived_sessionAfter server node before
  refine ⟨hs.entry, ?_, ?_, ?_⟩
  · intro number hash hanswer
    obtain ⟨hactive, hof⟩ := hashOf?_of_blockHash hs hanswer
    have hafter := derived_call server hs (.blockHash number)
    obtain ⟨block, hget, hround⟩ := hafter.get?_of_hashOf? hof
    exact ⟨block.header, header_of_get? hactive hget, (hafter.describes hget).hash, hround⟩
  · intro hash header hanswer
    obtain ⟨number, block, hget, rfl⟩ := get?_of_header hanswer
    exact ⟨number, block, hget, hs.describes hget⟩
  · intro hash signed hanswer
    obtain ⟨number, block, hget, rfl⟩ := get?_of_block hanswer
    exact ⟨number, block, hget, hs.describes hget⟩

end ChainIndex.Algod
