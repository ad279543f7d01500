import ChainIndex.Algod.Simulation
import ChainIndex.Proofs.Algod.Refinement

/-!
# ChainIndex.Proofs.Algod.Agreement

A chain over a node of rounds answers and asks like a store of rounds.

Every call to a chain whose registry mirrors a store is answered like the same call to the
store, asks the node the same and leaves a registry that mirrors what the call leaves of the
store (`serve_alike`).  Sequences of calls follow by induction, since a record of exchanges
only grows: hashes that tell rounds apart at the end of a run told them apart at each of
its calls.
-/

namespace ChainIndex.Algod

open ChainIndex.Task

variable {κ : Type} {α : Type}

/-- Runs of a call to a chain and to a store that end alike. -/
structure Alike (connection : Connection) (x : α × Chain × κ × List (Exchange Client))
    (y : α × Rounds × κ × List (Exchange Client)) : Prop where
  answer : x.1 = y.1
  asked : x.2.2 = y.2.2
  connection : x.2.1.connection = connection
  mirrors : Mirrors x.2.1.registry y.2.1 (blocksSeen x.2.2.2)

@[simp] theorem recording_apply (server : Server Client κ) (query : Client.Query) (k : κ)
    (record : List (Exchange Client)) :
    server.recording query (k, record) =
      ((server query k).1, (server query k).2, record ++ [⟨query, (server query k).1⟩]) := rfl

variable {server : Server Client κ} {c : Chain} {m : Rounds} {k : κ}
  {record : List (Exchange Client)}

/-- What a registry holds of some blocks it also holds of more. -/
theorem Mirrors.recorded {r : Registry Block} (h : Mirrors r m (blocksSeen record))
    (more : List (Exchange Client)) : Mirrors r m (blocksSeen (record ++ more)) := by
  refine h.mono fun block hb => ?_
  rw [blocksSeen_append]
  exact List.mem_append_left _ hb

/-- The block that an exchange brought is among those seen. -/
theorem mem_blocksSeen_concat {round : UInt64} {answer : Except ClientError Block} {block : Block}
    (h : answer = .ok block) :
    block ∈ blocksSeen (record ++ [(⟨.block round, answer⟩ : Exchange Client)]) := by
  rw [blocksSeen_append, h]
  exact List.mem_append_right _ (List.mem_singleton.mpr rfl)

/-! ## Calls -/

section

variable (h : Mirrors c.registry m (blocksSeen record)) (hactive : c.connection.state = .active)
include h hactive

/-- A call for a hash ends alike over a chain and over a store. -/
theorem blockHash_alike (round : UInt64)
    (hapart : HashedApart (blocksSeen
      (attempt server.recording (Chain.blockHash round) c (k, record)).2.2.2)) :
    Alike c.connection (attempt server.recording (Chain.blockHash round) c (k, record))
      (attempt server.recording (Rounds.blockHash round) m (k, record)) := by
  rw [Chain.attempt_blockHash server.recording (k, record) hactive, h.hashOf?_eq] at hapart ⊢
  rw [Rounds.attempt_blockHash]
  cases hn : m.store.get? round with
  | some block => exact ⟨rfl, rfl, rfl, h.revive hn⟩
  | none =>
    simp only [hn, Option.map_none, recording_apply] at hapart ⊢
    cases ha : accept round (server (.block round) k).1 with
    | error e => exact ⟨rfl, rfl, rfl, h.recorded _⟩
    | ok block =>
      simp only [ha] at hapart ⊢
      obtain ⟨hanswer, hround⟩ := accept_eq_ok.mp ha
      refine ⟨rfl, rfl, rfl, ?_⟩
      exact (h.recorded _).put hn hround (mem_blocksSeen_concat hanswer) hapart

/-- A call for the head ends alike over a chain and over a store. -/
theorem finalizedHead_alike
    (hapart : HashedApart (blocksSeen
      (attempt server.recording Chain.finalizedHead c (k, record)).2.2.2)) :
    Alike c.connection (attempt server.recording Chain.finalizedHead c (k, record))
      (attempt server.recording Rounds.finalizedHead m (k, record)) := by
  rw [Chain.attempt_finalizedHead server.recording (k, record) hactive] at hapart ⊢
  rw [Rounds.attempt_finalizedHead]
  simp only [recording_apply] at hapart ⊢
  cases hl : ((server .lastRound k).1 : Except ClientError UInt64) with
  | error e => exact ⟨rfl, rfl, rfl, h.recorded _⟩
  | ok round =>
    simp only [hl] at hapart ⊢
    obtain ⟨hn, heq⟩ | ⟨block, r', hn, heq, hmirrors⟩ := h.pinNumber round
    · simp only [heq, hn] at hapart ⊢
      cases ha : accept round (server (.block round) (server .lastRound k).2).1 with
      | error e => exact ⟨rfl, rfl, rfl, (h.recorded _).recorded _⟩
      | ok block =>
        simp only [ha] at hapart ⊢
        obtain ⟨hanswer, hround⟩ := accept_eq_ok.mp ha
        obtain ⟨hpinned, hmirrors⟩ := ((h.recorded _).recorded _).putPinned hn hround
          (mem_blocksSeen_concat hanswer) hapart
        simp only [hpinned, ↓reduceIte]
        exact ⟨rfl, rfl, rfl, hmirrors⟩
    · simp only [heq, hn]
      exact ⟨rfl, rfl, rfl, hmirrors.recorded _⟩

/-- A call for a header ends alike over a chain and over a store, and asks nothing. -/
theorem header_alike (hash : BlockHash) :
    Alike c.connection (attempt server.recording (Chain.header hash) c (k, record))
      (attempt server.recording (Rounds.header hash) m (k, record)) := by
  rw [Chain.attempt_header server.recording (k, record) hactive, Rounds.attempt_header,
    h.get?_eq]
  exact ⟨rfl, rfl, rfl, h⟩

/-- A call for the block of a hash ends alike over a chain and over a store, and asks nothing. -/
theorem block_alike (hash : BlockHash) :
    Alike c.connection (attempt server.recording (Chain.block hash) c (k, record))
      (attempt server.recording (Rounds.block hash) m (k, record)) := by
  rw [Chain.attempt_block server.recording (k, record) hactive, Rounds.attempt_block, h.entry_eq]
  cases hf : m.find? hash with
  | none => exact ⟨rfl, rfl, rfl, h⟩
  | some found =>
    obtain ⟨round, block⟩ := found
    obtain ⟨hn, rfl⟩ := h.find?_eq_some.mp hf
    have hstored : m.store.contains round = true := Table.contains_of_get? hn
    have ht := h.transient round
    simp only [Option.map_some]
    cases hslot : c.registry.slot block.hash with
    | pinned =>
      have hpin := (h.pinned_iff hn).mp (Registry.slot_eq_pinned.mp hslot)
      simp only [if_pos hpin]
      exact ⟨rfl, rfl, rfl, h⟩
    | retired =>
      obtain ⟨hpinned, hretired⟩ := Registry.slot_eq_retired.mp hslot
      have hpin : m.pinned ≠ some round := fun e => hpinned ((h.pinned_iff hn).mpr e)
      have hret := (h.retired_iff hn).mp hretired
      have hnot : round ∉ m.transient := fun e => (ht.mp e).2.2 hret
      simp only [if_neg hpin, if_neg hnot]
      exact ⟨rfl, rfl, rfl, h⟩
    | transient =>
      obtain ⟨hpinned, hretired⟩ := Registry.slot_eq_transient.mp hslot
      have hpin : m.pinned ≠ some round := fun e => hpinned ((h.pinned_iff hn).mpr e)
      have hret : m.retired ≠ some round := fun e => hretired ((h.retired_iff hn).mpr e)
      have hmem : round ∈ m.transient := ht.mpr ⟨hstored, hpin, hret⟩
      simp only [if_neg hpin, if_pos hmem]
      exact ⟨rfl, rfl, rfl, h.evict hn hpin hret⟩

/-- A call for the block of a round ends alike over a chain and over a store, which both leave
alone. -/
theorem blockByNumber_alike (round : UInt64) :
    Alike c.connection (attempt server.recording (Chain.blockByNumber round) c (k, record))
      (attempt server.recording (Rounds.blockByNumber round) m (k, record)) := by
  rw [Chain.attempt_blockByNumber server.recording (k, record) hactive,
    Rounds.attempt_blockByNumber]
  exact ⟨rfl, rfl, rfl, h.recorded _⟩

/-- Every call is answered alike, asks alike and keeps the relation. -/
theorem serve_alike (lookup : Lookup)
    (hapart : HashedApart (blocksSeen
      ((Chain.serve lookup).run server.recording c (k, record)).2.2.2)) :
    Alike c.connection ((Chain.serve lookup).run server.recording c (k, record))
      ((Rounds.serve lookup).run server.recording m (k, record)) := by
  cases lookup with
  | blockHash round => exact blockHash_alike h hactive round hapart
  | finalizedHead => exact finalizedHead_alike h hactive hapart
  | header hash => exact header_alike h hactive hash
  | block hash => exact block_alike h hactive hash
  | blockByNumber round => exact blockByNumber_alike h hactive round

end

/-! ## Sequences of calls -/

/-- Hashes that tell the rounds of a longer record apart tell those of a prefix apart. -/
theorem HashedApart.restrict {more : List (Exchange Client)} (hgrown : record <+: more)
    (hapart : HashedApart (blocksSeen more)) : HashedApart (blocksSeen record) := by
  obtain ⟨rest, rfl⟩ := hgrown
  rw [blocksSeen_append] at hapart
  intro a ha b hb
  exact hapart a (List.mem_append_left _ ha) b (List.mem_append_left _ hb)

/-- Every sequence of calls is answered alike, asks alike and keeps the relation. -/
theorem each_alike (h : Mirrors c.registry m (blocksSeen record))
    (hactive : c.connection.state = .active) (lookups : List Lookup)
    (hapart : HashedApart (blocksSeen
      ((Lookup.each Chain.serve lookups).run server.recording c (k, record)).2.2.2)) :
    Alike c.connection ((Lookup.each Chain.serve lookups).run server.recording c (k, record))
      ((Lookup.each Rounds.serve lookups).run server.recording m (k, record)) := by
  induction lookups generalizing c m k record with
  | nil => exact ⟨rfl, rfl, rfl, h⟩
  | cons lookup lookups ih =>
    simp only [Lookup.each, run_bind, run_pure] at hapart ⊢
    have hgrown := prefix_recording server (Lookup.each Chain.serve lookups)
      ((Chain.serve lookup).run server.recording c (k, record)).2.1
      ((Chain.serve lookup).run server.recording c (k, record)).2.2.1
      ((Chain.serve lookup).run server.recording c (k, record)).2.2.2
    have hstep := serve_alike h hactive lookup (hapart.restrict hgrown)
    have hrest := ih hstep.mirrors (by rw [hstep.connection]; exact hactive) hapart
    rw [hstep.connection] at hrest
    rw [← hstep.asked, ← hstep.answer]
    exact ⟨by rw [hrest.answer], hrest.asked, hrest.connection, hrest.mirrors⟩

/-- As long as the hashes of the blocks that are seen tell their rounds apart, an active chain
answers every sequence of calls, made to any node, as a store of rounds does, and asks the
node the same. -/
theorem each_serve_eq_rounds (server : Server Client κ) (k : κ) (c : Chain)
    (hactive : c.connection.state = .active) (hempty : c.registry = .empty)
    (lookups : List Lookup)
    (hapart : HashedApart (blocksSeen
      ((Lookup.each Chain.serve lookups).run server.recording c (k, [])).2.2.2)) :
    ((Lookup.each Chain.serve lookups).run server.recording c (k, [])).1 =
        ((Lookup.each Rounds.serve lookups).run server.recording .empty (k, [])).1 ∧
      ((Lookup.each Chain.serve lookups).run server.recording c (k, [])).2.2 =
        ((Lookup.each Rounds.serve lookups).run server.recording .empty (k, [])).2.2 := by
  have h : Mirrors c.registry .empty (blocksSeen []) := by
    rw [hempty]
    exact Mirrors.empty _
  have halike := each_alike h hactive lookups hapart
  exact ⟨halike.answer, halike.asked⟩

/-- The simulated node as a server, with a clock that never waits. -/
def Simulation.asServer : Server Client Simulation := fun query s =>
  let (answer, s, _) := (Simulation.serve query).run (fun _ k => ((), k)) s ()
  (answer, s)

/-- Calls to an active chain over the simulated node. -/
theorem each_serve_eq_rounds_simulated :
    let node := Simulation.ofLastRound 3
    let chain : Chain := ⟨⟨.active, ⟨.active, 2⟩⟩, .empty⟩
    let lookups : List Lookup :=
      [.blockHash 2, .finalizedHead, .block (deriveHash Simulation.testnetGenesis 2),
        .blockByNumber 4]
    chain.connection.state = .active ∧ chain.registry = .empty ∧
      HashedApart (blocksSeen ((Lookup.each Chain.serve lookups).run Simulation.asServer.recording
        chain (node, [])).2.2.2) ∧
      ((Lookup.each Chain.serve lookups).run Simulation.asServer.recording chain (node, [])).1 =
        ((Lookup.each Rounds.serve lookups).run Simulation.asServer.recording .empty
          (node, [])).1 := by
  intro node chain lookups
  have hapart : HashedApart (blocksSeen ((Lookup.each Chain.serve lookups).run
      Simulation.asServer.recording chain (node, [])).2.2.2) := by decide +kernel
  exact ⟨rfl, rfl, hapart,
    (each_serve_eq_rounds Simulation.asServer node chain rfl rfl lookups hapart).1⟩

end ChainIndex.Algod
