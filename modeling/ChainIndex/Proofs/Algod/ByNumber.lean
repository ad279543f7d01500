import ChainIndex.Proofs.Algod.Interleaving
import ChainIndex.Proofs.Fetch.Questions

/-!
# ChainIndex.Proofs.Algod.ByNumber

The block of a round, fetched past the registry or found through its hash.

A chain over a node of rounds fetches the block of a number without the registry, so that no step of
fetching changes anything (`still_blockByNumber`, `Fetcher.still_range`).  Any other api would look
up the hash of the number and then ask for the block of this hash (`blockThroughHash`); here the
round may have to be revived or registered on the way, and is dropped again.  Over a node that
serves one block for a round both ways lead to the same block, wherever the round stands in the
registry (`blockByNumber_agrees`).
-/

namespace ChainIndex

open ChainIndex.Task

/-! ## Tasks that change nothing -/

namespace Task

variable {σ κ ρ : Type} {S : Signature} {α : Type}

/-- No step of a task changes the state, whatever it is answered. -/
def Still (t : Task σ S α) : Prop :=
  t.Confined (fun s s' => s' = s) (fun _ => True) fun _ => True

/-- Running a task that is still leaves the state as it is. -/
theorem Still.run {t : Task σ S α} (h : t.Still) (server : Server S κ) (s : σ) (k : κ) :
    (t.run server s k).2.1 = s :=
  Confined.run_state h (fun _ => rfl) (fun h h' => h'.trans h) server s k

/-- A task that leaves the whole state as it is, whatever the state. -/
theorem Leaves.still {Q : α → Prop} {t : Task σ S α} (h : t.Leaves .any id Q) : t.Still := by
  induction t with
  | done a => trivial
  | act change next ih => exact fun s => ⟨(h s trivial).2.1, ih s (h s trivial).2.2⟩
  | ask query next ih => exact ⟨trivial, fun a => ih a (h a trivial)⟩

end Task

namespace Fetcher

variable {σ : Type} {S : Signature} {f : Fetcher σ S}
  (hcalls : ∀ call : Call, call.isFetch = true → (f.api call).Still)
include hcalls

/-- Fetching a range of blocks is still. -/
theorem still_range (first last : BlockNumber) : (f.range first last).Still :=
  confined_range (R := fun s s' => s' = s) (fun _ => rfl) hcalls first last

theorem still_listed (heights : List BlockNumber) : (f.listed heights).Still :=
  confined_listed (R := fun s s' => s' = s) (fun _ => rfl) hcalls heights

/-- Fetching a range of blocks with their events is still. -/
theorem still_indexedRange (first last : BlockNumber) : (f.indexedRange first last).Still :=
  confined_indexedRange (R := fun s s' => s' = s) (fun _ => rfl) hcalls first last

end Fetcher

namespace Algod

/-- A node that serves the blocks of a table, and no others. -/
structure Serves {κ : Type} (served : UInt64 → Option Block) (server : Server Client κ) : Prop where
  gives : ∀ query k, GivesFrom served query (server query k).1
  always : ∀ round block, served round = some block →
    ∀ k, (server (.block round) k).1 = (.ok block : Except ClientError Block)

/-- A node that gives the blocks of a table serves them. -/
theorem serves_serving (served : UInt64 → Option Block) (last : UInt64) :
    Serves served (serving served last) where
  gives := givesFrom_serving served last
  always := by
    intro round block hblock k
    simp only [serving, hblock]
    rfl

namespace Held

variable {served : UInt64 → Option Block} {r : Registry Block} {hash : BlockHash}
  {round : UInt64} {block : Block}

/-- A round that is registered is registered with what is fetched for it. -/
theorem get?_of_hashOf? (h : Held served r) (hfetched : Fetched served hash round block)
    {known : BlockHash} (hof : r.hashOf? round = some known) :
    r.blocks.get? round = some ⟨hash, block⟩ := by
  obtain rfl := h.eq_of_hashOf? hfetched hof
  obtain ⟨found, hget⟩ := Registry.hashOf?_eq_some.mp hof
  obtain rfl := Option.some.inj ((h.fetched _ _ _ hget).given.symm.trans hfetched.given)
  exact hget

/-- A hash that is not registered is in no slot. -/
theorem slot_of_not_contains (h : Held served r) (hgone : r.contains hash = false) :
    r.slot hash = .transient := by
  rw [Registry.slot_eq_transient]
  constructor
  · intro hpinned
    rw [h.sound.pinned_live hash hpinned] at hgone
    cases hgone
  · intro hretired
    rw [h.slots.retired_live hash hretired] at hgone
    cases hgone

end Held

namespace Chain

variable {κ : Type} {served : UInt64 → Option Block} {c : Chain}

/-! ## Calls of a fetcher -/

/-- A call that only fetches is still. -/
theorem still_api_of_isFetch {call : Call} (h : call.isFetch = true) : (api call).Still := by
  have hkeeps : keepsRegistry call = true := by
    cases call <;> first | rfl | cases h
  have hconnect : call ≠ .connect := fun heq => by cases heq; cases h
  have hdisconnect : call ≠ .disconnect := fun heq => by cases heq; cases h
  exact (leaves_api_of_still hkeeps hconnect hdisconnect).still

/-- Fetching the block of a round changes nothing. -/
theorem still_blockByNumber (round : BlockNumber) : (api (.blockByNumber round)).Still :=
  still_api_of_isFetch rfl

/-! ## The block found through its hash -/

/-- What a call for the hash of a round leaves: the round is registered with what is fetched for it,
and it is not retired. -/
structure Ready (served : UInt64 → Option Block) (c : Chain) (hash : BlockHash) (round : UInt64)
    (block : Block) : Prop where
  active : c.connection.state = .active
  held : Held served c.registry
  there : c.registry.blocks.get? round = some ⟨hash, block⟩
  kept : c.registry.slot hash ≠ .retired

/-- A call for the block of a hash that is registered and not retired is served. -/
theorem Ready.block {hash : BlockHash} {round : UInt64} {known : Block}
    (h : Ready served c hash round known) (server : Server Client κ) (k : κ) :
    (attempt server (block hash) c k).1 = .ok known.signed := by
  have hentry := h.held.sound.entry?_eq_some.mpr ⟨h.there, rfl⟩
  rw [attempt_block server k h.active, hentry]
  cases hslot : c.registry.slot hash with
  | pinned => rfl
  | transient => rfl
  | retired => exact absurd hslot h.kept

/-- A call for the hash of a round that is served gives this hash and leaves its block ready. -/
theorem ready_of_blockHash (happart : DerivesApart served) {server : Server Client κ}
    (hserver : Serves served server) (hactive : c.connection.state = .active)
    (hheld : Held served c.registry) {hash : BlockHash} {round : UInt64} {block : Block}
    (hfetched : Fetched served hash round block) (k : κ) :
    ∃ c' k', attempt server (blockHash round) c k = (.ok hash, c', k') ∧
      Ready served c' hash round block := by
  rw [attempt_blockHash server k hactive]
  cases hof : c.registry.hashOf? round with
  | some known =>
    obtain rfl := hheld.eq_of_hashOf? hfetched hof
    have hrevived := (hheld.perform (.revive round) fun _ _ _ h => nomatch h).1
    have hstays : (c.registry.revive round).2.hashOf? round = some known := by
      rw [Registry.revive_of_hashOf?_eq_some hof]
      exact hof
    exact ⟨_, _, rfl, hactive, hrevived, hrevived.get?_of_hashOf? hfetched hstays,
      Registry.slot_revive_ne_retired hof⟩
  | none =>
    have haccept : accept round (server (.block round) k).1 = .ok block :=
      accept_eq_ok.mpr ⟨hserver.always round block hfetched.given k, hfetched.numbered⟩
    have hhash : block.hash = hash := by
      rw [hfetched.derived, ← hfetched.numbered]
      rfl
    obtain ⟨hput, hregistered, hslot⟩ := hheld.put hfetched
    simp only [haccept, hhash]
    refine ⟨_, _, rfl, hactive, hput, hput.get?_of_hashOf? hfetched hregistered, ?_⟩
    change (c.registry.put hash round block).slot hash ≠ .retired
    rw [hslot, hheld.slot_of_not_contains (hheld.not_contains happart hfetched hof)]
    simp

/-- What a call for the block of a number gives was fetched. -/
theorem fetched_of_blockByNumber {server : Server Client κ} (hserver : Serves served server)
    {k : κ} {round : BlockNumber} {signed : SignedBlock}
    (h : (attempt server (blockByNumber round) c k).1 = .ok signed) :
    c.connection.state = .active ∧ ∃ block, signed = block.signed ∧
      Fetched served block.hash round block := by
  by_cases hactive : c.connection.state = .active
  · rw [attempt_blockByNumber server k hactive] at h
    cases haccept : accept round (server (.block round) k).1 with
    | error e =>
      rw [haccept] at h
      cases h
    | ok block =>
      rw [haccept] at h
      obtain ⟨hanswer, hround⟩ := accept_eq_ok.mp haccept
      refine ⟨hactive, block, (Except.ok.inj h).symm, ?_, hround, ?_⟩
      · exact hserver.gives (.block round) k block hanswer
      · rw [← hround]
        rfl
  · unfold blockByNumber at h
    rw [attempt_guarded server k hactive] at h
    cases h

/-- In every state that comes about while a chain is used over a node that gives one block for a
round, with different derived hashes for different rounds: where a call for the block of a number
gives a block, looking up the hash of the number and asking for the block of this hash gives the
same block, whether the round is registered or not and whatever slot it is in.  A call for the block
of a number, which looks up nothing, leaves the registry with its head channel as it was, whatever
the node answers; and so does fetching an interval or a list, or an interval with its context. -/
theorem blockByNumber_agrees (happart : DerivesApart served)
    {callers : List (Caller Chain Client)}
    (h : Interleaved api (GivesFrom served) initial callers c) {server : Server Client κ}
    (hserver : Serves served server) (round : BlockNumber) :
    (∀ k signed, (attempt server (api.blockByNumber round) c k).1 = .ok signed →
      ∀ k', (attempt server (blockThroughHash api.blockHash api.block round) c k').1 =
        .ok signed) ∧
    ∀ (node : Server Client κ) (k : κ),
      (attempt node (api.blockByNumber round) c k).2.1 = c ∧
      ∀ limit schedule, let fetcher : Fetcher Chain Client := ⟨api, limit, schedule⟩
        (∀ first last, ((fetcher.range first last).run node c k).2.1.registry = c.registry) ∧
        (∀ heights, ((fetcher.listed heights).run node c k).2.1.registry = c.registry) ∧
        (∀ first last,
          ((fetcher.indexedRange first last).run node c k).2.1.registry = c.registry) := by
  constructor
  · intro k signed hsigned k'
    have hinitial : (termsFrom served).state initial := held_empty served
    obtain ⟨hheld, -⟩ := Interleaved.follows h hinitial proceeds_invoke
    obtain ⟨hactive, block, rfl, hfetched⟩ := fetched_of_blockByNumber hserver hsigned
    obtain ⟨c', k'', hhash, hready⟩ :=
      ready_of_blockHash happart hserver hactive hheld hfetched k'
    change (attempt server (blockHash round >>= Chain.block) c k').1 = .ok block.signed
    rw [attempt_bind, hhash]
    exact hready.block server k''
  · intro node k
    refine ⟨(still_blockByNumber round).run node c k, fun limit schedule => ?_⟩
    intro fetcher
    have hcalls : ∀ call : Call, call.isFetch = true → (fetcher.api call).Still :=
      fun _ => still_api_of_isFetch
    refine ⟨fun first last => ?_, fun heights => ?_, fun first last => ?_⟩
    · rw [(Fetcher.still_range hcalls first last).run]
    · rw [(Fetcher.still_listed hcalls heights).run]
    · rw [(Fetcher.still_indexedRange hcalls first last).run]

/-- Round 1 before it is registered, as a transient entry, as the head, and once it was superseded:
both ways lead to its block. -/
theorem blockByNumber_agrees_everySlot :
    let node := serving twoRounds 2
    let hash := firstBlock.hash
    let registered := ((api.invoke (.direct (.blockHash 1))).run node connected ()).2.1
    let head := afterHeads [1] connected
    let superseded := afterHeads [1, 2] connected
    DerivesApart twoRounds ∧ Serves twoRounds node ∧
      connected.registry.contains hash = false ∧
      registered.registry.contains hash = true ∧ registered.registry.slot hash = .transient ∧
      head.registry.slot hash = .pinned ∧ superseded.registry.slot hash = .retired ∧
      ∀ c ∈ [connected, registered, head, superseded],
        (∃ callers, Interleaved api (GivesFrom twoRounds) initial callers c) ∧
        (attempt node (api.blockByNumber 1) c ()).1 = .ok firstBlock.signed ∧
        (attempt node (blockThroughHash api.blockHash api.block 1) c ()).1 =
          .ok firstBlock.signed := by
  intro node hash registered head superseded
  have hserves : Serves twoRounds node := serves_serving twoRounds 2
  have hinitial : Interleaved api (GivesFrom twoRounds) initial [] initial := .initial
  obtain ⟨_, hconnected⟩ :=
    hinitial.run (serving twoRounds 1) (givesFrom_serving twoRounds 1) () (.direct .connect)
  obtain ⟨_, hregistered⟩ := hconnected.run node hserves.gives () (.direct (.blockHash 1))
  obtain ⟨_, hhead⟩ := interleaved_afterHeads hconnected [1]
  obtain ⟨_, hsuperseded⟩ := interleaved_afterHeads hconnected [1, 2]
  have hagrees {callers : List (Caller Chain Client)} {c : Chain}
      (h : Interleaved api (GivesFrom twoRounds) initial callers c)
      (hactive : c.connection.state = .active) :
      (∃ callers, Interleaved api (GivesFrom twoRounds) initial callers c) ∧
        (attempt node (api.blockByNumber 1) c ()).1 = .ok firstBlock.signed ∧
        (attempt node (blockThroughHash api.blockHash api.block 1) c ()).1 =
          .ok firstBlock.signed := by
    have hsigned : (attempt node (api.blockByNumber 1) c ()).1 = .ok firstBlock.signed :=
      congrArg Prod.fst (attempt_blockByNumber node () hactive 1)
    exact ⟨⟨callers, h⟩, hsigned,
      (blockByNumber_agrees derivesApart_twoRounds h hserves 1).1 () _ hsigned ()⟩
  obtain ⟨hslots, hactive⟩ : (connected.registry.contains hash = false ∧
      registered.registry.contains hash = true ∧ registered.registry.slot hash = .transient ∧
      head.registry.slot hash = .pinned ∧ superseded.registry.slot hash = .retired) ∧
      ∀ c ∈ [connected, registered, head, superseded], c.connection.state = .active := by
    decide +kernel
  refine ⟨derivesApart_twoRounds, hserves, hslots.1, hslots.2.1, hslots.2.2.1, hslots.2.2.2.1,
    hslots.2.2.2.2, ?_⟩
  simp only [List.forall_mem_cons] at hactive ⊢
  exact ⟨hagrees hconnected hactive.1, hagrees hregistered hactive.2.1,
    hagrees hhead hactive.2.2.1, hagrees hsuperseded hactive.2.2.2.1, by simp⟩

end Chain

end Algod

end ChainIndex
