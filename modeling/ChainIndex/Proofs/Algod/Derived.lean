import ChainIndex.Proofs.Algod.Calls
import ChainIndex.Proofs.Api.Session
import ChainIndex.Proofs.Registry.Inverse

/-!
# ChainIndex.Proofs.Algod.Derived

Every block that a chain over a node of rounds remembers is registered under its own round
and under the hash that is derived from it.

Blocks reach the registry only as they are fetched, and what is fetched is checked against
the round that was asked for.  No change of the registry tears a hash, a number and a block
apart that were put together (`derived_perform`), so this holds after every step of every
call (`Chain.fulfils_api`), whatever the node answers.
-/

namespace ChainIndex.Algod

open ChainIndex.Task

/-! ## Registries of fetched blocks -/

/-- Every block is registered under its round and under the hash derived from it. -/
structure Derived (r : Registry Block) : Prop where
  sound : r.Sound
  entry : ∀ round hash block, r.blocks.get? round = some ⟨hash, block⟩ →
    block.round = round ∧ hash = deriveHash block.genesisHash round

/-- In an empty registry there is no block that could be misplaced. -/
theorem derived_empty : Derived .empty where
  sound := Registry.sound_empty
  entry := by
    intro round hash block h
    exact absurd h (by simp [Registry.empty])

/-- A change that registers nothing but fetched blocks. -/
def RegistersFetched : Registry.Operation Block → Prop
  | .put hash round block | .putPinned hash round block =>
    block.round = round ∧ hash = deriveHash block.genesisHash round
  | .pin _ | .pinNumber _ | .revive _ | .evict _ => True

/-- What a change places is a block that was fetched for its round. -/
theorem RegistersFetched.of_placement {change : Registry.Operation Block} {hash : BlockHash}
    {round : UInt64} {block : Block} (h : RegistersFetched change)
    (hput : change.placement? = some (hash, round, block)) :
    block.round = round ∧ hash = deriveHash block.genesisHash round := by
  cases change with
  | put _ _ _ | putPinned _ _ _ =>
    obtain ⟨rfl, rfl, rfl⟩ := hput
    exact h
  | pin _ | pinNumber _ | revive _ | evict _ => cases hput

/-- A change that registers fetched blocks only leaves every block under the hash derived from it.
-/
theorem derived_perform {r : Registry Block} (h : Derived r) (change : Registry.Operation Block)
    (hfetched : RegistersFetched change) : Derived (r.perform change).2 := by
  refine ⟨Registry.sound_perform h.sound change, fun n hash block hget => ?_⟩
  obtain hnew | hold := (Registry.performed_perform h.sound change).entry hget
  · exact hfetched.of_placement hnew
  · exact h.entry n hash block hold

/-- A fetched block that is put and pinned at once is always pinned. -/
theorem Derived.putPinned {r : Registry Block} (h : Derived r) {hash : BlockHash} {round : UInt64}
    {block : Block} (hfetched : block.round = round ∧ hash = deriveHash block.genesisHash round) :
    Derived (r.putPinned hash round block).2 ∧ (r.putPinned hash round block).1 = true := by
  have hkept := derived_perform h (.putPinned hash round block) hfetched
  obtain ⟨changed, r', -, heq⟩ := Registry.putPinned_eq h.sound hash round block
  simp only [Registry.perform, heq] at hkept
  rw [heq]
  exact ⟨hkept, rfl⟩

/-! ## Reading -/

/-- A header that is served for a hash, and the block that it describes. -/
structure Describes (header : Header) (hash : BlockHash) (block : Block) : Prop where
  hash : header.hash = hash
  number : header.number = block.round
  derived : header.hash = deriveHash block.genesisHash header.number
  parent : header.parentHash =
    if header.number = 0 then .zero else deriveHash block.genesisHash (header.number - 1)

/-- What is registered with a hash has a header with this hash. -/
theorem Derived.describes {r : Registry Block} (h : Derived r) {hash : BlockHash} {round : UInt64}
    {block : Block} (hget : r.get? hash = some (round, block)) :
    Describes block.header hash block := by
  obtain ⟨rfl, rfl⟩ := h.entry _ _ _ (h.sound.get?_eq_some.mp hget)
  exact ⟨rfl, rfl, rfl, rfl⟩

/-- The header of a registered round is of this round. -/
theorem Derived.get?_of_hashOf? {r : Registry Block} (h : Derived r) {hash : BlockHash}
    {round : UInt64} (hof : r.hashOf? round = some hash) :
    ∃ block, r.get? hash = some (round, block) ∧ block.round = round := by
  obtain ⟨block, hblock⟩ := Registry.hashOf?_eq_some.mp hof
  exact ⟨block, h.sound.get?_eq_some.mpr hblock, (h.entry _ _ _ hblock).1⟩

end ChainIndex.Algod
