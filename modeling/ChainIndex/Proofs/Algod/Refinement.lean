import ChainIndex.Proofs.Algod.Rounds
import ChainIndex.Proofs.Registry.Slots

/-!
# ChainIndex.Proofs.Algod.Refinement

What the registry of a chain over a node of rounds has to do with a store of rounds.

`Mirrors` relates a registry to a store: they hold the same blocks, and each slot names the
hash of the round that has that role.  Every change that a call makes to the registry is
mirrored by the change that the same call makes to the store (`Mirrors.put`,
`Mirrors.putPinned`, `Mirrors.pinNumber`, `Mirrors.revive`, `Mirrors.evict`).  That hashes tell
rounds apart is needed only where a fetched block is added: its hash must be new.
-/

namespace ChainIndex.Algod

open ChainIndex.Task

/-- A registry holds the blocks of a store under their hashes, with the same roles. -/
structure Mirrors (r : Registry Block) (m : Rounds) (seen : List Block) : Prop where
  sound : r.Sound
  blocks : ∀ n, r.blocks.get? n = (m.store.get? n).map fun block => ⟨block.hash, block⟩
  stored : ∀ n block, m.store.get? n = some block → block.round = n ∧ block ∈ seen
  pinned : r.pinned = m.pinned.bind r.hashOf?
  retired : r.retired = m.retired.bind r.hashOf?
  pinned_stored : ∀ n, m.pinned = some n → m.store.contains n = true
  retired_stored : ∀ n, m.retired = some n → m.store.contains n = true
  retired_ne : ∀ n, m.retired = some n → m.pinned ≠ some n
  transient : ∀ n, n ∈ m.transient ↔
    m.store.contains n = true ∧ m.pinned ≠ some n ∧ m.retired ≠ some n

namespace Mirrors

variable {r r' : Registry Block} {m : Rounds} {seen more : List Block} {n : UInt64}
  {block : Block} {hash : BlockHash}

/-- An empty registry holds the blocks of an empty store. -/
theorem empty (seen : List Block) : Mirrors .empty .empty seen where
  sound := Registry.sound_empty
  blocks := by intro n; rfl
  stored := by intro n block h; simp [Rounds.empty] at h
  pinned := rfl
  retired := rfl
  pinned_stored := by intro n h; simp [Rounds.empty] at h
  retired_stored := by intro n h; simp [Rounds.empty] at h
  retired_ne := by intro n h; simp [Rounds.empty] at h
  transient := by intro n; simp [Rounds.empty, Table.contains]

/-- More blocks may be seen than are needed. -/
theorem mono (h : Mirrors r m seen) (hsub : ∀ block ∈ seen, block ∈ more) : Mirrors r m more :=
  { h with stored := fun n block hn => ⟨(h.stored n block hn).1, hsub _ (h.stored n block hn).2⟩ }

/-! ## Reading -/

/-- The registry has the hashes of the stored blocks, each under its round. -/
theorem hashOf?_eq (h : Mirrors r m seen) (n : UInt64) :
    r.hashOf? n = (m.store.get? n).map Block.hash := by
  rw [Registry.hashOf?, h.blocks, Option.map_map]
  rfl

theorem hashOf?_of_stored (h : Mirrors r m seen) (hn : m.store.get? n = some block) :
    r.hashOf? n = some block.hash := by
  rw [h.hashOf?_eq, hn]
  rfl

theorem hashOf?_of_not_stored (h : Mirrors r m seen) (hn : m.store.get? n = none) :
    r.hashOf? n = none := by
  rw [h.hashOf?_eq, hn]
  rfl

/-- The rounds that a slot of the store may name are told apart by their hashes. -/
theorem bind_hashOf?_iff (h : Mirrors r m seen) (hn : m.store.get? n = some block)
    (slot : Option UInt64) : slot.bind r.hashOf? = some block.hash ↔ slot = some n := by
  have hof := h.hashOf?_of_stored hn
  constructor
  · intro hs
    obtain ⟨n', hslot, hof'⟩ := Option.bind_eq_some_iff.mp hs
    rw [hslot, h.sound.number_unique hof' hof]
  · rintro rfl
    exact hof

/-- The pinned hash is that of the pinned round. -/
theorem pinned_iff (h : Mirrors r m seen) (hn : m.store.get? n = some block) :
    r.pinned = some block.hash ↔ m.pinned = some n := by
  rw [h.pinned, h.bind_hashOf?_iff hn]

/-- The retired hash is that of the retired round. -/
theorem retired_iff (h : Mirrors r m seen) (hn : m.store.get? n = some block) :
    r.retired = some block.hash ↔ m.retired = some n := by
  rw [h.retired, h.bind_hashOf?_iff hn]

/-- A hash is registered exactly if it is that of a stored block. -/
theorem hashes_eq_some (h : Mirrors r m seen) :
    r.hashes.get? hash = some n ↔ ∃ block, m.store.get? n = some block ∧ block.hash = hash := by
  rw [h.sound.inverse, h.hashOf?_eq, Option.map_eq_some_iff]

/-- A hash is found in the store where the registry leads. -/
theorem find?_eq_some (h : Mirrors r m seen) :
    m.find? hash = some (n, block) ↔ m.store.get? n = some block ∧ block.hash = hash := by
  have hmem := m.store.mem_rows_iff n block
  constructor
  · intro hf
    refine ⟨hmem.mp (List.mem_of_find?_eq_some hf), ?_⟩
    simpa using List.find?_some hf
  · rintro ⟨hn, rfl⟩
    cases hf : m.find? block.hash with
    | none =>
      have hnone := List.find?_eq_none.mp hf _ (hmem.mpr hn)
      simp at hnone
    | some found =>
      obtain ⟨n', block'⟩ := found
      have hn' := (m.store.mem_rows_iff n' block').mp (List.mem_of_find?_eq_some hf)
      have hhash : block'.hash = block.hash := by simpa using List.find?_some hf
      have hof := h.hashOf?_of_stored hn
      have hof' := h.hashOf?_of_stored hn'
      rw [hhash] at hof'
      obtain rfl := h.sound.number_unique hof' hof
      rw [hn] at hn'
      rw [Option.some.inj hn']

/-- A hash that is found in no stored block is not registered. -/
theorem find?_eq_none (h : Mirrors r m seen) :
    m.find? hash = none ↔ r.hashes.get? hash = none := by
  constructor
  · intro hf
    cases hget : r.hashes.get? hash with
    | none => rfl
    | some n =>
      obtain ⟨block, hn, hhash⟩ := h.hashes_eq_some.mp hget
      rw [h.find?_eq_some.mpr ⟨hn, hhash⟩] at hf
      exact absurd hf (by simp)
  · intro hget
    cases hf : m.find? hash with
    | none => rfl
    | some found =>
      obtain ⟨n, block⟩ := found
      rw [h.hashes_eq_some.mpr ⟨block, h.find?_eq_some.mp hf⟩] at hget
      exact absurd hget (by simp)

/-- The entries of a registry are the stored blocks, each in the slot of its hash. -/
theorem entry_eq (h : Mirrors r m seen) (hash : BlockHash) :
    r.entry? hash = (m.find? hash).map fun found => (found.1, found.2, r.slot hash) := by
  unfold Registry.entry?
  cases hf : m.find? hash with
  | none => rw [h.find?_eq_none.mp hf]; rfl
  | some found =>
    obtain ⟨n, block⟩ := found
    obtain ⟨hn, hhash⟩ := h.find?_eq_some.mp hf
    rw [h.hashes_eq_some.mpr ⟨block, hn, hhash⟩]
    simp only [h.blocks, hn, Option.map_some]

/-- The registry gives what the store finds. -/
theorem get?_eq (h : Mirrors r m seen) (hash : BlockHash) : r.get? hash = m.find? hash := by
  rw [Registry.get?, h.entry_eq, Option.map_map]
  cases m.find? hash <;> rfl

/-! ## Writing -/

/-- Writing to the channel does not concern the store. -/
theorem announceIf (h : Mirrors r m seen) (changed : Bool) :
    Mirrors (r.announceIf changed) m seen where
  sound := Registry.sound_announceIf.mpr h.sound
  blocks := by simpa using h.blocks
  stored := h.stored
  pinned := by cases changed <;> exact h.pinned
  retired := by cases changed <;> exact h.retired
  pinned_stored := h.pinned_stored
  retired_stored := h.retired_stored
  retired_ne := h.retired_ne
  transient := h.transient

/-- Reviving a stored round. -/
theorem revive (h : Mirrors r m seen) (hn : m.store.get? n = some block) :
    Mirrors (r.revive n).2 (m.revive n) seen := by
  rw [Registry.revive_of_hashOf?_eq_some (h.hashOf?_of_stored hn)]
  unfold Rounds.revive
  by_cases hret : m.retired = some n
  · rw [if_pos hret, if_pos ((h.retired_iff hn).mpr hret)]
    refine ⟨⟨h.sound.inverse, h.sound.pinned_live⟩, h.blocks, h.stored, h.pinned, rfl,
      h.pinned_stored, ?_, ?_, ?_⟩
    · intro n' hn'
      exact absurd hn' (by simp)
    · intro n' hn'
      exact absurd hn' (by simp)
    · intro n'
      have hpinned := h.retired_ne n hret
      have hstored := h.retired_stored n hret
      have ht := h.transient n'
      simp only [Finset.mem_insert]
      grind
  · rw [if_neg hret, if_neg (fun hr => hret ((h.retired_iff hn).mp hr))]
    exact h

/-- The hash of a fetched round that is not stored is registered nowhere. -/
theorem hashes_get?_eq_none (h : Mirrors r m seen) (hn : m.store.get? n = none)
    (hround : block.round = n) (hseen : block ∈ seen) (hapart : HashedApart seen) :
    r.hashes.get? block.hash = none := by
  cases hget : r.hashes.get? block.hash with
  | none => rfl
  | some n' =>
    obtain ⟨other, hn', hhash⟩ := h.hashes_eq_some.mp hget
    obtain ⟨hround', hseen'⟩ := h.stored n' other hn'
    by_cases hsame : n' = n
    · rw [hsame, hn] at hn'
      exact absurd hn' (by simp)
    · rw [← hround, ← hround'] at hsame
      exact absurd hhash (hapart other hseen' block hseen hsame)

/-- Placing a fetched round that is not stored. -/
theorem add (h : Mirrors r m seen) (hn : m.store.get? n = none) (hround : block.round = n)
    (hseen : block ∈ seen) (hapart : HashedApart seen) :
    Mirrors (r.place block.hash n block).2 (m.add n block) seen := by
  have hp := Registry.placed_place h.sound block.hash n block
  have hnew := h.hashes_get?_eq_none hn hround hseen hapart
  have hvacant := h.hashOf?_of_not_stored hn
  have hof : ∀ n', (r.place block.hash n block).2.hashOf? n' =
      if n' = n then some block.hash else r.hashOf? n' := by
    intro n'
    rw [hp.hashOf?, hnew]
    simp
  have hslot : ∀ slot : Option UInt64, (∀ n', slot = some n' → m.store.contains n' = true) →
      slot.bind (r.place block.hash n block).2.hashOf? = slot.bind r.hashOf? := by
    intro slot hstored
    cases slot with
    | none => rfl
    | some n' =>
      have hne : n' ≠ n := by
        rintro rfl
        have hc := hstored n' rfl
        rw [Table.contains_of_get?_eq_none hn] at hc
        exact absurd hc (by simp)
      simp only [Option.bind_some, hof, if_neg hne]
  refine ⟨hp.sound h.sound, ?_, ?_, ?_, ?_, ?_, ?_, h.retired_ne, ?_⟩
  · intro n'
    rw [hp.blocks, hnew]
    simp only [Rounds.add, Table.get?_insert, h.blocks]
    by_cases hn' : n' = n
    · rw [if_pos hn', if_pos hn']
      rfl
    · rw [if_neg hn', if_neg hn']
      simp
  · intro n' other hother
    simp only [Rounds.add, Table.get?_insert] at hother
    split at hother
    · next he =>
      rw [he, ← Option.some.inj hother]
      exact ⟨hround, hseen⟩
    · exact h.stored n' other hother
  · rw [hp.pinned, hvacant]
    have hkeep : ¬ (r.pinned.isSome = true ∧ r.pinned = none) := by
      rintro ⟨hsome, hnone⟩
      rw [hnone] at hsome
      exact absurd hsome (by simp)
    rw [if_neg hkeep, h.pinned]
    exact (hslot m.pinned h.pinned_stored).symm
  · rw [hp.retired, hvacant]
    have hkeep : ¬ (r.retired.isSome = true ∧ r.retired = none ∧ r.pinned ≠ r.retired) := by
      rintro ⟨hsome, hnone, -⟩
      rw [hnone] at hsome
      exact absurd hsome (by simp)
    rw [if_neg hkeep, h.retired]
    exact (hslot m.retired h.retired_stored).symm
  · intro n' hpin
    exact (Table.contains_insert _ _ _ _).mpr (.inr (h.pinned_stored n' hpin))
  · intro n' hret
    exact (Table.contains_insert _ _ _ _).mpr (.inr (h.retired_stored n' hret))
  · intro n'
    have ht := h.transient n'
    have hpin := h.pinned_stored n'
    have hret := h.retired_stored n'
    have hc := Table.contains_of_get?_eq_none hn
    simp only [Rounds.add, Table.contains_insert, Finset.mem_insert]
    grind

/-- Promoting the hash of the pinned round changes nothing. -/
theorem promote_pinned {changed : Bool} (h : Mirrors r m seen)
    (hp : Registry.Promoted r hash changed r') (hrpin : r.pinned = some hash) :
    Mirrors r' m seen := by
  have hof : r'.hashOf? = r.hashOf? := by
    funext n'
    rw [hp.hashOf?]
    cases r.hashOf? n' with
    | none => rfl
    | some other => simp [hrpin]
  have hsound := hp.sound h.sound (h.sound.pinned_live hash hrpin)
  refine ⟨hsound, ?_, h.stored, ?_, ?_, h.pinned_stored, h.retired_stored, h.retired_ne,
    h.transient⟩
  · intro n'
    rw [hp.blocks, if_pos hrpin]
    exact h.blocks n'
  · rw [hp.pinned, hof, ← h.pinned, hrpin]
  · rw [hp.retired, if_pos hrpin, hof]
    exact h.retired

/-- An entry of the registry survives a promotion exactly where its round survives the pin. -/
theorem kept_iff (h : Mirrors r m seen) (hn : m.store.get? n = some block) {n' : UInt64}
    {other : Block} (hn' : m.store.get? n' = some other) :
    (other.hash = block.hash ∨ r.pinned = some other.hash) ↔ (n' = n ∨ m.pinned = some n') := by
  rw [h.pinned_iff hn']
  have hhash : other.hash = block.hash ↔ n' = n := by
    constructor
    · intro hh
      exact h.sound.number_unique (hh ▸ h.hashOf?_of_stored hn') (h.hashOf?_of_stored hn)
    · rintro rfl
      rw [hn] at hn'
      rw [Option.some.inj hn']
  rw [hhash]

/-- Promoting the hash of a stored round that is not pinned. -/
theorem promote_other {changed : Bool} (h : Mirrors r m seen)
    (hn : m.store.get? n = some block) (hp : Registry.Promoted r block.hash changed r')
    (hpin : m.pinned ≠ some n) : Mirrors r' (m.pin n block) seen := by
  have hof := h.hashOf?_of_stored hn
  have hsound := hp.sound h.sound (h.sound.contains_iff.mpr ⟨n, hof⟩)
  have hrpin : r.pinned ≠ some block.hash := fun hr => hpin ((h.pinned_iff hn).mp hr)
  have hblocks : ∀ n', r'.blocks.get? n' =
      ((m.pin n block).store.get? n').map fun block => ⟨block.hash, block⟩ := by
    intro n'
    rw [hp.blocks, if_neg hrpin, h.blocks, Rounds.get?_store_pin hpin]
    cases hn' : m.store.get? n' with
    | none =>
      have hne : n' ≠ n := by
        rintro rfl
        rw [hn] at hn'
        exact absurd hn' (by simp)
      simp [hne]
    | some other =>
      have hk := h.kept_iff hn hn'
      simp only [Option.map_some, Option.filter_some, decide_eq_true_eq, hk]
      by_cases hsame : n' = n
      · subst hsame
        rw [hn] at hn'
        simp [Option.some.inj hn']
      · by_cases hold : m.pinned = some n' <;> simp [hsame, hold]
  have hof' : ∀ n', m.pinned = some n' → r'.hashOf? n' = r.hashOf? n' := by
    intro n' hold
    have hne : n' ≠ n := fun e => hpin (e ▸ hold)
    rw [Registry.hashOf?, Registry.hashOf?, hblocks, h.blocks, Rounds.get?_store_pin hpin,
      if_neg hne, if_pos hold]
  refine ⟨hsound, hblocks, ?_, ?_, ?_, ?_, ?_, ?_, ?_⟩
  · intro n' other hn'
    rw [Rounds.get?_store_pin hpin] at hn'
    split at hn'
    · next hsame =>
      obtain rfl := Option.some.inj hn'
      exact hsame ▸ h.stored n block hn
    · split at hn'
      · exact h.stored n' other hn'
      · exact absurd hn' (by simp)
  · rw [hp.pinned, Rounds.pinned_pin, Option.bind_some, Registry.hashOf?, hblocks,
      Rounds.get?_store_pin hpin, if_pos rfl]
    rfl
  · rw [hp.retired, if_neg hrpin, h.pinned, Rounds.retired_pin hpin]
    cases hold : m.pinned with
    | none => rfl
    | some n' => exact (hof' n' hold).symm
  · intro n' hn'
    rw [Rounds.pinned_pin] at hn'
    rw [← Option.some.inj hn', Table.contains, Rounds.get?_store_pin hpin, if_pos rfl]
    rfl
  · intro n' hold
    rw [Rounds.retired_pin hpin] at hold
    have hne : n' ≠ n := fun e => hpin (e ▸ hold)
    rw [Table.contains, Rounds.get?_store_pin hpin, if_neg hne, if_pos hold]
    exact h.pinned_stored n' hold
  · intro n' hold hsame
    rw [Rounds.retired_pin hpin] at hold
    rw [Rounds.pinned_pin] at hsame
    exact hpin (by rw [hold, hsame])
  · intro n'
    rw [Rounds.transient_pin hpin, Rounds.pinned_pin, Rounds.retired_pin hpin, Table.contains,
      Rounds.get?_store_pin hpin]
    simp only [Finset.notMem_empty, false_iff]
    grind

/-- Promoting the hash of a stored round. -/
theorem promote {changed : Bool} (h : Mirrors r m seen) (hn : m.store.get? n = some block)
    (hp : Registry.Promoted r block.hash changed r') : Mirrors r' (m.pin n block) seen := by
  by_cases hpin : m.pinned = some n
  · rw [Rounds.pin_of_pinned hpin]
    exact h.promote_pinned hp ((h.pinned_iff hn).mpr hpin)
  · exact h.promote_other hn hp hpin

/-- Putting a fetched round that is not stored. -/
theorem put (h : Mirrors r m seen) (hn : m.store.get? n = none) (hround : block.round = n)
    (hseen : block ∈ seen) (hapart : HashedApart seen) :
    Mirrors (r.put block.hash n block) (m.add n block) seen := by
  rw [Registry.put_eq]
  exact (h.add hn hround hseen hapart).announceIf _

/-- Putting a fetched round that is not stored and pinning it never misses its hash. -/
theorem putPinned (h : Mirrors r m seen) (hn : m.store.get? n = none) (hround : block.round = n)
    (hseen : block ∈ seen) (hapart : HashedApart seen) :
    (r.putPinned block.hash n block).1 = true ∧
      Mirrors (r.putPinned block.hash n block).2 (m.pin n block) seen := by
  obtain ⟨changed, r', hpr, heq⟩ := Registry.putPinned_eq h.sound block.hash n block
  have hstored : (m.add n block).store.get? n = some block := by
    rw [Rounds.add, Table.get?_insert, if_pos rfl]
  have hunpinned : m.pinned ≠ some n := by
    intro hp
    have hc := h.pinned_stored n hp
    rw [Table.contains_of_get?_eq_none hn] at hc
    exact absurd hc (by simp)
  have hpin := (h.add hn hround hseen hapart).promote hstored hpr
  rw [Rounds.pin_add hunpinned] at hpin
  rw [heq]
  exact ⟨rfl, hpin.announceIf _⟩

/-- Pinning a round finds it exactly where it is stored. -/
theorem pinNumber (h : Mirrors r m seen) (n : UInt64) :
    (m.store.get? n = none ∧ r.pinNumber n = (none, r)) ∨
    (∃ block r', m.store.get? n = some block ∧ r.pinNumber n = (some block.hash, r') ∧
      Mirrors r' (m.pin n block) seen) := by
  obtain ⟨hvacant, heq⟩ | ⟨hash, changed, r', hof, hpr, heq⟩ :=
    Registry.pinNumber_cases h.sound n
  · left
    rw [h.hashOf?_eq] at hvacant
    exact ⟨Option.map_eq_none_iff.mp hvacant, heq⟩
  · right
    rw [h.hashOf?_eq] at hof
    obtain ⟨block, hn, rfl⟩ := Option.map_eq_some_iff.mp hof
    exact ⟨block, _, hn, heq, (h.promote hn hpr).announceIf _⟩

/-- Evicting the hash of a stored transient round. -/
theorem evict (h : Mirrors r m seen) (hn : m.store.get? n = some block)
    (hpin : m.pinned ≠ some n) (hret : m.retired ≠ some n) :
    Mirrors (r.evict block.hash).2 (m.drop n) seen := by
  have hslot : r.slot block.hash = .transient :=
    Registry.slot_eq_transient.mpr
      ⟨fun hr => hpin ((h.pinned_iff hn).mp hr), fun hr => hret ((h.retired_iff hn).mp hr)⟩
  have hget : r.hashes.get? block.hash = some n := h.hashes_eq_some.mpr ⟨block, hn, rfl⟩
  obtain ⟨n', r', heq, -, hget', hev⟩ | ⟨-, hno | hno⟩ := r.evict_cases block.hash
  · rw [hget] at hget'
    obtain rfl := Option.some.inj hget'
    rw [heq]
    have hbind : ∀ slot : Option UInt64, slot ≠ some n →
        slot.bind r'.hashOf? = slot.bind r.hashOf? := by
      intro slot hne
      cases slot with
      | none => rfl
      | some n' =>
        have hne' : n' ≠ n := fun e => hne (e ▸ rfl)
        simp only [Option.bind_some, hev.hashOf?, if_neg hne']
    refine ⟨hev.sound h.sound hslot hget, ?_, ?_, ?_, ?_, ?_, ?_, h.retired_ne, ?_⟩
    · intro n'
      simp only [hev.blocks, Rounds.drop, Table.get?_erase]
      split
      · rfl
      · exact h.blocks n'
    · intro n' other hn'
      simp only [Rounds.drop, Table.get?_erase] at hn'
      split at hn'
      · exact absurd hn' (by simp)
      · exact h.stored n' other hn'
    · rw [hev.pinned, h.pinned]
      exact (hbind m.pinned hpin).symm
    · rw [hev.retired, h.retired]
      exact (hbind m.retired hret).symm
    · intro n' hn'
      exact (Table.contains_erase _ _ _).mpr
        ⟨fun e => hpin (e ▸ hn'), h.pinned_stored n' hn'⟩
    · intro n' hn'
      exact (Table.contains_erase _ _ _).mpr
        ⟨fun e => hret (e ▸ hn'), h.retired_stored n' hn'⟩
    · intro n'
      have ht := h.transient n'
      simp only [Rounds.drop, Table.contains_erase, Finset.mem_erase]
      grind
  · exact absurd hslot hno
  · rw [hget] at hno
    exact absurd hno (by simp)

end Mirrors

end ChainIndex.Algod
