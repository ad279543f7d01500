import ChainIndex.Proofs.Registry.Changes
import ChainIndex.Proofs.Table

/-!
# ChainIndex.Proofs.Registry.Inverse

The two tables of a registry stay inverse to each other under every sequence of changes.

`sound_perform` is the step and `sound_performAll` the run.  From it follows that all ways
of asking for a hash agree, that hashes and numbers are paired one to one, and that pinning
what was just registered never misses (`tables_inverse_of_performAll`).
-/

namespace ChainIndex.Registry

variable {β : Type}

/-! ## What soundness says of the lookups -/

namespace Sound

variable {r : Registry β}

/-- A hash is registered where it has an entry. -/
theorem isSome_entry (hs : r.Sound) (hash : BlockHash) :
    (r.entry? hash).isSome = r.contains hash := by
  unfold entry? contains Table.contains
  cases hget : r.hashes.get? hash with
  | none => rfl
  | some number =>
    obtain ⟨block, hblock⟩ := hashOf?_eq_some.mp ((hs.inverse hash number).mp hget)
    simp only [hblock, Option.isSome_some]

/-- The entry of a hash is what is registered with this hash. -/
theorem entry?_eq_some (hs : r.Sound) {hash : BlockHash} {number : UInt64} {block : β}
    {slot : Slot} :
    r.entry? hash = some (number, block, slot) ↔
      r.blocks.get? number = some ⟨hash, block⟩ ∧ r.slot hash = slot := by
  unfold entry?
  cases hget : r.hashes.get? hash with
  | none =>
    refine iff_of_false (by simp) fun h => ?_
    rw [(hs.inverse hash number).mpr (hashOf?_eq_some.mpr ⟨block, h.1⟩)] at hget
    cases hget
  | some n =>
    obtain ⟨found, hfound⟩ := hashOf?_eq_some.mp ((hs.inverse hash n).mp hget)
    simp only [hfound, Option.some.injEq, Prod.mk.injEq]
    constructor
    · rintro ⟨rfl, rfl, rfl⟩
      exact ⟨hfound, rfl⟩
    · rintro ⟨hblock, rfl⟩
      have hn := (hs.inverse hash number).mpr (hashOf?_eq_some.mpr ⟨block, hblock⟩)
      rw [hget] at hn
      obtain rfl := Option.some.inj hn
      rw [hfound] at hblock
      exact ⟨rfl, (Entry.mk.inj (Option.some.inj hblock)).2, rfl⟩

/-- What a hash gives is the entry under its number. -/
theorem get?_eq_some (hs : r.Sound) {hash : BlockHash} {number : UInt64} {block : β} :
    r.get? hash = some (number, block) ↔ r.blocks.get? number = some ⟨hash, block⟩ := by
  rw [Registry.get?, Option.map_eq_some_iff]
  constructor
  · rintro ⟨⟨n, b, slot⟩, hentry, heq⟩
    obtain ⟨rfl, rfl⟩ := Prod.mk.inj heq
    exact (hs.entry?_eq_some.mp hentry).1
  · intro hblock
    exact ⟨(number, block, r.slot hash), hs.entry?_eq_some.mpr ⟨hblock, rfl⟩, rfl⟩

/-- A hash gives an entry exactly if it is registered. -/
theorem isSome_get (hs : r.Sound) (hash : BlockHash) :
    (r.get? hash).isSome = r.contains hash := by
  rw [Registry.get?, Option.isSome_map, hs.isSome_entry]

/-- The size of a registry is the number of its hashes. -/
theorem size_eq_card (hs : r.Sound) : r.size = r.hashes.keys.card := by
  rw [Table.card_keys]
  refine (Table.size_eq_of_pairing (fun h n => r.hashes.get? h = some n) ?_ ?_ ?_ ?_).symm
  · intro hash hc
    obtain ⟨number, hget⟩ := Option.isSome_iff_exists.mp hc
    obtain ⟨block, hblock⟩ := hashOf?_eq_some.mp ((hs.inverse hash number).mp hget)
    exact ⟨number, hget, Option.isSome_iff_exists.mpr ⟨_, hblock⟩⟩
  · intro number hc
    obtain ⟨⟨hash, block⟩, hblock⟩ := Option.isSome_iff_exists.mp hc
    have hget := (hs.inverse hash number).mpr (hashOf?_eq_some.mpr ⟨block, hblock⟩)
    exact ⟨hash, hget, Option.isSome_iff_exists.mpr ⟨_, hget⟩⟩
  · intro hash hash' number hget hget'
    rw [hs.inverse] at hget hget'
    rw [hget] at hget'
    exact Option.some.inj hget'
  · intro hash number number' hget hget'
    rw [hget] at hget'
    exact Option.some.inj hget'

end Sound

/-! ## Soundness of every change -/

/-- Every operation keeps a registry sound. -/
theorem Performed.sound {r r' : Registry β} {change : Operation β} (h : Performed r change r')
    (hs : r.Sound) : r'.Sound := by
  cases h with
  | kept _ _ => exact hs
  | put h => exact sound_announceIf.mpr (h.sound hs)
  | putPinned hplaced hlive h => exact sound_announceIf.mpr (h.sound (hplaced.sound hs) hlive)
  | pinned _ _ hlive h => exact sound_announceIf.mpr (h.sound hs hlive)
  | revived _ =>
    -- the retired slot is no part of soundness
    exact ⟨hs.inverse, hs.pinned_live⟩
  | evicted hslot hget h => exact h.sound hs hslot hget

variable [DecidableEq β]

/-- Every change keeps the tables inverse and the pinned hash registered. -/
theorem sound_perform {r : Registry β} (hs : r.Sound) (change : Operation β) :
    (r.perform change).2.Sound :=
  (performed_perform hs change).sound hs

/-- A sound registry stays sound over every run. -/
theorem sound_performAll {r : Registry β} (hs : r.Sound) (changes : List (Operation β)) :
    (r.performAll changes).Sound := by
  unfold performAll
  induction changes generalizing r with
  | nil => exact hs
  | cons change changes ih => exact ih (sound_perform hs change)

/-- The last of some operations is performed on what the others left. -/
theorem performAll_concat (r : Registry β) (changes : List (Operation β))
    (change : Operation β) :
    r.performAll (changes ++ [change]) = ((r.performAll changes).perform change).2 := by
  rw [performAll, List.foldl_append]
  rfl

/-- After every sequence of changes the two tables are inverse to each other.  So asking
whether a hash is registered, for its entry and for its block agree; a registered hash has
one number and a registered number one hash; there are as many entries as registered
hashes; the pinned hash is registered; pinning a block as it is put never misses it, and
pinning a number misses it only where nothing is registered under it. -/
theorem tables_inverse_of_performAll (changes : List (Operation β)) :
    let r := (empty : Registry β).performAll changes
    (∀ hash number, r.hashes.get? hash = some number ↔
      ∃ entry, r.blocks.get? number = some entry ∧ entry.hash = hash) ∧
    (∀ hash, (r.entry? hash).isSome = r.contains hash ∧
      (r.get? hash).isSome = r.contains hash) ∧
    (∀ hash, r.contains hash = true → ∃! number, r.hashOf? number = some hash) ∧
    (∀ number, r.blocks.contains number = true → ∃! hash, r.hashes.get? hash = some number) ∧
    (∃ live : Finset BlockHash, (∀ hash, hash ∈ live ↔ r.contains hash = true) ∧
      r.size = live.card) ∧
    (∀ hash, r.pinned = some hash → r.contains hash = true) ∧
    (∀ hash number block, (r.perform (.putPinned hash number block)).1 = .done) ∧
    (∀ number, (r.perform (.pinNumber number)).1 = .found none ↔
      r.blocks.contains number = false) := by
  intro r
  have hs : r.Sound := sound_performAll sound_empty changes
  refine ⟨?_, ?_, ?_, ?_, ?_, hs.pinned_live, ?_, ?_⟩
  · intro hash number
    rw [hs.inverse, hashOf?, Option.map_eq_some_iff]
  · intro hash
    exact ⟨hs.isSome_entry hash, hs.isSome_get hash⟩
  · intro hash hlive
    obtain ⟨number, hof⟩ := hs.contains_iff.mp hlive
    exact ⟨number, hof, fun m hm => hs.number_unique hm hof⟩
  · intro number hc
    obtain ⟨⟨hash, block⟩, hblock⟩ := Option.isSome_iff_exists.mp hc
    have hof : r.hashOf? number = some hash := hashOf?_eq_some.mpr ⟨block, hblock⟩
    refine ⟨hash, (hs.inverse hash number).mpr hof, fun h hget => ?_⟩
    have hof' := (hs.inverse h number).mp hget
    rw [hof] at hof'
    exact (Option.some.inj hof').symm
  · exact ⟨r.hashes.keys, fun _ => Table.mem_keys, hs.size_eq_card⟩
  · intro hash number block
    obtain ⟨changed, r', -, heq⟩ := putPinned_eq hs hash number block
    simp only [perform, heq]
  · intro number
    have hnone : r.blocks.contains number = false ↔ r.hashOf? number = none := by
      rw [hashOf?_eq_none, Table.contains, Option.isSome_eq_false_iff, Option.isNone_iff_eq_none]
    rw [hnone]
    obtain ⟨hof, heq⟩ | ⟨hash, changed, r', hof, -, heq⟩ := pinNumber_cases hs number
    · simp only [perform, heq, hof]
    · simp [perform, heq, hof]

end ChainIndex.Registry
