import ChainIndex.Proofs.Registry.Retention

/-!
# ChainIndex.Proofs.Registry.Put

What putting an entry leaves, to the last entry.

A put may move a hash, replace another one, hand a slot on and change a block, all at once.  Read
through the entries it is still short to say: the hash gets what it was put with, the hash that it
replaces is forgotten, the number that it leaves is free, and every other entry stays in its slot
(`Placed.entry?_of_ne`).  Of the slots that the hash and the one it replaces had, it is left with
the one that is kept longest (`Placed.slot_self`).
-/

namespace ChainIndex.Registry

variable {β : Type}

/-- The slot that is kept longest among those of some hashes. -/
def longestSlot (r : Registry β) (hashes : List BlockHash) : Slot :=
  if ∃ hash ∈ hashes, r.pinned = some hash then .pinned
  else if ∃ hash ∈ hashes, r.retired = some hash then .retired
  else .transient

/-- An entry is what its hash is registered with, and the slot of the hash. -/
theorem entry?_eq_map_get? (r : Registry β) (hash : BlockHash) :
    r.entry? hash = (r.get? hash).map fun (number, block) => (number, block, r.slot hash) := by
  unfold get? entry?
  cases r.hashes.get? hash with
  | none => rfl
  | some number =>
    cases hblock : r.blocks.get? number with
    | none => simp only [hblock, Option.map_none]
    | some entry => simp only [hblock, Option.map_some]

@[simp] theorem slot_announceIf (changed : Bool) (r : Registry β) (hash : BlockHash) :
    (r.announceIf changed).slot hash = r.slot hash := by
  cases changed <;> rfl

@[simp] theorem entry?_announceIf (changed : Bool) (r : Registry β) (hash : BlockHash) :
    entry? (r.announceIf changed) hash = entry? r hash := by
  cases changed <;> rfl

/-! ## Placing an entry -/

namespace Placed

variable {r r' : Registry β} {hash : BlockHash} {number : UInt64} {block : β} {changed : Bool}

/-- A placed hash is left with the longest of its own slot and that of the hash it replaces. -/
theorem slot_self (h : Placed r hash number block changed r') :
    r'.slot hash = r.longestSlot (hash :: (r.hashOf? number).toList) := by
  unfold slot longestSlot
  rw [h.pinned, h.retired]
  cases hof : r.hashOf? number with
  | none =>
    -- a slot that is taken over is taken from a hash, and there is none
    have hpinned : ¬ (r.pinned.isSome ∧ r.pinned = none) := by grind
    have hretired : ¬ (r.retired.isSome ∧ r.retired = none ∧ r.pinned ≠ r.retired) := by grind
    simp [hpinned, hretired]
  | some replaced =>
    simp only [Option.toList_some, List.mem_cons, List.not_mem_nil, or_false, exists_eq_or_imp,
      exists_eq_left]
    grind

/-- Placing a hash leaves every other hash in its slot, but for the one that is replaced. -/
theorem slot_of_ne (h : Placed r hash number block changed r') {other : BlockHash}
    (hne : other ≠ hash) (hkept : r.hashOf? number ≠ some other) :
    r'.slot other = r.slot other := by
  unfold slot
  rw [h.pinned, h.retired]
  grind

/-- Neither the entry nor the slot of any other hash changes, but for the hash that is replaced. -/
theorem entry?_of_ne (h : Placed r hash number block changed r') (hs : r.Sound)
    {other : BlockHash} (hne : other ≠ hash) (hkept : r.hashOf? number ≠ some other) :
    entry? r' other = entry? r other := by
  rw [entry?_eq_map_get?, entry?_eq_map_get?, h.get?_of_ne hs hne hkept, h.slot_of_ne hne hkept]

/-- The hash that is replaced is forgotten. -/
theorem get?_replaced (h : Placed r hash number block changed r') (hs : r.Sound)
    {replaced : BlockHash} (hne : replaced ≠ hash) (hof : r.hashOf? number = some replaced) :
    r'.get? replaced = none := by
  rw [← Option.isSome_eq_false_iff.trans Option.isNone_iff_eq_none, (h.sound hs).isSome_get,
    contains, Table.contains, h.hashes, if_neg hne, if_pos hof]
  rfl

end Placed

/-! ## Putting an entry -/

variable [DecidableEq β]

/-- Putting what is there changes nothing and is not announced. -/
theorem put_of_registered {r : Registry β} {hash : BlockHash} {number : UInt64} {block : β}
    (h : r.blocks.get? number = some ⟨hash, block⟩) : r.put hash number block = r := by
  rw [put_eq, place, if_pos h]
  rfl

/-- After every sequence of changes, a put does exactly this: its hash is found with what it was
put with, and under its number; every other hash keeps its number, its block and its slot, except
for the hash that was registered under the number, which is missing; the number that the hash had
before, if it is another one, is free; the hash is left with the longest of its own slot and that
of the hash it replaced; and putting the same again changes nothing, the head channel included. -/
theorem put_exact_of_performAll (changes : List (Operation β)) (hash : BlockHash)
    (number : UInt64) (block : β) :
    let r := (empty : Registry β).performAll changes
    let r' := r.put hash number block
    (r'.get? hash = some (number, block) ∧ (r'.revive number).1 = some hash) ∧
    (∀ other, other ≠ hash →
      if r.hashOf? number = some other then r'.get? other = none ∧ r'.contains other = false
      else entry? r' other = entry? r other) ∧
    (∀ former, former ≠ number →
      r'.hashOf? former =
        if r.hashOf? former = some hash then none else r.hashOf? former) ∧
    r'.slot hash = r.longestSlot (hash :: (r.hashOf? number).toList) ∧
    r'.put hash number block = r' := by
  intro r r'
  have hs : r.Sound := sound_performAll sound_empty changes
  have hplaced := placed_place hs hash number block
  have hs' : r'.Sound := sound_announceIf.mpr (hplaced.sound hs)
  have hput : r' = _ := put_eq r hash number block
  have hself : r'.get? hash = some (number, block) := by
    rw [hput, get?_announceIf]
    exact hplaced.get?_self hs
  have hthere := hs'.get?_eq_some.mp hself
  refine ⟨⟨hself, ?_⟩, fun other hne => ?_, fun former hne => ?_, ?_, put_of_registered hthere⟩
  · rw [revive_of_hashOf?_eq_some (hashOf?_eq_some.mpr ⟨block, hthere⟩)]
  · -- the hash that was registered under the number is the one that is replaced
    split
    · next hof =>
      have hgone : r'.get? other = none := by
        rw [hput, get?_announceIf]
        exact hplaced.get?_replaced hs hne hof
      refine ⟨hgone, ?_⟩
      rw [← hs'.isSome_get, hgone]
      rfl
    · next hkept =>
      rw [hput, entry?_announceIf]
      exact hplaced.entry?_of_ne hs hne hkept
  · rw [hput, hashOf?_announceIf, hplaced.hashOf?, if_neg hne]
    exact if_congr (hs.inverse hash former) rfl rfl
  · rw [hput, slot_announceIf]
    exact hplaced.slot_self

end ChainIndex.Registry
