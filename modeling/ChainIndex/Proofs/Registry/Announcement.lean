import ChainIndex.Proofs.Registry.Inverse

/-!
# ChainIndex.Proofs.Registry.Announcement

When the head channel of a registry is written, and what its watchers see.

The pinned hash changes in two ways: a placed hash takes over the slot of the pinned one, or a
registered hash is promoted.  A change that places a hash and pins it goes both ways, but the
second one moves nothing that the first one has moved (`Placed.changed_or_iff`).  So every
change writes the channel once if it changed the pinned hash, and else not at all
(`Performed.head`), and what is watched is the pinned hash all along.
-/

namespace ChainIndex.Registry

variable {β : Type} {r r' : Registry β} {hash : BlockHash} {number : UInt64} {block : β}
  {change : Operation β}

/-! ## One change -/

/-- A registry that is announced if its pinned hash is another one than before. -/
theorem head_announceIf {changed : Bool} (hhead : r'.head = r.head)
    (hchanged : changed = true ↔ r'.pinned ≠ r.pinned) :
    (r'.announceIf changed).head =
      if r'.pinned = r.pinned then r.head else r.head.write r'.pinned := by
  rw [← hhead]
  by_cases hpinned : r'.pinned = r.pinned
  · have hfalse : changed = false := by simpa [hpinned] using hchanged
    rw [hfalse, if_pos hpinned]
    rfl
  · rw [hchanged.mpr hpinned, if_neg hpinned]
    rfl

/-- Placing a hash pins it or leaves the pinned hash as it was. -/
theorem Placed.pinned_eq_or {moved : Bool} (h : Placed r hash number block moved r') :
    r'.pinned = some hash ∨ r'.pinned = r.pinned := by
  rw [h.pinned]
  split
  · exact .inl rfl
  · exact .inr rfl

/-- Placing a hash and then promoting it changes the pinned hash in at most one of the two
steps, so that one of them changes it exactly if both together do. -/
theorem Placed.changed_or_iff {placed : Registry β} {moved changed : Bool}
    (hplaced : Placed r hash number block moved placed) (h : Promoted placed hash changed r') :
    (moved || changed) = true ↔ r'.pinned ≠ r.pinned := by
  rw [Bool.or_eq_true, hplaced.changed_iff, h.changed_iff]
  obtain hself | hsame := hplaced.pinned_eq_or
  · -- the hash is pinned as it is placed, and promoting it again is no change
    have hpinned : r'.pinned = placed.pinned := h.pinned.trans hself.symm
    simp [hpinned]
  · simp [hsame]

/-- A change writes the pinned hash to the channel once if it changed it, and else does not
write at all. -/
theorem Performed.head (h : Performed r change r') :
    r'.head = if r'.pinned = r.pinned then r.head else r.head.write r'.pinned := by
  cases h with
  | kept _ _ => exact (if_pos rfl).symm
  | put h =>
    rw [pinned_announceIf]
    exact head_announceIf h.head h.changed_iff
  | putPinned hplaced _ h =>
    rw [pinned_announceIf]
    exact head_announceIf (h.head.trans hplaced.head) (hplaced.changed_or_iff h)
  | pinned _ _ _ h =>
    rw [pinned_announceIf]
    exact head_announceIf h.head h.changed_iff
  | revived _ => exact (if_pos rfl).symm
  | evicted _ _ h => rw [h.pinned, if_pos rfl, h.head]

/-- Watchers who saw the pinned hash go on to see it. -/
theorem Performed.watched (h : Performed r change r') (hwatched : r.head.value = r.pinned) :
    r'.head.value = r'.pinned := by
  rw [h.head]
  split
  · next hsame => rw [hwatched, hsame]
  · rfl

/-- A hash that is placed where the pinned one stands is pinned, whether or not it is to be
pinned. -/
theorem Performed.pinned_of_replaced (h : Performed r change r') {replaced : BlockHash}
    (hput : change.placement? = some (hash, number, block)) (hpinned : r.pinned = some replaced)
    (hof : r.hashOf? number = some replaced) : r'.pinned = some hash := by
  cases h with
  | kept hnone _ | pinned hnone _ _ _ =>
    rw [hnone] at hput
    cases hput
  | put h =>
    cases hput
    rw [pinned_announceIf, h.pinned, hpinned, hof, if_pos ⟨rfl, rfl⟩]
  | putPinned _ _ h =>
    cases hput
    rw [pinned_announceIf, h.pinned]
  | revived _ | evicted _ _ _ => cases hput

/-! ## Runs -/

variable [DecidableEq β]

/-- What is watched is the pinned hash, over every run. -/
theorem watched_performAll (hs : r.Sound) (hwatched : r.head.value = r.pinned)
    (changes : List (Operation β)) :
    (r.performAll changes).head.value = (r.performAll changes).pinned := by
  unfold performAll
  induction changes generalizing r with
  | nil => exact hwatched
  | cons change changes ih =>
    exact ih (sound_perform hs change) ((performed_perform hs change).watched hwatched)

/-- After every sequence of changes: the next change writes the head channel exactly if it changes
the pinned hash, and then once, and the channel holds the pinned hash before and after it.
In particular, placing another hash where the pinned one stands pins it and tells so once,
also where the change goes on to pin it. -/
theorem head_written_iff (changes : List (Operation β)) (change : Operation β) :
    let r := (empty : Registry β).performAll changes
    let r' := (r.perform change).2
    (r'.head.writes = r.head.writes + if r'.pinned = r.pinned then 0 else 1) ∧
    (r.head.value = r.pinned ∧ r'.head.value = r'.pinned) ∧
    (∀ hash number block replaced, change.placement? = some (hash, number, block) →
      r.pinned = some replaced → r.hashOf? number = some replaced → hash ≠ replaced →
      r'.pinned = some hash ∧ r'.head = r.head.write (some hash)) := by
  intro r r'
  have hs : r.Sound := sound_performAll sound_empty changes
  have hperformed : Performed r change r' := performed_perform hs change
  have hwatched : r.head.value = r.pinned := watched_performAll sound_empty rfl changes
  refine ⟨?_, ⟨hwatched, hperformed.watched hwatched⟩, ?_⟩
  · rw [hperformed.head]
    split <;> rfl
  · intro hash number block replaced hput hpinned hof hne
    have hnew : r'.pinned = some hash := hperformed.pinned_of_replaced hput hpinned hof
    have hmoved : r'.pinned ≠ r.pinned := by
      rw [hnew, hpinned]
      exact fun h => hne (Option.some.inj h)
    exact ⟨hnew, by rw [hperformed.head, if_neg hmoved, hnew]⟩

end ChainIndex.Registry
