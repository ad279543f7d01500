import ChainIndex.Proofs.Registry.Inverse

/-!
# ChainIndex.Proofs.Registry.Slots

The two slots of a registry, and the one way in which they come apart.

The slots are formed if a retired hash comes with a pinned one, is registered, and is
another hash than the pinned one.  Every change keeps them formed but one: placing one of
the two kept hashes where the other stands.  The placed hash then takes over the slot of
the other and keeps its own, and what is left of that slot may stay behind when the hash is
forgotten.  `slotsFormed_along_iff` says that this is the only way, over every run.
-/

namespace ChainIndex.Registry

variable {β : Type}

/-- A retired hash comes with a pinned one, is registered, and is another hash. -/
structure SlotsFormed (r : Registry β) : Prop where
  pinned_of_retired : r.retired.isSome = true → r.pinned.isSome = true
  retired_live : ∀ hash, r.retired = some hash → r.contains hash = true
  retired_ne_pinned : ∀ hash, r.retired = some hash → r.pinned ≠ some hash

/-- Whether one of the two kept hashes would be placed where the other stands. -/
def MergesAt (r : Registry β) (hash : BlockHash) (number : UInt64) : Prop :=
  ∃ replaced, r.hashOf? number = some replaced ∧
    (r.pinned = some replaced ∧ r.retired = some hash ∨
      r.pinned = some hash ∧ r.retired = some replaced)

/-- Whether a change places one of the two kept hashes where the other stands. -/
def Merges (r : Registry β) : Operation β → Prop
  | .put hash number _ | .putPinned hash number _ => r.MergesAt hash number
  | .pin _ | .pinNumber _ | .revive _ | .evict _ => False

/-- The slots of an empty registry are well formed, as there are none. -/
theorem slotsFormed_empty : (empty : Registry β).SlotsFormed :=
  ⟨by simp [empty], by simp [empty], by simp [empty]⟩

@[simp] theorem slotsFormed_announceIf {changed : Bool} {r : Registry β} :
    (r.announceIf changed).SlotsFormed ↔ r.SlotsFormed := by
  constructor
  · intro hf
    exact ⟨by simpa using hf.pinned_of_retired, by simpa using hf.retired_live,
      by simpa using hf.retired_ne_pinned⟩
  · intro hf
    exact ⟨by simpa using hf.pinned_of_retired, by simpa using hf.retired_live,
      by simpa using hf.retired_ne_pinned⟩

/-! ## One change -/

section Place

variable {r r' : Registry β} {hash : BlockHash} {number : UInt64} {block : β} {changed : Bool}

/-- A placed hash that merges the slots is pinned and retired at once. -/
theorem Placed.slots_of_mergesAt (h : Placed r hash number block changed r')
    (hf : r.SlotsFormed) (hm : r.MergesAt hash number) :
    r'.pinned = some hash ∧ r'.retired = some hash := by
  obtain ⟨replaced, hof, ⟨hp, ht⟩ | ⟨hp, ht⟩⟩ := hm
  · -- the retired hash takes over the pinned slot and keeps its own
    have hne := hf.retired_ne_pinned hash ht
    rw [h.pinned, h.retired, hof, hp, ht]
    grind
  · -- the pinned hash takes over the retired slot and keeps its own
    have hne := hf.retired_ne_pinned replaced ht
    rw [h.pinned, h.retired, hof, hp, ht]
    grind

/-- A hash is still registered after an entry was placed, unless it was the one replaced. -/
theorem Placed.contains_of_ne (h : Placed r hash number block changed r') {kept : BlockHash}
    (hlive : r.contains kept = true) (hne : r.hashOf? number ≠ some kept) :
    r'.contains kept = true := by
  unfold contains Table.contains at hlive ⊢
  rw [h.hashes, if_neg hne]
  split
  · rfl
  · exact hlive

/-- Placing an entry keeps the slots formed exactly when it does not merge them. -/
theorem Placed.slotsFormed_iff (h : Placed r hash number block changed r')
    (hf : r.SlotsFormed) : r'.SlotsFormed ↔ ¬ r.MergesAt hash number := by
  constructor
  · intro hf' hm
    obtain ⟨hp, ht⟩ := h.slots_of_mergesAt hf hm
    exact hf'.retired_ne_pinned hash ht hp
  · intro hm
    have hself : r'.contains hash = true := by
      unfold contains Table.contains
      rw [h.hashes, if_pos rfl]
      rfl
    have hpinned := h.pinned
    have hretired := h.retired
    refine ⟨?_, ?_, ?_⟩
    · have hboth := hf.pinned_of_retired
      grind
    · intro kept ht
      by_cases hk : kept = hash
      · rw [hk]
        exact hself
      · -- a hash that stays retired was not the one forgotten, or its slot had moved on
        have hold : r.retired = some kept := by grind
        have hne := hf.retired_ne_pinned kept hold
        exact h.contains_of_ne (hf.retired_live kept hold) (by grind)
    · intro kept ht hp
      apply hm
      rw [hretired] at ht
      rw [hpinned] at hp
      split at ht
      · next hret =>
        -- the retired slot was taken over, so the pinned one was not
        obtain ⟨replaced, hold⟩ := Option.isSome_iff_exists.mp hret.1
        rw [if_neg (fun hpin => hret.2.2 (hpin.2.trans hret.2.1.symm)), ← ht] at hp
        exact ⟨replaced, hret.2.1 ▸ hold, .inr ⟨hp, hold⟩⟩
      · split at hp
        · next hpin =>
          obtain ⟨replaced, hold⟩ := Option.isSome_iff_exists.mp hpin.1
          rw [← hp] at ht
          exact ⟨replaced, hpin.2 ▸ hold, .inl ⟨hold, ht⟩⟩
        · exact absurd hp (hf.retired_ne_pinned kept ht)

end Place

/-- A promoted hash leaves the slots formed, whatever they were, unless it was pinned
already: then nothing changes. -/
theorem Promoted.slotsFormed_iff {r r' : Registry β} {hash : BlockHash} {changed : Bool}
    (h : Promoted r hash changed r') (hs : r.Sound) :
    r'.SlotsFormed ↔ (r.pinned = some hash → r.SlotsFormed) := by
  have hcontains : ∀ kept, r.pinned = some hash ∨ r.pinned = some kept →
      r'.contains kept = r.contains kept := by
    intro kept hk
    unfold contains Table.contains
    rw [h.hashes, if_pos (by grind)]
  by_cases hp : r.pinned = some hash
  · have hretired : r'.retired = r.retired := by rw [h.retired, if_pos hp]
    have hpinned : r'.pinned = r.pinned := by rw [h.pinned, hp]
    constructor
    · intro hf _
      refine ⟨?_, ?_, ?_⟩
      · rw [← hretired, ← hpinned]
        exact hf.pinned_of_retired
      · intro kept ht
        rw [← hcontains kept (.inl hp)]
        exact hf.retired_live kept (hretired ▸ ht)
      · rw [← hretired, ← hpinned]
        exact hf.retired_ne_pinned
    · intro hf
      refine ⟨?_, ?_, ?_⟩
      · rw [hretired, hpinned]
        exact (hf hp).pinned_of_retired
      · intro kept ht
        rw [hcontains kept (.inl hp)]
        exact (hf hp).retired_live kept (hretired ▸ ht)
      · rw [hretired, hpinned]
        exact (hf hp).retired_ne_pinned
  · have hretired : r'.retired = r.pinned := by rw [h.retired, if_neg hp]
    refine ⟨fun _ hpin => absurd hpin hp, fun _ => ⟨?_, ?_, ?_⟩⟩
    · intro _
      rw [h.pinned]
      rfl
    · intro kept ht
      rw [hretired] at ht
      rw [hcontains kept (.inr ht)]
      exact hs.pinned_live kept ht
    · intro kept ht hpin
      rw [hretired] at ht
      rw [h.pinned] at hpin
      exact hp (by rw [ht, ← hpin])

/-- Evicting a hash that has no slot keeps the slots well formed. -/
theorem Evicted.slotsFormed {r r' : Registry β} {hash : BlockHash} {number : UInt64}
    (h : Evicted r hash number r') (hf : r.SlotsFormed) (hslot : r.slot hash = .transient) :
    r'.SlotsFormed := by
  refine ⟨?_, ?_, ?_⟩
  · rw [h.retired, h.pinned]
    exact hf.pinned_of_retired
  · intro kept ht
    rw [h.retired] at ht
    have hne : kept ≠ hash := fun e => (slot_eq_transient.mp hslot).2 (e ▸ ht)
    unfold contains Table.contains
    rw [h.hashes, if_neg hne]
    exact hf.retired_live kept ht
  · rw [h.retired, h.pinned]
    exact hf.retired_ne_pinned

/-- An operation that places no entry cannot merge the slots. -/
theorem not_merges_of_placement?_eq_none {r : Registry β} {change : Operation β}
    (h : change.placement? = none) : ¬ r.Merges change := by
  cases change with
  | put _ _ _ | putPinned _ _ _ => cases h
  | pin _ | pinNumber _ | revive _ | evict _ => exact id

/-- From well-formed slots, an operation leads to well-formed slots exactly if it does not merge
them. -/
theorem Performed.slotsFormed_iff {r r' : Registry β} {change : Operation β}
    (h : Performed r change r') (hs : r.Sound) (hf : r.SlotsFormed) :
    r'.SlotsFormed ↔ ¬ r.Merges change := by
  cases h with
  | kept hput _ => exact iff_of_true hf (not_merges_of_placement?_eq_none hput)
  | put h =>
    rw [slotsFormed_announceIf]
    exact h.slotsFormed_iff hf
  | putPinned hplaced _ h =>
    rw [slotsFormed_announceIf, h.slotsFormed_iff (hplaced.sound hs), hplaced.slotsFormed_iff hf]
    constructor
    · intro hnot hm
      exact hnot (hplaced.slots_of_mergesAt hf hm).1 hm
    · intro hnot _
      exact hnot
  | pinned hput _ _ h =>
    rw [slotsFormed_announceIf, h.slotsFormed_iff hs]
    exact iff_of_true (fun _ => hf) (not_merges_of_placement?_eq_none hput)
  | @revived number hash hof =>
    refine iff_of_true ?_ id
    by_cases ht : r.retired = some hash
    · simp only [if_pos ht]
      exact ⟨by simp, by simp, by simp⟩
    · simp only [if_neg ht]
      exact ⟨hf.pinned_of_retired, hf.retired_live, hf.retired_ne_pinned⟩
  | evicted hslot _ h => exact iff_of_true (h.slotsFormed hf hslot) id

/-! ## Which hash is retired -/

/-- Placing a hash where no other one stands leaves the slots as they are. -/
theorem Placed.slots_of_same {r r' : Registry β} {hash : BlockHash} {number : UInt64} {block : β}
    {changed : Bool} (h : Placed r hash number block changed r')
    (hsame : ∀ replaced, r.hashOf? number = some replaced → replaced = hash) :
    r'.pinned = r.pinned ∧ r'.retired = r.retired := by
  constructor
  · rw [h.pinned]
    split
    · next hpin =>
      obtain ⟨replaced, hreplaced⟩ := Option.isSome_iff_exists.mp hpin.1
      rw [hreplaced, hsame replaced (hpin.2 ▸ hreplaced)]
    · rfl
  · rw [h.retired]
    split
    · next hret =>
      obtain ⟨replaced, hreplaced⟩ := Option.isSome_iff_exists.mp hret.1
      rw [hreplaced, hsame replaced (hret.2.1 ▸ hreplaced)]
    · rfl

/-- The hash that is found under a number is not retired any more. -/
theorem slot_revive_ne_retired {r : Registry β} {number : UInt64} {hash : BlockHash}
    (hof : r.hashOf? number = some hash) : (r.revive number).2.slot hash ≠ .retired := by
  rw [ne_eq, slot_eq_retired, revive_of_hashOf?_eq_some hof]
  rintro ⟨-, hretired⟩
  simp only at hretired
  split at hretired
  · cases hretired
  · next hnot => exact hnot hretired

/-- A change in which no hash is retired but the one that was pinned until then. -/
def RetiresPinned (r r' : Registry β) : Prop :=
  ∀ hash, r'.retired = some hash →
    r.retired = some hash ∨ r.pinned = some hash ∧ r'.pinned ≠ some hash

/-- A change that leaves the retired hash alone retires nothing. -/
theorem RetiresPinned.of_eq {r r' : Registry β} (h : r'.retired = r.retired) :
    r.RetiresPinned r' :=
  fun _ hretired => .inl (h ▸ hretired)

/-- Promoting retires no hash but the one that was pinned. -/
theorem Promoted.retiresPinned {r r' : Registry β} {hash : BlockHash} {changed : Bool}
    (h : Promoted r hash changed r') : r.RetiresPinned r' := by
  intro kept hretired
  rw [h.retired] at hretired
  split at hretired
  · exact .inl hretired
  · next hp =>
    refine .inr ⟨hretired, fun hkept => hp ?_⟩
    rw [h.pinned] at hkept
    rw [hretired, hkept]

/-- A change that places no hash where another one stands retires only the pinned one. -/
theorem Performed.retiresPinned {r r' : Registry β} {change : Operation β}
    (h : Performed r change r')
    (hsame : ∀ hash number block, change.placement? = some (hash, number, block) →
      ∀ replaced, r.hashOf? number = some replaced → replaced = hash) : r.RetiresPinned r' := by
  cases h with
  | kept _ _ => exact .of_eq rfl
  | put hplaced =>
    refine .of_eq ?_
    rw [retired_announceIf]
    exact (hplaced.slots_of_same (hsame _ _ _ rfl)).2
  | putPinned hplaced _ hpromoted =>
    obtain ⟨hpinned, hretired⟩ := hplaced.slots_of_same (hsame _ _ _ rfl)
    have hretires := hpromoted.retiresPinned
    unfold RetiresPinned at hretires ⊢
    rwa [retired_announceIf, pinned_announceIf, ← hpinned, ← hretired]
  | pinned _ _ _ hpromoted =>
    unfold RetiresPinned
    rw [retired_announceIf, pinned_announceIf]
    exact hpromoted.retiresPinned
  | revived _ =>
    intro hash hretired
    simp only at hretired
    split at hretired
    · cases hretired
    · exact .inl hretired
  | evicted _ _ hevicted => exact .of_eq hevicted.retired

/-- A change that places no hash where another one stands does not merge the slots. -/
theorem not_merges_of_same {r : Registry β} {change : Operation β} (hf : r.SlotsFormed)
    (hsame : ∀ hash number block, change.placement? = some (hash, number, block) →
      ∀ replaced, r.hashOf? number = some replaced → replaced = hash) : ¬ r.Merges change := by
  have hapart {hash : BlockHash} {number : UInt64} {block : β}
      (hput : change.placement? = some (hash, number, block)) : ¬ r.MergesAt hash number := by
    rintro ⟨replaced, hof, hslots⟩
    obtain rfl := hsame hash number block hput replaced hof
    obtain ⟨hp, ht⟩ | ⟨hp, ht⟩ := hslots
    · exact hf.retired_ne_pinned _ ht hp
    · exact hf.retired_ne_pinned _ ht hp
  cases change with
  | put _ _ _ | putPinned _ _ _ => exact hapart rfl
  | pin _ | pinNumber _ | revive _ | evict _ => exact id

variable [DecidableEq β]

/-- A change keeps the slots formed exactly when it does not merge them. -/
theorem slotsFormed_perform_iff {r : Registry β} (hs : r.Sound) (hf : r.SlotsFormed)
    (change : Operation β) : (r.perform change).2.SlotsFormed ↔ ¬ r.Merges change :=
  (performed_perform hs change).slotsFormed_iff hs hf

/-! ## Runs -/

/-- The slots are formed in every state of a run exactly when no change of the run merges
them. -/
theorem slotsFormed_along_iff (changes : List (Operation β)) :
    (∀ done, done <+: changes → ((empty : Registry β).performAll done).SlotsFormed) ↔
      ∀ done change, done ++ [change] <+: changes →
        ¬ ((empty : Registry β).performAll done).Merges change := by
  have hstep : ∀ done change, ((empty : Registry β).performAll done).SlotsFormed →
      (((empty : Registry β).performAll (done ++ [change])).SlotsFormed ↔
        ¬ ((empty : Registry β).performAll done).Merges change) := by
    intro done change hf
    rw [performAll_concat]
    exact slotsFormed_perform_iff (sound_performAll sound_empty done) hf change
  constructor
  · intro hall done change hpre
    have hdone := hall done ((List.prefix_append done [change]).trans hpre)
    exact (hstep done change hdone).mp (hall _ hpre)
  · intro hnone done
    induction done using List.reverseRecOn with
    | nil =>
      intro _
      exact slotsFormed_empty
    | append_singleton done change ih =>
      intro hpre
      have hdone := ih ((List.prefix_append done [change]).trans hpre)
      exact (hstep done change hdone).mpr (hnone done change hpre)

/-- Placing the retired hash where the pinned one stands leaves it in both slots, and once
it is replaced there in turn, the retired slot names a hash that is not registered. -/
theorem not_slotsFormed_of_merging :
    let one : BlockHash := ⟨Vector.replicate 32 1⟩
    let two : BlockHash := ⟨Vector.replicate 32 2⟩
    let three : BlockHash := ⟨Vector.replicate 32 3⟩
    let changes : List (Operation String) :=
      [.put one 1 "a", .pin one, .put two 2 "b", .pin two, .put one 2 "c"]
    let merged := (empty : Registry String).performAll changes
    let dangling := (empty : Registry String).performAll (changes ++ [.put three 2 "d"])
    (¬ merged.SlotsFormed ∧ merged.pinned = some one ∧ merged.retired = some one) ∧
      ¬ dangling.SlotsFormed ∧ dangling.retired = some one ∧ dangling.contains one = false := by
  intro one two three changes merged dangling
  have hpinned : merged.pinned = some one := by decide
  have hretired : merged.retired = some one := by decide
  have hleft : dangling.retired = some one := by decide
  have hgone : dangling.contains one = false := by decide
  refine ⟨⟨fun hf => hf.retired_ne_pinned one hretired hpinned, hpinned, hretired⟩, ?_, hleft,
    hgone⟩
  intro hf
  rw [hf.retired_live one hleft] at hgone
  exact absurd hgone (by decide)

end ChainIndex.Registry
