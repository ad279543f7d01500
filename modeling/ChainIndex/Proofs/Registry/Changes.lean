import ChainIndex.Registry

/-!
# ChainIndex.Proofs.Registry.Changes

What each change does to a registry, read through its two tables and its two slots.

Placing an entry, promoting a hash, reviving a number and evicting a hash each get one
statement that says everything the change does; the operations are made of these four and
of writing to the channel, which touches neither table nor slot.  What an operation comes to is
said once (`performed_perform`), so that nothing else has to look into the operations.
-/

namespace ChainIndex.Registry

variable {β : Type}

/-! ## Hashes of numbers -/

/-- A number has a hash exactly if some entry stands under it. -/
theorem hashOf?_eq_some {r : Registry β} {number : UInt64} {hash : BlockHash} :
    r.hashOf? number = some hash ↔ ∃ block, r.blocks.get? number = some ⟨hash, block⟩ := by
  rw [hashOf?, Option.map_eq_some_iff]
  constructor
  · rintro ⟨⟨h, block⟩, hget, rfl⟩
    exact ⟨block, hget⟩
  · rintro ⟨block, hget⟩
    exact ⟨⟨hash, block⟩, hget, rfl⟩

theorem hashOf?_eq_none {r : Registry β} {number : UInt64} :
    r.hashOf? number = none ↔ r.blocks.get? number = none := by
  rw [hashOf?, Option.map_eq_none_iff]

/-! ## Announcing -/

@[simp] theorem hashes_announceIf (changed : Bool) (r : Registry β) :
    (r.announceIf changed).hashes = r.hashes := by
  cases changed <;> rfl

@[simp] theorem blocks_announceIf (changed : Bool) (r : Registry β) :
    (r.announceIf changed).blocks = r.blocks := by
  cases changed <;> rfl

@[simp] theorem pinned_announceIf (changed : Bool) (r : Registry β) :
    (r.announceIf changed).pinned = r.pinned := by
  cases changed <;> rfl

@[simp] theorem retired_announceIf (changed : Bool) (r : Registry β) :
    (r.announceIf changed).retired = r.retired := by
  cases changed <;> rfl

@[simp] theorem hashOf?_announceIf (changed : Bool) (r : Registry β) (number : UInt64) :
    (r.announceIf changed).hashOf? number = r.hashOf? number := by
  cases changed <;> rfl

@[simp] theorem contains_announceIf (changed : Bool) (r : Registry β) (hash : BlockHash) :
    (r.announceIf changed).contains hash = r.contains hash := by
  cases changed <;> rfl

/-! ## The two tables -/

/-- The two tables are inverse to each other, and the pinned hash is registered. -/
structure Sound (r : Registry β) : Prop where
  inverse : ∀ hash number, r.hashes.get? hash = some number ↔ r.hashOf? number = some hash
  pinned_live : ∀ hash, r.pinned = some hash → r.contains hash = true

/-- The registered hashes are the ones that stand under some number. -/
theorem Sound.contains_iff {r : Registry β} (hs : r.Sound) {hash : BlockHash} :
    r.contains hash = true ↔ ∃ number, r.hashOf? number = some hash := by
  rw [contains, Table.contains, Option.isSome_iff_exists]
  exact exists_congr fun number => hs.inverse hash number

/-- A hash is registered under one number. -/
theorem Sound.number_unique {r : Registry β} (hs : r.Sound) {hash : BlockHash} {m n : UInt64}
    (hm : r.hashOf? m = some hash) (hn : r.hashOf? n = some hash) : m = n := by
  rw [← hs.inverse] at hm hn
  rw [hm] at hn
  exact Option.some.inj hn

/-- An empty registry is sound. -/
theorem sound_empty : (empty : Registry β).Sound where
  inverse := by intro hash number; simp [empty, hashOf?]
  pinned_live := by intro hash h; simp [empty] at h

@[simp] theorem sound_announceIf {changed : Bool} {r : Registry β} :
    (r.announceIf changed).Sound ↔ r.Sound := by
  constructor
  · intro hs
    exact ⟨by simpa using hs.inverse, by simpa using hs.pinned_live⟩
  · intro hs
    exact ⟨by simpa using hs.inverse, by simpa using hs.pinned_live⟩

/-! ## Placing an entry -/

/-- Clearing a number for a hash removes the entry of the hash from elsewhere, and nothing more. -/
theorem get?_vacate (r : Registry β) (hash : BlockHash) (number m : UInt64) :
    (r.vacate hash number).get? m =
      if r.hashes.get? hash = some m ∧ m ≠ number then none else r.blocks.get? m := by
  unfold vacate
  cases hold : r.hashes.get? hash with
  | none => simp
  | some old =>
    by_cases ho : old = number
    · have hne : ¬ (old = m ∧ m ≠ number) := fun h => h.2 (h.1 ▸ ho)
      simp only [if_pos ho, Option.some.injEq, if_neg hne]
    · simp only [if_neg ho, Table.get?_erase, Option.some.injEq]
      by_cases hm : m = old
      · subst hm; simp [ho]
      · have hne : ¬ (old = m ∧ m ≠ number) := fun h => hm h.1.symm
        rw [if_neg hm, if_neg hne]

/-- What placing an entry does: the hash leaves the number it had, the hash at the number is
forgotten, and the new hash takes over the slot of the forgotten one. -/
structure Placed (r : Registry β) (hash : BlockHash) (number : UInt64) (block : β)
    (changed : Bool) (r' : Registry β) : Prop where
  blocks : ∀ m, r'.blocks.get? m =
    if m = number then some ⟨hash, block⟩
    else if r.hashes.get? hash = some m then none
    else r.blocks.get? m
  hashes : ∀ h, r'.hashes.get? h =
    if h = hash then some number
    else if r.hashOf? number = some h then none
    else r.hashes.get? h
  pinned : r'.pinned =
    if r.pinned.isSome ∧ r.pinned = r.hashOf? number then some hash else r.pinned
  retired : r'.retired =
    if r.retired.isSome ∧ r.retired = r.hashOf? number ∧ r.pinned ≠ r.retired then some hash
    else r.retired
  head : r'.head = r.head
  changed_iff : changed = true ↔ r'.pinned ≠ r.pinned

/-- The tables after placing an entry that was not there, before any slot changes hands. -/
theorem get?_insert_vacate (r : Registry β) (hash : BlockHash) (number : UInt64) (block : β)
    (m : UInt64) :
    ((r.vacate hash number).insert number ⟨hash, block⟩).get? m =
      if m = number then some ⟨hash, block⟩
      else if r.hashes.get? hash = some m then none
      else r.blocks.get? m := by
  rw [Table.get?_insert, get?_vacate]
  by_cases hm : m = number
  · rw [if_pos hm, if_pos hm]
  · simp only [ne_eq, hm, not_false_eq_true, and_true]

/-- Placing an entry does what it should, whichever of its cases applies. -/
theorem placed_place [DecidableEq β] {r : Registry β} (hs : r.Sound) (hash : BlockHash)
    (number : UInt64) (block : β) :
    Placed r hash number block (r.place hash number block).1 (r.place hash number block).2 := by
  have hself : (r.vacate hash number).get? number = r.blocks.get? number := by
    simp [get?_vacate]
  by_cases hsame : r.blocks.get? number = some ⟨hash, block⟩
  · -- the entry is there already, and so is everything it would bring
    have hof : r.hashOf? number = some hash := hashOf?_eq_some.mpr ⟨block, hsame⟩
    have hget : r.hashes.get? hash = some number := (hs.inverse hash number).mpr hof
    have hplace : r.place hash number block = (false, r) := by rw [place, if_pos hsame]
    rw [hplace]
    refine ⟨?_, ?_, ?_, ?_, rfl, by simp⟩
    · intro m
      grind
    · intro h
      grind
    · grind
    · grind
  · rw [place, if_neg hsame]
    simp only [hself]
    cases hat : r.blocks.get? number with
    | none =>
      have hof : r.hashOf? number = none := hashOf?_eq_none.mpr hat
      refine ⟨get?_insert_vacate r hash number block, ?_, ?_, ?_, rfl, by simp⟩
      · intro h
        rw [Table.get?_insert]
        simp [hof]
      · grind
      · grind
    | some replaced =>
      have hof : r.hashOf? number = some replaced.hash :=
        hashOf?_eq_some.mpr ⟨replaced.block, hat⟩
      simp only
      by_cases hr : replaced.hash = hash
      · rw [if_pos hr]
        refine ⟨get?_insert_vacate r hash number block, ?_, ?_, ?_, rfl, by simp⟩
        · intro h
          rw [Table.get?_insert]
          grind
        · grind
        · grind
      · rw [if_neg hr]
        have hhashes : ∀ h, ((r.hashes.insert hash number).erase replaced.hash).get? h =
            if h = hash then some number
            else if r.hashOf? number = some h then none
            else r.hashes.get? h := by
          intro h
          rw [Table.get?_erase, Table.get?_insert]
          grind
        have hblocks := get?_insert_vacate r hash number block
        -- the slot that the forgotten hash had decides which of the three endings it is
        unfold inherit
        by_cases hp : r.pinned = some replaced.hash
        · rw [if_pos hp]
          exact ⟨hblocks, hhashes, by grind, by grind, rfl, by grind⟩
        · rw [if_neg hp]
          by_cases ht : r.retired = some replaced.hash
          · rw [if_pos ht]
            exact ⟨hblocks, hhashes, by grind, by grind, rfl, by simp⟩
          · rw [if_neg ht]
            exact ⟨hblocks, hhashes, by grind, by grind, rfl, by simp⟩

namespace Placed

variable {r r' : Registry β} {hash : BlockHash} {number : UInt64} {block : β} {changed : Bool}

/-- The hashes of the numbers after an entry was placed. -/
theorem hashOf? (h : Placed r hash number block changed r') (m : UInt64) :
    r'.hashOf? m =
      if m = number then some hash
      else if r.hashes.get? hash = some m then none
      else r.hashOf? m := by
  rw [Registry.hashOf?, h.blocks]
  split
  · rfl
  · split
    · rfl
    · rfl

/-- An entry that is there afterwards is the placed one or was there before. -/
theorem entry (h : Placed r hash number block changed r') {m : UInt64} {e : Entry β}
    (he : r'.blocks.get? m = some e) :
    m = number ∧ e = ⟨hash, block⟩ ∨ r.blocks.get? m = some e := by
  rw [h.blocks] at he
  grind

/-- Placing an entry keeps a registry sound. -/
theorem sound (h : Placed r hash number block changed r') (hs : r.Sound) : r'.Sound where
  inverse := by
    intro h' m
    rw [h.hashes, h.hashOf?]
    have hm := hs.inverse h' m
    have hnumber := hs.inverse h' number
    have hhash := hs.inverse hash m
    grind
  pinned_live := by
    intro h' hp
    rw [contains, Table.contains, h.hashes]
    rw [h.pinned] at hp
    have hlive := hs.pinned_live h'
    rw [contains, Table.contains] at hlive
    grind

end Placed

/-! ## Promoting a hash -/

/-- What promoting a hash does: nothing if it is pinned already, and else it is pinned, the
hash pinned before is retired, and no other entry is kept. -/
structure Promoted (r : Registry β) (hash : BlockHash) (changed : Bool) (r' : Registry β) :
    Prop where
  blocks : ∀ m, r'.blocks.get? m =
    if r.pinned = some hash then r.blocks.get? m
    else (r.blocks.get? m).filter fun entry => entry.hash = hash ∨ r.pinned = some entry.hash
  hashes : ∀ h, r'.hashes.get? h =
    if r.pinned = some hash ∨ h = hash ∨ r.pinned = some h then r.hashes.get? h else none
  pinned : r'.pinned = some hash
  retired : r'.retired = if r.pinned = some hash then r.retired else r.pinned
  head : r'.head = r.head
  changed_iff : changed = true ↔ r'.pinned ≠ r.pinned

/-- Only a hash that is registered can be promoted. -/
theorem promote?_eq_none {r : Registry β} {hash : BlockHash} :
    r.promote? hash = none ↔ r.contains hash = false := by
  unfold promote?
  split
  · split <;> simp_all
  · simp_all

/-- Promoting does what it should, whether the hash was pinned before or not. -/
theorem promoted_of_promote? {r r' : Registry β} {hash : BlockHash} {changed : Bool}
    (h : r.promote? hash = some (changed, r')) : Promoted r hash changed r' := by
  unfold promote? at h
  split at h
  · split at h
    · next hp =>
      obtain ⟨rfl, rfl⟩ := Prod.mk.inj (Option.some.inj h)
      exact ⟨by simp [hp], by simp [hp], hp, by simp [hp], rfl, by simp⟩
    · next hp =>
      obtain ⟨rfl, rfl⟩ := Prod.mk.inj (Option.some.inj h)
      refine ⟨?_, ?_, rfl, by simp [hp], rfl, by simpa using Ne.symm hp⟩
      · intro m
        rw [if_neg hp]
        exact Table.get?_filter _ _ _
      · intro h'
        rw [Table.get?_filter]
        cases r.hashes.get? h' with
        | none => simp
        | some m => simp [Option.filter_some, hp]
  · simp at h

namespace Promoted

variable {r r' : Registry β} {hash : BlockHash} {changed : Bool}

/-- The hashes of the numbers after a promotion: only the two hashes that are kept remain. -/
theorem hashOf? (h : Promoted r hash changed r') (m : UInt64) :
    r'.hashOf? m =
      (r.hashOf? m).filter fun h => r.pinned = some hash ∨ h = hash ∨ r.pinned = some h := by
  rw [Registry.hashOf?, Registry.hashOf?, h.blocks]
  cases r.blocks.get? m with
  | none => simp
  | some entry => grind

/-- An entry that is there afterwards was there before. -/
theorem entry (h : Promoted r hash changed r') {m : UInt64} {e : Entry β}
    (he : r'.blocks.get? m = some e) : r.blocks.get? m = some e := by
  rw [h.blocks] at he
  split at he
  · exact he
  · exact (Option.filter_eq_some_iff.mp he).1

/-- Promoting a registered hash keeps a registry sound. -/
theorem sound (h : Promoted r hash changed r') (hs : r.Sound) (hlive : r.contains hash = true) :
    r'.Sound where
  inverse := by
    intro h' m
    have hm := hs.inverse h' m
    rw [h.hashes, h.hashOf?, Option.filter_eq_some_iff]
    simp only [decide_eq_true_eq]
    by_cases hk : r.pinned = some hash ∨ h' = hash ∨ r.pinned = some h'
    · rw [if_pos hk, hm]
      exact ⟨fun hof => ⟨hof, hk⟩, fun hof => hof.1⟩
    · rw [if_neg hk]
      exact ⟨fun hn => absurd hn (by simp), fun hof => absurd hof.2 hk⟩
  pinned_live := by
    intro h' hp
    rw [h.pinned] at hp
    obtain rfl := Option.some.inj hp
    rw [contains, Table.contains, h.hashes]
    simpa [contains, Table.contains] using hlive

end Promoted

/-! ## Reviving a number -/

/-- A number without an entry has nothing to revive. -/
theorem revive_of_hashOf?_eq_none {r : Registry β} {number : UInt64}
    (h : r.hashOf? number = none) : r.revive number = (none, r) := by
  rw [revive, h]

/-- Reviving a number gives its hash, which is not retired any longer. -/
theorem revive_of_hashOf?_eq_some {r : Registry β} {number : UInt64} {hash : BlockHash}
    (h : r.hashOf? number = some hash) :
    r.revive number =
      (some hash, { r with retired := if r.retired = some hash then none else r.retired }) := by
  rw [revive, h]
  simp only
  by_cases ht : r.retired = some hash
  · rw [if_pos ht, if_pos ht]
  · rw [if_neg ht, if_neg ht]

/-! ## Evicting a hash -/

/-- The slot of a hash says whether it is pinned. -/
theorem slot_eq_pinned {r : Registry β} {hash : BlockHash} :
    r.slot hash = .pinned ↔ r.pinned = some hash := by
  unfold slot
  grind

/-- A hash that is both pinned and retired counts as pinned. -/
theorem slot_eq_retired {r : Registry β} {hash : BlockHash} :
    r.slot hash = .retired ↔ r.pinned ≠ some hash ∧ r.retired = some hash := by
  unfold slot
  grind

theorem slot_eq_transient {r : Registry β} {hash : BlockHash} :
    r.slot hash = .transient ↔ r.pinned ≠ some hash ∧ r.retired ≠ some hash := by
  unfold slot
  grind

/-- What evicting a hash that is registered under `number` does: the entry is gone. -/
structure Evicted (r : Registry β) (hash : BlockHash) (number : UInt64) (r' : Registry β) :
    Prop where
  blocks : ∀ m, r'.blocks.get? m = if m = number then none else r.blocks.get? m
  hashes : ∀ h, r'.hashes.get? h = if h = hash then none else r.hashes.get? h
  pinned : r'.pinned = r.pinned
  retired : r'.retired = r.retired
  head : r'.head = r.head

/-- An eviction either finds a registered transient hash and drops it, or does nothing. -/
theorem evict_cases (r : Registry β) (hash : BlockHash) :
    (∃ number r', r.evict hash = (true, r') ∧ r.slot hash = .transient ∧
      r.hashes.get? hash = some number ∧ Evicted r hash number r') ∨
    (r.evict hash = (false, r) ∧
      (r.slot hash ≠ .transient ∨ r.hashes.get? hash = none)) := by
  unfold evict
  cases hslot : r.slot hash with
  | pinned => right; simp
  | retired => right; simp
  | transient =>
    cases hget : r.hashes.get? hash with
    | none => right; simp
    | some number =>
      left
      refine ⟨number, _, rfl, rfl, rfl, ?_, ?_, rfl, rfl, rfl⟩
      · intro m; exact Table.get?_erase _ _ _
      · intro h; exact Table.get?_erase _ _ _

/-- Only the number of the evicted hash is left without a hash. -/
theorem Evicted.hashOf? {r r' : Registry β} {hash : BlockHash} {number : UInt64}
    (h : Evicted r hash number r') (m : UInt64) :
    r'.hashOf? m = if m = number then none else r.hashOf? m := by
  rw [Registry.hashOf?, h.blocks]
  split <;> rfl

/-- An entry that is there afterwards was there before. -/
theorem Evicted.entry {r r' : Registry β} {hash : BlockHash} {number : UInt64}
    (h : Evicted r hash number r') {m : UInt64} {e : Entry β}
    (he : r'.blocks.get? m = some e) : r.blocks.get? m = some e := by
  rw [h.blocks] at he
  grind

/-- Evicting a hash that has no slot keeps a registry sound. -/
theorem Evicted.sound {r r' : Registry β} {hash : BlockHash} {number : UInt64}
    (h : Evicted r hash number r') (hs : r.Sound) (hslot : r.slot hash = .transient)
    (hget : r.hashes.get? hash = some number) : r'.Sound where
  inverse := by
    intro h' m
    have hm := hs.inverse h' m
    have hnumber := hs.inverse hash number
    rw [h.hashes, h.hashOf?]
    grind
  pinned_live := by
    intro h' hp
    rw [h.pinned] at hp
    have hne : h' ≠ hash := fun e => (slot_eq_transient.mp hslot).1 (e ▸ hp)
    rw [contains, Table.contains, h.hashes, if_neg hne]
    exact hs.pinned_live h' hp

/-! ## The operations -/

theorem put_eq [DecidableEq β] (r : Registry β) (hash : BlockHash) (number : UInt64)
    (block : β) :
    r.put hash number block =
      (r.place hash number block).2.announceIf (r.place hash number block).1 := rfl

/-- A placed hash is registered. -/
theorem contains_place [DecidableEq β] {r : Registry β} (hs : r.Sound) (hash : BlockHash)
    (number : UInt64) (block : β) :
    (r.place hash number block).2.contains hash = true := by
  rw [contains, Table.contains, (placed_place hs hash number block).hashes, if_pos rfl]
  rfl

/-- Pinning a registered hash promotes it. -/
theorem pin?_cases (r : Registry β) (hash : BlockHash) :
    (r.contains hash = false ∧ r.pin? hash = none) ∨
    (r.contains hash = true ∧ ∃ changed r', Promoted r hash changed r' ∧
      r.pin? hash = some (r'.announceIf changed)) := by
  cases hpr : r.promote? hash with
  | none => exact .inl ⟨promote?_eq_none.mp hpr, by rw [pin?, hpr]; rfl⟩
  | some p =>
    obtain ⟨changed, r'⟩ := p
    refine .inr ⟨?_, changed, r', promoted_of_promote? hpr, by rw [pin?, hpr]; rfl⟩
    cases hc : r.contains hash with
    | true => rfl
    | false =>
      rw [promote?_eq_none.mpr hc] at hpr
      exact absurd hpr (by simp)

/-- Pinning a number that is registered promotes its hash. -/
theorem pinNumber_cases {r : Registry β} (hs : r.Sound) (number : UInt64) :
    (r.hashOf? number = none ∧ r.pinNumber number = (none, r)) ∨
    (∃ hash changed r', r.hashOf? number = some hash ∧ Promoted r hash changed r' ∧
      r.pinNumber number = (some hash, r'.announceIf changed)) := by
  unfold pinNumber
  cases hof : r.hashOf? number with
  | none => exact .inl ⟨rfl, rfl⟩
  | some hash =>
    right
    obtain ⟨hc, -⟩ | ⟨-, changed, r', hpr, hpin⟩ := r.pin?_cases hash
    · have hlive := hs.contains_iff.mpr ⟨number, hof⟩
      rw [hc] at hlive
      exact absurd hlive (by simp)
    · exact ⟨hash, changed, r', rfl, hpr, by simp only [hpin]⟩

/-- Pinning the number of the pinned hash changes nothing. -/
theorem pinNumber_of_pinned {r : Registry β} (hs : r.Sound) {number : UInt64} {hash : BlockHash}
    (hof : r.hashOf? number = some hash) (hpinned : r.pinned = some hash) :
    r.pinNumber number = (some hash, r) := by
  have hlive : r.contains hash = true := hs.pinned_live hash hpinned
  simp only [pinNumber, hof, pin?, promote?, hlive, hpinned, ↓reduceIte, Option.map_some,
    announceIf]
  rfl

/-- Placing an entry and pinning it never misses the hash. -/
theorem putPinned_eq [DecidableEq β] {r : Registry β} (hs : r.Sound) (hash : BlockHash)
    (number : UInt64) (block : β) :
    ∃ changed r', Promoted (r.place hash number block).2 hash changed r' ∧
      r.putPinned hash number block =
        (true, r'.announceIf ((r.place hash number block).1 || changed)) := by
  cases hpr : (r.place hash number block).2.promote? hash with
  | none =>
    have hmiss := promote?_eq_none.mp hpr
    rw [contains_place hs] at hmiss
    exact absurd hmiss (by simp)
  | some p =>
    obtain ⟨changed, r'⟩ := p
    exact ⟨changed, r', promoted_of_promote? hpr, by simp only [putPinned, hpr]⟩

/-- Placing an entry and pinning it, as a change. -/
theorem perform_putPinned [DecidableEq β] (r : Registry β) (hash : BlockHash) (number : UInt64)
    (block : β) :
    (r.perform (.putPinned hash number block)).2 = (r.putPinned hash number block).2 := by
  simp only [perform]
  split <;> next heq => rw [heq]

/-! ## Every change -/

/-- What a change puts, and under which number. -/
def Operation.placement? : Operation β → Option (BlockHash × UInt64 × β)
  | .put hash number block | .putPinned hash number block => some (hash, number, block)
  | .pin _ | .pinNumber _ | .revive _ | .evict _ => none

/-- The hash that a change is to pin: it is registered, or it comes with the change. -/
def target? (r : Registry β) : Operation β → Option BlockHash
  | .pin hash => if r.contains hash then some hash else none
  | .pinNumber number => r.hashOf? number
  | .putPinned hash _ _ => some hash
  | .put _ _ _ | .revive _ | .evict _ => none

/-- What a change makes of a registry. -/
inductive Performed (r : Registry β) : Operation β → Registry β → Prop
  /-- What the change is about is not registered, or not in the right slot. -/
  | kept {change : Operation β} (hput : change.placement? = none)
    (htarget : r.target? change = none) : Performed r change r
  | put {hash : BlockHash} {number : UInt64} {block : β} {moved : Bool} {placed : Registry β}
    (h : Placed r hash number block moved placed) :
    Performed r (.put hash number block) (placed.announceIf moved)
  | putPinned {hash : BlockHash} {number : UInt64} {block : β} {moved changed : Bool}
    {placed r' : Registry β} (hplaced : Placed r hash number block moved placed)
    (hlive : placed.contains hash = true) (h : Promoted placed hash changed r') :
    Performed r (.putPinned hash number block) (r'.announceIf (moved || changed))
  | pinned {change : Operation β} {hash : BlockHash} {changed : Bool} {r' : Registry β}
    (hput : change.placement? = none) (htarget : r.target? change = some hash)
    (hlive : r.contains hash = true) (h : Promoted r hash changed r') :
    Performed r change (r'.announceIf changed)
  | revived {number : UInt64} {hash : BlockHash} (hof : r.hashOf? number = some hash) :
    Performed r (.revive number)
      { r with retired := if r.retired = some hash then none else r.retired }
  | evicted {hash : BlockHash} {number : UInt64} {r' : Registry β}
    (hslot : r.slot hash = .transient) (hget : r.hashes.get? hash = some number)
    (h : Evicted r hash number r') : Performed r (.evict hash) r'

/-- Every operation does to a registry what is said of it, as long as the registry is sound. -/
theorem performed_perform [DecidableEq β] {r : Registry β} (hs : r.Sound) (change : Operation β) :
    Performed r change (r.perform change).2 := by
  cases change with
  | put hash number block => exact .put (placed_place hs hash number block)
  | putPinned hash number block =>
    obtain ⟨changed, r', hpr, heq⟩ := putPinned_eq hs hash number block
    simp only [perform, heq]
    exact .putPinned (placed_place hs hash number block) (contains_place hs hash number block) hpr
  | pin hash =>
    obtain ⟨hmiss, heq⟩ | ⟨hlive, changed, r', hpr, heq⟩ := r.pin?_cases hash
    · simp only [perform, heq]
      exact .kept rfl (by simp [target?, hmiss])
    · simp only [perform, heq]
      exact .pinned rfl (if_pos hlive) hlive hpr
  | pinNumber number =>
    obtain ⟨hof, heq⟩ | ⟨hash, changed, r', hof, hpr, heq⟩ := pinNumber_cases hs number
    · simp only [perform, heq]
      exact .kept rfl hof
    · simp only [perform, heq]
      exact .pinned rfl hof (hs.contains_iff.mpr ⟨number, hof⟩) hpr
  | revive number =>
    simp only [perform]
    cases hof : r.hashOf? number with
    | none =>
      rw [revive_of_hashOf?_eq_none hof]
      exact .kept rfl rfl
    | some hash =>
      rw [revive_of_hashOf?_eq_some hof]
      exact .revived hof
  | evict hash =>
    simp only [perform]
    obtain ⟨number, r', heq, hslot, hget, hev⟩ | ⟨heq, -⟩ := r.evict_cases hash
    · rw [heq]
      exact .evicted hslot hget hev
    · rw [heq]
      exact .kept rfl rfl

/-- An entry that is there after a change was placed by it or was there before. -/
theorem Performed.entry {r r' : Registry β} {change : Operation β} (h : Performed r change r')
    {number : UInt64} {e : Entry β} (he : r'.blocks.get? number = some e) :
    change.placement? = some (e.hash, number, e.block) ∨ r.blocks.get? number = some e := by
  cases h with
  | kept _ _ | revived _ => exact .inr he
  | put hplaced =>
    rw [blocks_announceIf] at he
    obtain ⟨rfl, rfl⟩ | hold := hplaced.entry he
    · exact .inl rfl
    · exact .inr hold
  | putPinned hplaced _ hpromoted =>
    rw [blocks_announceIf] at he
    obtain ⟨rfl, rfl⟩ | hold := hplaced.entry (hpromoted.entry he)
    · exact .inl rfl
    · exact .inr hold
  | pinned _ _ _ hpromoted =>
    rw [blocks_announceIf] at he
    exact .inr (hpromoted.entry he)
  | evicted _ _ hevicted => exact .inr (hevicted.entry he)

end ChainIndex.Registry
