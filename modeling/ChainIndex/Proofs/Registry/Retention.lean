import ChainIndex.Proofs.Registry.Inverse
import Mathlib.Data.Finset.Option

/-!
# ChainIndex.Proofs.Registry.Retention

What a registry keeps as a hash is newly pinned, and how many entries it can hold.

A hash is pinned either by promoting it, which drops every entry but its own and that of the
hash pinned before, or by placing it where the pinned hash stands, which drops no other entry.
Only the former bounds the size again (`NewlyPins`): between two such changes the registry grows by
one entry with every put, and with no other change (`size_perform_le`).
-/

namespace ChainIndex.Registry

variable {β : Type}

@[simp] theorem get?_announceIf (changed : Bool) (r : Registry β) (hash : BlockHash) :
    (r.announceIf changed).get? hash = r.get? hash := by
  cases changed <;> rfl

@[simp] theorem size_announceIf (changed : Bool) (r : Registry β) :
    (r.announceIf changed).size = r.size := by
  cases changed <;> rfl

/-! ## Entries -/

section

variable {r r' : Registry β} {hash : BlockHash} {number : UInt64} {block : β} {changed : Bool}

/-- A promoted hash that was not pinned keeps its entry, and so does the one pinned before. -/
theorem Promoted.get? (h : Promoted r hash changed r') (hs : r.Sound)
    (hlive : r.contains hash = true) (hnew : r.pinned ≠ some hash) (kept : BlockHash) :
    r'.get? kept = if kept = hash ∨ r.pinned = some kept then r.get? kept else none := by
  have hs' := h.sound hs hlive
  apply Option.ext
  rintro ⟨m, b⟩
  have hfind : r'.get? kept = some (m, b) ↔
      r.get? kept = some (m, b) ∧ (kept = hash ∨ r.pinned = some kept) := by
    rw [hs'.get?_eq_some, hs.get?_eq_some, h.blocks, if_neg hnew, Option.filter_eq_some_iff,
      decide_eq_true_eq]
  rw [hfind]
  split
  · next hk => exact and_iff_left hk
  · next hk => exact iff_of_false (fun hm => hk hm.2) (by simp)

/-- A placed hash is found with what it was placed with. -/
theorem Placed.get?_self (h : Placed r hash number block changed r') (hs : r.Sound) :
    r'.get? hash = some (number, block) := by
  rw [(h.sound hs).get?_eq_some, h.blocks, if_pos rfl]

/-- Placing a hash under another number leaves the entry of every other hash there. -/
theorem Placed.get?_of_ne (h : Placed r hash number block changed r') (hs : r.Sound)
    {kept : BlockHash} (hne : kept ≠ hash) (hother : r.hashOf? number ≠ some kept) :
    r'.get? kept = r.get? kept := by
  apply Option.ext
  rintro ⟨m, b⟩
  rw [(h.sound hs).get?_eq_some, hs.get?_eq_some, h.blocks]
  by_cases hm : m = number
  · have hgone : r.blocks.get? m ≠ some ⟨kept, b⟩ := by
      intro hget
      rw [hm] at hget
      exact hother (hashOf?_eq_some.mpr ⟨b, hget⟩)
    rw [if_pos hm]
    simp [hne.symm, hgone]
  · rw [if_neg hm]
    split
    · next hold =>
      -- the number that is left held the moved hash, which is not the one asked for
      obtain ⟨found, hfound⟩ := hashOf?_eq_some.mp ((hs.inverse hash m).mp hold)
      simp [hfound, hne.symm]
    · rfl

/-! ## Sizes -/

/-- A registry whose hashes are all registered in another one is no larger. -/
theorem size_le_of_contains (hs : r.Sound) (hs' : r'.Sound)
    (h : ∀ kept, r'.contains kept = true → r.contains kept = true) : r'.size ≤ r.size := by
  rw [hs.size_eq_card, hs'.size_eq_card]
  refine Finset.card_le_card fun kept hkept => ?_
  exact Table.mem_keys.mpr (h kept (Table.mem_keys.mp hkept))

/-- A registry whose hashes are all among two holds at most two. -/
theorem size_le_two (hs : r.Sound) (hash : BlockHash) (other : Option BlockHash)
    (h : ∀ kept, r.contains kept = true → kept = hash ∨ other = some kept) : r.size ≤ 2 := by
  rw [hs.size_eq_card]
  have hsub : r.hashes.keys ⊆ insert hash other.toFinset := by
    intro kept hkept
    obtain rfl | hother := h kept (Table.mem_keys.mp hkept)
    · exact Finset.mem_insert_self _ _
    · exact Finset.mem_insert_of_mem (Option.mem_toFinset.mpr hother)
  have hother : other.toFinset.card ≤ 1 := by
    cases other <;> simp
  have hcard := Finset.card_le_card hsub
  have hinsert := Finset.card_insert_le hash other.toFinset
  omega

/-- A promotion adds no entry. -/
theorem Promoted.size_le (h : Promoted r hash changed r') (hs : r.Sound)
    (hlive : r.contains hash = true) : r'.size ≤ r.size := by
  refine size_le_of_contains hs (h.sound hs hlive) fun kept hkept => ?_
  rw [contains, Table.contains, h.hashes] at hkept
  split at hkept
  · exact hkept
  · cases hkept

/-- Evicting a hash adds no entry. -/
theorem Evicted.size_le (h : Evicted r hash number r') (hs : r.Sound)
    (hslot : r.slot hash = .transient) (hget : r.hashes.get? hash = some number) :
    r'.size ≤ r.size := by
  refine size_le_of_contains hs (h.sound hs hslot hget) fun kept hkept => ?_
  rw [contains, Table.contains, h.hashes] at hkept
  split at hkept
  · cases hkept
  · exact hkept

/-- Placing an entry adds at most one. -/
theorem Placed.size_le_succ (h : Placed r hash number block changed r') (hs : r.Sound) :
    r'.size ≤ r.size + 1 := by
  rw [hs.size_eq_card, (h.sound hs).size_eq_card]
  have hsub : r'.hashes.keys ⊆ insert hash r.hashes.keys := by
    intro kept hkept
    rw [Table.mem_keys, Table.contains, h.hashes] at hkept
    rw [Finset.mem_insert, Table.mem_keys, Table.contains]
    grind
  exact (Finset.card_le_card hsub).trans (Finset.card_insert_le _ _)

/-- Placing a hash that is registered adds none. -/
theorem Placed.size_le_of_contains (h : Placed r hash number block changed r') (hs : r.Sound)
    (hlive : r.contains hash = true) : r'.size ≤ r.size := by
  refine Registry.size_le_of_contains hs (h.sound hs) fun kept hkept => ?_
  by_cases hself : kept = hash
  · rw [hself]
    exact hlive
  · rw [contains, Table.contains, h.hashes, if_neg hself] at hkept
    split at hkept
    · cases hkept
    · exact hkept

/-- Placing an entry under a number that is registered adds none. -/
theorem Placed.size_le_of_hashOf? (h : Placed r hash number block changed r')
    {replaced : BlockHash} (hof : r.hashOf? number = some replaced) : r'.size ≤ r.size := by
  obtain ⟨b, hget⟩ := hashOf?_eq_some.mp hof
  rw [size, size, ← Table.card_keys, ← Table.card_keys]
  refine Finset.card_le_card fun m hm => ?_
  rw [Table.mem_keys, Table.contains, h.blocks] at hm
  rw [Table.mem_keys, Table.contains]
  by_cases hself : m = number
  · rw [hself, hget]
    rfl
  · rw [if_neg hself] at hm
    split at hm
    · cases hm
    · exact hm

end

/-! ## Changes that pin -/

/-- Whether a change is to pin a hash that is not pinned yet, in another place than that of the
pinned hash. -/
structure NewlyPins (r : Registry β) (change : Operation β) (hash : BlockHash) : Prop where
  target : r.target? change = some hash
  not_pinned : r.pinned ≠ some hash
  elsewhere : ∀ placed number block, change.placement? = some (placed, number, block) →
    ∀ pinned, r.pinned = some pinned → r.hashOf? number ≠ some pinned

/-- What a hash is registered with once a change has pinned it: what came with the change, or
what it was registered with before. -/
def entryWith (r : Registry β) (change : Operation β) (hash : BlockHash) : Option (UInt64 × β) :=
  match change.placement? with
  | some (_, number, block) => some (number, block)
  | none => r.get? hash

/-- What is left of a registry after a hash was newly pinned. -/
structure Retained (r : Registry β) (change : Operation β) (hash : BlockHash) (r' : Registry β) :
    Prop where
  live : ∀ kept, r'.contains kept = true ↔ kept = hash ∨ r.pinned = some kept
  entry_pinned : ∀ kept, r.pinned = some kept → r'.get? kept = r.get? kept
  entry_new : r'.get? hash = r.entryWith change hash
  pinned : r'.pinned = some hash
  retired : r'.retired = r.pinned

/-- How a change pins a hash newly: maybe after the hash was placed, it promotes it. -/
structure PromotesFrom (r : Registry β) (change : Operation β) (hash : BlockHash)
    (placed r' : Registry β) : Prop where
  sound : placed.Sound
  live : placed.contains hash = true
  pinned : placed.pinned = r.pinned
  entry_pinned : ∀ kept, r.pinned = some kept → placed.get? kept = r.get? kept
  entry_new : placed.get? hash = r.entryWith change hash
  promoted : ∃ changed announced promoted, Promoted placed hash changed promoted ∧
    r' = promoted.announceIf announced

/-- An operation that newly pins a hash promotes it, perhaps after its entry was placed. -/
theorem NewlyPins.promotesFrom {r r' : Registry β} (hs : r.Sound) {change : Operation β}
    {hash : BlockHash} (h : r.NewlyPins change hash) (hperformed : Performed r change r') :
    ∃ placed, r.PromotesFrom change hash placed r' := by
  have htarget := h.target
  cases hperformed with
  | kept _ hnone =>
    rw [hnone] at htarget
    cases htarget
  | put _ | revived _ | evicted _ _ _ => cases htarget
  | @putPinned _ number block moved changed placed _ hplaced hlive hpr =>
    obtain rfl := Option.some.inj htarget
    have helsewhere := h.elsewhere _ number block rfl
    have hpinned : placed.pinned = r.pinned := by
      rw [hplaced.pinned, if_neg]
      rintro ⟨hsome, hof⟩
      obtain ⟨pinned, hp⟩ := Option.isSome_iff_exists.mp hsome
      exact helsewhere pinned hp (hof ▸ hp)
    refine ⟨placed, hplaced.sound hs, hlive, hpinned, fun kept hp => ?_, hplaced.get?_self hs,
      changed, moved || changed, _, hpr, rfl⟩
    exact hplaced.get?_of_ne hs (fun hk => h.not_pinned (hk ▸ hp)) (helsewhere kept hp)
  | @pinned _ _ changed _ hput hsome hlive hpr =>
    obtain rfl := Option.some.inj (hsome.symm.trans htarget)
    refine ⟨r, hs, hlive, rfl, fun _ _ => rfl, ?_, changed, changed, _, hpr, rfl⟩
    rw [entryWith, hput]

variable [DecidableEq β]

/-- Pinning the pinned hash changes nothing. -/
theorem perform_pin_of_pinned {r : Registry β} (hs : r.Sound) {hash : BlockHash}
    (hpinned : r.pinned = some hash) : r.perform (.pin hash) = (.done, r) := by
  have hlive := hs.pinned_live hash hpinned
  simp [perform, pin?, promote?, hlive, hpinned, announceIf]

/-- Pinning a hash that is not registered changes nothing and is refused. -/
theorem perform_pin_of_not_contains {r : Registry β} {hash : BlockHash}
    (hmiss : r.contains hash = false) : r.perform (.pin hash) = (.missing hash, r) := by
  simp [perform, pin?, promote?, hmiss]

/-- A hash that is newly pinned leaves two entries at most: its own and that of the hash pinned
before, which is retired. -/
theorem NewlyPins.retained {r : Registry β} (hs : r.Sound) {change : Operation β}
    {hash : BlockHash} (h : r.NewlyPins change hash) :
    Retained r change hash (r.perform change).2 := by
  obtain ⟨placed, hplaced⟩ := h.promotesFrom hs (performed_perform hs change)
  obtain ⟨changed, announced, r', hpr, heq⟩ := hplaced.promoted
  have hnew : placed.pinned ≠ some hash := hplaced.pinned ▸ h.not_pinned
  have hget := hpr.get? hplaced.sound hplaced.live hnew
  have hs' := hpr.sound hplaced.sound hplaced.live
  rw [hplaced.pinned] at hget
  rw [heq]
  refine ⟨fun kept => ?_, fun kept hp => ?_, ?_, ?_, ?_⟩
  · rw [contains_announceIf, ← hs'.isSome_get, hget]
    by_cases hk : kept = hash ∨ r.pinned = some kept
    · rw [if_pos hk, hplaced.sound.isSome_get]
      refine iff_of_true ?_ hk
      obtain rfl | hp := hk
      · exact hplaced.live
      · exact hplaced.sound.pinned_live kept (hplaced.pinned ▸ hp)
    · rw [if_neg hk]
      exact iff_of_false (by simp) hk
  · rw [get?_announceIf, hget, if_pos (.inr hp)]
    exact hplaced.entry_pinned kept hp
  · rw [get?_announceIf, hget, if_pos (.inl rfl)]
    exact hplaced.entry_new
  · rw [pinned_announceIf]
    exact hpr.pinned
  · rw [retired_announceIf, hpr.retired, if_neg hnew]
    exact hplaced.pinned

/-- After a hash was newly pinned there are at most two entries: this one, and that of the hash
which was pinned before. -/
theorem NewlyPins.size_le_two {r : Registry β} (hs : r.Sound) {change : Operation β}
    {hash : BlockHash} (h : r.NewlyPins change hash) : (r.perform change).2.size ≤ 2 :=
  Registry.size_le_two (sound_perform hs change) hash r.pinned fun kept hkept =>
    ((h.retained hs).live kept).mp hkept

/-! ## Sizes along a run -/

/-- Whether a change puts a block without pinning it. -/
def Operation.isPut : Operation β → Bool
  | .put _ _ _ => true
  | _ => false

/-- A change that pins no hash newly leaves the registry no larger, unless it is a put, which adds
at most one entry. -/
theorem size_perform_le {r : Registry β} (hs : r.Sound) {change : Operation β}
    (h : ∀ hash, ¬ r.NewlyPins change hash) :
    (r.perform change).2.size ≤ r.size + if change.isPut then 1 else 0 := by
  have hperformed := performed_perform hs change
  generalize (r.perform change).2 = r' at hperformed
  cases hperformed with
  | kept _ _ | revived _ => exact Nat.le_add_right _ _
  | put hplaced =>
    rw [size_announceIf]
    exact hplaced.size_le_succ hs
  | @putPinned hash number block _ _ _ _ hplaced hlive hpr =>
    rw [size_announceIf]
    refine (hpr.size_le (hplaced.sound hs) hlive).trans ?_
    by_cases hself : r.pinned = some hash
    · exact hplaced.size_le_of_contains hs (hs.pinned_live hash hself)
    · -- the hash takes over the slot of the pinned one, in whose place it was put
      have hat : ∃ pinned, r.pinned = some pinned ∧ r.hashOf? number = some pinned := by
        by_contra hnone
        refine h hash ⟨rfl, hself, fun placed number' block' hput pinned hp hof => hnone ?_⟩
        cases hput
        exact ⟨pinned, hp, hof⟩
      obtain ⟨pinned, -, hof⟩ := hat
      exact hplaced.size_le_of_hashOf? hof
  | pinned _ _ hlive hpr =>
    rw [size_announceIf]
    exact (hpr.size_le hs hlive).trans (Nat.le_add_right _ _)
  | evicted hslot hget hevicted =>
    exact (hevicted.size_le hs hslot hget).trans (Nat.le_add_right _ _)

/-- Along a run the size is bounded by two, or the size before, and the number of puts. -/
theorem size_performAll_le {r : Registry β} (hs : r.Sound) (changes : List (Operation β)) :
    (r.performAll changes).size ≤ max 2 r.size + changes.countP Operation.isPut := by
  induction changes using List.reverseRecOn with
  | nil => exact Nat.le_max_right _ _
  | append_singleton changes change ih =>
    have hchanges := sound_performAll hs changes
    rw [performAll_concat, List.countP_append, List.countP_singleton]
    by_cases h : ∃ hash, (r.performAll changes).NewlyPins change hash
    · obtain ⟨hash, hpins⟩ := h
      have hsize := hpins.size_le_two hchanges
      omega
    · have hsize := size_perform_le hchanges (not_exists.mp h)
      omega

/-- After every sequence of changes: a hash that is newly pinned keeps its entry, and so does the
hash pinned before, which is then retired, and no other entry is kept.  Pinning the pinned hash
changes nothing, and pinning a hash that is not registered changes nothing and is refused.  So the
registry holds two entries and one for each put since a hash was newly pinned, at most; and
putting and pinning at once does not let it grow beyond two. -/
theorem retained_of_performAll (changes : List (Operation β)) :
    let r := (empty : Registry β).performAll changes
    (∀ change hash, r.NewlyPins change hash → Retained r change hash (r.perform change).2) ∧
    (∀ hash, r.pinned = some hash → r.perform (.pin hash) = (.done, r) ∧
      ∀ number, r.hashOf? number = some hash →
        r.perform (.pinNumber number) = (.found (some hash), r)) ∧
    (∀ hash, r.contains hash = false → r.perform (.pin hash) = (.missing hash, r)) ∧
    (r.size ≤ 2 + changes.countP Operation.isPut ∧
      ∀ before change after hash, changes = before ++ change :: after →
        ((empty : Registry β).performAll before).NewlyPins change hash →
        r.size ≤ 2 + after.countP Operation.isPut) ∧
    (∀ hash number block,
      (r.perform (.putPinned hash number block)).2.size ≤ max r.size 2) := by
  intro r
  have hs : r.Sound := sound_performAll sound_empty changes
  refine ⟨fun _ _ h => h.retained hs, ?_, fun _ => perform_pin_of_not_contains, ⟨?_, ?_⟩, ?_⟩
  · refine fun hash hpinned => ⟨perform_pin_of_pinned hs hpinned, fun number hof => ?_⟩
    simp only [perform, pinNumber_of_pinned hs hof hpinned]
  · exact size_performAll_le sound_empty changes
  · rintro before change after hash rfl hpins
    have hbefore : ((empty : Registry β).performAll before).Sound :=
      sound_performAll sound_empty before
    have hsize := size_performAll_le (sound_perform hbefore change) after
    have htwo := hpins.size_le_two hbefore
    have hrun : r = (((empty : Registry β).performAll before).perform change).2.performAll after :=
      by simp only [r, performAll, List.foldl_append, List.foldl_cons]
    rw [hrun]
    omega
  · intro hash number block
    by_cases h : ∃ new, r.NewlyPins (.putPinned hash number block) new
    · obtain ⟨new, hpins⟩ := h
      exact (hpins.size_le_two hs).trans (Nat.le_max_right _ _)
    · exact (size_perform_le hs (not_exists.mp h)).trans (Nat.le_max_left _ _)

end ChainIndex.Registry
