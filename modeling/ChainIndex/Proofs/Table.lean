import ChainIndex.Table
import Mathlib.Data.Finset.Card

/-!
# ChainIndex.Proofs.Table

The keys of a table as a finite set.  A table has as many rows as keys, and two tables
whose keys correspond one to one have the same size.
-/

namespace ChainIndex.Table

variable {κ β γ ι : Type} [DecidableEq κ] [DecidableEq ι]

/-! ## Which keys there are -/

/-- After an insertion, a key is there if it is the inserted one or was there before. -/
theorem contains_insert (t : Table κ β) (k : κ) (b : β) (k' : κ) :
    (t.insert k b).contains k' = true ↔ k' = k ∨ t.contains k' = true := by
  rw [contains, get?_insert]
  by_cases h : k' = k
  · simp [h]
  · simp [h, contains]

/-- After an erasure, a key is there if it was there before and is not the erased one. -/
theorem contains_erase (t : Table κ β) (k k' : κ) :
    (t.erase k).contains k' = true ↔ k' ≠ k ∧ t.contains k' = true := by
  rw [contains, get?_erase]
  by_cases h : k' = k
  · simp [h]
  · simp [h, contains]

theorem contains_of_get? {t : Table κ β} {k : κ} {b : β} (h : t.get? k = some b) :
    t.contains k = true := by
  rw [contains, h]
  rfl

theorem contains_of_get?_eq_none {t : Table κ β} {k : κ} (h : t.get? k = none) :
    t.contains k = false := by
  rw [contains, h]
  rfl

/-- Putting a value under a key twice is putting it once. -/
theorem insert_insert (t : Table κ β) (k : κ) (b b' : β) :
    (t.insert k b).insert k b' = t.insert k b' := by
  have herase : ((t.insert k b).erase k).rows = (t.erase k).rows := by
    simp [insert, erase, filter]
  unfold insert at herase ⊢
  simp only [herase]

/-! ## How many keys there are -/

/-- The keys of a table. -/
def keys (t : Table κ β) : Finset κ := (t.rows.map Prod.fst).toFinset

/-- The keys of a table are those it contains. -/
theorem mem_keys {t : Table κ β} {k : κ} : k ∈ t.keys ↔ t.contains k = true := by
  rw [keys, List.mem_toFinset, List.mem_map, contains, Option.isSome_iff_exists]
  constructor
  · rintro ⟨⟨k', b⟩, hmem, rfl⟩
    exact ⟨b, (mem_rows_iff t k' b).mp hmem⟩
  · rintro ⟨b, hb⟩
    exact ⟨(k, b), (mem_rows_iff t k b).mpr hb, rfl⟩

/-- Every row has a key of its own. -/
theorem card_keys (t : Table κ β) : t.keys.card = t.size := by
  rw [keys, List.toFinset_card_of_nodup t.distinct, List.length_map, size]

/-- Two tables have the same size if a relation pairs the keys of one with those of the
other. -/
theorem size_eq_of_pairing {t : Table κ β} {u : Table ι γ} (f : κ → ι → Prop)
    (hleft : ∀ k, t.contains k = true → ∃ i, f k i ∧ u.contains i = true)
    (hright : ∀ i, u.contains i = true → ∃ k, f k i ∧ t.contains k = true)
    (huniq : ∀ k k' i, f k i → f k' i → k = k')
    (hfun : ∀ k i i', f k i → f k i' → i = i') : t.size = u.size := by
  rw [← card_keys, ← card_keys]
  refine Finset.card_bij (fun k hk => (hleft k (mem_keys.mp hk)).choose) ?_ ?_ ?_
  · intro k hk
    exact mem_keys.mpr (hleft k (mem_keys.mp hk)).choose_spec.2
  · intro k hk k' hk' heq
    have hf := (hleft k (mem_keys.mp hk)).choose_spec.1
    have hf' := (hleft k' (mem_keys.mp hk')).choose_spec.1
    rw [← heq] at hf'
    exact huniq k k' _ hf hf'
  · intro i hi
    obtain ⟨k, hf, hk⟩ := hright i (mem_keys.mp hi)
    refine ⟨k, mem_keys.mpr hk, ?_⟩
    exact hfun k _ _ (hleft k hk).choose_spec.1 hf

end ChainIndex.Table
