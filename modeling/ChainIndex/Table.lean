/-!
# ChainIndex.Table

Finite maps as lists of rows with distinct keys.

The keys are distinct by the type, so the number of rows is the number of keys; what a
table holds is read through `get?`, and each operation has one equation on it.
-/

namespace ChainIndex

/-- A finite map from keys to values. -/
structure Table (κ β : Type) where
  rows : List (κ × β)
  distinct : (rows.map Prod.fst).Nodup

namespace Table

variable {κ β : Type}

/-- The table without rows. -/
def empty : Table κ β := ⟨[], .nil⟩

def size (t : Table κ β) : Nat := t.rows.length

/-- The keys of a part of the rows are distinct. -/
theorem nodup_filter (p : κ × β → Bool) {rows : List (κ × β)} (h : (rows.map Prod.fst).Nodup) :
    ((rows.filter p).map Prod.fst).Nodup :=
  h.sublist (List.filter_sublist.map _)

/-- The rows that pass a test. -/
def filter (p : κ × β → Bool) (t : Table κ β) : Table κ β :=
  ⟨t.rows.filter p, nodup_filter p t.distinct⟩

variable [DecidableEq κ]

/-- The value under a key. -/
def get? (t : Table κ β) (k : κ) : Option β :=
  (t.rows.find? fun row => row.1 = k).map Prod.snd

/-- Whether there is a row under a key. -/
def contains (t : Table κ β) (k : κ) : Bool := (t.get? k).isSome

/-- Drops the row under a key. -/
def erase (t : Table κ β) (k : κ) : Table κ β := t.filter fun row => row.1 ≠ k

/-- Puts a value under a key, in place of the one there. -/
def insert (t : Table κ β) (k : κ) (b : β) : Table κ β :=
  ⟨(k, b) :: (t.erase k).rows, by
    refine List.nodup_cons.mpr ⟨?_, (t.erase k).distinct⟩
    simp [erase, filter]⟩

/-! ## What a table holds -/

@[simp] theorem get?_empty (k : κ) : (empty : Table κ β).get? k = none := rfl

/-- A row is found under its key. -/
theorem mem_rows_iff (t : Table κ β) (k : κ) (b : β) : (k, b) ∈ t.rows ↔ t.get? k = some b := by
  obtain ⟨rows, distinct⟩ := t
  induction rows with
  | nil => simp [get?]
  | cons row rest ih =>
    obtain ⟨k', b'⟩ := row
    have hd := List.nodup_cons.mp distinct
    have hr := ih hd.2
    have hk : k' ∉ rest.map Prod.fst := hd.1
    simp only [get?, List.mem_cons, List.find?_cons] at hr ⊢
    by_cases h : k' = k
    · subst h
      have hn : (k', b) ∉ rest := fun hm => hk (List.mem_map.mpr ⟨_, hm, rfl⟩)
      simp only [hn, or_false, decide_true, Option.map_some, Option.some.injEq]
      constructor
      · intro e; exact (Prod.mk.inj e).2.symm
      · intro e; rw [e]
    · have hne : ¬ (k, b) = (k', b') := fun e => h (Prod.mk.inj e).1.symm
      simp only [hne, false_or, h, decide_false]
      exact hr

/-- Filtering keeps what passes the test. -/
theorem get?_filter (p : κ × β → Bool) (t : Table κ β) (k : κ) :
    (t.filter p).get? k = (t.get? k).filter fun b => p (k, b) := by
  apply Option.ext
  intro b
  simp only [← mem_rows_iff, filter, List.mem_filter, Option.filter_eq_some_iff]

/-- Erasing drops the key and nothing else. -/
theorem get?_erase (t : Table κ β) (k k' : κ) :
    (t.erase k).get? k' = if k' = k then none else t.get? k' := by
  by_cases h : k' = k
  · simp [erase, get?_filter, h]
  · cases e : t.get? k' <;> simp [erase, get?_filter, h, e]

/-- Inserting sets the key and nothing else. -/
theorem get?_insert (t : Table κ β) (k : κ) (b : β) (k' : κ) :
    (t.insert k b).get? k' = if k' = k then some b else t.get? k' := by
  by_cases h : k' = k
  · subst h; simp [insert, get?]
  · have hne : k ≠ k' := fun e => h e.symm
    have hi : (t.insert k b).get? k' = (t.erase k).get? k' := by
      simp [insert, get?, hne]
    rw [hi, get?_erase, if_neg h, if_neg h]

end Table

end ChainIndex
