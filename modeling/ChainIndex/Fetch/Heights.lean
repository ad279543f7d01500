import ChainIndex.Block.Basic

/-!
# ChainIndex.Fetch.Heights

The heights that are to be fetched, in the order in which they are asked for: an interval,
which is never written out, or a list.
-/

namespace ChainIndex

/-- Heights in order. -/
inductive Heights where
  /-- As many heights upwards from the first. -/
  | span (first : BlockNumber) (count : Nat)
  | listed (heights : List BlockNumber)

namespace Heights

/-- The heights from `first` to `last`, both included. -/
def range (first last : BlockNumber) : Heights :=
  .span first (last.toNat + 1 - first.toNat)

/-- How many heights there are. -/
def size : Heights → Nat
  | .span _ count => count
  | .listed heights => heights.length

/-- The first height and the others. -/
def next? : Heights → Option (BlockNumber × Heights)
  | .span _ 0 => none
  | .span first (count + 1) => some (first, .span (first + 1) count)
  | .listed [] => none
  | .listed (height :: heights) => some (height, .listed heights)

/-- One height less is left after the first. -/
theorem size_of_next? {h rest : Heights} {height : BlockNumber}
    (e : h.next? = some (height, rest)) : h.size = rest.size + 1 := by
  cases h with
  | span first count =>
    cases count with
    | zero => simp [next?] at e
    | succ count =>
      simp only [next?, Option.some.injEq, Prod.mk.injEq] at e
      obtain ⟨-, rfl⟩ := e
      rfl
  | listed heights =>
    cases heights with
    | nil => simp [next?] at e
    | cons height heights =>
      simp only [next?, Option.some.injEq, Prod.mk.injEq] at e
      obtain ⟨-, rfl⟩ := e
      rfl

/-- The first `count` heights as a list. -/
def take : (count : Nat) → Heights → List BlockNumber
  | 0, _ => []
  | count + 1, h =>
    match h.next? with
    | none => []
    | some (height, rest) => height :: rest.take count

/-- The heights as a list. -/
def toList (h : Heights) : List BlockNumber := h.take h.size

end Heights

end ChainIndex
