import ChainIndex.Block.Hash
import ChainIndex.Connection
import ChainIndex.Table

/-!
# ChainIndex.Registry

The registry that remembers which block a hash stands for.

A hash leads to a number and a number to the hash and the block registered under it.  Two
hashes are kept apart: the pinned one, which is the finalized head, and the retired one,
which was pinned before it; every other entry is transient.  Pinning a new hash keeps the
entries of these two and drops all others.

A channel tells watchers the pinned hash.  It is written by exactly those operations that
change it.
-/

namespace ChainIndex

/-- How long an entry of a registry is kept. -/
inductive Slot where
  /-- Until another entry is pinned. -/
  | pinned
  /-- Until the next pin. -/
  | retired
  /-- Until it is read or the next pin. -/
  | transient
  deriving DecidableEq

/-- What a registry holds under a number. -/
structure Registry.Entry (β : Type) where
  hash : BlockHash
  block : β
  deriving DecidableEq

/-- A registry of blocks. -/
structure Registry (β : Type) where
  hashes : Table BlockHash UInt64
  blocks : Table UInt64 (Registry.Entry β)
  pinned : Option BlockHash
  retired : Option BlockHash
  /-- The channel on which the pinned hash is watched. -/
  head : Watch (Option BlockHash)

namespace Registry

variable {β : Type}

/-- The registry that holds nothing. -/
def empty : Registry β := ⟨.empty, .empty, none, none, ⟨none, 0⟩⟩

/-! ## Reading -/

/-- How long the entry of a hash is kept. -/
def slot (r : Registry β) (hash : BlockHash) : Slot :=
  if r.pinned = some hash then .pinned
  else if r.retired = some hash then .retired
  else .transient

/-- Whether a hash is registered. -/
def contains (r : Registry β) (hash : BlockHash) : Bool := r.hashes.contains hash

def size (r : Registry β) : Nat := r.blocks.size

/-- Whether there is no entry. -/
def isEmpty (r : Registry β) : Bool := r.size = 0

/-- The number and the block registered under a hash, and how long they are kept. -/
def entry? (r : Registry β) (hash : BlockHash) : Option (UInt64 × β × Slot) :=
  match r.hashes.get? hash with
  | none => none
  | some number =>
    match r.blocks.get? number with
    | none => none
    | some entry => some (number, entry.block, r.slot hash)

/-- The number and the block registered under a hash. -/
def get? (r : Registry β) (hash : BlockHash) : Option (UInt64 × β) :=
  (r.entry? hash).map fun (number, block, _) => (number, block)

/-- The hash registered under a number. -/
def hashOf? (r : Registry β) (number : UInt64) : Option BlockHash :=
  (r.blocks.get? number).map Entry.hash

/-! ## Writing -/

/-- Writes the pinned hash to the channel. -/
def announce (r : Registry β) : Registry β := { r with head := r.head.write r.pinned }

/-- Writes the pinned hash to the channel if it changed. -/
def announceIf (changed : Bool) (r : Registry β) : Registry β :=
  if changed then r.announce else r

/-- Lets `hash` take the slot of the hash it replaces, and tells whether the pinned hash
changed. -/
def inherit (r : Registry β) (replaced hash : BlockHash) : Bool × Registry β :=
  if r.pinned = some replaced then (true, { r with pinned := some hash })
  else if r.retired = some replaced then (false, { r with retired := some hash })
  else (false, r)

/-- The entries by number without the one that `hash` leaves when it moves to `number`. -/
def vacate (r : Registry β) (hash : BlockHash) (number : UInt64) : Table UInt64 (Entry β) :=
  match r.hashes.get? hash with
  | some old => if old = number then r.blocks else r.blocks.erase old
  | none => r.blocks

/-- Puts an entry under a number, and tells whether the pinned hash changed.  A hash that
was registered under another number leaves it, and a hash that was registered under this
number is forgotten; the new hash takes over its slot. -/
def place [DecidableEq β] (r : Registry β) (hash : BlockHash) (number : UInt64) (block : β) :
    Bool × Registry β :=
  if r.blocks.get? number = some ⟨hash, block⟩ then (false, r)
  else
    let left := r.vacate hash number
    let hashes := r.hashes.insert hash number
    let blocks := left.insert number ⟨hash, block⟩
    match left.get? number with
    | none => (false, { r with hashes := hashes, blocks := blocks })
    | some replaced =>
      if replaced.hash = hash then (false, { r with hashes := hashes, blocks := blocks })
      else
        { r with hashes := hashes.erase replaced.hash, blocks := blocks }.inherit
          replaced.hash hash

/-- Makes a registered hash the pinned one, retires the one pinned before and drops every
other entry, and tells whether the pinned hash changed; `none` if the hash is not
registered. -/
def promote? (r : Registry β) (hash : BlockHash) : Option (Bool × Registry β) :=
  if r.contains hash then
    if r.pinned = some hash then some (false, r)
    else
      let kept (h : BlockHash) : Bool := h = hash ∨ r.pinned = some h
      some (true, { r with
        hashes := r.hashes.filter fun row => kept row.1
        blocks := r.blocks.filter fun row => kept row.2.hash
        pinned := some hash
        retired := r.pinned })
  else none

/-- Registers a block. -/
def put [DecidableEq β] (r : Registry β) (hash : BlockHash) (number : UInt64) (block : β) :
    Registry β :=
  let (moved, r) := r.place hash number block
  r.announceIf moved

/-- Pins a hash; `none` if it is not registered. -/
def pin? (r : Registry β) (hash : BlockHash) : Option (Registry β) :=
  (r.promote? hash).map fun (changed, r) => r.announceIf changed

/-- Registers a block and pins its hash in one step, and tells whether the hash could be
pinned; if not, nothing is written to the channel. -/
def putPinned [DecidableEq β] (r : Registry β) (hash : BlockHash) (number : UInt64) (block : β) :
    Bool × Registry β :=
  let (moved, r) := r.place hash number block
  match r.promote? hash with
  | some (changed, r) => (true, r.announceIf (moved || changed))
  | none => (false, r)

/-- Pins the hash that is registered under a number, and gives it. -/
def pinNumber (r : Registry β) (number : UInt64) : Option BlockHash × Registry β :=
  match r.hashOf? number with
  | none => (none, r)
  | some hash =>
    match r.pin? hash with
    | some pinned => (some hash, pinned)
    | none => (none, r)

/-- The hash registered under a number; a retired one becomes transient again. -/
def revive (r : Registry β) (number : UInt64) : Option BlockHash × Registry β :=
  match r.hashOf? number with
  | none => (none, r)
  | some hash => (some hash, if r.retired = some hash then { r with retired := none } else r)

/-- Drops a transient entry, and tells whether there was one. -/
def evict (r : Registry β) (hash : BlockHash) : Bool × Registry β :=
  match r.slot hash with
  | .transient =>
    match r.hashes.get? hash with
    | some number =>
      (true, { r with hashes := r.hashes.erase hash, blocks := r.blocks.erase number })
    | none => (false, r)
  | _ => (false, r)

/-! ## Operations -/

/-- A change that is asked of a registry. -/
inductive Operation (β : Type) where
  | put (hash : BlockHash) (number : UInt64) (block : β)
  | putPinned (hash : BlockHash) (number : UInt64) (block : β)
  | pin (hash : BlockHash)
  | pinNumber (number : UInt64)
  | revive (number : UInt64)
  | evict (hash : BlockHash)

/-- What a change answers. -/
inductive Outcome where
  | done
  /-- The hash to be pinned is not registered. -/
  | missing (hash : BlockHash)
  /-- The hash found under a number. -/
  | found (hash : Option BlockHash)
  /-- Whether an entry was dropped. -/
  | evicted (dropped : Bool)
  deriving DecidableEq

/-- Makes a change; one that misses its hash leaves the registry as it was, apart from the
block it may have placed. -/
def perform [DecidableEq β] (r : Registry β) : Operation β → Outcome × Registry β
  | .put hash number block => (.done, r.put hash number block)
  | .putPinned hash number block =>
    match r.putPinned hash number block with
    | (true, r) => (.done, r)
    | (false, r) => (.missing hash, r)
  | .pin hash =>
    match r.pin? hash with
    | some pinned => (.done, pinned)
    | none => (.missing hash, r)
  | .pinNumber number =>
    let (hash, r) := r.pinNumber number
    (.found hash, r)
  | .revive number =>
    let (hash, r) := r.revive number
    (.found hash, r)
  | .evict hash =>
    let (dropped, r) := r.evict hash
    (.evicted dropped, r)

/-- Makes changes one after another. -/
def performAll [DecidableEq β] (r : Registry β) (changes : List (Operation β)) : Registry β :=
  changes.foldl (fun r change => (r.perform change).2) r

end Registry

end ChainIndex
