import ChainIndex.Proofs.Index.Division
import ChainIndex.Proofs.Index.Links
import Mathlib.Data.Prod.Lex

/-!
# ChainIndex.Proofs.Index.Selection

What a batch selects of the blocks that were fetched for it.

An extrinsic or event of some blocks has a place: that of its block and its own in the block.  A
selection goes through these places in ascending order and gives what is found there
(`Selects`), so that nothing is lost, doubled or moved.  What is found at a place is said of the
block that was fetched, of its extrinsics and its events (`HasExtrinsic`, `HasEvent`).  A batch is
such a selection (`Batch.ofBlocks_selects`).
-/

namespace ChainIndex

/-! ## Places of a block -/

namespace IndexedBlock

variable {b : IndexedBlock} {i : Nat} {x : IndexedExtrinsic} {e : IndexedEvent}

/-- What an extrinsic is that a block has at a place, with those events of the block that name it.
Places are numbered in 32 bits. -/
structure HasExtrinsic (b : IndexedBlock) (i : Nat) (x : IndexedExtrinsic) : Prop where
  index : x.index.toNat = i % 2 ^ 32
  extrinsic : b.block.extrinsics[i]? = some x.extrinsic
  blockHash : x.blockHash = b.hash
  blockNumber : x.blockNumber = b.block.number
  specVersion : x.specVersion = b.specVersion
  events : Keeps (fun record => record.phase = .applyExtrinsic x.index) b.events x.events
  success : x.success = true ↔ ∃ record ∈ x.events, record.event.method = "ExtrinsicSuccess"

/-- What an event is that a block has at a place, with the extrinsic that its phase names. -/
structure HasEvent (b : IndexedBlock) (i : Nat) (e : IndexedEvent) : Prop where
  index : e.index.toNat = i % 2 ^ 32
  event : b.events[i]? = some e.event
  blockHash : e.blockHash = b.hash
  blockNumber : e.blockNumber = b.block.number
  specVersion : e.specVersion = b.specVersion
  extrinsicIndex (index : UInt32) :
    e.extrinsicIndex = some index ↔ e.event.phase = .applyExtrinsic index

/-- The number of a place is the place in 32 bits. -/
theorem eq_ofNat_iff {index : UInt32} : index = .ofNat i ↔ index.toNat = i % 2 ^ 32 := by
  rw [← UInt32.toNat_inj]
  rfl

/-- The events that name an extrinsic are those that it gathers, in their order. -/
theorem eventsOf_eq_iff {index : UInt32} {events : List EventRecord} :
    b.eventsOf index = events ↔
      Keeps (fun record => record.phase = .applyExtrinsic index) b.events events := by
  have hnames (record : EventRecord) : decide (record.phase = .applyExtrinsic index) = true ↔
      record.phase = .applyExtrinsic index := decide_eq_true_iff
  constructor
  · rintro rfl
    exact keeps_filter hnames
  · intro h
    exact h.eq_filter hnames

/-- An extrinsic succeeded if one of its events says so. -/
theorem succeeded_eq_true_iff {events : List EventRecord} :
    succeeded events = true ↔ ∃ record ∈ events, record.event.method = "ExtrinsicSuccess" := by
  simp [succeeded]

/-- The extrinsics that are gathered from a block are those that it has. -/
theorem getElem?_extrinsics_iff : b.extrinsics[i]? = some x ↔ b.HasExtrinsic i x := by
  rw [getElem?_extrinsics_eq_some]
  constructor
  · rintro ⟨extrinsic, hextrinsic, rfl⟩
    exact ⟨eq_ofNat_iff.mp rfl, hextrinsic, rfl, rfl, rfl, eventsOf_eq_iff.mp rfl,
      succeeded_eq_true_iff⟩
  · -- the block and the place leave nothing of the extrinsic open
    intro h
    have hindex : x.index = .ofNat i := eq_ofNat_iff.mpr h.index
    have hevents : b.eventsOf x.index = x.events := eventsOf_eq_iff.mpr h.events
    have hsuccess : x.success = succeeded x.events := by
      rw [Bool.eq_iff_iff, h.success, succeeded_eq_true_iff]
    refine ⟨x.extrinsic, h.extrinsic, ?_⟩
    rw [← hindex, hevents, ← hsuccess, number, ← h.blockHash, ← h.blockNumber, ← h.specVersion]

/-- The events that are listed of a block are those that it has. -/
theorem getElem?_indexedEvents_iff : b.indexedEvents[i]? = some e ↔ b.HasEvent i e := by
  rw [getElem?_indexedEvents_eq_some]
  constructor
  · rintro ⟨event, hevent, rfl⟩
    exact ⟨eq_ofNat_iff.mp rfl, hevent, rfl, rfl, rfl, fun _ => extrinsicOf_eq_some⟩
  · intro h
    have hindex : e.index = .ofNat i := eq_ofNat_iff.mpr h.index
    have hextrinsic : e.extrinsicIndex = extrinsicOf e.event.phase := by
      refine Option.ext fun index => ?_
      rw [h.extrinsicIndex, extrinsicOf_eq_some]
    refine ⟨e.event, h.event, ?_⟩
    rw [← hindex, ← hextrinsic, number, ← h.blockHash, ← h.blockNumber, ← h.specVersion]

end IndexedBlock

/-! ## Selections -/

section

variable {β γ : Type}

/-- An item that passes is at a place of a block that is kept, where `Has b j x` says that the block
`b` has the item `x` at the place `j`. -/
def Picks (blocks : List β) (Kept : β → Prop) (Has : β → Nat → γ → Prop) (Passes : γ → Prop)
    (place : Nat × Nat) (x : γ) : Prop :=
  ∃ b, blocks[place.1]? = some b ∧ Kept b ∧ Has b place.2 x ∧ Passes x

/-- What is selected of the items of some blocks: those that pass, of the blocks that are kept, each
once, in the order of the blocks and of the items in a block. -/
def Selects (blocks : List β) (Kept : β → Prop) (Has : β → Nat → γ → Prop) (Passes : γ → Prop)
    (selected : List γ) : Prop :=
  ∃ places : List (Nat × Nat),
    places.Pairwise (Prod.Lex (· < ·) (· < ·)) ∧
    (∀ place, place ∈ places ↔ ∃ x, Picks blocks Kept Has Passes place x) ∧
    List.Forall₂ (Picks blocks Kept Has Passes) places selected

/-- The items of some blocks, each with its place. -/
def placed (blocks : List β) (items : β → List γ) : List ((Nat × Nat) × β × γ) :=
  blocks.zipIdx.flatMap fun block =>
    (items block.1).zipIdx.map fun item => ((block.2, item.2), block.1, item.1)

variable {blocks : List β} {items : β → List γ}

/-- An item is placed where it is found. -/
theorem mem_placed {place : Nat × Nat} {b : β} {x : γ} :
    (place, b, x) ∈ placed blocks items ↔
      blocks[place.1]? = some b ∧ (items b)[place.2]? = some x := by
  obtain ⟨i, j⟩ := place
  simp only [placed, List.mem_flatMap, List.mem_map, Prod.exists, Prod.mk.injEq,
    List.mk_mem_zipIdx_iff_getElem?]
  constructor
  · rintro ⟨b, i, hb, x, j, hx, ⟨rfl, rfl⟩, rfl, rfl⟩
    exact ⟨hb, hx⟩
  · rintro ⟨hb, hx⟩
    exact ⟨b, i, hb, x, j, hx, ⟨rfl, rfl⟩, rfl, rfl⟩

/-- Numbered items ascend. -/
theorem pairwise_zipIdx {α : Type} (l : List α) : l.zipIdx.Pairwise fun x y => x.2 < y.2 := by
  rw [← List.pairwise_map (f := Prod.snd), List.zipIdx_map_snd]
  exact List.pairwise_lt_range'

/-- The places of the items ascend, block by block. -/
theorem pairwise_placed (blocks : List β) (items : β → List γ) :
    (placed blocks items).Pairwise fun x y => Prod.Lex (· < ·) (· < ·) x.1 y.1 := by
  refine List.pairwise_flatMap.mpr ⟨fun block _ => List.pairwise_map.mpr ?_, ?_⟩
  · exact (pairwise_zipIdx _).imp fun h => .right _ h
  · refine (pairwise_zipIdx blocks).imp fun h x hx y hy => ?_
    obtain ⟨_, -, rfl⟩ := List.mem_map.mp hx
    obtain ⟨_, -, rfl⟩ := List.mem_map.mp hy
    exact .left _ _ h

/-- Without their places, the items come with their blocks. -/
theorem map_snd_placed (blocks : List β) (items : β → List γ) :
    (placed blocks items).map Prod.snd = blocks.flatMap fun b => (items b).map (b, ·) := by
  have hblock (block : β × Nat) :
      ((items block.1).zipIdx.map fun item => ((block.2, item.2), block.1, item.1)).map Prod.snd =
        (items block.1).map (block.1, ·) := by
    conv_rhs => rw [← List.zipIdx_map_fst 0 (items block.1)]
    rw [List.map_map, List.map_map]
    rfl
  rw [placed, List.map_flatMap]
  conv_rhs => rw [← List.zipIdx_map_fst 0 blocks]
  rw [List.flatMap_map]
  simp only [hblock]

/-- Selecting among items with their blocks is selecting the blocks first. -/
theorem map_filter_flatMap (keeps : β → Bool) (passes : γ → Bool) (blocks : List β)
    (items : β → List γ) :
    ((blocks.flatMap fun b => (items b).map (b, ·)).filter fun x => keeps x.1 && passes x.2).map
      Prod.snd = ((blocks.filter keeps).flatMap items).filter passes := by
  induction blocks with
  | nil => rfl
  | cons b blocks ih =>
    rw [List.flatMap_cons, List.filter_append, List.map_append, ih, List.filter_map, List.map_map]
    cases hb : keeps b with
    | false =>
      rw [List.filter_cons_of_neg (by simp [hb])]
      simp [Function.comp_def, hb]
    | true =>
      rw [List.filter_cons_of_pos hb, List.flatMap_cons, List.filter_append]
      simp [Function.comp_def, hb]

/-- Keeping some blocks, and of their items those that pass, is a selection. -/
theorem selects_filter {Kept : β → Prop} {Has : β → Nat → γ → Prop} {Passes : γ → Prop}
    {keeps : β → Bool} {passes : γ → Bool} (hkeeps : ∀ b, keeps b = true ↔ Kept b)
    (hhas : ∀ b j x, (items b)[j]? = some x ↔ Has b j x)
    (hpasses : ∀ x, passes x = true ↔ Passes x) :
    Selects blocks Kept Has Passes (((blocks.filter keeps).flatMap items).filter passes) := by
  -- the items are chosen with their places, which then say where each of them comes from
  let chosen := (placed blocks items).filter fun x => keeps x.2.1 && passes x.2.2
  have hchosen : chosen.map (fun x => x.2.2) =
      ((blocks.filter keeps).flatMap items).filter passes := by
    rw [← map_filter_flatMap, ← map_snd_placed, List.filter_map, List.map_map]
    rfl
  have hmem (place : Nat × Nat) (b : β) (x : γ) : (place, b, x) ∈ chosen ↔
      blocks[place.1]? = some b ∧ Kept b ∧ Has b place.2 x ∧ Passes x := by
    simp only [chosen, List.mem_filter, mem_placed, Bool.and_eq_true, hkeeps, hhas, hpasses]
    constructor
    · rintro ⟨⟨hb, hx⟩, hkept, hpass⟩
      exact ⟨hb, hkept, hx, hpass⟩
    · rintro ⟨hb, hkept, hx, hpass⟩
      exact ⟨⟨hb, hx⟩, hkept, hpass⟩
  refine ⟨chosen.map Prod.fst, ?_, ?_, ?_⟩
  · exact List.pairwise_map.mpr ((pairwise_placed blocks items).sublist List.filter_sublist)
  · intro place
    simp only [List.mem_map, Prod.exists, exists_and_right, exists_eq_right, hmem]
    exact exists_comm
  · rw [← hchosen, List.forall₂_map_left_iff, List.forall₂_map_right_iff, List.forall₂_same]
    rintro ⟨place, b, x⟩ hchosen
    exact ⟨b, (hmem place b x).mp hchosen⟩

/-- What is selected comes from a block that is kept. -/
theorem Selects.exists_mem {Kept : β → Prop} {Has : β → Nat → γ → Prop} {Passes : γ → Prop}
    {selected : List γ} (h : Selects blocks Kept Has Passes selected) {x : γ} (hx : x ∈ selected) :
    ∃ b ∈ blocks, Kept b ∧ ∃ j, Has b j x := by
  obtain ⟨places, -, -, hselected⟩ := h
  obtain ⟨k, hk, rfl⟩ := List.getElem_of_mem hx
  have hlength := hselected.length_eq
  obtain ⟨b, hb, hkept, hhas, -⟩ := hselected.get (by omega) hk
  exact ⟨b, List.mem_of_getElem? hb, hkept, _, hhas⟩

end

/-! ## Batches -/

/-- A block that a filter keeps: its version lies within the range that is asked for, if any is. -/
def KeptBy (filter : Option Condition) (b : IndexedBlock) : Prop :=
  ∀ c, filter = some c → ∀ range, c.specVersion = some range → range.Admits b.specVersion

/-- A filter keeps exactly the blocks whose version it asks for. -/
theorem keepsBlock_iff {filter : Option Condition} {b : IndexedBlock} :
    keepsBlock filter b = true ↔ KeptBy filter b := by
  simp only [keepsBlock, Option.all_eq_true, Condition.holdsOfVersion_iff, KeptBy]

/-- What passes a filter: everything where there are no conditions, and else that which meets one of
them. -/
def PassesAny {γ : Type} (Met : Condition → γ → Prop) (filters : List Condition) (x : γ) : Prop :=
  filters = [] ∨ ∃ c ∈ filters, Met c x

/-- Applying a list of conditions to the items of the blocks that are kept is a selection. -/
theorem selects_sift {γ : Type} {items : IndexedBlock → List γ}
    {Has : IndexedBlock → Nat → γ → Prop} {holds : Condition → γ → Bool}
    {Met : Condition → γ → Prop}
    (hhas : ∀ b j x, (items b)[j]? = some x ↔ Has b j x)
    (hmet : ∀ c x, holds c x = true ↔ Met c x) (filter : Option Condition)
    (filters : List Condition) (blocks : List IndexedBlock) :
    Selects blocks (KeptBy filter) Has (PassesAny Met filters)
      (sift holds filters ((blocks.filter (keepsBlock filter)).flatMap items)) := by
  have hpasses (x : γ) :
      (filters.isEmpty || filters.any (holds · x)) = true ↔ PassesAny Met filters x := by
    simp [PassesAny, hmet]
  rw [sift_eq_filter]
  exact selects_filter (fun _ => keepsBlock_iff) hhas hpasses

/-- A batch of some blocks and others holds what a batch of the first ones and a batch of the others
hold, one after the other.  The blocks of a batch are those that the filter keeps.  Every extrinsic
and event of a batch is one that such a block has at some place, and an extrinsic or event that such
a block has is there exactly if there are no conditions on it or it meets one of them; they come in
the order of the blocks and of their places in a block, each of them once. -/
theorem Batch.ofBlocks_selects (filters : Filters) :
    (∀ (first last first₁ last₁ first₂ last₂ : BlockNumber) (now later : List IndexedBlock),
      let whole := Batch.ofBlocks filters first last (now ++ later)
      let one := Batch.ofBlocks filters first₁ last₁ now
      let two := Batch.ofBlocks filters first₂ last₂ later
      whole.blocks = one.blocks ++ two.blocks ∧
        whole.extrinsics = one.extrinsics ++ two.extrinsics ∧
        whole.events = one.events ++ two.events) ∧
    ∀ (first last : BlockNumber) (fetched : List IndexedBlock),
      let batch := Batch.ofBlocks filters first last fetched
      Keeps (KeptBy filters.block) fetched batch.blocks ∧
        (∀ x ∈ batch.extrinsics, ∃ b ∈ batch.blocks, ∃ i, b.HasExtrinsic i x) ∧
        (∀ e ∈ batch.events, ∃ b ∈ batch.blocks, ∃ i, b.HasEvent i e) ∧
        Selects fetched (KeptBy filters.block) IndexedBlock.HasExtrinsic
          (PassesAny Condition.MetByExtrinsic filters.calls) batch.extrinsics ∧
        Selects fetched (KeptBy filters.block) IndexedBlock.HasEvent
          (PassesAny Condition.MetByEvent filters.events) batch.events := by
  refine ⟨fun _ _ _ _ _ _ now later => ?_, fun first last fetched => ?_⟩
  · have happend := Indexer.Content.ofBlocks_append filters now later
    exact ⟨congrArg Indexer.Content.blocks happend, congrArg Indexer.Content.extrinsics happend,
      congrArg Indexer.Content.events happend⟩
  · intro batch
    have hkept (b : IndexedBlock) (hb : b ∈ fetched) (hkept : KeptBy filters.block b) :
        b ∈ batch.blocks := List.mem_filter.mpr ⟨hb, keepsBlock_iff.mpr hkept⟩
    have hextrinsics : Selects fetched (KeptBy filters.block) IndexedBlock.HasExtrinsic
        (PassesAny Condition.MetByExtrinsic filters.calls) batch.extrinsics :=
      selects_sift (fun _ _ _ => IndexedBlock.getElem?_extrinsics_iff)
        (fun _ _ => Condition.holdsOfExtrinsic_iff) filters.block filters.calls fetched
    have hevents : Selects fetched (KeptBy filters.block) IndexedBlock.HasEvent
        (PassesAny Condition.MetByEvent filters.events) batch.events :=
      selects_sift (fun _ _ _ => IndexedBlock.getElem?_indexedEvents_iff)
        (fun _ _ => Condition.holdsOfEvent_iff) filters.block filters.events fetched
    refine ⟨keeps_filter fun _ => keepsBlock_iff, fun x hx => ?_, fun e he => ?_, hextrinsics,
      hevents⟩
    · obtain ⟨b, hb, hkeeps, hhas⟩ := hextrinsics.exists_mem hx
      exact ⟨b, hkept b hb hkeeps, hhas⟩
    · obtain ⟨b, hb, hkeeps, hhas⟩ := hevents.exists_mem he
      exact ⟨b, hkept b hb hkeeps, hhas⟩

end ChainIndex
