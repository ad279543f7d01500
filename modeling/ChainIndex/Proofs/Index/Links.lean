import ChainIndex.Index.Block
import Mathlib.Algebra.Group.Nat.Defs
import Mathlib.Data.List.Basic

/-!
# ChainIndex.Proofs.Index.Links

Which events of a block belong to which of its extrinsics.

The extrinsics of a block gather their events, and its events name their extrinsic.  The two go
through the block independently, and here they are compared: the events that an extrinsic gathers
are those that name it (`eventsOf_eq_linkedTo`), so an event belongs to the one extrinsic that its
phase names, if the block has it, and to no other (`holds_iff`).
-/

namespace ChainIndex.IndexedBlock

variable {b : IndexedBlock} {i : Nat} {x : IndexedExtrinsic} {e : IndexedEvent}
  {record : EventRecord}

/-! ## Places -/

/-- What is kept of the extrinsic at a place of a block. -/
structure ExtrinsicAt (b : IndexedBlock) (i : Nat) (x : IndexedExtrinsic) : Prop where
  index : x.index.toNat = i
  extrinsic : b.block.extrinsics[i]? = some x.extrinsic
  blockHash : x.blockHash = b.hash
  blockNumber : x.blockNumber = b.number
  specVersion : x.specVersion = b.specVersion

/-- What is kept of the event at a place of a block. -/
structure EventAt (b : IndexedBlock) (i : Nat) (e : IndexedEvent) : Prop where
  index : e.index.toNat = i
  event : b.events[i]? = some e.event
  blockHash : e.blockHash = b.hash
  blockNumber : e.blockNumber = b.number
  specVersion : e.specVersion = b.specVersion

@[simp] theorem length_extrinsics (b : IndexedBlock) :
    b.extrinsics.length = b.block.extrinsics.length := by
  simp [extrinsics]

@[simp] theorem length_indexedEvents (b : IndexedBlock) :
    b.indexedEvents.length = b.events.length := by
  simp [indexedEvents]

/-- The extrinsic at a place, with the events that it gathers. -/
theorem getElem?_extrinsics_eq_some : b.extrinsics[i]? = some x ↔
    ∃ extrinsic, b.block.extrinsics[i]? = some extrinsic ∧
      x = ⟨UInt32.ofNat i, extrinsic, b.hash, b.number, b.specVersion, b.eventsOf (UInt32.ofNat i),
        succeeded (b.eventsOf (UInt32.ofNat i))⟩ := by
  rw [extrinsics, List.getElem?_mapIdx, Option.map_eq_some_iff]
  exact exists_congr fun _ => and_congr_right' eq_comm

/-- The event at a place, with the extrinsic that its phase names. -/
theorem getElem?_indexedEvents_eq_some : b.indexedEvents[i]? = some e ↔
    ∃ event, b.events[i]? = some event ∧
      e = ⟨UInt32.ofNat i, event, b.hash, b.number, b.specVersion, extrinsicOf event.phase⟩ := by
  rw [indexedEvents, List.getElem?_mapIdx, Option.map_eq_some_iff]
  exact exists_congr fun _ => and_congr_right' eq_comm

/-- Places of a list that is not too long are numbered exactly. -/
theorem toNat_ofNat_of_getElem? {α : Type} {l : List α} {a : α} (hl : l.length < 2 ^ 32)
    (h : l[i]? = some a) : (UInt32.ofNat i).toNat = i := by
  obtain ⟨hi, -⟩ := List.getElem?_eq_some_iff.mp h
  have hsize : UInt32.size = 2 ^ 32 := rfl
  exact UInt32.toNat_ofNat_of_lt' (by omega)

/-- Every extrinsic that is gathered from a block is kept at its place. -/
theorem extrinsicAt_of_getElem? (hx : b.block.extrinsics.length < 2 ^ 32)
    (h : b.extrinsics[i]? = some x) : ExtrinsicAt b i x := by
  obtain ⟨extrinsic, hextrinsic, rfl⟩ := getElem?_extrinsics_eq_some.mp h
  exact ⟨toNat_ofNat_of_getElem? hx hextrinsic, hextrinsic, rfl, rfl, rfl⟩

/-- Every event that is listed of a block is kept at its place. -/
theorem eventAt_of_getElem? (he : b.events.length < 2 ^ 32) (h : b.indexedEvents[i]? = some e) :
    EventAt b i e := by
  obtain ⟨event, hevent, rfl⟩ := getElem?_indexedEvents_eq_some.mp h
  exact ⟨toNat_ofNat_of_getElem? he hevent, hevent, rfl, rfl, rfl⟩

/-! ## Links -/

/-- The events that name the extrinsic at a place. -/
def linkedTo (b : IndexedBlock) (i : Nat) : List IndexedEvent :=
  b.indexedEvents.filter fun e => e.extrinsicIndex.map UInt32.toNat = some i

/-- The extrinsic at a place has gathered an event. -/
def Holds (b : IndexedBlock) (i : Nat) (record : EventRecord) : Prop :=
  ∃ x, b.extrinsics[i]? = some x ∧ record ∈ x.events

theorem extrinsicOf_eq_some {phase : Phase} {index : UInt32} :
    extrinsicOf phase = some index ↔ phase = .applyExtrinsic index := by
  cases phase <;> simp [extrinsicOf]

/-- An event names a place by its phase. -/
theorem map_extrinsicOf_eq_some {phase : Phase} (hi : (UInt32.ofNat i).toNat = i) :
    (extrinsicOf phase).map UInt32.toNat = some i ↔ phase = .applyExtrinsic (.ofNat i) := by
  rw [Option.map_eq_some_iff]
  constructor
  · rintro ⟨index, hindex, rfl⟩
    rw [UInt32.ofNat_toNat]
    exact extrinsicOf_eq_some.mp hindex
  · intro h
    exact ⟨_, extrinsicOf_eq_some.mpr h, hi⟩

/-- The events of a block are listed as they are. -/
theorem map_event_indexedEvents (b : IndexedBlock) :
    b.indexedEvents.map IndexedEvent.event = b.events := by
  refine List.ext_getElem? fun i => ?_
  simp only [indexedEvents, List.getElem?_map, List.getElem?_mapIdx, Option.map_map]
  exact Option.map_id'

/-- An event names the extrinsic that its phase names. -/
theorem extrinsicIndex_of_mem (h : e ∈ b.indexedEvents) :
    e.extrinsicIndex = extrinsicOf e.event.phase := by
  obtain ⟨i, hi⟩ := List.getElem?_of_mem h
  obtain ⟨event, -, rfl⟩ := getElem?_indexedEvents_eq_some.mp hi
  rfl

/-- The events that an extrinsic gathers are those that name it, in their order. -/
theorem eventsOf_eq_linkedTo (hi : (UInt32.ofNat i).toNat = i) :
    b.eventsOf (UInt32.ofNat i) = (b.linkedTo i).map IndexedEvent.event := by
  have hnamed : ∀ e ∈ b.indexedEvents,
      decide (e.extrinsicIndex.map UInt32.toNat = some i) =
        decide (e.event.phase = .applyExtrinsic (UInt32.ofNat i)) := by
    intro e he
    rw [extrinsicIndex_of_mem he, decide_eq_decide]
    exact map_extrinsicOf_eq_some hi
  rw [linkedTo, List.filter_congr hnamed, eventsOf, ← map_event_indexedEvents b, List.filter_map]
  rfl

/-- An extrinsic gathers an event as often as it occurs where it names the extrinsic, and else
not at all. -/
theorem count_eventsOf (b : IndexedBlock) (index : UInt32) (record : EventRecord) :
    (b.eventsOf index).count record =
      if record.phase = .applyExtrinsic index then b.events.count record else 0 := by
  unfold eventsOf
  by_cases h : record.phase = .applyExtrinsic index
  · rw [if_pos h, List.count_filter (by simpa using h)]
  · rw [if_neg h, List.count_eq_zero]
    simp [h]

/-- An event of a block belongs to the extrinsic that its phase names. -/
theorem holds_iff (hmem : record ∈ b.events) :
    b.Holds i record ↔
      i < b.block.extrinsics.length ∧ record.phase = .applyExtrinsic (UInt32.ofNat i) := by
  constructor
  · rintro ⟨x, hplace, hrecord⟩
    obtain ⟨extrinsic, hextrinsic, rfl⟩ := getElem?_extrinsics_eq_some.mp hplace
    obtain ⟨hi, -⟩ := List.getElem?_eq_some_iff.mp hextrinsic
    exact ⟨hi, of_decide_eq_true (List.mem_filter.mp hrecord).2⟩
  · rintro ⟨hi, hphase⟩
    refine ⟨_, getElem?_extrinsics_eq_some.mpr ⟨_, List.getElem?_eq_getElem hi, rfl⟩, ?_⟩
    exact List.mem_filter.mpr ⟨hmem, decide_eq_true hphase⟩

/-- An event whose phase names an extrinsic of the block belongs to this one only. -/
theorem existsUnique_holds (hx : b.block.extrinsics.length < 2 ^ 32) (hmem : record ∈ b.events)
    {index : UInt32} (hphase : record.phase = .applyExtrinsic index)
    (hindex : index.toNat < b.block.extrinsics.length) : ∃! i, b.Holds i record := by
  refine ⟨index.toNat, (holds_iff hmem).mpr ⟨hindex, ?_⟩, ?_⟩
  · rw [hphase, UInt32.ofNat_toNat]
  · intro i hi
    obtain ⟨hlt, hnamed⟩ := (holds_iff hmem).mp hi
    obtain rfl := Phase.applyExtrinsic.inj (hphase.symm.trans hnamed)
    exact (toNat_ofNat_of_getElem? hx (List.getElem?_eq_getElem hlt)).symm

/-- An extrinsic succeeded where one of the events that name it says so. -/
theorem succeeded_iff (hi : (UInt32.ofNat i).toNat = i) :
    succeeded (b.eventsOf (UInt32.ofNat i)) = true ↔
      ∃ e ∈ b.linkedTo i, e.event.event.method = "ExtrinsicSuccess" := by
  rw [eventsOf_eq_linkedTo hi]
  simp [succeeded]

/-- The extrinsics and the events of a block agree on what belongs together.  Both keep everything
at its place, with the hash, the number and the version of the block.  The events of an extrinsic
are those that name its place, in their order and each as often as it occurs, and the extrinsic
succeeded exactly if one of these says so.  An event whose phase names an extrinsic of the block
belongs to exactly one extrinsic, with all its occurrences, and every other event to none. -/
theorem extrinsics_agree_with_events (b : IndexedBlock)
    (hx : b.block.extrinsics.length < 2 ^ 32) (he : b.events.length < 2 ^ 32) :
    b.extrinsics.length = b.block.extrinsics.length ∧
    (∀ i x, b.extrinsics[i]? = some x → ExtrinsicAt b i x ∧
      x.events = (b.linkedTo i).map IndexedEvent.event ∧
      (x.success = true ↔ ∃ e ∈ b.linkedTo i, e.event.event.method = "ExtrinsicSuccess") ∧
      ∀ record, x.events.count record =
        if record.phase = .applyExtrinsic x.index then b.events.count record else 0) ∧
    b.indexedEvents.length = b.events.length ∧
    (∀ i e, b.indexedEvents[i]? = some e → EventAt b i e) ∧
    ∀ record ∈ b.events,
      (∀ index, record.phase = .applyExtrinsic index →
        index.toNat < b.block.extrinsics.length → ∃! i, b.Holds i record) ∧
      ((∀ index, record.phase = .applyExtrinsic index →
        b.block.extrinsics.length ≤ index.toNat) → ∀ i, ¬ b.Holds i record) := by
  refine ⟨length_extrinsics b, fun i x h => ?_, length_indexedEvents b,
    fun i e h => eventAt_of_getElem? he h, fun record hmem => ⟨fun index hphase hindex => ?_, ?_⟩⟩
  · have hplace := extrinsicAt_of_getElem? hx h
    obtain ⟨extrinsic, hextrinsic, rfl⟩ := getElem?_extrinsics_eq_some.mp h
    exact ⟨hplace, eventsOf_eq_linkedTo hplace.index, succeeded_iff hplace.index,
      count_eventsOf b (UInt32.ofNat i)⟩
  · exact existsUnique_holds hx hmem hphase hindex
  · intro hbeyond i hholds
    obtain ⟨hi, hphase⟩ := (holds_iff hmem).mp hholds
    have hnumber := toNat_ofNat_of_getElem? hx (List.getElem?_eq_getElem hi)
    have hle := hbeyond _ hphase
    omega

/-- A block of two extrinsics.  Its first event comes before they are applied, the second and the
fourth one are the same, and the last one names an extrinsic that is not there. -/
def twoTransfers : IndexedBlock :=
  let transfer : Extrinsic := ⟨"balances", "transfer", [], none, none⟩
  let event (phase : Phase) (method : String) : EventRecord := ⟨phase, ⟨"balances", method, []⟩, []⟩
  { block := ⟨⟨⟨Vector.replicate 32 7⟩, 7, .zero, []⟩, [transfer, transfer], none⟩
    hash := ⟨Vector.replicate 32 7⟩
    specVersion := 3
    timestamp := none
    events := [event .initialization "Deposit", event (.applyExtrinsic 1) "Transfer",
      event (.applyExtrinsic 0) "ExtrinsicFailed", event (.applyExtrinsic 1) "Transfer",
      event (.applyExtrinsic 1) "ExtrinsicSuccess", event (.applyExtrinsic 2) "Transfer"] }

/-- The second extrinsic has its repeated event twice and succeeded; the first one failed, and the
event that names a third one belongs to neither. -/
theorem extrinsics_agree_with_events_twoTransfers :
    let b := twoTransfers
    let beyond : EventRecord := ⟨.applyExtrinsic 2, ⟨"balances", "Transfer", []⟩, []⟩
    b.block.extrinsics.length < 2 ^ 32 ∧ b.events.length < 2 ^ 32 ∧
      b.extrinsics.map (fun x => (x.events.length, x.success)) = [(1, false), (3, true)] ∧
      (∃ x, b.extrinsics[1]? = some x ∧
        x.events = (b.linkedTo 1).map IndexedEvent.event) ∧
      beyond ∈ b.events ∧ ∀ i, ¬ b.Holds i beyond := by
  intro b beyond
  have hx : b.block.extrinsics.length < 2 ^ 32 := by decide
  have he : b.events.length < 2 ^ 32 := by decide
  have hmem : beyond ∈ b.events := by decide
  obtain ⟨hlength, hplaces, -, -, hbelongs⟩ := extrinsics_agree_with_events b hx he
  refine ⟨hx, he, by decide, ?_, hmem, (hbelongs beyond hmem).2 ?_⟩
  · have hsecond : 1 < b.extrinsics.length := by
      rw [hlength]
      decide
    exact ⟨_, List.getElem?_eq_getElem hsecond,
      (hplaces 1 _ (List.getElem?_eq_getElem hsecond)).2.1⟩
  · intro index hindex
    obtain rfl := Phase.applyExtrinsic.inj hindex
    decide

end ChainIndex.IndexedBlock
