import ChainIndex.Proofs.Fetch.Order
import ChainIndex.Proofs.Fetch.Questions
import ChainIndex.Proofs.Index.Time

/-!
# ChainIndex.Proofs.Fetch.Blocks

What is known of the blocks of a range where something is known of the block of each height.

Whatever an api says of the blocks that it gives for their heights holds of those of a range, one
height after the other (`Fetcher.yields_range`), and indexing them keeps the blocks as they are
(`Fetcher.yields_indexedRange`).
-/

namespace ChainIndex

open ChainIndex.Task

variable {σ : Type} {S : Signature} {terms : Terms σ S}

/-- What holds of the result of each height holds of those of a fetch, in the order of the
heights. -/
theorem Window.yields_fetch {ε β : Type} {job : BlockNumber → Task σ S (Except ε β)}
    {Q : BlockNumber → β → Prop} (hjob : ∀ height, Yields terms (job height) (Q height))
    (limit : Nat) (schedule : Schedule σ S) (heights : Heights) :
    Yields terms (fetch job limit schedule heights) (List.Forall₂ Q heights.toList) := by
  refine (fulfils_fetch_inTurn hjob limit schedule heights).mono fun _ result h results heq => ?_
  obtain rfl := heq
  obtain ⟨more, hmore, rfl⟩ := InTurn.ok_iff.mp h
  exact hmore.imp fun _ _ hb => hb _ rfl

/-- Blocks that have their heights as numbers. -/
theorem map_number_eq {heights : List BlockNumber} {blocks : List SignedBlock}
    (h : List.Forall₂ (fun height block => block.number = height) heights blocks) :
    blocks.map SignedBlock.number = heights := by
  induction h with
  | nil => rfl
  | cons hnumber _ ih => rw [List.map_cons, hnumber, ih]

namespace Fetcher

variable {f : Fetcher σ S} {Q : BlockNumber → SignedBlock → Prop}
  (hblock : ∀ height, Yields terms (f.api.blockByNumber height).run (Q height))
include hblock

/-- What is known of a block that an api gives is known of one that is fetched. -/
theorem yields_block (height : BlockNumber) : Yields terms (f.block height) (Q height) :=
  (hblock height).adapt (FetchError.block height)

/-- The blocks of a range are what each of them is for its height. -/
theorem yields_range (first last : BlockNumber) :
    Yields terms (f.range first last) (List.Forall₂ Q (Heights.between first last)) := by
  unfold range
  split
  · exact fun _ h => nomatch h
  · rw [← Heights.toList_range]
    exact Window.yields_fetch (yields_block hblock) _ _ _

variable (hcalls : ∀ call : Call, call.isFetch = true → (f.api call).Fulfils terms fun _ _ => True)
include hcalls

/-- The same is known of the block when its events are fetched with it. -/
theorem yields_indexed (withEvents : Bool) (height : BlockNumber) :
    Yields terms (f.indexed withEvents height) fun b => Q height b.block := by
  unfold indexed
  refine Yields.bind (yields_block hblock height) fun block hQ => ?_
  have hversion : Yields terms
      (f.api.runtimeVersion (some (runtimeAt height block))).run fun _ => True :=
    (hcalls (.runtimeVersion _) rfl).mono fun _ _ _ _ _ => trivial
  refine Yields.bind (hversion.adapt _) fun version _ => ?_
  have hindexed (events : List EventRecord) :
      Yields terms (liftM (IndexedBlock.ofBlock block events version.specVersion) :
        ExceptT FetchError (Task σ S) IndexedBlock).run fun b => Q height b.block := by
    refine yields_except fun b hb => ?_
    rw [IndexedBlock.ofBlock_eq, map_eq_ok] at hb
    obtain ⟨time, -, rfl⟩ := hb
    exact hQ
  cases withEvents with
  | true =>
    have hevents : Yields terms (f.api.eventsAt block.hash).run fun _ => True :=
      (hcalls (.eventsAt _) rfl).mono fun _ _ _ _ _ => trivial
    exact Yields.bind (hevents.adapt _) fun events _ => hindexed events
  | false => exact hindexed []

/-- The blocks of an indexed range are what each of them is for its height. -/
theorem yields_indexedRange (first last : BlockNumber) :
    Yields terms (f.indexedRange first last) fun blocks =>
      List.Forall₂ Q (Heights.between first last) (blocks.map IndexedBlock.block) := by
  unfold indexedRange
  split
  · exact fun _ h => nomatch h
  · refine Fulfils.bind (hcalls (.supports .eventsAt) rfl) fun _ withEvents _ => ?_
    rw [← Heights.toList_range]
    refine (Window.yields_fetch (yields_indexed hblock hcalls withEvents) _ _ _).mono
      fun _ _ h blocks heq => ?_
    exact List.forall₂_map_right_iff.mpr (h blocks heq)

end Fetcher

end ChainIndex
