import ChainIndex.Proofs.Fetch.Blocks
import ChainIndex.Proofs.Fetch.Record
import ChainIndex.Proofs.Index.Division
import Mathlib.Algebra.Order.Floor.Div

/-!
# ChainIndex.Proofs.Index.Completion

How a run of an indexer with a last height comes to its end.

Whatever the api does, a turn of such a run ends it or moves the next height up
(`next_lt_of_again`).  Where every height is served, each turn takes one batch off the heights that
are left, so the number of batches and their bounds are known beforehand (`Divides`), up to the
largest height of all, where there is no next one (`run_divides`).
-/

namespace ChainIndex

open ChainIndex.Task

/-! ## Apis that serve some heights -/

/-- Under its terms, an api serves the heights from `first` to `last`: it gives each of them a block
whose time can be read, and of such a block the version of the runtime that executed it and, if it
serves events, its events.  Whatever else it is asked, it keeps to the terms. -/
structure Fetcher.ServesBetween {σ : Type} {S : Signature} (api : Api σ S) (terms : Terms σ S)
    (given : BlockNumber → SignedBlock → Prop) (first last : BlockNumber) : Prop where
  keeps : ∀ call : Call, call.isFetch = true → (api call).Fulfils terms fun _ _ => True
  block : ∀ height, first ≤ height → height ≤ last →
    Succeeds terms (api.blockByNumber height).run (given height)
  time : ∀ height block, given height block → ∃ time, block.time = .ok time
  version : ∀ height block, given height block →
    Succeeds terms (api.runtimeVersion (some (runtimeAt height block))).run fun _ => True
  events : (api.supports .eventsAt).Fulfils terms fun _ served => served = true →
    ∀ height block, given height block →
      Succeeds terms (api.eventsAt block.hash).run fun _ => True

namespace Fetcher

variable {σ : Type} {S : Signature} {f : Fetcher σ S} {terms : Terms σ S}
  {given : BlockNumber → SignedBlock → Prop} {first last height : BlockNumber}

/-- A block whose time can be read is taken with its context. -/
theorem succeeds_ofBlock {block : SignedBlock} (htime : ∃ time, block.time = .ok time)
    (events : List EventRecord) (specVersion : UInt32) :
    Succeeds terms (liftM (IndexedBlock.ofBlock block events specVersion) :
      ExceptT FetchError (Task σ S) IndexedBlock).run fun b => b.block = block := by
  obtain ⟨time, htime⟩ := htime
  have hblock : IndexedBlock.ofBlock block events specVersion =
      .ok ⟨block, block.hash, specVersion, time, events⟩ := by
    rw [IndexedBlock.ofBlock_eq, htime]
    rfl
  rw [hblock]
  exact ⟨_, rfl, rfl⟩

/-- The block of a height that is served is indexed. -/
theorem ServesBetween.succeeds_indexed (h : ServesBetween f.api terms given first last)
    {served : Bool} (hevents : served = true → ∀ height block, given height block →
      Succeeds terms (f.api.eventsAt block.hash).run fun _ => True)
    (hfirst : first ≤ height) (hlast : height ≤ last) :
    Succeeds terms (f.indexed served height) fun b => given height b.block := by
  unfold indexed
  have hblock : Succeeds terms (f.block height) (given height) :=
    (h.block height hfirst hlast).adapt (FetchError.block height)
  refine Succeeds.bind hblock fun block hgiven => ?_
  refine Succeeds.bind ((h.version height block hgiven).adapt _) fun version _ => ?_
  have hindexed (events : List EventRecord) :
      Succeeds terms (liftM (IndexedBlock.ofBlock block events version.specVersion) :
        ExceptT FetchError (Task σ S) IndexedBlock).run fun b => given height b.block := by
    refine (succeeds_ofBlock (h.time height block hgiven) events version.specVersion).mono ?_
    rintro _ _ ⟨b, rfl, rfl⟩
    exact ⟨b, rfl, hgiven⟩
  cases served with
  | true => exact Succeeds.bind ((hevents rfl height block hgiven).adapt _) fun events _ =>
      hindexed events
  | false => exact hindexed []

/-- The blocks of heights that are served are fetched, each for its height. -/
theorem ServesBetween.succeeds_indexedRange (h : ServesBetween f.api terms given first last)
    {low high : BlockNumber} (hfirst : first ≤ low) (hle : low ≤ high) (hlast : high ≤ last) :
    Succeeds terms (f.indexedRange low high) fun blocks =>
      List.Forall₂ (fun height b => given height b.block) (Heights.between low high) blocks := by
  unfold indexedRange
  rw [if_neg (UInt64.not_lt.mpr hle), ← Heights.toList_range]
  refine Fulfils.bind h.events fun _ served hevents => ?_
  have hjob (height : BlockNumber) : (f.indexed served height).Fulfils terms fun _ result =>
      first ≤ height ∧ height ≤ last → ∃ b, result = .ok b ∧ given height b.block := by
    by_cases hin : first ≤ height ∧ height ≤ last
    · exact (h.succeeds_indexed hevents hin.1 hin.2).mono fun _ _ hb _ => hb
    · -- such a height is never asked for, and nothing need be known of its job
      have hany := yields_indexed (f := f) (Q := fun _ _ => True)
        (fun height => (h.keeps (.blockByNumber height) rfl).mono fun _ _ _ _ _ => trivial)
        h.keeps served height
      exact hany.mono fun _ _ _ hbetween => absurd hbetween hin
  have hserved : ∀ height ∈ (Heights.range low high).toList, first ≤ height ∧ height ≤ last := by
    intro height hmem
    rw [Heights.toList_range] at hmem
    obtain ⟨hlow, hhigh⟩ := Heights.mem_between.mp hmem
    exact ⟨UInt64.le_trans hfirst hlow, UInt64.le_trans hhigh hlast⟩
  refine (Window.fulfils_fetch_inTurn hjob _ _ _).mono fun _ result hresult => ?_
  obtain ⟨blocks, rfl⟩ := hresult.exists_eq_ok fun height hmem e hends => by
    obtain ⟨b, hb, -⟩ := hends (hserved height hmem)
    cases hb
  obtain ⟨more, hmore, rfl⟩ := InTurn.ok_iff.mp hresult
  refine ⟨_, rfl, ((List.forall₂_and_left _ _).mpr ⟨hserved, hmore⟩).imp fun height b hb => ?_⟩
  obtain ⟨b', hb', hgiven⟩ := hb.2 hb.1
  obtain rfl := Except.ok.inj hb'
  exact hgiven

end Fetcher

namespace Indexer

/-! ## Batches of one size -/

/-- Batches of `size` heights each, one after the other from `first` to `last`; the last one may
hold less. -/
def Divides (size : Nat) : (first last : Nat) → List Batch → Prop
  | first, last, [] => last < first
  | first, last, batch :: batches =>
    first ≤ last ∧ batch.first.toNat = first ∧ batch.last.toNat = min last (first + (size - 1)) ∧
      Divides size (batch.last.toNat + 1) last batches

/-- How many heights a batch is for. -/
def heightsOf (batch : Batch) : Nat := batch.last.toNat + 1 - batch.first.toNat

/-- A batch off some heights leaves one batch less. -/
theorem ceilDiv_eq_succ {size first last : Nat} (hsize : 0 < size) (hle : first ≤ last) :
    (last + 1 - first) ⌈/⌉ size =
      (last + 1 - (min last (first + (size - 1)) + 1)) ⌈/⌉ size + 1 := by
  simp only [Nat.ceilDiv_eq_add_pred_div]
  by_cases hfull : first + (size - 1) ≤ last
  · have hcount : last + 1 - first + size - 1 =
        (last + 1 - (min last (first + (size - 1)) + 1) + size - 1) + size := by omega
    rw [hcount, Nat.add_div_right _ hsize]
  · have hone : last + 1 - first + size - 1 = (last - first) + size := by omega
    have hnone : last + 1 - (min last (first + (size - 1)) + 1) + size - 1 = size - 1 := by omega
    rw [hone, hnone, Nat.add_div_right _ hsize, Nat.div_eq_of_lt (by omega),
      Nat.div_eq_of_lt (by omega)]

/-- As many batches are needed as the heights divided by the size of a batch, rounded up. -/
theorem Divides.length_eq {size first last : Nat} {batches : List Batch} (hsize : 0 < size)
    (h : Divides size first last batches) :
    batches.length = (last + 1 - first) ⌈/⌉ size := by
  induction batches generalizing first with
  | nil =>
    have hpast : last < first := h
    rw [Nat.sub_eq_zero_of_le hpast, zero_ceilDiv, List.length_nil]
  | cons batch batches ih =>
    obtain ⟨hle, -, hlast, hrest⟩ := h
    rw [List.length_cons, ih hrest, hlast, ← ceilDiv_eq_succ hsize hle]

/-- Where the batches begin and end. -/
theorem Divides.getElem? {size first last : Nat} {batches : List Batch} (hsize : 0 < size)
    (h : Divides size first last batches) {i : Nat} {batch : Batch}
    (hi : batches[i]? = some batch) :
    first + i * size ≤ last ∧ batch.first.toNat = first + i * size ∧
      batch.last.toNat = min last (first + i * size + (size - 1)) := by
  induction batches generalizing first i with
  | nil => cases hi
  | cons other batches ih =>
    obtain ⟨hle, hfirst, hlast, hrest⟩ := h
    cases i with
    | zero =>
      obtain rfl := Option.some.inj hi
      simpa using ⟨hle, hfirst, hlast⟩
    | succ i =>
      obtain ⟨hnext, hbounds⟩ := ih hrest hi
      -- there are heights after the first batch, so it is a full one
      have hfull : other.last.toNat + 1 + i * size = first + (i + 1) * size := by
        rw [Nat.succ_mul]
        omega
      rw [hfull] at hnext hbounds
      exact ⟨hnext, hbounds⟩

/-- Every batch but the last one is full, and the last one ends the heights. -/
theorem Divides.sizes {size first last : Nat} {batches : List Batch} (hsize : 0 < size)
    (h : Divides size first last batches) {i : Nat} {batch : Batch}
    (hi : batches[i]? = some batch) :
    batch.first.toNat = first + i * size ∧ 0 < heightsOf batch ∧ heightsOf batch ≤ size ∧
      (i + 1 < batches.length → heightsOf batch = size) ∧
      (i + 1 = batches.length → batch.last.toNat = last) := by
  obtain ⟨hle, hfirst, hlast⟩ := h.getElem? hsize hi
  unfold heightsOf
  refine ⟨hfirst, by omega, by omega, fun hmore => ?_, fun hnone => ?_⟩
  · obtain ⟨hnext, -, -⟩ := h.getElem? hsize (List.getElem?_eq_getElem hmore)
    rw [Nat.succ_mul] at hnext
    omega
  · have hcount := (h.length_eq hsize).symm.le
    rw [← hnone, ceilDiv_le_iff_le_mul hsize, Nat.mul_succ, Nat.mul_comm size i] at hcount
    omega

/-! ## Turns -/

section

variable {σ κ : Type} {S : Signature} {config : IndexerConfig} {last : BlockNumber}

/-- After a batch, the loop goes on only where there is a next height. -/
theorem next_of_indexBatch_again (config : IndexerConfig) (fetcher : Fetcher σ S)
    (server : Server (S.sum Surroundings) κ) (first last : BlockNumber) (s : σ) (next : BlockNumber)
    (k : κ)
    (h : (attempt server (indexBatch config fetcher first last) (s, next) k).1 = .ok .again) :
    last ≠ 0xFFFFFFFFFFFFFFFF ∧
      (attempt server (indexBatch config fetcher first last) (s, next) k).2.1.2 =
        addHeights last 1 := by
  rw [attempt_indexBatch] at h ⊢
  generalize (fetcher.indexedRange first last).run server.left s k = fetched at h ⊢
  obtain ⟨result, s', k'⟩ := fetched
  cases result with
  | error e => cases h
  | ok blocks =>
    simp only at h ⊢
    generalize server.right (.deliver (Batch.ofBlocks config.filters first last blocks)) k' = taken
      at h ⊢
    obtain ⟨taken, k''⟩ := taken
    cases taken with
    | false => cases h
    | true =>
      refine ⟨fun hmax => ?_, rfl⟩
      simp only [if_pos hmax] at h
      cases h

/-- Where there is a last height, a turn ends the run or moves the next height up. -/
theorem next_lt_of_again (hsize : config.batchSize ≠ 0) (hend : config.endHeight = some last)
    (fetcher : Fetcher σ S) (server : Server (S.sum Surroundings) κ) (s : σ) (next : BlockNumber)
    (k : κ) (h : (attempt server (turn config fetcher) (s, next) k).1 = .ok .again) :
    next < (attempt server (turn config fetcher) (s, next) k).2.1.2 := by
  rw [attempt_turn] at h ⊢
  generalize server.right .goOn k = going at h ⊢
  obtain ⟨going, k₁⟩ := going
  cases going with
  | false => cases h
  | true =>
    simp only [attempt_target, hend] at h ⊢
    by_cases hpast : last < next
    · simp only [if_pos hpast] at h
      cases h
    · simp only [if_neg hpast] at h ⊢
      obtain ⟨hfirst, -, -⟩ := bounds_of_batch hsize (UInt64.not_lt.mp hpast)
      obtain ⟨hmax, hnext⟩ := next_of_indexBatch_again _ _ _ _ _ _ _ _ h
      rw [hnext, UInt64.lt_iff_toNat_lt, toNat_addHeights_one hmax]
      exact Nat.lt_succ_of_le (UInt64.le_iff_toNat_le.mp hfirst)

/-! ## Runs -/

/-- A batch holds what its filters leave of the blocks of all of its heights. -/
def Gathers (filters : Filters) (given : BlockNumber → SignedBlock → Prop) (batch : Batch) : Prop :=
  ∃ blocks, List.Forall₂ (fun height b => given height b.block)
      (Heights.between batch.first batch.last) blocks ∧
    batch = Batch.ofBlocks filters batch.first batch.last blocks

variable {terms : Terms σ S} {given : BlockNumber → SignedBlock → Prop} {fetcher : Fetcher σ S}
  {server : Server (S.sum Surroundings) κ} {first : BlockNumber} {s : σ}

/-- Where its heights are served, a batch is fetched and taken. -/
theorem run_indexBatch_of_serves (h : Fetcher.ServesBetween fetcher.api terms given first last)
    (hserver : Welcoming terms server) (config : IndexerConfig) {low high : BlockNumber}
    (hfirst : first ≤ low) (hle : low ≤ high) (hlast : high ≤ last) (hs : terms.state s)
    (next : BlockNumber) (k : κ) (record : List (Exchange (S.sum Surroundings))) :
    ∃ batch s' k' record', batch.first = low ∧ batch.last = high ∧
      Gathers config.filters given batch ∧ terms.state s' ∧
      attempt server.recording (indexBatch config fetcher low high) (s, next) (k, record) =
        (.ok (if high = 0xFFFFFFFFFFFFFFFF then .ended else .again), (s', addHeights high 1),
          k', record') ∧
      delivered record' = delivered record ++ [batch] := by
  obtain ⟨_, s', k', record', hrange, ⟨blocks, rfl, hblocks⟩, hs', hsame⟩ :=
    run_left hserver (h.succeeds_indexedRange hfirst hle hlast) hs k record
  obtain ⟨k'', record'', hbatch, hmore⟩ := attempt_indexBatch_of_ok hserver config hrange next
  rw [hsame] at hmore
  exact ⟨_, s', k'', record'', rfl, rfl, ⟨blocks, hblocks, rfl⟩, hs', hbatch, hmore⟩

/-- A batch ends with the last height, or is full. -/
theorem toNat_batchEnd (hsize : config.batchSize ≠ 0) (next last : BlockNumber) :
    (min last (addHeights next (config.batchSize - 1))).toNat =
      min last.toNat (next.toNat + (config.batchSize.toNat - 1)) := by
  have hbound := UInt64.toNat_lt last
  rw [toNat_min, toNat_addHeights, toNat_sub_one hsize]
  omega

/-- Where the heights are served, a turn takes the next batch of them, and is the last one where
there is no height after the batch. -/
theorem run_turn_of_serves (h : Fetcher.ServesBetween fetcher.api terms given first last)
    (hserver : Welcoming terms server) (hsize : config.batchSize ≠ 0)
    (hend : config.endHeight = some last) {next : BlockNumber} (hfirst : first ≤ next)
    (hle : next ≤ last) (hs : terms.state s) (k : κ)
    (record : List (Exchange (S.sum Surroundings))) :
    ∃ batch s' k' record', batch.first = next ∧
      batch.last.toNat = min last.toNat (next.toNat + (config.batchSize.toNat - 1)) ∧
      Gathers config.filters given batch ∧ terms.state s' ∧
      attempt server.recording (turn config fetcher) (s, next) (k, record) =
        (.ok (if batch.last = 0xFFFFFFFFFFFFFFFF then .ended else .again),
          (s', addHeights batch.last 1), k', record') ∧
      delivered record' = delivered record ++ [batch] := by
  obtain ⟨k₁, record₁, hsame, hturn⟩ := run_turn hserver fetcher hend s next k record
  obtain ⟨hlow, hhigh, -⟩ := bounds_of_batch hsize hle
  obtain ⟨batch, s', k', record', hbegins, hends, hgathers, hs', hbatch, hmore⟩ :=
    run_indexBatch_of_serves h hserver config hfirst hlow hhigh hs next k₁ record₁
  refine ⟨batch, s', k', record', hbegins, ?_, hgathers, hs', ?_, ?_⟩
  · rw [hends, toNat_batchEnd hsize]
  · rw [hturn, if_neg (UInt64.not_lt.mpr hle), hbatch, hends]
  · rw [hmore, hsame]

/-- How many turns a run needs for the heights from `next` to `last`: one for each batch, and one
more that finds no height left, unless there is none after the last one. -/
def turnsFor (config : IndexerConfig) (next last : BlockNumber) : Nat :=
  (last.toNat + 1 - next.toNat) ⌈/⌉ config.batchSize.toNat +
    if last = 0xFFFFFFFFFFFFFFFF then 0 else 1

/-- There is at least one turn to take. -/
theorem turnsFor_pos (hsize : config.batchSize ≠ 0) (next last : BlockNumber) :
    0 < turnsFor config next last := by
  unfold turnsFor
  by_cases hmax : last = 0xFFFFFFFFFFFFFFFF
  · have hle : next.toNat ≤ last.toNat := by
      rw [hmax]
      exact Nat.le_of_lt_succ (UInt64.toNat_lt next)
    rw [ceilDiv_eq_succ (Nat.pos_of_ne_zero (toNat_ne_zero hsize)) hle]
    omega
  · rw [if_neg hmax]
    omega

/-- The heights that are left are taken batch by batch, and then the run ends. -/
theorem run_divides (h : Fetcher.ServesBetween fetcher.api terms given first last)
    (hserver : Welcoming terms server) (hsize : config.batchSize ≠ 0)
    (hend : config.endHeight = some last) {turns : Nat} {next : BlockNumber} (hfirst : first ≤ next)
    (hnext : next.toNat ≤ last.toNat + 1)
    (hturns : turnsFor config next last ≤ turns) (hs : terms.state s) (k : κ)
    (record : List (Exchange (S.sum Surroundings))) :
    let x := attempt server.recording (run config fetcher turns) (s, next) (k, record)
    x.1 = .ok .ended ∧ x.2.1.2.toNat = min (last.toNat + 1) (2 ^ 64 - 1) ∧
      ∃ batches, delivered x.2.2.2 = delivered record ++ batches ∧
        Divides config.batchSize.toNat next.toNat last.toNat batches ∧
        ∀ batch ∈ batches, Gathers config.filters given batch := by
  have hlt := UInt64.toNat_lt next
  induction turns generalizing s next k record with
  | zero => exact absurd (turnsFor_pos hsize next last) (Nat.not_lt.mpr hturns)
  | succ turns ih =>
    intro x
    have hx : x = _ := attempt_run server.recording s next (k, record) config fetcher turns
    by_cases hpast : last < next
    · obtain ⟨k₁, record₁, hsame, hturn⟩ := run_turn hserver fetcher hend s next k record
      rw [hturn, if_pos hpast] at hx
      rw [UInt64.lt_iff_toNat_lt] at hpast
      rw [hx]
      refine ⟨rfl, ?_, [], by rw [List.append_nil, hsame], hpast, fun _ hmem => nomatch hmem⟩
      simp only
      omega
    · have hle := UInt64.not_lt.mp hpast
      obtain ⟨batch, s₂, k₂, record₂, rfl, hupto, hgathers, hs₂, hturn, hmore⟩ :=
        run_turn_of_serves h hserver hsize hend hfirst hle hs k record
      rw [hturn] at hx
      rw [UInt64.le_iff_toNat_le] at hle
      by_cases hmax : batch.last = 0xFFFFFFFFFFFFFFFF
      · -- there is no next height, so this batch is the last one
        have hlargest : batch.last.toNat = 2 ^ 64 - 1 := by rw [hmax]; rfl
        have hbound := UInt64.toNat_lt last
        rw [if_pos hmax] at hx
        rw [hx]
        refine ⟨rfl, ?_, [batch], hmore, ⟨hle, rfl, hupto, ?_⟩, by simpa using hgathers⟩
        · rw [toNat_addHeights, UInt64.toNat_one]
          omega
        · show last.toNat < batch.last.toNat + 1
          omega
      · rw [if_neg hmax] at hx
        have hafter := toNat_addHeights_one hmax
        have hpos := Nat.pos_of_ne_zero (toNat_ne_zero hsize)
        rw [turnsFor, ceilDiv_eq_succ hpos hle, ← hupto, ← hafter] at hturns
        have hfirst' : first ≤ addHeights batch.last 1 := by
          rw [UInt64.le_iff_toNat_le] at *
          omega
        obtain ⟨hended, hfinal, batches, hdelivered, hdivides, hall⟩ :=
          ih hfirst' (by rw [UInt64.le_iff_toNat_le] at *; omega) (by rw [turnsFor]; omega) hs₂ k₂
            record₂ (UInt64.toNat_lt _)
        rw [hx]
        refine ⟨hended, hfinal, batch :: batches, ?_, ⟨hle, rfl, hupto, ?_⟩,
          List.forall_mem_cons.mpr ⟨hgathers, hall⟩⟩
        · rw [hdelivered, hmore, List.append_assoc]
          rfl
        · rwa [← hafter]

end

/-- In a run with a last height, every turn ends the run or moves the next height up, whatever the
api answers and whatever those around do.  Over an api that serves every height up to the last one,
and as long as nobody stops it and every batch is taken, such a run ends well.  By then it has
delivered one batch for every `batchSize` heights, and one for the rest: each is full but for the
last one, begins where the one before ends, and holds what its filters leave of the blocks of its
heights.  The next height is then the one after the last, if there is one. -/
theorem run_completes (config : IndexerConfig) (hcheck : config.check = .ok ())
    {last : BlockNumber} (hend : config.endHeight = some last) {σ : Type} {S : Signature}
    (fetcher : Fetcher σ S) :
    (∀ {κ : Type} (server : Server (S.sum Surroundings) κ) (s : σ) (next : BlockNumber) (k : κ),
      let x := attempt server (turn config fetcher) (s, next) k
      x.1 = .ok .again → next < x.2.1.2) ∧
    ∀ {κ : Type} (terms : Terms σ S) (given : BlockNumber → SignedBlock → Prop)
        (server : Server (S.sum Surroundings) κ) (s : σ) (k : κ) (turns : Nat),
      Fetcher.ServesBetween fetcher.api terms given config.startHeight last →
      Welcoming terms server → terms.state s → turnsFor config config.startHeight last ≤ turns →
      let x := attempt server.recording (run config fetcher turns) (s, config.startHeight) (k, [])
      let count := (last.toNat - config.startHeight.toNat + 1) ⌈/⌉ config.batchSize.toNat
      x.1 = .ok .ended ∧ x.2.1.2.toNat = min (last.toNat + 1) (2 ^ 64 - 1) ∧
        (delivered x.2.2.2).length = count ∧
        ∀ i batch, (delivered x.2.2.2)[i]? = some batch →
          batch.first.toNat = config.startHeight.toNat + i * config.batchSize.toNat ∧
          0 < heightsOf batch ∧ heightsOf batch ≤ config.batchSize.toNat ∧
          (i + 1 < count → heightsOf batch = config.batchSize.toNat) ∧
          (i + 1 = count → batch.last = last) ∧ Gathers config.filters given batch := by
  obtain ⟨hsize, -, hbounds⟩ := of_check hcheck
  have hstart := UInt64.le_iff_toNat_le.mp (hbounds last hend)
  have hpos := Nat.pos_of_ne_zero (toNat_ne_zero hsize)
  refine ⟨fun server s next k => next_lt_of_again hsize hend fetcher server s next k, ?_⟩
  intro κ terms given server s k turns hserves hserver hs hturns x count
  obtain ⟨hended, hfinal, batches, hdelivered, hdivides, hall⟩ := run_divides hserves hserver hsize
    hend (UInt64.le_refl _) (Nat.le_succ_of_le hstart) hturns hs k []
  obtain rfl : delivered x.2.2.2 = batches := hdelivered
  have hcount : (delivered x.2.2.2).length = count := by
    rw [hdivides.length_eq hpos, Nat.succ_sub hstart]
  refine ⟨hended, hfinal, hcount, fun i batch hi => ?_⟩
  obtain ⟨hfirst, hnonempty, hle, hfull, hlast⟩ := hdivides.sizes hpos hi
  rw [hcount] at hfull hlast
  exact ⟨hfirst, hnonempty, hle, hfull, fun h => UInt64.toNat_inj.mp (hlast h),
    hall batch (List.mem_of_getElem? hi)⟩

/-- A block with nothing but its number. -/
def emptyBlock (height : BlockNumber) : SignedBlock := ⟨⟨.zero, height, .zero, []⟩, [], none⟩

/-- An api that has such a block for every height, and serves no events. -/
def everyHeight : (call : Call) → call.Answer
  | .blockByNumber height => .ok (emptyBlock height)
  | .supports _ => false
  | call => twoBlocks.answer call

/-- The terms of an api that is answered so. -/
def everyHeightTerms : Terms Unit Calls := ⟨fun _ => True, fun call a => a = everyHeight call⟩

/-- The last three heights of all, in batches of two. -/
def lastThree : IndexerConfig :=
  { IndexerConfig.standard with
    startHeight := 0xFFFFFFFFFFFFFFFD, endHeight := some 0xFFFFFFFFFFFFFFFF, batchSize := 2 }

/-- The chain of empty blocks serves every height. -/
theorem servesBetween_everyHeight (first last : BlockNumber) :
    Fetcher.ServesBetween .asking everyHeightTerms (fun height block => block = emptyBlock height)
      first last where
  keeps _ _ _ _ := trivial
  block _ _ _ _ ha := ⟨_, ha, rfl⟩
  time := by
    rintro height _ rfl
    exact ⟨none, rfl⟩
  version _ _ _ _ ha := ⟨_, ha, trivial⟩
  events := by
    rintro _ rfl hserved
    cases hserved

/-- Of the last three heights of all, two make the first batch and one the second, for which the end
of a full batch would be too large; then the run ends although the next height is not past the last
one. -/
theorem run_completes_lastThree :
    let x := attempt (steady everyHeight).recording (run lastThree ⟨.asking, 2, .inOrder⟩ 2)
      ((), lastThree.startHeight) ((), [])
    lastThree.check = .ok () ∧ turnsFor lastThree lastThree.startHeight 0xFFFFFFFFFFFFFFFF ≤ 2 ∧
      x.1 = .ok .ended ∧ x.2.1.2 = 0xFFFFFFFFFFFFFFFF ∧
      (delivered x.2.2.2).map (fun batch => (batch.first, batch.last, batch.blocks.length)) =
        [(0xFFFFFFFFFFFFFFFD, 0xFFFFFFFFFFFFFFFE, 2),
          (0xFFFFFFFFFFFFFFFF, 0xFFFFFFFFFFFFFFFF, 1)] := by
  intro x
  have hcheck : lastThree.check = .ok () := check_of_isOk (by decide +kernel)
  have hturns : turnsFor lastThree lastThree.startHeight 0xFFFFFFFFFFFFFFFF ≤ 2 := by decide
  have hwelcoming : Welcoming everyHeightTerms (steady everyHeight) :=
    ⟨fun _ _ => rfl, fun _ => rfl, fun _ _ => rfl⟩
  obtain ⟨hended, hnext, -, -⟩ := (run_completes lastThree hcheck rfl ⟨.asking, 2, .inOrder⟩).2
    _ _ (steady everyHeight) () () 2 (servesBetween_everyHeight _ _) hwelcoming trivial hturns
  exact ⟨hcheck, hturns, hended, UInt64.toNat_inj.mp hnext, by decide +kernel⟩

end Indexer

end ChainIndex
