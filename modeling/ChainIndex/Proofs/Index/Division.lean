import ChainIndex.Proofs.Fetch.Context
import ChainIndex.Proofs.Index.Coverage
import ChainIndex.Proofs.Index.Filtering

/-!
# ChainIndex.Proofs.Index.Division

What an indexer delivers does not depend on how its heights are divided.

A batch of blocks holds what a batch of the first ones and a batch of the others hold together, so
the batches of a run hold what one batch of all their blocks would.  How many heights make a batch
and how many are fetched at a time therefore decides neither what a run ends with nor what it
delivers in the end; where a height fails, it decides how much of what comes before was delivered
until then (`serve_eq_of_division`).
-/

namespace ChainIndex.Indexer

open ChainIndex.Task

/-! ## What batches hold -/

/-- Blocks, extrinsics and events of some batches, without the batches. -/
structure Content where
  blocks : List IndexedBlock
  extrinsics : List IndexedExtrinsic
  events : List IndexedEvent
  deriving DecidableEq

namespace Content

def empty : Content := ⟨[], [], []⟩

def append (a b : Content) : Content :=
  ⟨a.blocks ++ b.blocks, a.extrinsics ++ b.extrinsics, a.events ++ b.events⟩

/-- What one batch holds. -/
def ofBatch (batch : Batch) : Content := ⟨batch.blocks, batch.extrinsics, batch.events⟩

/-- What some batches hold, one after the other. -/
def ofBatches (batches : List Batch) : Content :=
  ⟨batches.flatMap Batch.blocks, batches.flatMap Batch.extrinsics, batches.flatMap Batch.events⟩

/-- What a batch of some blocks would hold. -/
def ofBlocks (filters : Filters) (blocks : List IndexedBlock) : Content :=
  ofBatch (Batch.ofBlocks filters 0 0 blocks)

/-- Content that comes first in some other content. -/
structure IsPrefix (a b : Content) : Prop where
  blocks : a.blocks <+: b.blocks
  extrinsics : a.extrinsics <+: b.extrinsics
  events : a.events <+: b.events

theorem ofBatches_cons (batch : Batch) (batches : List Batch) :
    ofBatches (batch :: batches) = (ofBatch batch).append (ofBatches batches) := rfl

/-- The interval of a batch is no part of what it holds. -/
theorem ofBatch_ofBlocks (filters : Filters) (first last : BlockNumber)
    (blocks : List IndexedBlock) :
    ofBatch (Batch.ofBlocks filters first last blocks) = ofBlocks filters blocks := rfl

/-- A batch of no blocks holds nothing. -/
theorem ofBlocks_nil (filters : Filters) : ofBlocks filters [] = empty := by
  simp [ofBlocks, ofBatch, Batch.ofBlocks, empty, filterExtrinsics, filterEvents]

/-- A batch may be divided anywhere. -/
theorem ofBlocks_append (filters : Filters) (now later : List IndexedBlock) :
    ofBlocks filters (now ++ later) = (ofBlocks filters now).append (ofBlocks filters later) := by
  simp only [ofBlocks, ofBatch, Batch.ofBlocks, append, List.filter_append, List.flatMap_append,
    filterExtrinsics_eq_sift, filterEvents_eq_sift, sift_append]

/-- No content comes first in any content. -/
theorem empty_isPrefix (a : Content) : IsPrefix empty a :=
  ⟨List.nil_prefix, List.nil_prefix, List.nil_prefix⟩

/-- What comes first in some content does so behind any other. -/
theorem IsPrefix.append {a b : Content} (h : IsPrefix a b) (before : Content) :
    IsPrefix (before.append a) (before.append b) where
  blocks := List.prefix_append_right_inj _ |>.mpr h.blocks
  extrinsics := List.prefix_append_right_inj _ |>.mpr h.extrinsics
  events := List.prefix_append_right_inj _ |>.mpr h.events

end Content

/-! ## Results up to a failure -/

section

variable {ι ε β : Type} {outcome : ι → Except ε β} {items now later : List ι} {results : List β}
  {e : ε}

/-- The results of some items up to the first failure, and this failure. -/
def upToFailure (outcome : ι → Except ε β) : List ι → List β × Option ε
  | [] => ([], none)
  | item :: items =>
    match outcome item with
    | .error e => ([], some e)
    | .ok b => (b :: (upToFailure outcome items).1, (upToFailure outcome items).2)

/-- Without a failure, all results come. -/
theorem upToFailure_of_mapM_eq_ok (h : items.mapM outcome = .ok results) :
    upToFailure outcome items = (results, none) := by
  rw [mapM_eq_ok_iff] at h
  induction h with
  | nil => rfl
  | cons hitem _ ih => rw [upToFailure, hitem, ih]

/-- Behind items that do not fail, everything comes as it would by itself. -/
theorem upToFailure_append_of_mapM_eq_ok (h : now.mapM outcome = .ok results) :
    upToFailure outcome (now ++ later) =
      (results ++ (upToFailure outcome later).1, (upToFailure outcome later).2) := by
  rw [mapM_eq_ok_iff] at h
  induction h with
  | nil => rfl
  | cons hitem _ ih => rw [List.cons_append, upToFailure, hitem, ih, List.cons_append]

/-- The first failure, the items before it and their results. -/
theorem upToFailure_of_mapM_eq_error (h : now.mapM outcome = .error e) :
    ∃ before item after results, now = before ++ item :: after ∧ outcome item = .error e ∧
      before.mapM outcome = .ok results ∧
      ∀ later, upToFailure outcome (now ++ later) = (results, some e) := by
  obtain ⟨before, item, after, rfl, hbefore, hitem⟩ := mapM_eq_error_iff.mp h
  cases hmap : before.mapM outcome with
  | error e' =>
    obtain ⟨_, other, _, rfl, -, hother⟩ := mapM_eq_error_iff.mp hmap
    obtain ⟨result, hok⟩ := hbefore other (by simp)
    rw [hother] at hok
    cases hok
  | ok results =>
    refine ⟨before, item, after, results, rfl, hitem, hmap, fun later => ?_⟩
    rw [List.append_assoc, upToFailure_append_of_mapM_eq_ok hmap, List.cons_append, upToFailure,
      hitem, List.append_nil]

end

/-! ## Parts of a run -/

/-- A run over some heights, batch after batch: it ends when none is left or one fails. -/
inductive Divided (filters : Filters) (outcome : BlockNumber → Except FetchError IndexedBlock) :
    List BlockNumber → Except IndexerError Turn → List Batch → Prop
  | ended : Divided filters outcome [] (.ok .ended) []
  | batch {now later : List BlockNumber} {result : Except IndexerError Turn}
    {batches : List Batch} {blocks : List IndexedBlock} (first last : BlockNumber)
    (h : now.mapM outcome = .ok blocks) (rest : Divided filters outcome later result batches) :
    Divided filters outcome (now ++ later) result
      (Batch.ofBlocks filters first last blocks :: batches)
  | failed {now : List BlockNumber} {e : FetchError} (h : now.mapM outcome = .error e)
    (later : List BlockNumber) : Divided filters outcome (now ++ later) (.error (.fetch e)) []

section

variable {filters : Filters} {outcome : BlockNumber → Except FetchError IndexedBlock}
  {next upto last : BlockNumber} {blocks : List IndexedBlock}
  (hblocks : (Heights.between next upto).mapM outcome = .ok blocks)
include hblocks

/-- There is no height after the largest one, so a batch up to it ends the run. -/
theorem Divided.batch_largest (hle : upto ≤ last) (hmax : upto = 0xFFFFFFFFFFFFFFFF) :
    Divided filters outcome (Heights.between next last) (.ok .ended)
      [Batch.ofBlocks filters next upto blocks] := by
  have hlast := UInt64.toNat_lt last
  have hval : upto.toNat = 2 ^ 64 - 1 := by rw [hmax]; rfl
  rw [UInt64.le_iff_toNat_le] at hle
  obtain rfl : upto = last := UInt64.toNat_inj.mp (by omega)
  rw [← List.append_nil (Heights.between next upto)]
  exact .batch next upto hblocks .ended

/-- After a batch, the run goes on with the next height. -/
theorem Divided.batch_upto {result : Except IndexerError Turn} {batches : List Batch}
    (hfirst : next ≤ upto) (hle : upto ≤ last) (hmax : upto ≠ 0xFFFFFFFFFFFFFFFF)
    (hrest : Divided filters outcome (Heights.between (addHeights upto 1) last) result batches) :
    Divided filters outcome (Heights.between next last) result
      (Batch.ofBlocks filters next upto blocks :: batches) := by
  rw [← Heights.between_append hfirst hle (toNat_addHeights_one hmax)]
  exact .batch next upto hblocks hrest

end

/-- What a run ends with, by the first failure. -/
def ending : Option FetchError → Except IndexerError Turn
  | none => .ok .ended
  | some e => .error (.fetch e)

/-- However a run is divided, its heights decide what it ends with, and it delivers nothing but
what their blocks up to the first failure hold, all of it if there is no failure. -/
theorem Divided.delivers {filters : Filters}
    {outcome : BlockNumber → Except FetchError IndexedBlock} {heights : List BlockNumber}
    {result : Except IndexerError Turn} {batches : List Batch}
    (h : Divided filters outcome heights result batches) :
    result = ending (upToFailure outcome heights).2 ∧
      (Content.ofBatches batches).IsPrefix
        (Content.ofBlocks filters (upToFailure outcome heights).1) ∧
      ((upToFailure outcome heights).2 = none →
        Content.ofBatches batches = Content.ofBlocks filters (upToFailure outcome heights).1) := by
  induction h with
  | ended => exact ⟨rfl, Content.empty_isPrefix _, fun _ => (Content.ofBlocks_nil filters).symm⟩
  | batch first last hnow _ ih =>
    obtain ⟨hresult, hprefix, hall⟩ := ih
    rw [upToFailure_append_of_mapM_eq_ok hnow, Content.ofBlocks_append, Content.ofBatches_cons,
      Content.ofBatch_ofBlocks]
    refine ⟨hresult, hprefix.append _, fun hnone => ?_⟩
    rw [hall hnone]
  | failed hnow later =>
    obtain ⟨_, _, _, results, -, -, -, heq⟩ := upToFailure_of_mapM_eq_error hnow
    rw [heq]
    exact ⟨rfl, Content.empty_isPrefix _, nofun⟩

/-! ## Runs -/

section

variable {σ κ α : Type} {S : Signature}

/-- The batch of an exchange in which one was taken. -/
def taken? : Exchange (S.sum Surroundings) → Option Batch
  | ⟨.inr (.deliver batch), taken⟩ =>
    match (taken : Bool) with
    | true => some batch
    | false => none
  | ⟨.inl _, _⟩ | ⟨.inr .goOn, _⟩ | ⟨.inr (.pause _), _⟩ => none

/-- The batches that were taken, by the record. -/
def delivered (record : List (Exchange (S.sum Surroundings))) : List Batch :=
  record.filterMap taken?

/-- A batch that is taken is delivered after those before. -/
theorem delivered_concat (record : List (Exchange (S.sum Surroundings)))
    (exchange : Exchange (S.sum Surroundings)) :
    delivered (record ++ [exchange]) = delivered record ++ (taken? exchange).toList := by
  rw [delivered, List.filterMap_append]
  cases h : taken? exchange <;> simp [h, delivered]

/-- Nothing is delivered by what the api does. -/
theorem delivered_left (server : Server (S.sum Surroundings) κ) (task : Task σ S α) (s : σ) (k : κ)
    (record : List (Exchange (S.sum Surroundings))) :
    delivered (task.run server.recording.left s (k, record)).2.2.2 = delivered record := by
  induction task generalizing s k record with
  | done a => rfl
  | act change next ih => exact ih s (change s) k record
  | ask query next ih =>
    refine (ih (server (.inl query) k).1 s (server (.inl query) k).2
      (record ++ [⟨.inl query, (server (.inl query) k).1⟩])).trans ?_
    rw [delivered_concat]
    exact List.append_nil _

/-- Surroundings that let an indexer go on and take every batch, around an api that is answered
within its terms. -/
structure Welcoming (terms : Terms σ S) (server : Server (S.sum Surroundings) κ) : Prop where
  answer : ∀ query k, terms.answer query (server (.inl query) k).1
  goesOn : ∀ k, (server (.inr .goOn) k).1 = true
  takes : ∀ batch k, (server (.inr (.deliver batch)) k).1 = true

variable {terms : Terms σ S} {server : Server (S.sum Surroundings) κ}
  {answer : (call : Call) → call.Answer} {fetcher : Fetcher σ S} {s : σ}

/-- What the api does ends as foreseen, and nothing is delivered by it. -/
theorem run_left (hserver : Welcoming terms server) {task : Task σ S α} {Q : α → Prop}
    (h : task.Fulfils terms fun _ a => Q a) (hs : terms.state s) (k : κ)
    (record : List (Exchange (S.sum Surroundings))) :
    ∃ a s' k' record', task.run server.recording.left s (k, record) = (a, s', k', record') ∧ Q a ∧
      terms.state s' ∧ delivered record' = delivered record := by
  have hanswer (query : S.Query) (k : κ × List (Exchange (S.sum Surroundings))) :
      terms.answer query (server.recording.left query k).1 := hserver.answer query k.1
  have hvalue := h.run_value server.recording.left hanswer hs (k, record)
  have hstate := h.run_state server.recording.left hanswer hs (k, record)
  have hsame := delivered_left server task s k record
  exact ⟨_, _, _, _, rfl, hvalue, hstate, hsame⟩

/-- A batch that is fetched is taken. -/
theorem attempt_indexBatch_of_ok (hserver : Welcoming terms server) (config : IndexerConfig)
    {first last : BlockNumber} {blocks : List IndexedBlock} {s' : σ} {k k' : κ}
    {record record' : List (Exchange (S.sum Surroundings))}
    (hrange : (fetcher.indexedRange first last).run server.recording.left s (k, record) =
      (.ok blocks, s', k', record')) (next : BlockNumber) :
    ∃ k'' record'',
      attempt server.recording (indexBatch config fetcher first last) (s, next) (k, record) =
        (.ok (if last = 0xFFFFFFFFFFFFFFFF then .ended else .again), (s', addHeights last 1),
          k'', record'') ∧
      delivered record'' =
        delivered record' ++ [Batch.ofBlocks config.filters first last blocks] := by
  rw [attempt_indexBatch, hrange]
  simp only
  rw [recording_right]
  generalize hbatch : Batch.ofBlocks config.filters first last blocks = batch
  have htaken := hserver.takes batch k'
  generalize server (.inr (.deliver batch)) k' = taken at htaken ⊢
  obtain ⟨taken, k''⟩ := taken
  obtain rfl : taken = true := htaken
  refine ⟨k'', _, rfl, ?_⟩
  rw [delivered_concat]
  rfl

/-- A batch is fetched and taken, or ends the run with its failure. -/
theorem run_indexBatch (hserver : Welcoming terms server)
    (hapi : Fetcher.Answers fetcher.api terms answer) (config : IndexerConfig)
    {first last : BlockNumber} (hle : first ≤ last) (hs : terms.state s) (next : BlockNumber)
    (k : κ) (record : List (Exchange (S.sum Surroundings))) :
    ∃ s' k' record',
      terms.state s' ∧
        ((∃ e, (Heights.between first last).mapM (Fetcher.outcome answer) = .error e ∧
          attempt server.recording (indexBatch config fetcher first last) (s, next) (k, record) =
            (.error (.fetch e), (s', next), k', record') ∧
          delivered record' = delivered record) ∨
        ∃ blocks, (Heights.between first last).mapM (Fetcher.outcome answer) = .ok blocks ∧
          attempt server.recording (indexBatch config fetcher first last) (s, next) (k, record) =
            (.ok (if last = 0xFFFFFFFFFFFFFFFF then .ended else .again), (s', addHeights last 1),
              k', record') ∧
          delivered record' =
            delivered record ++ [Batch.ofBlocks config.filters first last blocks]) := by
  obtain ⟨result, s', k', record', hrange, hresult, hs', hsame⟩ :=
    run_left hserver (Fetcher.fulfils_indexedRange hapi hle) hs k record
  rw [← hresult]
  cases result with
  | error e =>
    refine ⟨s', k', record', hs', .inl ⟨e, rfl, ?_, hsame⟩⟩
    rw [attempt_indexBatch, hrange]
  | ok blocks =>
    obtain ⟨k'', record'', hbatch, hmore⟩ := attempt_indexBatch_of_ok hserver config hrange next
    rw [hsame] at hmore
    exact ⟨s', k'', record'', hs', .inr ⟨blocks, rfl, hbatch, hmore⟩⟩

/-- A turn ends the run past the last height, and else indexes a batch. -/
theorem run_turn (hserver : Welcoming terms server) (fetcher : Fetcher σ S)
    {config : IndexerConfig} {last : BlockNumber} (hend : config.endHeight = some last) (s : σ)
    (next : BlockNumber) (k : κ) (record : List (Exchange (S.sum Surroundings))) :
    ∃ k' record', delivered record' = delivered record ∧
      attempt server.recording (turn config fetcher) (s, next) (k, record) =
        if last < next then (.ok .ended, (s, next), k', record')
        else attempt server.recording
          (indexBatch config fetcher next (min last (addHeights next (config.batchSize - 1))))
          (s, next) (k', record') := by
  rw [attempt_turn, recording_right]
  have hgo := hserver.goesOn k
  generalize server (.inr .goOn) k = going at hgo ⊢
  obtain ⟨going, k'⟩ := going
  obtain rfl : going = true := hgo
  refine ⟨k', record ++ [⟨.inr .goOn, true⟩], ?_, ?_⟩
  · rw [delivered_concat]
    exact List.append_nil _
  · simp only
    rw [attempt_target, hend]
    by_cases hpast : last < next
    · simp only [if_pos hpast]
    · simp only [if_neg hpast]

/-- Some turns deliver what is left of the heights, batch after batch. -/
theorem divided_run (hserver : Welcoming terms server)
    (hapi : Fetcher.Answers fetcher.api terms answer) {config : IndexerConfig}
    (hsize : config.batchSize ≠ 0) {last : BlockNumber} (hend : config.endHeight = some last)
    {turns : Nat} (next : BlockNumber) (hnext : next.toNat ≤ last.toNat + 1)
    (hturns : last.toNat + 2 - next.toNat ≤ turns) (hs : terms.state s) (k : κ)
    (record : List (Exchange (S.sum Surroundings))) :
    let x := attempt server.recording (run config fetcher turns) (s, next) (k, record)
    ∃ batches, delivered x.2.2.2 = delivered record ++ batches ∧
      Divided config.filters (Fetcher.outcome answer) (Heights.between next last) x.1 batches := by
  induction turns generalizing s next k record with
  | zero => omega
  | succ turns ih =>
    intro x
    have hx : x = _ := attempt_run server.recording s next (k, record) config fetcher turns
    obtain ⟨k₁, record₁, hsame, hturn⟩ :=
      run_turn hserver fetcher hend s next k record
    by_cases hpast : last < next
    · rw [hturn, if_pos hpast] at hx
      rw [hx, Heights.between_eq_nil hpast]
      exact ⟨[], by rw [List.append_nil, hsame], .ended⟩
    · rw [if_neg hpast] at hturn
      obtain ⟨hfirst, hle, -⟩ := bounds_of_batch hsize (UInt64.not_lt.mp hpast)
      generalize min last (addHeights next (config.batchSize - 1)) = upto at hturn hfirst hle
      obtain ⟨s₂, k₂, record₂, hs₂, hbatch⟩ :=
        run_indexBatch hserver hapi config hfirst hs next k₁ record₁
      obtain ⟨e, hblocks, hbatch, hsame₂⟩ | ⟨blocks, hblocks, hbatch, hmore⟩ := hbatch
      · rw [hturn, hbatch] at hx
        rw [hx, Heights.between_eq_append hfirst hle]
        exact ⟨[], by rw [List.append_nil, hsame₂, hsame], .failed hblocks _⟩
      · rw [hturn, hbatch] at hx
        rw [hsame] at hmore
        by_cases hmax : upto = 0xFFFFFFFFFFFFFFFF
        · rw [if_pos hmax] at hx
          rw [hx]
          exact ⟨_, hmore, .batch_largest hblocks hle hmax⟩
        · rw [if_neg hmax] at hx
          have hafter := toNat_addHeights_one hmax
          have hfirst' := UInt64.le_iff_toNat_le.mp hfirst
          have hle' := UInt64.le_iff_toNat_le.mp hle
          obtain ⟨batches, hdelivered, hdivided⟩ :=
            ih (addHeights upto 1) (by omega) (by omega) hs₂ k₂ record₂
          rw [hx]
          refine ⟨Batch.ofBlocks config.filters next upto blocks :: batches, ?_,
            hdivided.batch_upto hblocks hfirst hle hmax⟩
          rw [hdelivered, hmore, List.append_assoc]
          rfl

end

/-! ## Runs from the first height to the last -/

/-- What two runs over the same heights may differ in: how many heights make a batch, how many
blocks are fetched at a time by the configuration and by the service in use, which of them
arrives first, and how many turns there may be. -/
structure Division (σ : Type) (S : Signature) where
  batchSize : UInt64
  concurrency : UInt64
  service : Service
  schedule : Schedule σ S
  turns : Nat

section

variable {σ κ : Type} {S : Signature}

/-- A configuration with the settings of a division. -/
def Division.configure (d : Division σ S) (config : IndexerConfig) : IndexerConfig :=
  { config with batchSize := d.batchSize, concurrency := d.concurrency }

/-- What a run over an api ends with, and the batches that were taken. -/
def Division.serve (d : Division σ S) (config : IndexerConfig) (api : Api σ S)
    (server : Server (S.sum Surroundings) κ) (s : σ) (k : κ) :
    Except IndexerError Turn × List Batch :=
  let x := (Indexer.serve (d.configure config) d.service api d.schedule d.turns).run
    server.recording (s, config.startHeight) (k, [])
  (x.1, delivered x.2.2.2)

variable {api : Api σ S} {terms : Terms σ S} {answer : (call : Call) → call.Answer}
  {server : Server (S.sum Surroundings) κ} {config : IndexerConfig} {last : BlockNumber} {s : σ}

/-- Closing the service delivers nothing, so a run is divided as its loop is. -/
theorem divided_serve (hapi : Fetcher.Answers api terms answer) (hserver : Welcoming terms server)
    (hend : config.endHeight = some last) {d : Division σ S}
    (hcheck : (d.configure config).check = .ok ())
    (hturns : last.toNat + 2 - config.startHeight.toNat ≤ d.turns) (hs : terms.state s) (k : κ) :
    Divided config.filters (Fetcher.outcome answer) (Heights.between config.startHeight last)
      (d.serve config api server s k).1 (d.serve config api server s k).2 := by
  obtain ⟨hsize, -, hbounds⟩ := of_check hcheck
  have hstart := UInt64.le_iff_toNat_le.mp (hbounds last hend)
  have hfetcher : Fetcher.Answers (d.service.fetcher api d.schedule).api terms answer := hapi
  have hrun := divided_run hserver hfetcher hsize hend config.startHeight
    (Nat.le_succ_of_le hstart) hturns hs k []
  obtain ⟨batches, hdelivered, hdivided⟩ := hrun
  unfold Division.serve Indexer.serve
  rw [run_bind, run_bind, run_pure, run_eq_attempt]
  generalize attempt server.recording (run (d.configure config)
    (d.service.fetcher api d.schedule) d.turns) (s, config.startHeight) (k, []) = x at *
  obtain ⟨result, ⟨s', next'⟩, k', record'⟩ := x
  have hclosed := delivered_left server (d.service.close api) s' k' record'
  rw [run_onApi]
  simp only at hdelivered ⊢
  rw [hclosed, hdelivered]
  exact hdivided

/-- Over an api whose answers depend on nothing but the call, and as long as nobody stops it and
every batch is taken, two runs of an indexer with a last height end alike, however large their
batches are, however many blocks are fetched at a time and whichever of them arrives first.  If
every height can be fetched, the batches of either run hold together what one batch of all the
heights would hold; else both end with the failure of the first height that fails, and
what either delivers comes first in what a batch of the heights below it would hold. -/
theorem serve_eq_of_division (hapi : Fetcher.Answers api terms answer)
    (hserver : Welcoming terms server) (hend : config.endHeight = some last)
    {one two : Division σ S} (hone : (one.configure config).check = .ok ())
    (htwo : (two.configure config).check = .ok ())
    (hturns : last.toNat + 2 - config.startHeight.toNat ≤ min one.turns two.turns)
    (hs : terms.state s) (k : κ) (limit : Nat) (schedule : Schedule σ S) :
    let x := one.serve config api server s k
    let y := two.serve config api server s k
    let whole := ((Fetcher.indexedRange ⟨api, limit, schedule⟩ config.startHeight last).run
      server.left s k).1
    x.1 = y.1 ∧
    (∀ blocks, whole = .ok blocks →
      let batch := Batch.ofBlocks config.filters config.startHeight last blocks
      x.1 = .ok .ended ∧ Content.ofBatches x.2 = .ofBatch batch ∧
        Content.ofBatches y.2 = .ofBatch batch) ∧
    (∀ e, whole = .error e →
      x.1 = .error (.fetch e) ∧
        ∃ below height above blocks,
          Heights.between config.startHeight last = below ++ height :: above ∧
          Fetcher.outcome answer height = .error e ∧
          below.mapM (Fetcher.outcome answer) = .ok blocks ∧
          (Content.ofBatches x.2).IsPrefix (.ofBlocks config.filters blocks) ∧
          (Content.ofBatches y.2).IsPrefix (.ofBlocks config.filters blocks)) := by
  intro x y whole
  obtain ⟨hturns₁, hturns₂⟩ := Nat.le_min.mp hturns
  have hx := divided_serve hapi hserver hend hone hturns₁ hs k
  have hy := divided_serve hapi hserver hend htwo hturns₂ hs k
  obtain ⟨hx, hxprefix, hxall⟩ := hx.delivers
  obtain ⟨hy, hyprefix, hyall⟩ := hy.delivers
  have hstart := (of_check hone).2.2 last hend
  have hwhole :
      whole = (Heights.between config.startHeight last).mapM (Fetcher.outcome answer) := by
    have hfetcher : Fetcher.Answers (Fetcher.mk api limit schedule).api terms answer := hapi
    exact (Fetcher.fulfils_indexedRange hfetcher hstart).run_value server.left hserver.answer hs k
  refine ⟨hx.trans hy.symm, ?_, ?_⟩
  · intro blocks hblocks batch
    have hheights := upToFailure_of_mapM_eq_ok (hwhole.symm.trans hblocks)
    rw [hheights] at hx hxall hyall
    exact ⟨hx, hxall rfl, hyall rfl⟩
  · intro e herror
    obtain ⟨below, height, above, blocks, hheights, hheight, hbelow, heq⟩ :=
      upToFailure_of_mapM_eq_error (hwhole.symm.trans herror)
    have hfirst := heq []
    rw [List.append_nil] at hfirst
    rw [hfirst] at hx hxprefix hyprefix
    exact ⟨hx, below, height, above, blocks, hheights, hheight, hbelow, hxprefix, hyprefix⟩

end

/-- A service that fetches some blocks at a time. -/
def serviceOf (concurrency : UInt64) : Service where
  config :=
    .ofParts .substrate ⟨"http", none, .segments [], none, none⟩ none none (some concurrency)
  network := ⟨"scripted", "scripted", ""⟩
  runtime := some ⟨"scripted", "scripted", 0, 1, 0, 0, []⟩
  republishing := true
  watched := .active

/-- The third of three heights fails: in batches of one, the others are delivered before; in one
batch of all, nothing is. -/
theorem serve_eq_of_division_twoBlocks :
    let config : IndexerConfig := { IndexerConfig.standard with endHeight := some 3 }
    let single : Division Unit Calls := ⟨1, 1, serviceOf 1, .inOrder, 4⟩
    let all : Division Unit Calls := ⟨3, 16, serviceOf 16, ⟨8, fun left _ _ => left - 5⟩, 4⟩
    let x := single.serve config .asking (steady twoBlocks.answer) () ()
    let y := all.serve config .asking (steady twoBlocks.answer) () ()
    x.2.map (fun batch => (batch.first, batch.last)) = [(1, 1), (2, 2)] ∧ y.2 = [] ∧
      x.1 = .error (.fetch (.block 3 (.notFound 3))) ∧ x.1 = y.1 := by
  intro config single all x y
  have hapi : Fetcher.Answers .asking
      (⟨fun _ => True, fun call a => a = twoBlocks.answer call⟩ : Terms Unit Calls)
      twoBlocks.answer := fun call _ a ha => ha
  have hserver : Welcoming
      (⟨fun _ => True, fun call a => a = twoBlocks.answer call⟩ : Terms Unit Calls)
      (steady twoBlocks.answer) :=
    ⟨fun _ _ => rfl, fun _ => rfl, fun _ _ => rfl⟩
  have hsingle : (single.configure config).check = .ok () := check_of_isOk (by decide +kernel)
  have hall : (all.configure config).check = .ok () := check_of_isOk (by decide +kernel)
  obtain ⟨heq, -, herror⟩ := serve_eq_of_division hapi hserver (s := ()) rfl hsingle hall
    (by decide) trivial () 1 .inOrder
  obtain ⟨hresult, -⟩ := herror (.block 3 (.notFound 3)) (by decide +kernel)
  exact ⟨by decide +kernel, by decide +kernel, hresult, heq⟩

end ChainIndex.Indexer
