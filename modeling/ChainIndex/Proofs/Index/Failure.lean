import ChainIndex.Proofs.Api.Orderly
import ChainIndex.Proofs.Fetch.Record
import ChainIndex.Proofs.Index.Division

/-!
# ChainIndex.Proofs.Index.Failure

How a run of an indexer ends at a batch that cannot be fetched, and what it leaves behind.

A turn is idle, or it fetches the heights from the next one on, and then it fails with the fetch or
puts the batch to those around (`turn_cases`).  As long as the loop goes on, every batch that was
put was taken, is complete, and lies below the next height (`Delivers.again`), so a batch that
cannot be fetched finds all heights below it delivered and leaves no trace but its failure
(`StoppedAt`).  However the loop ends, the connection is closed thereafter.
-/

namespace ChainIndex.Indexer

open ChainIndex.Task

/-! ## Batches that are put to those around -/

section

variable {σ κ α : Type} {S : Signature} {record more : List (Exchange (S.sum Surroundings))}

/-- The batch that is put in an exchange, whether it is taken or not. -/
def offered? : Exchange (S.sum Surroundings) → Option Batch
  | ⟨.inr (.deliver batch), _⟩ => some batch
  | ⟨.inl _, _⟩ | ⟨.inr .goOn, _⟩ | ⟨.inr (.pause _), _⟩ => none

/-- The batches that were put to those around. -/
def offered (record : List (Exchange (S.sum Surroundings))) : List Batch :=
  record.filterMap offered?

/-- Exchanges in which no batch is put. -/
def Quiet (more : List (Exchange (S.sum Surroundings))) : Prop := ∀ x ∈ more, offered? x = none

theorem quiet_nil : Quiet ([] : List (Exchange (S.sum Surroundings))) := fun _ hx => nomatch hx

/-- The calls of a chain put no batch. -/
theorem quiet_inLeft (made : List (Exchange S)) : Quiet (made.map Exchange.inLeft) := by
  intro x hx
  obtain ⟨own, -, rfl⟩ := List.mem_map.mp hx
  rfl

/-- Exchanges in which no batch is put may follow one another. -/
theorem Quiet.append {before after : List (Exchange (S.sum Surroundings))} (h : Quiet before)
    (hafter : Quiet after) : Quiet (before ++ after) :=
  List.forall_mem_append.mpr ⟨h, hafter⟩

theorem offered_append (record more : List (Exchange (S.sum Surroundings))) :
    offered (record ++ more) = offered record ++ offered more :=
  List.filterMap_append

/-- No further batch is put where none is. -/
theorem Quiet.offered_append (h : Quiet more) : offered (record ++ more) = offered record := by
  have hnone : offered more = [] := List.filterMap_eq_nil_iff.mpr h
  rw [Indexer.offered_append, hnone, List.append_nil]

/-- Nothing is delivered where no batch is put. -/
theorem Quiet.deliveries_append {record more : List (Exchange (Calls.sum Surroundings))}
    (h : Quiet more) : (seen (record ++ more)).deliveries = (seen record).deliveries := by
  induction more using List.reverseRecOn with
  | nil => rw [List.append_nil]
  | append_singleton before x ih =>
    obtain ⟨hbefore, hx⟩ := List.forall_mem_append.mp h
    have hlast : offered? x = none := hx x (List.mem_singleton_self x)
    rw [← List.append_assoc, seen_concat, ← ih hbefore]
    obtain ⟨query, answer⟩ := x
    match query with
    | .inr .goOn => rfl
    | .inr (.pause _) => rfl
    | .inr (.deliver batch) => cases hlast
    | .inl call =>
      cases call with
      | header hash =>
        change Except ApiError Header at answer
        cases answer <;> rfl
      | _ => rfl

/-! ## Turns -/

/-- The height up to which a turn fetches that starts at `next`. -/
def upto (config : IndexerConfig) (next target : BlockNumber) : BlockNumber :=
  min target (addHeights next (config.batchSize - 1))

/-- A turn fetches the heights from the next one to `last`, and the fetch ends as `fetched`. -/
inductive TurnFetches (config : IndexerConfig) (fetcher : Fetcher σ S)
    (server : Server (S.sum Surroundings) κ) : σ × BlockNumber → κ → (last : BlockNumber) →
    Except FetchError (List IndexedBlock) × σ × κ → Prop
  | intro {s s₁ : σ} {next head : BlockNumber} {k k₁ k₂ : κ}
    (hgo : server.right .goOn k = (true, k₁))
    (htarget : attempt server (target config fetcher.api next) (s, next) k₁ =
      (.ok (some head), (s₁, next), k₂))
    (hle : next ≤ head) :
    TurnFetches config fetcher server (s, next) k (upto config next head)
      ((fetcher.indexedRange next (upto config next head)).run server.left s₁ k₂)

variable {config : IndexerConfig} {fetcher : Fetcher σ S} {server : Server (S.sum Surroundings) κ}
  {s s' : σ} {next last : BlockNumber} {k : κ}

/-- A turn that fetches indexes a batch. -/
theorem TurnFetches.attempt_turn_eq {fetched : Except FetchError (List IndexedBlock) × σ × κ}
    (h : TurnFetches config fetcher server (s, next) k last fetched) :
    ∃ s₁ k₁, fetched = (fetcher.indexedRange next last).run server.left s₁ k₁ ∧
      attempt server (turn config fetcher) (s, next) k =
        attempt server (indexBatch config fetcher next last) (s₁, next) k₁ := by
  cases h with
  | @intro _ s₁ _ head _ k₁ k₂ hgo htarget hle =>
    refine ⟨s₁, k₂, rfl, ?_⟩
    rw [attempt_turn, hgo]
    simp only
    rw [htarget]
    simp only
    rw [if_neg (UInt64.not_lt.mpr hle), ← upto]

/-- A fetch that fails ends its turn, and the next height stays. -/
theorem TurnFetches.attempt_turn_of_error {e : FetchError} {k' : κ}
    (h : TurnFetches config fetcher server (s, next) k last (.error e, s', k')) :
    attempt server (turn config fetcher) (s, next) k = (.error (.fetch e), (s', next), k') := by
  obtain ⟨s₁, k₁, hfetched, hturn⟩ := h.attempt_turn_eq
  rw [hturn, attempt_indexBatch, ← hfetched]

/-- Looking for the target puts no batch, leaves the next height and does not fail with a fetch. -/
theorem attempt_target_quiet (config : IndexerConfig) (api : Api σ S)
    (server : Server (S.sum Surroundings) κ) (s : σ) (next : BlockNumber) (k : κ)
    (record : List (Exchange (S.sum Surroundings))) :
    ∃ result s' k' more, Quiet more ∧ (∀ e, result ≠ .error (.fetch e)) ∧
      attempt server.recording (target config api next) (s, next) (k, record) =
        (result, (s', next), k', record ++ more) := by
  have hcall {β : Type} (x : Attempt σ S β) (s : σ) (k : κ)
      (record : List (Exchange (S.sum Surroundings))) :
      ∃ result s' k' more, Quiet more ∧ attempt server.recording.left x s (k, record) =
        (result, s', k', record ++ more) := by
    have hrun := run_recording_left server x.run s k record []
    rw [List.map_nil, List.append_nil] at hrun
    exact ⟨_, _, _, _, quiet_inLeft _, hrun⟩
  rw [attempt_target]
  cases config.endHeight with
  | some last =>
    refine ⟨_, s, k, [], quiet_nil, ?_, by rw [List.append_nil]⟩
    simp
  | none =>
    simp only
    rw [attempt_headNumber]
    obtain ⟨head, s₁, k₁, more, hmore, hhead⟩ := hcall api.finalizedHead s k record
    rw [hhead]
    cases head with
    | error e =>
      refine ⟨_, s₁, k₁, more, hmore, ?_, rfl⟩
      simp
    | ok head =>
      simp only
      obtain ⟨header, s₂, k₂, more', hmore', hheader⟩ :=
        hcall (api.header head) s₁ k₁ (record ++ more)
      rw [hheader, List.append_assoc]
      cases header with
      | error e =>
        refine ⟨_, s₂, k₂, _, hmore.append hmore', ?_, rfl⟩
        simp
      | ok header =>
        refine ⟨_, s₂, k₂, _, hmore.append hmore', ?_, rfl⟩
        simp

/-- How a turn may end, and what it adds to the record. -/
inductive Turned (config : IndexerConfig) (fetcher : Fetcher σ S)
    (server : Server (S.sum Surroundings) κ) (s : σ) (next : BlockNumber) (k : κ)
    (record : List (Exchange (S.sum Surroundings))) : Except IndexerError Turn ×
      (σ × BlockNumber) × κ × List (Exchange (S.sum Surroundings)) → Prop
  /-- There is nothing to fetch, or no looking up what there is. -/
  | idle {result : Except IndexerError Turn} {s' : σ} {k' : κ}
    {more : List (Exchange (S.sum Surroundings))} (hmore : Quiet more)
    (hresult : ∀ e, result ≠ .error (.fetch e)) :
    Turned config fetcher server s next k record (result, (s', next), k', record ++ more)
  /-- The batch cannot be fetched. -/
  | failed {last : BlockNumber} {e : FetchError} {s' : σ} {k' : κ}
    {record' : List (Exchange (S.sum Surroundings))}
    (h : TurnFetches config fetcher server.recording (s, next) (k, record) last
      (.error e, s', k', record')) :
    Turned config fetcher server s next k record (.error (.fetch e), (s', next), k', record')
  /-- The batch is put, and not taken. -/
  | refused {last : BlockNumber} {blocks : List IndexedBlock} {s' : σ} {k' k'' : κ}
    {record' : List (Exchange (S.sum Surroundings))}
    (h : TurnFetches config fetcher server.recording (s, next) (k, record) last
      (.ok blocks, s', k', record')) :
    Turned config fetcher server s next k record (.ok .ended, (s', next), k'',
      record' ++ [⟨.inr (.deliver (Batch.ofBlocks config.filters next last blocks)), false⟩])
  /-- The batch is put and taken. -/
  | taken {last : BlockNumber} {blocks : List IndexedBlock} {outcome : Turn} {s' : σ} {k' k'' : κ}
    {record' : List (Exchange (S.sum Surroundings))}
    (h : TurnFetches config fetcher server.recording (s, next) (k, record) last
      (.ok blocks, s', k', record')) :
    Turned config fetcher server s next k record (.ok outcome, (s', addHeights last 1), k'',
      record' ++ [⟨.inr (.deliver (Batch.ofBlocks config.filters next last blocks)), true⟩])

/-- Every turn ends in one of these ways. -/
theorem turn_cases (config : IndexerConfig) (fetcher : Fetcher σ S)
    (server : Server (S.sum Surroundings) κ) (s : σ) (next : BlockNumber) (k : κ)
    (record : List (Exchange (S.sum Surroundings))) :
    Turned config fetcher server s next k record
      (attempt server.recording (turn config fetcher) (s, next) (k, record)) := by
  obtain ⟨going, k₁, hgo⟩ : ∃ going k₁, server (.inr .goOn) k = (going, k₁) := ⟨_, _, rfl⟩
  have hasked : server.recording.right .goOn (k, record) =
      (going, k₁, record ++ [⟨.inr .goOn, going⟩]) := by
    rw [recording_right, hgo]
  have hquiet : Quiet [(⟨.inr .goOn, going⟩ : Exchange (S.sum Surroundings))] := by
    simp [Quiet, offered?]
  cases going with
  | false =>
    rw [attempt_turn, hasked]
    exact .idle hquiet (by simp)
  | true =>
    obtain ⟨result, s₁, k₂, more, hmore, hresult, htarget⟩ := attempt_target_quiet config
      fetcher.api server s next k₁ (record ++ [⟨.inr .goOn, true⟩])
    have hturn := attempt_turn server.recording s next (k, record) config fetcher
    rw [hasked] at hturn
    simp only at hturn
    rw [htarget] at hturn
    rw [List.append_assoc] at htarget hturn
    match result with
    | .error e =>
      rw [hturn]
      exact .idle (hquiet.append hmore) (by simpa using hresult)
    | .ok none =>
      rw [hturn]
      exact .idle (hquiet.append hmore) (by simp)
    | .ok (some head) =>
      by_cases hwait : head < next
      · simp only [if_pos hwait] at hturn
        rw [hturn, recording_right, List.append_assoc]
        refine .idle ((hquiet.append hmore).append ?_) (by simp)
        simp [Quiet, offered?]
      · have hfetches : TurnFetches config fetcher server.recording (s, next) (k, record) _ _ :=
          .intro hasked htarget (UInt64.not_lt.mp hwait)
        obtain ⟨s₂, k₃, hfetched, hbatch⟩ := hfetches.attempt_turn_eq
        generalize (fetcher.indexedRange next (upto config next head)).run server.recording.left
          s₁ (k₂, record ++ ([⟨.inr .goOn, true⟩] ++ more)) = fetched at hfetches hfetched
        rw [hbatch, attempt_indexBatch, ← hfetched]
        obtain ⟨result, s₄, k₄, record'⟩ := fetched
        cases result with
        | error e => exact .failed hfetches
        | ok blocks =>
          simp only
          rw [recording_right]
          generalize hput : server (.inr (.deliver (Batch.ofBlocks config.filters next
            (upto config next head) blocks))) k₄ = put
          obtain ⟨taken, k₅⟩ := put
          cases taken with
          | true => exact .taken hfetches
          | false => exact .refused hfetches

end

/-! ## What goes on -/

section

variable {σ κ : Type} {config : IndexerConfig} {server : Server (Calls.sum Surroundings) κ}
  {limit : Nat} {schedule : Schedule σ Calls} {s s' : σ} {next next' first last : BlockNumber}
  {k k' : κ} {e : FetchError} {record record' more : List (Exchange (Calls.sum Surroundings))}

/-- A batch with the blocks of all of its heights, less those that are filtered. -/
def Complete (config : IndexerConfig) (record : List (Exchange (Calls.sum Surroundings)))
    (batch : Batch) : Prop :=
  ∃ blocks, IndexedBetween (leftOf record) batch.first batch.last blocks ∧
    batch = Batch.ofBlocks config.filters batch.first batch.last blocks

/-- A batch is complete whatever is recorded after it. -/
theorem Complete.append {batch : Batch} (h : Complete config record batch)
    (more : List (Exchange (Calls.sum Surroundings))) : Complete config (record ++ more) batch := by
  obtain ⟨blocks, hblocks, hbatch⟩ := h
  refine ⟨blocks, hblocks.mono ?_, hbatch⟩
  intro x hx
  exact leftOf_mono (List.prefix_append record more) hx

/-- As long as the loop goes on, every batch that was put was taken and is complete, and the batches
cover the heights up to before the next one. -/
structure Delivers (config : IndexerConfig) (next : BlockNumber)
    (record : List (Exchange (Calls.sum Surroundings))) : Prop where
  covered : Covered config (seen record).deliveries next.toNat
  complete : ∀ d ∈ (seen record).deliveries, Complete config record d.batch
  offered_eq : offered record = (seen record).deliveries.map Delivery.batch

/-- Before the first batch, none was delivered. -/
theorem delivers_nil (config : IndexerConfig) : Delivers config config.startHeight [] where
  covered := covered_nil config
  complete := by simp [seen]
  offered_eq := rfl

/-- Nothing changes where no batch is put. -/
theorem Delivers.append_quiet (h : Delivers config next record) (hmore : Quiet more) :
    Delivers config next (record ++ more) where
  covered := by
    rw [hmore.deliveries_append]
    exact h.covered
  complete := by
    rw [hmore.deliveries_append]
    intro d hd
    exact (h.complete d hd).append more
  offered_eq := by
    rw [hmore.deliveries_append, hmore.offered_append]
    exact h.offered_eq

/-- No batch that was put goes beyond the next height. -/
theorem Delivers.offered_lt (h : Delivers config next record) :
    ∀ batch ∈ offered record, batch.last < next := by
  intro batch hbatch
  rw [h.offered_eq] at hbatch
  obtain ⟨-, hbounds⟩ := h.covered.tiles.bounds
  exact UInt64.lt_iff_toNat_lt.mpr (hbounds batch hbatch)

/-- A fetch is of a batch that is not empty; it puts no batch itself, and the record tells its
end. -/
theorem TurnFetches.settles {fetched : Except FetchError (List IndexedBlock) × σ × κ ×
      List (Exchange (Calls.sum Surroundings))} (hsize : config.batchSize ≠ 0)
    (h : TurnFetches config ⟨.asking, limit, schedule⟩ server.recording (s, next) (k, record) last
      fetched) :
    next ≤ last ∧ (∃ more, Quiet more ∧ fetched.2.2.2 = record ++ more) ∧
      (∀ blocks, fetched.1 = .ok blocks →
        IndexedBetween (leftOf fetched.2.2.2) next last blocks) ∧
      ∀ e, fetched.1 = .error e → FailsBetween (leftOf fetched.2.2.2) next last e := by
  cases h with
  | @intro _ s₁ _ head _ k₁ k₂ hgo htarget hle =>
    -- what was asked before the fetch: whether to go on, and for the head where it is followed
    have hlast : next ≤ upto config next head := (bounds_of_batch hsize hle).1
    rw [recording_right] at hgo
    obtain ⟨-, rfl⟩ := Prod.mk.inj hgo
    obtain ⟨_, _, _, more, hmore, -, hquiet⟩ := attempt_target_quiet config .asking server s
      next (server (.inr .goOn) k).2 (record ++ [⟨.inr .goOn, (server (.inr .goOn) k).1⟩])
    rw [htarget, List.append_assoc] at hquiet
    have hbefore : k₂.2 = record ++ ([⟨.inr .goOn, (server (.inr .goOn) k).1⟩] ++ more) :=
      congrArg (fun x => x.2.2.2) hquiet
    have hasked : Quiet ([⟨.inr .goOn, (server (.inr .goOn) k).1⟩] ++ more) := by
      refine Quiet.append ?_ hmore
      simp [Quiet, offered?]
    obtain ⟨made, hrecord, hok, herror⟩ := Fetcher.run_indexedRange_settles limit schedule
      server hlast s₁ k₂.1 k₂.2
    generalize (Fetcher.indexedRange ⟨.asking, limit, schedule⟩ next (upto config next head)).run
      server.recording.left s₁ (k₂.1, k₂.2) = fetched at hrecord hok herror ⊢
    have hheard : ∀ x ∈ made, x ∈ leftOf fetched.2.2.2 := by
      rw [hrecord, leftOf_append, leftOf_map_inLeft]
      intro x hx
      exact List.mem_append_right _ hx
    rw [hbefore, List.append_assoc] at hrecord
    refine ⟨hlast, ⟨_, hasked.append (quiet_inLeft made), hrecord⟩, ?_, ?_⟩
    · intro blocks hblocks
      exact (hok blocks hblocks).mono hheard
    · intro e he
      exact (herror e he).mono hheard

/-- A turn after which the loop goes on has put nothing, or one more batch, which was taken. -/
theorem Delivers.again (h : Delivers config next record) (hsize : config.batchSize ≠ 0)
    (hturn : attempt server.recording (turn config ⟨.asking, limit, schedule⟩) (s, next)
      (k, record) = (.ok .again, (s', next'), k', record')) :
    Delivers config next' record' := by
  have hcases := turn_cases config ⟨.asking, limit, schedule⟩ server s next k record
  have htrack := turn_onTrack server s k hsize h.covered limit schedule
  rw [hturn] at hcases htrack
  -- a batch that fails or is refused ends the loop
  cases hcases with
  | idle hmore _ => exact h.append_quiet hmore
  | @taken last blocks _ _ k₁ _ record₁ hfetches =>
    obtain ⟨-, ⟨more, hmore, hrecord⟩, hok, -⟩ := hfetches.settles hsize
    simp only at hrecord hok
    have hbefore := h.append_quiet hmore
    rw [← hrecord] at hbefore
    have hdeliveries : (seen (record₁ ++ [⟨.inr (.deliver
        (Batch.ofBlocks config.filters next last blocks)), true⟩])).deliveries =
          (seen record₁).deliveries ++
            [⟨(seen record₁).head, Batch.ofBlocks config.filters next last blocks⟩] := by
      rw [seen_concat]
      rfl
    have hbatch : Complete config record₁ (Batch.ofBlocks config.filters next last blocks) :=
      ⟨blocks, hok blocks rfl, rfl⟩
    refine ⟨htrack.covered, ?_, ?_⟩
    · intro d hd
      rw [hdeliveries] at hd
      obtain hold | hnew := List.mem_append.mp hd
      · exact (hbefore.complete d hold).append _
      · rw [List.mem_singleton.mp hnew]
        exact hbatch.append _
    · rw [hdeliveries, Indexer.offered_append, hbefore.offered_eq, List.map_append]
      rfl

/-! ## What a batch that fails leaves behind -/

/-- What a run leaves that has ended at the batch of the heights from `first` to `last`: the batches
before it were put and taken, and nothing of it was put. -/
structure StoppedAt (config : IndexerConfig)
    (record : List (Exchange (Calls.sum Surroundings))) (first last : BlockNumber)
    (e : FetchError) : Prop extends Delivers config first record where
  nonempty : first ≤ last
  /-- No batch that was put holds a height from `first` on. -/
  offered_lt : ∀ batch ∈ offered record, batch.last < first
  /-- The error is that of one of its heights, and all lower ones have their blocks. -/
  cause : FailsBetween (leftOf record) first last e
  /-- Where it is the error for the block of a height, this is the height that failed. -/
  block : ∀ height source, e = .block height source → first ≤ height ∧ height ≤ last ∧
    ∃ served, Heard (leftOf record) (.supports .eventsAt) served ∧
      Settles (leftOf record) served height (.error e) ∧
      ∀ lower, first ≤ lower → lower < height → ∃ b, Settles (leftOf record) served lower (.ok b)

/-- A fetch that fails leaves what was delivered before it. -/
theorem Delivers.stoppedAt (h : Delivers config first record) (hle : first ≤ last)
    (hcause : FailsBetween (leftOf record) first last e) :
    StoppedAt config record first last e where
  toDelivers := h
  nonempty := hle
  offered_lt := h.offered_lt
  cause := hcause
  block := by
    rintro height source rfl
    exact hcause.of_block

/-- Within some turns, the batch of the heights from `first` to `last` cannot be fetched. -/
inductive FailsIn {σ κ : Type} {S : Signature} (config : IndexerConfig) (fetcher : Fetcher σ S)
    (server : Server (S.sum Surroundings) κ) (first last : BlockNumber) (e : FetchError) :
    (turns : Nat) → σ × BlockNumber → κ → Prop
  | now {turns : Nat} {s s' : σ} {k k' : κ}
    (h : TurnFetches config fetcher server (s, first) k last (.error e, s', k')) :
    FailsIn config fetcher server first last e (turns + 1) (s, first) k
  | later {turns : Nat} {x x' : σ × BlockNumber} {k k' : κ}
    (hturn : attempt server (turn config fetcher) x k = (.ok .again, x', k'))
    (h : FailsIn config fetcher server first last e turns x' k') :
    FailsIn config fetcher server first last e (turns + 1) x k

/-- A run ends with the error of a fetch only if a batch cannot be fetched within its turns. -/
theorem failsIn_of_run_error {σ κ : Type} {S : Signature} {fetcher : Fetcher σ S}
    {server : Server (S.sum Surroundings) κ} {turns : Nat} {x : σ × BlockNumber}
    {y : κ × List (Exchange (S.sum Surroundings))}
    (h : (attempt server.recording (run config fetcher turns) x y).1 = .error (.fetch e)) :
    ∃ first last, FailsIn config fetcher server.recording first last e turns x y := by
  induction turns generalizing x y with
  | zero => cases h
  | succ turns ih =>
    obtain ⟨s, next⟩ := x
    obtain ⟨k, record⟩ := y
    rw [attempt_run] at h
    have hcases := turn_cases config fetcher server s next k record
    generalize hturn : attempt server.recording (turn config fetcher) (s, next) (k, record) = ended
      at h hcases
    obtain ⟨result, x', y'⟩ := ended
    match result with
    | .ok .again =>
      obtain ⟨first, last, hlater⟩ := ih h
      exact ⟨first, last, .later hturn hlater⟩
    | .ok .ended => cases h
    | .error cause =>
      obtain rfl : cause = .fetch e := Except.error.inj h
      cases hcases with
      | idle _ hresult => exact absurd rfl (hresult e)
      | failed hfetches => exact ⟨next, _, .now hfetches⟩

/-- A batch that cannot be fetched ends the run, which has delivered all heights below it. -/
theorem FailsIn.run_stops {turns : Nat} {x : σ × BlockNumber}
    {y : κ × List (Exchange (Calls.sum Surroundings))} (hsize : config.batchSize ≠ 0)
    (h : FailsIn config ⟨.asking, limit, schedule⟩ server.recording first last e turns x y)
    (hdelivers : Delivers config x.2 y.2) :
    ∃ s' k' record', attempt server.recording (run config ⟨.asking, limit, schedule⟩ turns) x y =
      (.error (.fetch e), (s', first), k', record') ∧ Delivers config first record' ∧
      first ≤ last ∧ FailsBetween (leftOf record') first last e := by
  induction h with
  | @now turns s s' k k' hfetches =>
    obtain ⟨hle, ⟨more, hmore, hrecord⟩, -, herror⟩ := hfetches.settles hsize
    have hbefore := hdelivers.append_quiet hmore
    rw [← hrecord] at hbefore
    refine ⟨s', k'.1, k'.2, ?_, hbefore, hle, herror e rfl⟩
    rw [attempt_run, hfetches.attempt_turn_of_error]
  | @later turns x x' k k' hturn _ ih =>
    obtain ⟨s₁, k₁, record₁, hrun, hrest⟩ := ih (hdelivers.again hsize hturn)
    refine ⟨s₁, k₁, record₁, ?_, hrest⟩
    rw [attempt_run, hturn]
    exact hrun

end

/-! ## Closing -/

section

variable {σ κ : Type} {S : Signature} (config : IndexerConfig) (service : Service) (api : Api σ S)
  (schedule : Schedule σ S) (turns : Nat) (server : Server (S.sum Surroundings) κ)

/-- Once the loop has ended, in whatever way, the api is disconnected. -/
theorem run_serve (x : σ × BlockNumber) (k : κ) :
    (serve config service api schedule turns).run server x k =
      let ended := attempt server (run config (service.fetcher api schedule) turns) x k
      let closed := (api .disconnect).run server.left ended.2.1.1 ended.2.2
      (ended.1, (closed.2.1, ended.2.1.2), closed.2.2) := by
  unfold serve
  rw [run_bind, run_bind, run_eq_attempt]
  generalize attempt server (run config (service.fetcher api schedule) turns) x k = ended
  obtain ⟨result, ⟨s, next⟩, k'⟩ := ended
  rw [run_onApi]
  unfold Service.close
  rw [run_bind]
  rfl

/-- However a run ends, the connection of an orderly api is closed thereafter. -/
theorem disconnected_of_serve {view : σ → Connection} (horderly : Orderly api view)
    (x : σ × BlockNumber) (k : κ) :
    (view ((serve config service api schedule turns).run server x k).2.1.1).state =
      .disconnected := by
  rw [run_serve]
  simp only
  rw [horderly.disconnect, Connection.disconnect_state]

end

/-- However a run ends, the last call of all is the one that disconnects the api. -/
theorem run_serve_asking {σ κ : Type} (config : IndexerConfig) (service : Service)
    (schedule : Schedule σ Calls) (turns : Nat) (server : Server (Calls.sum Surroundings) κ)
    (x : σ × BlockNumber) (y : κ × List (Exchange (Calls.sum Surroundings))) :
    (serve config service .asking schedule turns).run server.recording x y =
      let ended :=
        attempt server.recording (run config (service.fetcher .asking schedule) turns) x y
      (ended.1, ended.2.1, (server (.inl .disconnect) ended.2.2.1).2,
        ended.2.2.2 ++ [⟨.inl .disconnect, ()⟩]) := by
  rw [run_serve]
  rfl

/-- A run ends with the error of a fetch exactly if a batch cannot be fetched within its turns.
Then the next height stays at its first one, the batches before it were put and taken, each of them
complete, and cover the heights below it in order; nothing of the batch itself was put, one of its
heights failed with the error, and all lower ones of it have their blocks.  However a run ends, the
last call of all disconnects the api, and the connection of a chain over either kind of node is
closed thereafter. -/
theorem failed_batch_ends_run (config : IndexerConfig) (hcheck : config.check = .ok ())
    (service : Service) (turns : Nat) :
    (∀ {σ κ : Type} (schedule : Schedule σ Calls) (server : Server (Calls.sum Surroundings) κ)
        (s : σ) (k : κ),
      let fails first last e := FailsIn config (service.fetcher .asking schedule) server.recording
        first last e turns (s, config.startHeight) (k, [])
      let x := (serve config service .asking schedule turns).run server.recording
        (s, config.startHeight) (k, [])
      (∀ e, x.1 = .error (.fetch e) ↔ ∃ first last, fails first last e) ∧
      (∀ first last e, fails first last e →
        x.1 = .error (.fetch e) ∧ x.2.1.2 = first ∧ StoppedAt config x.2.2.2 first last e) ∧
      ∃ before, x.2.2.2 = before ++ [⟨.inl .disconnect, ()⟩]) ∧
    (∀ {κ : Type} (schedule : Schedule Algod.Chain Algod.Client)
        (server : Server (Algod.Client.sum Surroundings) κ) (c : Algod.Chain) (k : κ),
      ((serve config service Algod.Chain.api schedule turns).run server (c, config.startHeight)
        k).2.1.1.connection.state = .disconnected) ∧
    ∀ {κ : Type} (schedule : Schedule Substrate.Chain Http.Exchange)
        (server : Server (Http.Exchange.sum Surroundings) κ) (c : Substrate.Chain) (k : κ),
      ((serve config service Substrate.Chain.api schedule turns).run server (c, config.startHeight)
        k).2.1.1.connection.state = .disconnected := by
  obtain ⟨hsize, -, -⟩ := of_check hcheck
  refine ⟨?_, ?_, ?_⟩
  · intro σ κ schedule server s k fails x
    have hx : x = _ := run_serve_asking config service schedule turns server (s, config.startHeight)
      (k, [])
    have hstops {first last : BlockNumber} {e : FetchError} (h : fails first last e) :
        x.1 = .error (.fetch e) ∧ x.2.1.2 = first ∧ StoppedAt config x.2.2.2 first last e := by
      obtain ⟨s', k', record, hrun, hdelivers, hle, hcause⟩ :=
        FailsIn.run_stops hsize h (delivers_nil config)
      have hclosed : Quiet [(⟨.inl .disconnect, ()⟩ : Exchange (Calls.sum Surroundings))] := by
        simp [Quiet, offered?]
      have hafter := (hdelivers.append_quiet hclosed).stoppedAt hle
        (hcause.mono fun _ => leftOf_mono (List.prefix_append record _))
      rw [hx]
      simp only
      rw [show service.fetcher .asking schedule = ⟨.asking, _, schedule⟩ from rfl, hrun]
      exact ⟨rfl, rfl, hafter⟩
    refine ⟨fun e => ⟨?_, ?_⟩, fun first last e h => hstops h, ?_⟩
    · intro herror
      rw [hx] at herror
      exact failsIn_of_run_error herror
    · rintro ⟨first, last, h⟩
      exact (hstops h).1
    · rw [hx]
      exact ⟨_, rfl⟩
  · intro κ schedule server c k
    exact disconnected_of_serve config service _ schedule turns server Algod.Chain.orderly _ k
  · intro κ schedule server c k
    exact disconnected_of_serve config service _ schedule turns server Substrate.Chain.orderly _ k

/-- A list of three blocks, of which the last one is the head. -/
def threeBlocks : BlockList :=
  let hash (n : UInt8) : BlockHash := ⟨Vector.replicate 32 n⟩
  ⟨[(⟨⟨hash 1, 1, .zero, []⟩, [], none⟩, []), (⟨⟨hash 2, 2, hash 1, []⟩, [], none⟩, []),
    (⟨⟨hash 3, 3, hash 2, []⟩, [], none⟩, [])], 2, [], [], [], []⟩

/-- Batches of two up to height four. -/
def pairsToFour : IndexerConfig :=
  { IndexerConfig.standard with endHeight := some 4, batchSize := 2 }

/-- In batches of two, the first two blocks are delivered; the third one is fetched, but the fourth
one is missing, and so nothing of the second batch is put. -/
theorem failed_batch_ends_run_threeBlocks :
    ∃ x last, x = (serve pairsToFour (serviceOf 2) .asking .inOrder 4).run
        (steady threeBlocks.answer).recording ((), 1) ((), []) ∧
      pairsToFour.check = .ok () ∧ x.1 = .error (.fetch (.block 4 (.notFound 4))) ∧
      x.2.1.2 = 3 ∧
      (offered x.2.2.2).map (fun batch => (batch.first, batch.last, batch.blocks.length)) =
        [(1, 2, 2)] ∧
      StoppedAt pairsToFour x.2.2.2 3 last (.block 4 (.notFound 4)) := by
  have hcheck : pairsToFour.check = .ok () := check_of_isOk (by decide +kernel)
  obtain ⟨hiff, hstops, -⟩ := (failed_batch_ends_run pairsToFour hcheck (serviceOf 2) 4).1 .inOrder
    (steady threeBlocks.answer) () ()
  obtain ⟨first, last, hfails⟩ := (hiff (.block 4 (.notFound 4))).mp (by decide +kernel)
  obtain ⟨herror, hfirst, hstopped⟩ := hstops first last _ hfails
  have hnext : first = 3 := hfirst.symm.trans (by decide +kernel)
  rw [hnext] at hstopped
  exact ⟨_, last, rfl, hcheck, herror, by decide +kernel, by decide +kernel, hstopped⟩

end ChainIndex.Indexer
