import ChainIndex.Api.Listed
import ChainIndex.Proofs.Fetch.Questions
import ChainIndex.Proofs.Index.Turn

/-!
# ChainIndex.Proofs.Index.Coverage

The batches of an indexer cover the heights from the first one on without gap or overlap.

What is said about a run is said about its record: the calls to the api, the batches that
were taken, and the questions whether to go on, which separate the turns of the loop.  The
api is the one that puts every call as a question, so a server stands for any api and any
surroundings, and `Schedule` for any order in which blocks arrive.
-/

namespace ChainIndex.Indexer

open ChainIndex.Task

/-! ## What is seen of a run -/

/-- A batch that was taken. -/
structure Delivery where
  /-- The number of the head that was read before it in the same turn. -/
  head : Option BlockNumber
  batch : Batch

/-- What is seen of a run so far. -/
structure Seen where
  /-- The number of the head that was read in this turn. -/
  head : Option BlockNumber
  deliveries : List Delivery

/-- What is seen after one more exchange. -/
def Seen.note (seen : Seen) : Exchange (Calls.sum Surroundings) → Seen
  | ⟨.inr .goOn, _⟩ => { seen with head := none }
  | ⟨.inl (.header _), answer⟩ =>
    match (answer : Except ApiError Header) with
    | .ok header => { seen with head := some header.number }
    | .error _ => seen
  | ⟨.inr (.deliver batch), taken⟩ =>
    match (taken : Bool) with
    | true => { seen with deliveries := seen.deliveries ++ [⟨seen.head, batch⟩] }
    | false => seen
  | ⟨.inl _, _⟩ | ⟨.inr (.pause _), _⟩ => seen

/-- What is seen of a run with this record. -/
def seen (record : List (Exchange (Calls.sum Surroundings))) : Seen :=
  record.foldl Seen.note ⟨none, []⟩

/-- What was seen before an exchange is noted once more. -/
theorem seen_concat (record : List (Exchange (Calls.sum Surroundings)))
    (exchange : Exchange (Calls.sum Surroundings)) :
    seen (record ++ [exchange]) = (seen record).note exchange :=
  List.foldl_append

/-- Nothing is seen of the calls of a fetcher. -/
theorem foldl_note_of_isFetch {more : List (Exchange (Calls.sum Surroundings))}
    (h : ∀ exchange ∈ more, ∃ call : Call, exchange.query = .inl call ∧ call.isFetch = true)
    (before : Seen) : more.foldl Seen.note before = before := by
  induction more generalizing before with
  | nil => rfl
  | cons exchange more ih =>
    obtain ⟨hfirst, hmore⟩ := List.forall_mem_cons.mp h
    obtain ⟨call, hquery, hfetch⟩ := hfirst
    have hnote : before.note exchange = before := by
      obtain ⟨query, answer⟩ := exchange
      obtain rfl : query = .inl call := hquery
      cases call with
      | header hash => cases hfetch
      | _ => rfl
    rw [List.foldl_cons, hnote]
    exact ih hmore before

/-! ## The invariant -/

/-- Batches that cover the heights from `first` up to before `past`, one after the other. -/
def Tiles (first : Nat) : List Batch → (past : Nat) → Prop
  | [], past => past = first
  | batch :: batches, past =>
    batch.first.toNat = first ∧ first ≤ batch.last.toNat ∧
      Tiles (batch.last.toNat + 1) batches past

/-- Batches that cover heights cover more with one more batch behind them. -/
theorem Tiles.concat {first past : Nat} {batches : List Batch} (h : Tiles first batches past)
    {batch : Batch} (hfirst : batch.first.toNat = past) (hlast : past ≤ batch.last.toNat) :
    Tiles first (batches ++ [batch]) (batch.last.toNat + 1) := by
  induction batches generalizing first with
  | nil =>
    obtain rfl : past = first := h
    exact ⟨hfirst, hlast, rfl⟩
  | cons other batches ih =>
    obtain ⟨hother, hle, hrest⟩ := h
    exact ⟨hother, hle, ih hrest⟩

/-- Batches that cover heights lie below where these end. -/
theorem Tiles.bounds {first past : Nat} {batches : List Batch} (h : Tiles first batches past) :
    first ≤ past ∧ ∀ batch ∈ batches, batch.last.toNat < past := by
  induction batches generalizing first with
  | nil =>
    obtain rfl : past = first := h
    simp
  | cons batch batches ih =>
    obtain ⟨-, hle, hrest⟩ := h
    obtain ⟨hpast, hbounds⟩ := ih hrest
    refine ⟨by omega, ?_⟩
    intro other hmem
    obtain rfl | hmem := List.mem_cons.mp hmem
    · omega
    · exact hbounds other hmem

/-- The batches that were taken cover the heights from the first one up to before `past`; none
is too large, and none goes beyond the last height, or beyond the head read in its turn. -/
structure Covered (config : IndexerConfig) (deliveries : List Delivery) (past : Nat) : Prop where
  tiles : Tiles config.startHeight.toNat (deliveries.map Delivery.batch) past
  size : ∀ d ∈ deliveries, d.batch.last.toNat + 1 - d.batch.first.toNat ≤ config.batchSize.toNat
  bounded : ∀ d ∈ deliveries, ∃ bound, config.endHeight.or d.head = some bound ∧
    d.batch.last ≤ bound

/-- No batches cover no heights, from the first one on. -/
theorem covered_nil (config : IndexerConfig) : Covered config [] config.startHeight.toNat where
  tiles := rfl
  size := by simp
  bounded := by simp

/-- One more batch, which begins where the others end. -/
theorem Covered.deliver {config : IndexerConfig} {deliveries : List Delivery} {past : Nat}
    (h : Covered config deliveries past) {d : Delivery} (hfirst : d.batch.first.toNat = past)
    (hlast : d.batch.first ≤ d.batch.last)
    (hsize : d.batch.last.toNat + 1 - d.batch.first.toNat ≤ config.batchSize.toNat)
    {bound : BlockNumber} (hbound : config.endHeight.or d.head = some bound)
    (hle : d.batch.last ≤ bound) :
    Covered config (deliveries ++ [d]) (d.batch.last.toNat + 1) where
  tiles := by
    rw [List.map_append]
    refine h.tiles.concat hfirst ?_
    rw [← hfirst]
    exact UInt64.le_iff_toNat_le.mp hlast
  size := by
    intro d' hmem
    obtain hold | hnew := List.mem_append.mp hmem
    · exact h.size d' hold
    · rw [List.mem_singleton.mp hnew]
      exact hsize
  bounded := by
    intro d' hmem
    obtain hold | hnew := List.mem_append.mp hmem
    · exact h.bounded d' hold
    · rw [List.mem_singleton.mp hnew]
      exact ⟨bound, hbound, hle⟩

/-- A part of a run ends with heights covered up to before the next height, or up to the
largest height of all, and only in the first case does the loop go on. -/
def OnTrack {σ κ : Type} (config : IndexerConfig)
    (x : Except IndexerError Turn × (σ × BlockNumber) ×
      κ × List (Exchange (Calls.sum Surroundings))) : Prop :=
  ∃ past, Covered config (seen x.2.2.2).deliveries past ∧
    x.2.1.2.toNat = min past (2 ^ 64 - 1) ∧ (x.1 = .ok .again → past < 2 ^ 64)

/-- Where the loop goes on, the heights covered end right before the next one. -/
theorem OnTrack.covered {σ κ : Type} {config : IndexerConfig} {s : σ} {next : BlockNumber} {k : κ}
    {record : List (Exchange (Calls.sum Surroundings))}
    (h : OnTrack config (.ok .again, (s, next), k, record)) :
    Covered config (seen record).deliveries next.toNat := by
  obtain ⟨past, hcovered, hnext, hagain⟩ := h
  have hlt : past < 2 ^ 64 := hagain rfl
  have hpast : past = next.toNat := by
    simp only at hnext
    omega
  rw [← hpast]
  exact hcovered

/-- The one difference of the loop does not underflow, and its two sums do not overflow: they
are cut off at the largest height. -/
structure Exact (config : IndexerConfig) : Prop where
  difference : (config.batchSize - 1).toNat + 1 = config.batchSize.toNat
  last : ∀ start, (addHeights start (config.batchSize - 1)).toNat =
    min (start.toNat + (config.batchSize.toNat - 1)) (2 ^ 64 - 1)
  next : ∀ last, (addHeights last 1).toNat = min (last.toNat + 1) (2 ^ 64 - 1)

/-! ## Parts of a turn -/

section

variable {σ κ : Type} (config : IndexerConfig) (server : Server (Calls.sum Surroundings) κ)
  (s : σ) (next : BlockNumber) (k : κ) (record : List (Exchange (Calls.sum Surroundings)))

/-- Nothing is seen of fetching. -/
theorem seen_indexedRange (limit : Nat) (schedule : Schedule σ Calls) (first last : BlockNumber) :
    seen ((Fetcher.indexedRange ⟨.asking, limit, schedule⟩ first last).run
      server.recording.left s (k, record)).2.2.2 = seen record := by
  have hrange : (Fetcher.indexedRange (S := Calls) ⟨.asking, limit, schedule⟩ first last).Asks
      (fun query => ∃ call : Call,
        (Sum.inl query : (Calls.sum Surroundings).Query) = .inl call ∧ call.isFetch = true)
      fun _ => True :=
    Fetcher.asks_indexedRange (fun call h => asks_question ⟨call, rfl, h⟩) first last
  have hasks : (onApi (Fetcher.indexedRange ⟨.asking, limit, schedule⟩ first last)).Asks
      (fun query : (Calls.sum Surroundings).Query =>
        ∃ call : Call, query = .inl call ∧ call.isFetch = true) fun _ => True :=
    (hrange.within .first).inLeft
  obtain ⟨-, more, hrecord, hmore⟩ := hasks.recorded server (s, 0) k record
  rw [run_onApi] at hrecord
  rw [hrecord, seen, List.foldl_append]
  exact foldl_note_of_isFetch hmore _

/-- Asking for the head is one exchange. -/
theorem attempt_asking_finalizedHead :
    attempt server.recording.left (Api.finalizedHead .asking) s (k, record) =
      ((server (.inl .finalizedHead) k).1, s, (server (.inl .finalizedHead) k).2,
        record ++ [⟨.inl .finalizedHead, (server (.inl .finalizedHead) k).1⟩]) := rfl

/-- Asking for a header is one exchange. -/
theorem attempt_asking_header (hash : BlockHash) :
    attempt server.recording.left (Api.header .asking hash) s (k, record) =
      ((server (.inl (.header hash)) k).1, s, (server (.inl (.header hash)) k).2,
        record ++ [⟨.inl (.header hash), (server (.inl (.header hash)) k).1⟩]) := rfl

/-- The target is the last height or the head that was just read. -/
theorem seen_target (start : BlockNumber) :
    ∃ result k' record',
      attempt server.recording (target config .asking start) (s, next) (k, record) =
        (result, (s, next), k', record') ∧
      (seen record').deliveries = (seen record).deliveries ∧
      ∀ bound, result = .ok (some bound) →
        config.endHeight.or (seen record').head = some bound := by
  rw [attempt_target]
  cases hend : config.endHeight with
  | some last =>
    refine ⟨_, k, record, rfl, rfl, ?_⟩
    intro bound hresult
    split at hresult
    · cases hresult
    · exact Except.ok.inj hresult
  | none =>
    simp only
    rw [attempt_headNumber, attempt_asking_finalizedHead]
    cases hhead : server (.inl .finalizedHead) k with
    | mk answer k' =>
      cases answer with
      | error e =>
        refine ⟨_, _, _, rfl, ?_, fun bound hresult => by cases hresult⟩
        rw [seen_concat]
        rfl
      | ok head =>
        simp only
        rw [attempt_asking_header]
        cases hheader : server (.inl (.header head)) k' with
        | mk answer k' =>
          cases answer with
          | error e =>
            refine ⟨_, _, _, rfl, ?_, fun bound hresult => by cases hresult⟩
            rw [seen_concat, seen_concat]
            rfl
          | ok header =>
            refine ⟨_, _, _, rfl, ?_, fun bound hresult => ?_⟩
            · rw [seen_concat, seen_concat]
              rfl
            · rw [seen_concat, seen_concat]
              exact Except.ok.inj hresult

/-- A batch is either taken as a whole, and the next height moves past its end, or nothing is
seen of it and the loop does not go on. -/
theorem seen_indexBatch (limit : Nat) (schedule : Schedule σ Calls) (start last : BlockNumber) :
    let x := attempt server.recording (indexBatch config ⟨.asking, limit, schedule⟩ start last)
      (s, next) (k, record)
    (x.1 ≠ .ok .again ∧ x.2.1.2 = next ∧
      (seen x.2.2.2).deliveries = (seen record).deliveries) ∨
    ∃ blocks, x.1 = .ok (if last = 0xFFFFFFFFFFFFFFFF then .ended else .again) ∧
      x.2.1.2 = addHeights last 1 ∧
      (seen x.2.2.2).deliveries = (seen record).deliveries ++
        [⟨(seen record).head, Batch.ofBlocks config.filters start last blocks⟩] := by
  intro x
  have hx : x = _ := attempt_indexBatch server.recording s next (k, record) config _ start last
  have hseen := seen_indexedRange server s k record limit schedule start last
  cases hrange : (Fetcher.indexedRange ⟨.asking, limit, schedule⟩ start last).run
      server.recording.left s (k, record) with
  | mk result rest =>
    obtain ⟨s', k', record'⟩ := rest
    rw [hrange] at hx hseen
    cases result with
    | error e =>
      left
      rw [hx]
      exact ⟨nofun, rfl, congrArg Seen.deliveries hseen⟩
    | ok blocks =>
      simp only at hx hseen
      rw [recording_right] at hx
      cases htaken :
          server (.inr (.deliver (Batch.ofBlocks config.filters start last blocks))) k' with
      | mk taken k'' =>
        rw [htaken] at hx
        cases taken with
        | false =>
          left
          rw [hx]
          refine ⟨nofun, rfl, ?_⟩
          simp only [seen_concat, hseen]
          rfl
        | true =>
          right
          rw [hx]
          refine ⟨blocks, rfl, rfl, ?_⟩
          simp only [seen_concat, hseen]
          rfl

/-! ## Turns -/

variable {config record next}

/-- A part of a run that delivers nothing and leaves the next height alone stays on track. -/
theorem onTrack_of_unchanged (h : Covered config (seen record).deliveries next.toNat)
    {x : Except IndexerError Turn × (σ × BlockNumber) ×
      κ × List (Exchange (Calls.sum Surroundings))}
    (hnext : x.2.1.2 = next) (hseen : (seen x.2.2.2).deliveries = (seen record).deliveries) :
    OnTrack config x := by
  have hlt := UInt64.toNat_lt next
  refine ⟨next.toNat, ?_, ?_, fun _ => hlt⟩
  · rw [hseen]
    exact h
  · rw [hnext]
    omega

/-- Indexing a batch that begins at the next height and ends within its bounds stays on track. -/
theorem indexBatch_onTrack (h : Covered config (seen record).deliveries next.toNat)
    (limit : Nat) (schedule : Schedule σ Calls) {last bound : BlockNumber} (hlast : next ≤ last)
    (hsize : last.toNat + 1 - next.toNat ≤ config.batchSize.toNat)
    (hbound : config.endHeight.or (seen record).head = some bound) (hle : last ≤ bound) :
    OnTrack config (attempt server.recording
      (indexBatch config ⟨.asking, limit, schedule⟩ next last) (s, next) (k, record)) := by
  obtain ⟨-, hnext, hseen⟩ | ⟨blocks, hresult, hnext, hseen⟩ :=
    seen_indexBatch config server s next k record limit schedule next last
  · exact onTrack_of_unchanged h hnext hseen
  · refine ⟨last.toNat + 1, ?_, ?_, ?_⟩
    · rw [hseen]
      exact h.deliver rfl hlast hsize hbound hle
    · rw [hnext, toNat_addHeights]
      rfl
    · intro hagain
      rw [hresult] at hagain
      split at hagain
      · cases hagain
      · next hmax =>
        have hlt := UInt64.toNat_lt last
        have hne : last.toNat ≠ 2 ^ 64 - 1 := fun e => hmax (UInt64.toNat_inj.mp e)
        omega

/-- A turn of the loop keeps to its track, whatever it is answered. -/
theorem turn_onTrack (hsize : config.batchSize ≠ 0)
    (h : Covered config (seen record).deliveries next.toNat) (limit : Nat)
    (schedule : Schedule σ Calls) :
    OnTrack config (attempt server.recording (turn config ⟨.asking, limit, schedule⟩) (s, next)
      (k, record)) := by
  rw [attempt_turn, recording_right]
  have hgoOn : ∀ answer : Bool, (seen (record ++ [⟨.inr .goOn, answer⟩])).deliveries =
      (seen record).deliveries := by
    intro answer
    rw [seen_concat]
    rfl
  cases hgo : server (.inr .goOn) k with
  | mk mayGoOn k' =>
    cases mayGoOn with
    | false => exact onTrack_of_unchanged h rfl (hgoOn false)
    | true =>
      obtain ⟨result, k'', record', htarget, hseen, hbound⟩ := seen_target config server s next k'
        (record ++ [⟨.inr .goOn, true⟩]) next
      rw [hgoOn] at hseen
      simp only
      rw [htarget]
      cases result with
      | error e => exact onTrack_of_unchanged h rfl hseen
      | ok target =>
        cases target with
        | none => exact onTrack_of_unchanged h rfl hseen
        | some target =>
          simp only
          by_cases hwait : target < next
          · rw [if_pos hwait, recording_right]
            refine onTrack_of_unchanged h rfl ?_
            rw [seen_concat]
            exact hseen
          · rw [if_neg hwait]
            obtain ⟨hfirst, hle, hfits⟩ := bounds_of_batch hsize (UInt64.not_lt.mp hwait)
            refine indexBatch_onTrack server s k'' ?_ limit schedule hfirst hfits
              (hbound target rfl) hle
            rw [hseen]
            exact h

/-- Every number of turns stays on track. -/
theorem run_onTrack (hsize : config.batchSize ≠ 0)
    (h : Covered config (seen record).deliveries next.toNat) (limit : Nat)
    (schedule : Schedule σ Calls) (turns : Nat) :
    OnTrack config (attempt server.recording (run config ⟨.asking, limit, schedule⟩ turns)
      (s, next) (k, record)) := by
  induction turns generalizing s next k record with
  | zero => exact onTrack_of_unchanged h rfl rfl
  | succ turns ih =>
    have hturn := turn_onTrack server s k hsize h limit schedule
    rw [attempt_run]
    cases hx : attempt server.recording (turn config ⟨.asking, limit, schedule⟩) (s, next)
        (k, record) with
    | mk result rest =>
      obtain ⟨⟨s', next'⟩, k', record'⟩ := rest
      rw [hx] at hturn
      cases result with
      | error e => exact hturn
      | ok outcome =>
        cases outcome with
        | ended => exact hturn
        | again => exact ih s' k' hturn.covered

end

/-- For every accepted configuration, every api and every surroundings, the batches taken after
any number of turns cover the heights from the first one on without gap or overlap, within
their size and their bounds, and the next height is the one after them. -/
theorem run_covers {σ κ : Type} (config : IndexerConfig) (hcheck : config.check = .ok ())
    (server : Server (Calls.sum Surroundings) κ) (limit : Nat) (schedule : Schedule σ Calls)
    (turns : Nat) (s : σ) (k : κ) :
    OnTrack config (attempt server.recording (run config ⟨.asking, limit, schedule⟩ turns)
      (s, config.startHeight) (k, [])) ∧ Exact config := by
  obtain ⟨hsize, -, -⟩ := of_check hcheck
  have hstart : Covered config (seen []).deliveries config.startHeight.toNat :=
    covered_nil config
  refine ⟨run_onTrack server s k hsize hstart limit schedule turns, ?_, ?_, ?_⟩
  · have hpos := toNat_ne_zero hsize
    rw [toNat_sub_one hsize]
    omega
  · intro start
    rw [toNat_addHeights, toNat_sub_one hsize]
  · intro last
    exact toNat_addHeights last 1

/-- An api whose answers depend on nothing but the call, with surroundings that let an indexer
go on and take every batch. -/
def steady (answer : (call : Call) → call.Answer) : Server (Calls.sum Surroundings) Unit
  | .inl call, k => (answer call, k)
  | .inr .goOn, k => (true, k)
  | .inr (.deliver _), k => (true, k)
  | .inr (.pause _), k => ((), k)

/-- A list of two blocks, of which the last one is the head. -/
def twoBlocks : BlockList :=
  let hash (n : UInt8) : BlockHash := ⟨Vector.replicate 32 n⟩
  ⟨[(⟨⟨hash 1, 1, .zero, []⟩, [], none⟩, []), (⟨⟨hash 2, 2, hash 1, []⟩, [], none⟩, [])],
    1, [], [], [], []⟩

/-- A run with the usual configuration, which follows the head of a list of blocks: one batch
is taken, and the next turn waits. -/
theorem run_covers_twoBlocks :
    let x := attempt (steady twoBlocks.answer).recording
      (run .standard ⟨.asking, 8, .inOrder⟩ 2) ((), 1) ((), [])
    IndexerConfig.standard.check = .ok () ∧ OnTrack .standard x ∧
      (seen x.2.2.2).deliveries.map (fun d => (d.head, d.batch.first, d.batch.last)) =
        [(some 2, 1, 2)] := by
  refine ⟨check_standard, ?_, by decide +kernel⟩
  exact (run_covers .standard check_standard (steady twoBlocks.answer) 8 .inOrder 2 () ()).1

end ChainIndex.Indexer
