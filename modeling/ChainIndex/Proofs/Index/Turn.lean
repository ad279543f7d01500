import ChainIndex.Index.Run
import ChainIndex.Proofs.Task.Run
import Mathlib.Algebra.Group.Nat.Defs

/-!
# ChainIndex.Proofs.Index.Turn

What a turn of an indexer's loop does, as one equation per part.

An equation gives how the part ends, the state after it and what becomes of those around
from the answers of the api and of those around.  Only `attempt_indexBatch` shows a new next
height, so the other parts leave it alone.
-/

namespace ChainIndex.Indexer

open ChainIndex.Task

variable {σ κ : Type} {S : Signature} {α : Type}

/-! ## Arithmetic of heights -/

/-- Heights are added exactly and cut off at the largest height. -/
theorem toNat_addHeights (a b : UInt64) :
    (addHeights a b).toNat = min (a.toNat + b.toNat) (2 ^ 64 - 1) := by
  unfold addHeights
  split
  · next h => rw [UInt64.toNat_add]; omega
  · next h =>
    have hmax : (0xFFFFFFFFFFFFFFFF : UInt64).toNat = 2 ^ 64 - 1 := rfl
    rw [hmax]
    omega

/-- Below the largest height there is a next one. -/
theorem toNat_addHeights_one {height : UInt64} (h : height ≠ 0xFFFFFFFFFFFFFFFF) :
    (addHeights height 1).toNat = height.toNat + 1 := by
  have hlt := UInt64.toNat_lt height
  have hne : height.toNat ≠ 2 ^ 64 - 1 := fun e => h (UInt64.toNat_inj.mp e)
  rw [toNat_addHeights, UInt64.toNat_one]
  omega

theorem toNat_ne_zero {n : UInt64} (h : n ≠ 0) : n.toNat ≠ 0 :=
  fun e => h (UInt64.toNat_inj.mp e)

/-- A batch is never empty, so its size less one does not underflow. -/
theorem toNat_sub_one {size : UInt64} (h : size ≠ 0) : (size - 1).toNat = size.toNat - 1 := by
  have hone : (1 : UInt64) ≤ size := by
    have hpos := toNat_ne_zero h
    rw [UInt64.le_iff_toNat_le, UInt64.toNat_one]
    omega
  rw [UInt64.toNat_sub_of_le _ _ hone]
  rfl

theorem toNat_min (a b : UInt64) : (min a b).toNat = min a.toNat b.toNat := by
  show (if a ≤ b then a else b).toNat = min a.toNat b.toNat
  have hle : a ≤ b ↔ a.toNat ≤ b.toNat := UInt64.le_iff_toNat_le
  by_cases h : a ≤ b
  · rw [if_pos h, Nat.min_eq_left (hle.mp h)]
  · rw [if_neg h, Nat.min_eq_right (Nat.le_of_not_le fun e => h (hle.mpr e))]

/-- The last height of a batch lies within its target and within the size of a batch. -/
theorem bounds_of_batch {next target size : UInt64} (hsize : size ≠ 0) (htarget : next ≤ target) :
    next ≤ min target (addHeights next (size - 1)) ∧
      min target (addHeights next (size - 1)) ≤ target ∧
      (min target (addHeights next (size - 1))).toNat + 1 - next.toNat ≤ size.toNat := by
  have hpos := toNat_ne_zero hsize
  have hnext := UInt64.toNat_lt next
  rw [UInt64.le_iff_toNat_le] at htarget
  rw [UInt64.le_iff_toNat_le, UInt64.le_iff_toNat_le, toNat_min, toNat_addHeights,
    toNat_sub_one hsize]
  omega

/-! ## Accepted configurations -/

/-- What the check of a configuration is about, as far as the loop is concerned. -/
theorem of_check {config : IndexerConfig} (h : config.check = .ok ()) :
    config.batchSize ≠ 0 ∧ config.concurrency ≠ 0 ∧
      ∀ last, config.endHeight = some last → config.startHeight ≤ last := by
  unfold IndexerConfig.check at h
  cases hf : config.family with
  | error e => rw [hf] at h; cases h
  | ok family =>
    cases he : config.endpoint with
    | error e => rw [hf, he] at h; cases h
    | ok endpoint =>
      rw [hf, he] at h
      simp only [Bind.bind, Except.bind, Pure.pure, Except.pure] at h
      by_cases hbatch : config.batchSize = 0
      · rw [if_pos hbatch] at h
        cases h
      · rw [if_neg hbatch] at h
        by_cases hconcurrency : config.concurrency = 0
        · rw [if_pos hconcurrency] at h
          cases h
        · rw [if_neg hconcurrency] at h
          refine ⟨hbatch, hconcurrency, ?_⟩
          intro last hlast
          rw [hlast] at h
          by_cases hlt : last < config.startHeight
          · simp only [if_pos hlt] at h
            cases h
          · exact UInt64.not_lt.mp hlt

/-- A configuration that passes the check has no fault. -/
theorem check_of_isOk {config : IndexerConfig} (h : config.check.isOk = true) :
    config.check = .ok () := by
  generalize config.check = result at h ⊢
  cases result with
  | ok accepted => rfl
  | error e => cases h

/-- The usual configuration is accepted. -/
theorem check_standard : IndexerConfig.standard.check = .ok () :=
  check_of_isOk (by decide +kernel)

/-! ## Parts of a turn -/

variable (server : Server (S.sum Surroundings) κ) (s : σ) (next : BlockNumber) (k : κ)

/-- The api works on its own part of the state. -/
@[simp] theorem run_onApi (task : Task σ S α) :
    (onApi task).run server (s, next) k =
      ((task.run server.left s k).1, ((task.run server.left s k).2.1, next),
        (task.run server.left s k).2.2) := by
  unfold onApi
  rw [run_inLeft, run_within _ _ _ _ _ (fun _ _ _ => rfl) (fun _ _ => rfl) (fun _ => rfl)]
  rfl

theorem attempt_goOn :
    attempt server (ExceptT.lift (askAround .goOn) : Running σ S Bool) (s, next) k =
      (.ok (server.right .goOn k).1, (s, next), (server.right .goOn k).2) := rfl

theorem attempt_deliver (batch : Batch) :
    attempt server (ExceptT.lift (askAround (.deliver batch)) : Running σ S Bool) (s, next) k =
      (.ok (server.right (.deliver batch) k).1, (s, next),
        (server.right (.deliver batch) k).2) := rfl

theorem recording_right (record : List (Exchange (S.sum Surroundings))) (query : Query) :
    server.recording.right query (k, record) =
      ((server (.inr query) k).1, (server (.inr query) k).2,
        record ++ [⟨.inr query, (server (.inr query) k).1⟩]) := rfl

/-- The head of the chain is looked up in two calls. -/
theorem attempt_headNumber (api : Api σ S) :
    attempt server (headNumber api) (s, next) k =
      match attempt server.left api.finalizedHead s k with
      | (.error e, s, k) => (.error (.api e), (s, next), k)
      | (.ok head, s, k) =>
        match attempt server.left (api.header head) s k with
        | (.error e, s, k) => (.error (.api e), (s, next), k)
        | (.ok header, s, k) => (.ok header.number, (s, next), k) := by
  unfold headNumber
  rw [attempt_bind, attempt_adapt, attempt_mk, run_onApi, run_eq_attempt, attempt_bind]
  cases hhead : attempt server.left api.finalizedHead s k with
  | mk result rest =>
    cases result with
    | error e => rfl
    | ok head =>
      simp only
      cases hheader : attempt server.left (api.header head) rest.1 rest.2 with
      | mk result rest => cases result <;> rfl

/-- The target is the last height, or the head where there is none. -/
theorem attempt_target (config : IndexerConfig) (api : Api σ S) (start : BlockNumber) :
    attempt server (target config api start) (s, next) k =
      match config.endHeight with
      | some last => (.ok (if last < start then none else some last), (s, next), k)
      | none =>
        match attempt server (headNumber api) (s, next) k with
        | (.error e, s, k) => (.error e, s, k)
        | (.ok head, s, k) => (.ok (some head), s, k) := by
  unfold target
  cases config.endHeight with
  | some last => rfl
  | none =>
    simp only [attempt_map]
    cases hhead : attempt server (headNumber api) (s, next) k with
    | mk result rest => cases result <;> rfl

/-- A batch that is fetched and taken moves the next height past its end. -/
theorem attempt_indexBatch (config : IndexerConfig) (fetcher : Fetcher σ S)
    (start last : BlockNumber) :
    attempt server (indexBatch config fetcher start last) (s, next) k =
      match (fetcher.indexedRange start last).run server.left s k with
      | (.error e, s, k) => (.error (.fetch e), (s, next), k)
      | (.ok blocks, s, k) =>
        match server.right (.deliver (Batch.ofBlocks config.filters start last blocks)) k with
        | (true, k) =>
          (.ok (if last = 0xFFFFFFFFFFFFFFFF then .ended else .again),
            (s, addHeights last 1), k)
        | (false, k) => (.ok .ended, (s, next), k) := by
  unfold indexBatch
  rw [attempt_bind, attempt_adapt, attempt_mk, run_onApi]
  cases hblocks : (fetcher.indexedRange start last).run server.left s k with
  | mk result rest =>
    obtain ⟨s, k⟩ := rest
    cases result with
    | error e => rfl
    | ok blocks =>
      simp only [mapError_ok]
      rw [attempt_bind, attempt_deliver]
      generalize Batch.ofBlocks config.filters start last blocks = batch
      cases htaken : server.right (.deliver batch) k with
      | mk taken k =>
        cases taken <;> rfl

/-- A turn ends the loop, waits, or indexes a batch from the next height on. -/
theorem attempt_turn (config : IndexerConfig) (fetcher : Fetcher σ S) :
    attempt server (turn config fetcher) (s, next) k =
      match server.right .goOn k with
      | (false, k) => (.ok .ended, (s, next), k)
      | (true, k) =>
        match attempt server (target config fetcher.api next) (s, next) k with
        | (.error e, s, k) => (.error e, s, k)
        | (.ok none, s, k) => (.ok .ended, s, k)
        | (.ok (some target), s, k) =>
          if target < next then (.ok .again, s, (server.right (.pause config.pollInterval) k).2)
          else
            attempt server (indexBatch config fetcher next
              (min target (addHeights next (config.batchSize - 1)))) s k := by
  unfold turn
  rw [attempt_bind, attempt_goOn]
  cases hgo : server.right .goOn k with
  | mk mayGoOn k =>
    cases mayGoOn with
    | false => rfl
    | true =>
      simp only [Bool.not_true, Bool.false_eq_true, ↓reduceIte]
      rw [attempt_bind, attempt_lift, run_read]
      simp only
      rw [attempt_bind]
      cases htarget : attempt server (target config fetcher.api next) (s, next) k with
      | mk result rest =>
        obtain ⟨s, k⟩ := rest
        cases result with
        | error e => rfl
        | ok target =>
          cases target with
          | none => rfl
          | some target =>
            simp only
            by_cases hwait : target < next
            · rw [if_pos hwait, if_pos hwait]
              rfl
            · rw [if_neg hwait, if_neg hwait]

/-- A run goes on until a turn ends it. -/
theorem attempt_run (config : IndexerConfig) (fetcher : Fetcher σ S) (turns : Nat) :
    attempt server (run config fetcher (turns + 1)) (s, next) k =
      match attempt server (turn config fetcher) (s, next) k with
      | (.ok .again, s, k) => attempt server (run config fetcher turns) s k
      | (.ok .ended, s, k) => (.ok .ended, s, k)
      | (.error e, s, k) => (.error e, s, k) := by
  rw [run, attempt_bind]
  cases hturn : attempt server (turn config fetcher) (s, next) k with
  | mk result rest =>
    cases result with
    | error e => rfl
    | ok outcome => cases outcome <;> rfl

end ChainIndex.Indexer
