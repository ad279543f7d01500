import ChainIndex.Proofs.Fetch.Moments
import ChainIndex.Proofs.Fetch.Order
import ChainIndex.Proofs.Fetch.Record
import Mathlib.Data.List.Perm.Basic

/-!
# ChainIndex.Proofs.Fetch.Requests

How many heights a fetch asks for, whichever of its jobs goes on first.

What was asked for is always a beginning of the heights, each asked for once; its jobs are those
released and those running, of which there are no more than the limit (`Window.Underway`).  A job
that has failed stays where it is, so that nothing behind it is released, and the room for further
jobs is soon used up (`Window.Moment.FailedAt`).  A fetch without an end therefore stops a little
way behind the last height of a chain (`Fetcher.requests_bounded`).
-/

namespace ChainIndex

open Relation (ReflTransGen)
open ChainIndex.Task

variable {σ κ : Type} {S : Signature}

/-! ## Steps of a task -/

/-- A step of a task keeps to the terms that the task keeps to, and what is left of it does. -/
theorem Task.Fulfils.goes {α : Type} {terms : Terms σ S} {Q : α → Prop} {server : Server S κ}
    {t t' : Task σ S α} {s s' : σ} {k k' : κ} (h : t.Fulfils terms fun _ a => Q a)
    (hserver : ∀ query k, terms.answer query (server query k).1) (hs : terms.state s)
    (hgoes : Goes server (t, s, k) (t', s', k')) :
    terms.state s' ∧ t'.Fulfils terms fun _ a => Q a := by
  cases hgoes with
  | act change next => exact h s hs
  | ask query next => exact ⟨hs, h _ (hserver query k)⟩

/-! ## What holds at every moment -/

namespace Window

variable {ε β : Type} {terms : Terms σ S} {Ends : BlockNumber → Except ε β → Prop}
  {job : BlockNumber → Task σ S (Except ε β)} {limit : Nat} {server : Server S κ}
  {heights : List BlockNumber} {m m' : Moment σ S ε β κ}

/-- The job at a place stands for some height, and so does what is left of it later. -/
theorem Stands.exists_at {running : List (Task σ S (Except ε β))} {working : List BlockNumber}
    {place : Nat} {t : Task σ S (Except ε β)} (h : Stands terms Ends running working)
    (hplace : running[place]? = some t) :
    ∃ height, (t.Fulfils terms fun _ result => Ends height result) ∧
      ∀ t' : Task σ S (Except ε β), (t'.Fulfils terms fun _ result => Ends height result) →
        Stands terms Ends (running.set place t') working := by
  induction h generalizing place with
  | nil => cases hplace
  | @cons _ height _ _ hfirst hjobs ih =>
    cases place with
    | zero =>
      obtain rfl := Option.some.inj hplace
      exact ⟨height, hfirst, fun t' ht => .cons ht hjobs⟩
    | succ place =>
      obtain ⟨height, ht, hset⟩ := ih hplace
      exact ⟨height, ht, fun t' ht' => .cons hfirst (hset t' ht')⟩

/-- What holds at every moment of a fetch of some heights: those asked for are the first of them,
and their jobs have either given the results that are released or are running, no more than the
limit at a time. -/
structure Underway (terms : Terms σ S) (Ends : BlockNumber → Except ε β → Prop) (limit : Nat)
    (heights : List BlockNumber) (m : Moment σ S ε β κ) : Prop where
  order : m.requested ++ m.window.waiting.toList = heights
  room : m.window.running.length ≤ limit
  state : terms.state m.state
  jobs : ∃ finished working, m.requested = finished ++ working ∧
    List.Forall₂ (fun height b => Ends height (.ok b)) finished m.window.released.reverse ∧
    Stands terms Ends m.window.running working

namespace Underway

/-- Before the first step no height is asked for. -/
theorem before (heights : Heights) {s : σ} (hs : terms.state s) (k : κ) :
    Underway terms Ends limit heights.toList (Moment.before heights s k) :=
  ⟨rfl, Nat.zero_le limit, hs, [], [], rfl, .nil, .nil⟩

/-- What was asked for has been released or is running. -/
theorem length_requested (h : Underway terms Ends limit heights m) :
    m.requested.length = m.window.released.length + m.window.running.length := by
  obtain ⟨finished, working, hrequested, hfinished, hworking⟩ := h.jobs
  rw [hrequested, List.length_append, hfinished.length_eq, List.length_reverse,
    List.Forall₂.length_eq hworking]

/-- There are never more heights asked for than results released and jobs running. -/
theorem length_requested_le (h : Underway terms Ends limit heights m) :
    m.requested.length ≤ m.window.released.length + limit := by
  rw [h.length_requested]
  exact Nat.add_le_add_left h.room _

section

variable (hjob : ∀ height, (job height).Fulfils terms fun _ result => Ends height result)
  (hserver : ∀ query k, terms.answer query (server query k).1)
include hjob hserver

/-- One step keeps what holds at every moment. -/
theorem step (h : Underway terms Ends limit heights m) (hstep : Step job limit server m m') :
    Underway terms Ends limit heights m' := by
  obtain ⟨horder, hroom, hs, finished, working, hrequested, hfinished, hworking⟩ := h
  cases hstep with
  | @start requested waiting rest height running released s k hfree hnext =>
    obtain rfl : requested = finished ++ working := hrequested
    refine ⟨?_, ?_, hs, finished, working ++ [height], List.append_assoc _ _ _, hfinished,
      List.rel_append hworking (.cons (hjob height) .nil)⟩
    · rw [← horder, Heights.toList_of_next? hnext, List.append_assoc]
      rfl
    · simp only [List.length_append, List.length_singleton]
      omega
  | @goOn requested waiting running released place t t' s s' k k' hplace hgoes =>
    obtain ⟨height, ht, hset⟩ := hworking.exists_at hplace
    obtain ⟨hstate, ht'⟩ := ht.goes hserver hs hgoes
    refine ⟨horder, ?_, hstate, finished, working, hrequested, hfinished, hset t' ht'⟩
    rwa [List.length_set]
  | @release requested waiting b running released s k =>
    obtain ⟨height, working, hfirst, hrest, rfl⟩ := List.forall₂_cons_left_iff.mp hworking
    obtain rfl : requested = finished ++ height :: working := hrequested
    refine ⟨horder, Nat.le_of_succ_le hroom, hs, finished ++ [height], working,
      List.append_cons _ _ _, ?_, hrest⟩
    simp only [List.reverse_cons]
    exact List.rel_append hfinished (.cons hfirst .nil)

/-- So it holds at every moment that is reached. -/
theorem steps (h : Underway terms Ends limit heights m)
    (hsteps : ReflTransGen (Step job limit server) m m') :
    Underway terms Ends limit heights m' :=
  keeps_of_steps (fun _ _ hstep hm => hm.step hjob hserver hstep) hsteps h

end

/-- Where a fetch has ended with all results, everything was asked for and has given one. -/
theorem requested_of_ok {results : List β} (h : Underway terms Ends limit heights m)
    (hended : Ended m.window (.ok results)) :
    m.requested = heights ∧ ∀ height ∈ heights, ∃ b, Ends height (.ok b) := by
  obtain ⟨horder, -, -, finished, working, hrequested, hfinished, hworking⟩ := h
  obtain ⟨requested, window, s, k⟩ := m
  cases hended with
  | all hnone =>
    simp only at horder hrequested hfinished hworking
    obtain rfl := List.forall₂_nil_left_iff.mp hworking
    rw [Heights.toList_of_next?_eq_none hnone, List.append_nil] at horder
    rw [List.append_nil] at hrequested
    refine ⟨horder, ?_⟩
    rw [← horder, hrequested]
    exact exists_of_forall₂ hfinished

/-- A height whose job cannot give a result is not released, so that the room behind it is used
up. -/
theorem length_requested_le_of_fails {height : BlockNumber} {before after : List BlockNumber}
    (h : Underway terms Ends limit (before ++ height :: after) m)
    (hfails : ∀ b, ¬ Ends height (.ok b)) : m.requested.length ≤ before.length + limit := by
  have hbound := h.length_requested_le
  obtain ⟨horder, -, -, finished, working, hrequested, hfinished, -⟩ := h
  have hlength := hfinished.length_eq
  rw [List.length_reverse] at hlength
  rw [hrequested, List.append_assoc] at horder
  obtain ⟨rest, rfl, -⟩ | ⟨rest, rfl, hrest⟩ := List.append_eq_append_iff.mp horder
  · rw [List.length_append]
    omega
  · cases rest with
    | nil =>
      rw [List.append_nil] at hlength
      omega
    | cons first rest =>
      -- the height would be among those that have given a result
      obtain ⟨rfl, -⟩ := List.cons.inj hrest
      obtain ⟨b, hb⟩ := exists_of_forall₂ hfinished height (by simp)
      exact absurd hb (hfails b)

end Underway

/-! ## Failed jobs -/

/-- Whether the job at a position, counted from the first height, has failed. -/
def Moment.FailedAt (m : Moment σ S ε β κ) (position : Nat) : Prop :=
  ∃ place e, position = m.window.released.length + place ∧
    m.window.running[place]? = some (.done (.error e))

/-- What has failed stays so, in its position. -/
theorem Moment.FailedAt.step {position : Nat} (h : m.FailedAt position)
    (hstep : Step job limit server m m') : m'.FailedAt position := by
  obtain ⟨place, e, rfl, hplace⟩ := h
  cases hstep with
  | start hfree hnext =>
    refine ⟨place, e, rfl, ?_⟩
    exact (List.getElem?_append_left (List.getElem?_eq_some_iff.mp hplace).1).trans hplace
  | @goOn _ _ running _ other t t' _ _ _ _ hother hgoes =>
    refine ⟨place, e, rfl, ?_⟩
    have hne : other ≠ place := by
      rintro rfl
      obtain rfl := Option.some.inj (hother.symm.trans hplace)
      cases hgoes
    exact (List.getElem?_set_ne hne).trans hplace
  | release =>
    cases place with
    | zero => cases hplace
    | succ place => exact ⟨place, e, by simp only [List.length_cons]; omega, hplace⟩

/-- A position at which a fetch has failed stays one, step by step. -/
theorem Moment.FailedAt.steps {position : Nat} (h : m.FailedAt position)
    (hsteps : ReflTransGen (Step job limit server) m m') : m'.FailedAt position :=
  keeps_of_steps (P := (Moment.FailedAt · position)) (fun _ _ hstep hm => hm.step hstep) hsteps h

/-- Behind what has failed, the room is used up. -/
theorem Underway.length_requested_le_of_failedAt {position : Nat}
    (h : Underway terms Ends limit heights m) (hfailed : m.FailedAt position) :
    m.requested.length ≤ position + limit := by
  obtain ⟨place, e, rfl, -⟩ := hfailed
  have hbound := h.length_requested_le
  omega

/-- Where a fetch has ended with an error, this is how the job of a height has ended, and the
heights before it have given the results that are released. -/
theorem Underway.exists_failed {e : ε} (h : Underway terms Ends limit heights m)
    (hended : Ended m.window (.error e)) :
    ∃ finished height rest, heights = finished ++ height :: rest ∧
      (∀ other ∈ finished, ∃ b, Ends other (.ok b)) ∧ Ends height (.error e) ∧
      m.window.released.length = finished.length ∧ m.FailedAt finished.length := by
  obtain ⟨horder, -, -, finished, working, hrequested, hfinished, hworking⟩ := h
  obtain ⟨requested, window, s, k⟩ := m
  cases hended with
  | @failed waiting _ running released =>
    simp only at horder hrequested hfinished hworking
    obtain ⟨height, working, hfirst, -, rfl⟩ := List.forall₂_cons_left_iff.mp hworking
    have hlength := hfinished.length_eq
    rw [List.length_reverse] at hlength
    refine ⟨finished, height, working ++ waiting.toList, ?_, exists_of_forall₂ hfinished, hfirst,
      hlength.symm, 0, e, hlength, rfl⟩
    rw [← horder, hrequested, List.append_assoc, List.cons_append]

/-- What was asked for stays so. -/
theorem Step.requested_prefix (h : Step job limit server m m') : m.requested <+: m'.requested := by
  cases h with
  | start hroom hnext => exact List.prefix_append _ _
  | goOn hplace hgoes => exact List.prefix_rfl
  | release => exact List.prefix_rfl

/-- Heights that were asked for stay so, step by step. -/
theorem requested_prefix_of_steps (h : ReflTransGen (Step job limit server) m m') :
    m.requested <+: m'.requested :=
  keeps_of_steps (P := (m.requested <+: ·.requested))
    (fun _ _ hstep hprefix => hprefix.trans hstep.requested_prefix) h List.prefix_rfl

end Window

/-! ## Questions asked -/

namespace Task

variable {α : Type}

/-- The question that a task waits to have answered. -/
def query? : Task σ S α → Option S.Query
  | .ask query _ => some query
  | _ => none

/-- A task that asks nothing, or one question with whose answer it ends. -/
def AsksOnce : Task σ S α → Prop
  | .done _ => True
  | .act _ _ => False
  | .ask _ next => ∀ a, ∃ b, next a = .done b

end Task

namespace Window

variable {ε β : Type} {job : BlockNumber → Task σ S (Except ε β)} {limit : Nat}
  {server : Server S κ} {query : BlockNumber → S.Query}

/-- The questions that running jobs wait to have answered. -/
def pending (w : Window σ S ε β) : List S.Query := w.running.filterMap Task.query?

/-- Of jobs that each ask one question, all questions were asked that stand for the heights asked
for, each once: some are answered, and some are waiting. -/
structure Asked (query : BlockNumber → S.Query)
    (m : Moment σ S ε β (κ × List (Exchange S))) : Prop where
  once : ∀ t ∈ m.window.running, t.AsksOnce
  perm : (m.served.2.map Exchange.query ++ m.window.pending).Perm (m.requested.map query)

/-- A task that is answered and ends waits no more. -/
theorem perm_filterMap_set {running : List (Task σ S (Except ε β))} {place : Nat}
    {t t' : Task σ S (Except ε β)} {asked : S.Query} (hplace : running[place]? = some t)
    (ht : t.query? = some asked) (ht' : t'.query? = none) :
    (running.filterMap Task.query?).Perm
      (asked :: (running.set place t').filterMap Task.query?) := by
  obtain ⟨hlt, hget⟩ := List.getElem?_eq_some_iff.mp hplace
  obtain ⟨before, after, hrunning, -, hset⟩ : ∃ before after,
      running = before ++ running[place] :: after ∧ before.length = place ∧
        running.set place t' = before ++ t' :: after := List.exists_of_set hlt
  rw [hget] at hrunning
  rw [hset]
  conv_lhs => rw [hrunning]
  rw [List.filterMap_append, List.filterMap_append, List.filterMap_cons_some ht,
    List.filterMap_cons_none ht']
  exact List.perm_middle

section

variable (hjob : ∀ height, ∃ next, job height = .ask (query height) next ∧
  ∀ a, ∃ b, next a = .done b)
include hjob

/-- Every height that is asked for is asked for once, after a step as before. -/
theorem Asked.step {m m' : Moment σ S ε β (κ × List (Exchange S))} (h : Asked query m)
    (hstep : Step job limit server.recording m m') : Asked query m' := by
  obtain ⟨honce, hperm⟩ := h
  cases hstep with
  | @start requested waiting rest height running released s k hfree hnext =>
    obtain ⟨next, hasks, hdone⟩ := hjob height
    constructor
    · simp only [List.forall_mem_append, List.forall_mem_singleton, hasks]
      exact ⟨honce, hdone⟩
    · have hpending : ((running ++ [job height]).filterMap Task.query?) =
          running.filterMap Task.query? ++ [query height] := by
        rw [List.filterMap_append, hasks]
        rfl
      simp only [pending, hpending, List.map_append, List.map_singleton, ← List.append_assoc]
      exact hperm.append_right [query height]
  | @goOn requested waiting running released place t t' s s' k k' hplace hgoes =>
    have ht := honce t (List.mem_of_getElem? hplace)
    cases hgoes with
    | act change next => exact absurd ht id
    | ask asked next =>
      obtain ⟨b, hb⟩ := ht (server asked k.1).1
      have hended : (next (server.recording asked k).1).query? = none := congrArg Task.query? hb
      constructor
      · intro other hother
        obtain hsame | rfl := List.mem_or_eq_of_mem_set hother
        · exact honce other hsame
        · change (next (server asked k.1).1).AsksOnce
          rw [hb]
          trivial
      · have hset := perm_filterMap_set hplace rfl hended
        refine List.Perm.trans ?_ hperm
        simp only [pending, Server.recording, List.map_append, List.map_singleton,
          List.append_assoc, List.singleton_append]
        exact (hset.append_left _).symm
  | release => exact ⟨fun t ht => honce t (List.mem_cons_of_mem _ ht), hperm⟩

/-- At every moment, the questions are those for the heights that were asked for. -/
theorem asked_of_steps {heights : Heights} {s : σ} {k : κ}
    {m : Moment σ S ε β (κ × List (Exchange S))}
    (h : ReflTransGen (Step job limit server.recording) (.before heights s (k, [])) m) :
    Asked query m :=
  keeps_of_steps (fun _ _ hstep hm => hm.step hjob hstep) h ⟨fun _ ht => (nomatch ht), .nil⟩

end

/-- Where there are no heights, nothing is done. -/
theorem fetch_listed_nil (limit : Nat) (schedule : Schedule σ S) :
    fetch job limit schedule (.listed []) = .done (.ok []) := by
  have hfill : fill job (max 1 limit) (ofHeights (.listed [])) = ofHeights (.listed []) := by
    unfold fill
    cases max 1 limit - (ofHeights (.listed []) : Window σ S ε β).running.length <;> rfl
  unfold fetch
  cases schedule.turns with
  | zero => rfl
  | succ turns =>
    simp only [work, hfill]
    rfl

end Window

/-! ## Heights by position -/

/-- Where there is a greater height, there is a next one. -/
theorem Heights.toNat_add_one {height last : BlockNumber} (h : height < last) :
    (height + 1).toNat = height.toNat + 1 := by
  have hlast := UInt64.toNat_lt last
  rw [UInt64.lt_iff_toNat_lt] at h
  rw [UInt64.toNat_add, UInt64.toNat_one]
  omega

/-- A height has as many heights of its interval before it as it is above the first one. -/
theorem Heights.length_of_between_eq_append {first last height : BlockNumber}
    {below above : List BlockNumber} (h : between first last = below ++ height :: above) :
    first.toNat + below.length = height.toNat := by
  have hlast := UInt64.toNat_lt last
  have hget : (between first last)[below.length]? = some height := by
    rw [h, List.getElem?_append_right (Nat.le_refl _), Nat.sub_self]
    rfl
  rw [between, List.getElem?_map, Option.map_eq_some_iff] at hget
  obtain ⟨number, hnumber, rfl⟩ := hget
  obtain ⟨hlt, hvalue⟩ := List.getElem?_eq_some_iff.mp hnumber
  rw [List.length_range'] at hlt
  rw [List.getElem_range', Nat.one_mul] at hvalue
  have hsize : UInt64.size = 2 ^ 64 := rfl
  rw [UInt64.toNat_ofNat_of_lt' (by omega), hvalue]

/-! ## Fetches -/

namespace Fetcher

/-- Fetching blocks leads from one moment to another, by any steps, whatever their order. -/
def Reaches (f : Fetcher σ S) (server : Server S κ)
    (m m' : Window.Moment σ S FetchError SignedBlock κ) : Prop :=
  ReflTransGen (Window.Step f.block (max 1 f.limit) server) m m'

/-- The tasks that fetch blocks, with the heights that they fetch. -/
inductive Fetches (f : Fetcher σ S) :
    Task σ S (Except FetchError (List SignedBlock)) → Heights → Prop
  | range {first last : BlockNumber} (hle : first ≤ last) :
    Fetches f (f.range first last) (.range first last)
  | listed (heights : List BlockNumber) : Fetches f (f.listed heights) (.listed heights)

theorem Fetches.eq_fetch {f : Fetcher σ S} {task : Task σ S (Except FetchError (List SignedBlock))}
    {heights : Heights} (h : f.Fetches task heights) :
    task = Window.fetch f.block f.limit f.schedule heights := by
  cases h with
  | range hle => exact if_neg (UInt64.not_lt.mpr hle)
  | listed heights => rfl

/-- A fetch ends at one of its moments. -/
theorem Fetches.exists_ended {f : Fetcher σ S}
    {task : Task σ S (Except FetchError (List SignedBlock))} {heights : Heights}
    (h : f.Fetches task heights) {terms : Terms σ S}
    {Ends : BlockNumber → Except FetchError SignedBlock → Prop}
    (hblock : ∀ height, (f.block height).Fulfils terms fun _ result => Ends height result)
    (server : Server S κ) (hserver : ∀ query k, terms.answer query (server query k).1) {s : σ}
    (hs : terms.state s) (k : κ) :
    ∃ m, f.Reaches server (.before heights s k) m ∧ m.state = (task.run server s k).2.1 ∧
      m.served = (task.run server s k).2.2 ∧
      Window.Underway terms Ends (max 1 f.limit) heights.toList m ∧
      Window.Ended m.window (task.run server s k).1 := by
  rw [h.eq_fetch]
  obtain ⟨requested, window, hsteps, hended⟩ :=
    Window.leadsTo_fetch f.block f.limit f.schedule heights server s k
  exact ⟨_, hsteps, rfl, rfl, (Window.Underway.before heights hs k).steps hblock hserver hsteps,
    hended⟩

/-- What is known of the block of a height in any case: an error is one for the height. -/
def ErrorNames (height : BlockNumber) (result : Except FetchError SignedBlock) : Prop :=
  ∀ e, result = .error e → ∃ source, e = .block height source

/-- Whatever a chain answers, an error for a block names its height. -/
theorem fulfils_block_any (f : Fetcher σ S) (height : BlockNumber) :
    (f.block height).Fulfils .any fun _ result => ErrorNames height result := by
  refine Fulfils.bind (fulfils_any (f.api.blockByNumber height).run) fun _ a _ e he => ?_
  obtain ⟨source, -, rfl⟩ := mapError_eq_error.mp he
  exact ⟨source, rfl⟩

/-- At every moment that is reached, what holds of a fetch at every moment holds. -/
theorem Reaches.underway {f : Fetcher σ S} {server : Server S κ} {heights : Heights} {s : σ}
    {k : κ} {m : Window.Moment σ S FetchError SignedBlock κ}
    (h : f.Reaches server (.before heights s k) m) :
    Window.Underway .any ErrorNames (max 1 f.limit) heights.toList m :=
  (Window.Underway.before heights trivial k).steps (fulfils_block_any f) (fun _ _ => trivial) h

/-- A height fails where the call for its block does. -/
theorem fulfils_block_fails {f : Fetcher σ S} {terms : Terms σ S} {P : Prop} {height : BlockNumber}
    (h : (f.api.blockByNumber height).run.Fulfils terms fun _ a =>
      P → ∃ source, a = .error source) :
    (f.block height).Fulfils terms fun _ result => P → ∃ e, result = .error e := by
  refine Fulfils.bind h fun _ a ha hP => ?_
  obtain ⟨source, rfl⟩ := ha hP
  exact ⟨.block height source, rfl⟩

/-- What is known of the block of a height on a chain with a last one. -/
def UpTo (tip height : BlockNumber) (result : Except FetchError SignedBlock) : Prop :=
  (height ≤ tip → ∃ block, result = .ok block) ∧
    (tip < height → ∃ source, result = .error (.block height source))

/-- On a chain with a last block, exactly the heights above it have none. -/
theorem fulfils_block_upTo {f : Fetcher σ S} {terms : Terms σ S} {tip height : BlockNumber}
    (h : (f.api.blockByNumber height).run.Fulfils terms fun _ a =>
      (height ≤ tip → ∃ block, a = .ok block) ∧ (tip < height → ∃ source, a = .error source)) :
    (f.block height).Fulfils terms fun _ result => UpTo tip height result := by
  refine Fulfils.bind h fun _ a ⟨hok, herror⟩ => ⟨fun hle => ?_, fun hlt => ?_⟩
  · obtain ⟨block, rfl⟩ := hok hle
    exact ⟨block, rfl⟩
  · obtain ⟨source, rfl⟩ := herror hlt
    exact ⟨source, rfl⟩

/-- On a chain with a last height, the first height from 0 on that fails is the one after it. -/
theorem eq_of_upTo {tip last height : BlockNumber} {finished rest : List BlockNumber}
    {e : FetchError} (htip : tip < last)
    (h : Heights.between 0 last = finished ++ height :: rest)
    (hfinished : ∀ other ∈ finished, ∃ b, UpTo tip other (.ok b))
    (hheight : UpTo tip height (.error e)) : height = tip + 1 := by
  have hnext := Heights.toNat_add_one htip
  have habove : tip < height := by
    by_contra hle
    obtain ⟨block, hok⟩ := hheight.1 (UInt64.not_lt.mp hle)
    cases hok
  by_contra hne
  -- the height after the last one would have come before
  have hlower : tip + 1 < height := by
    have hdiffers := mt UInt64.toNat_inj.mp hne
    rw [UInt64.lt_iff_toNat_lt] at habove ⊢
    omega
  obtain ⟨b, hb⟩ := hfinished _ (Heights.mem_of_between_eq_append h UInt64.zero_le hlower)
  obtain ⟨source, herror⟩ := hb.2 (by rw [UInt64.lt_iff_toNat_lt]; omega)
  cases herror

/-- On a chain with a last height, a fetch from height 0 on that goes beyond it ends with the height
after it. -/
theorem ended_upTo {terms : Terms σ S} {limit : Nat} {tip last : BlockNumber}
    {m : Window.Moment σ S FetchError SignedBlock κ}
    {result : Except FetchError (List SignedBlock)} (htip : tip < last)
    (h : Window.Underway terms (UpTo tip) limit (Heights.between 0 last) m)
    (hended : Window.Ended m.window result) :
    (∃ source, result = .error (.block (tip + 1) source)) ∧
      m.requested.length ≤ tip.toNat + 1 + limit := by
  cases result with
  | ok blocks =>
    -- then the last height of the range would have a block
    obtain ⟨-, hall⟩ := h.requested_of_ok hended
    obtain ⟨block, hblock⟩ :=
      hall last (Heights.mem_between.mpr ⟨UInt64.zero_le, UInt64.le_refl _⟩)
    obtain ⟨source, herror⟩ := hblock.2 htip
    cases herror
  | error e =>
    obtain ⟨finished, height, rest, heights_eq, hfinished, herror, -, hfailed⟩ :=
      h.exists_failed hended
    obtain rfl := eq_of_upTo htip heights_eq hfinished herror
    have hlength := Heights.length_of_between_eq_append heights_eq
    have hnext := Heights.toNat_add_one htip
    rw [UInt64.toNat_zero, Nat.zero_add, hnext] at hlength
    obtain ⟨source, he⟩ := herror.2 (by rw [UInt64.lt_iff_toNat_lt]; omega)
    obtain rfl := Except.error.inj he
    rw [← hlength]
    exact ⟨⟨source, rfl⟩, h.length_requested_le_of_failedAt hfailed⟩

/-- Whatever the api does, and whichever job goes on first: what was asked for is always the
beginning of the heights, no more than `c` of these have no released result, and where the job at a
position fails, as it turns out or as is known of its height, at most the `c - 1` heights behind it
are ever asked for.  A fetch ends at one of these moments, with all heights asked for or with the
error of the first position that fails; without heights, or with a range that ends before it starts,
it is over before anything is asked for.  A range that has no end is thus fetched, on a chain that
has one, until the height after the last one fails, and the heights asked for by then are at most
`c - 1` more.  Where every call is a question, the calls answered and the calls that wait for an
answer are those for the heights asked for, one for each. -/
theorem requests_bounded (api : Api σ S) (limit : Nat) (schedule : Schedule σ S)
    (server : Server S κ) (s : σ) (k : κ) :
    let f : Fetcher σ S := ⟨api, limit, schedule⟩
    let c := max 1 limit
    (∀ heights m, f.Reaches server (.before heights s k) m →
      m.requested <+: heights.toList ∧ m.requested.length ≤ m.window.released.length + c ∧
      ∀ m', f.Reaches server m m' → m.requested <+: m'.requested ∧
        ∀ position, m.FailedAt position → m'.requested.length ≤ position + c) ∧
    (∀ task heights, f.Fetches task heights →
      let x := task.run server s k
      ∃ m, f.Reaches server (.before heights s k) m ∧ m.state = x.2.1 ∧ m.served = x.2.2 ∧
        (∀ blocks, x.1 = .ok blocks → m.requested = heights.toList) ∧
        ∀ e, x.1 = .error e → ∃ before height after source,
          heights.toList = before ++ height :: after ∧ e = .block height source ∧
          m.window.released.length = before.length ∧ m.FailedAt before.length ∧
          m.requested.length ≤ before.length + c) ∧
    (∀ (terms : Terms σ S) heights before height after,
      heights.toList = before ++ height :: after →
      (∀ other, (api.blockByNumber other).run.Fulfils terms fun _ a =>
        other = height → ∃ source, a = .error source) →
      (∀ query k, terms.answer query (server query k).1) → terms.state s →
      ∀ m, f.Reaches server (.before heights s k) m → m.requested.length ≤ before.length + c) ∧
    (∀ first last, last < first →
      f.range first last = .done (.error (.invalidRange first last))) ∧
    f.listed [] = .done (.ok []) ∧
    (∀ (terms : Terms σ S) (tip : BlockNumber), tip < 0xFFFFFFFFFFFFFFFF →
      (∀ height, (api.blockByNumber height).run.Fulfils terms fun _ a =>
        (height ≤ tip → ∃ block, a = .ok block) ∧ (tip < height → ∃ source, a = .error source)) →
      (∀ query k, terms.answer query (server query k).1) → terms.state s →
      let x := (f.range 0 0xFFFFFFFFFFFFFFFF).run server s k
      (∃ source, x.1 = .error (.block (tip + 1) source)) ∧
      ∃ m, f.Reaches server (.before (.range 0 0xFFFFFFFFFFFFFFFF) s k) m ∧ m.state = x.2.1 ∧
        m.served = x.2.2 ∧ m.requested.length ≤ tip.toNat + 1 + c) ∧
    ∀ {τ κ' : Type} (schedule : Schedule τ Calls) (server : Server Calls κ') (s : τ) (k : κ')
      heights m,
      Reaches ⟨.asking, limit, schedule⟩ server.recording (.before heights s (k, [])) m →
      (m.served.2.map Exchange.query ++ m.window.pending).Perm
        (m.requested.map Call.blockByNumber) := by
  intro f c
  refine ⟨?_, ?_, ?_, ?_, ?_, ?_, ?_⟩
  · intro heights m hm
    have hunderway := Reaches.underway hm
    refine ⟨⟨_, hunderway.order⟩, hunderway.length_requested_le, fun m' hm' => ?_⟩
    have hlater := Reaches.underway (ReflTransGen.trans hm hm')
    exact ⟨Window.requested_prefix_of_steps hm', fun position hfailed =>
      hlater.length_requested_le_of_failedAt (hfailed.steps hm')⟩
  · intro task heights hfetches x
    obtain ⟨m, hm, hstate, hserved, hunderway, (hended : Window.Ended m.window x.1)⟩ :=
      hfetches.exists_ended (fulfils_block_any f) server (fun _ _ => trivial) (s := s) trivial k
    refine ⟨m, hm, hstate, hserved, fun blocks hblocks => ?_, fun e he => ?_⟩
    · rw [hblocks] at hended
      exact (hunderway.requested_of_ok hended).1
    · rw [he] at hended
      obtain ⟨before, height, after, heights_eq, -, herror, hreleased, hfailed⟩ :=
        hunderway.exists_failed hended
      obtain ⟨source, rfl⟩ := herror e rfl
      exact ⟨before, height, after, source, heights_eq, rfl, hreleased, hfailed,
        hunderway.length_requested_le_of_failedAt hfailed⟩
  · intro terms heights before height after heights_eq hapi hserver hs m hm
    have hunderway := (Window.Underway.before heights hs k).steps
      (fun other => fulfils_block_fails (f := f) (hapi other)) hserver hm
    rw [heights_eq] at hunderway
    refine hunderway.length_requested_le_of_fails fun block hok => ?_
    obtain ⟨e, he⟩ := hok rfl
    cases he
  · exact fun first last hlt => if_pos hlt
  · exact Window.fetch_listed_nil limit schedule
  · intro terms tip htip hapi hserver hs x
    have hle : (0 : BlockNumber) ≤ 0xFFFFFFFFFFFFFFFF := by decide
    obtain ⟨m, hm, hstate, hserved, hunderway, hended⟩ :=
      (Fetches.range (f := f) hle).exists_ended (fun height => fulfils_block_upTo (hapi height))
        server hserver hs k
    rw [Heights.toList_range] at hunderway
    obtain ⟨hresult, hbound⟩ := ended_upTo htip hunderway hended
    exact ⟨hresult, m, hm, hstate, hserved, hbound⟩
  · intro τ κ' schedule server s k heights m hm
    exact (Window.asked_of_steps (fun height => ⟨_, rfl, fun a => ⟨_, rfl⟩⟩) hm).perm

/-- The answers of a chain that has a block for each height up to a last one. -/
def chainUpTo (tip : BlockNumber) : (call : Call) → call.Answer
  | .blockByNumber height =>
    if height ≤ tip then .ok ⟨⟨.zero, height, .zero, []⟩, [], none⟩ else .error (.notFound height)
  | call => oneBlock.answer call

/-- The chain has a block for every height up to its last one, and for no other. -/
theorem chainUpTo_blockByNumber (tip height : BlockNumber) :
    (height ≤ tip → ∃ block, chainUpTo tip (.blockByNumber height) = .ok block) ∧
      (tip < height → ∃ source, chainUpTo tip (.blockByNumber height) = .error source) :=
  ⟨fun hle => ⟨_, if_pos hle⟩, fun hlt => ⟨_, if_neg (UInt64.not_le.mpr hlt)⟩⟩

/-- Three heights at a time, the answer for height 2 arrives first and is a failure; then the blocks
of 1 and 0 arrive, and by the time that these are released, five heights have been asked for.  In
no other order would there be more. -/
theorem requests_bounded_lastFirst :
    let terms : Terms Unit Calls := ⟨fun _ => True, fun call a => a = chainUpTo 1 call⟩
    let fetcher : Fetcher Unit Calls := ⟨.asking, 3, ⟨8, fun left _ _ => left - 5⟩⟩
    let node := (answering (chainUpTo 1)).recording
    let x := (fetcher.range 0 0xFFFFFFFFFFFFFFFF).run node () ((), [])
    let before : Window.Moment Unit Calls FetchError SignedBlock _ :=
      .before (.range 0 0xFFFFFFFFFFFFFFFF) () ((), [])
    (1 : BlockNumber) < 0xFFFFFFFFFFFFFFFF ∧
      (∀ height, (Api.asking.blockByNumber height).run.Fulfils terms fun _ a =>
        (height ≤ 1 → ∃ block, a = .ok block) ∧ (1 < height → ∃ source, a = .error source)) ∧
      (∀ query k, terms.answer query (node query k).1) ∧ terms.state () ∧
      x.2.2.2.map (fun exchange => (exchange.query : Call)) =
        [.blockByNumber 2, .blockByNumber 1, .blockByNumber 0] ∧
      x.1 = .error (.block 2 (.notFound 2)) ∧
      (∃ m, fetcher.Reaches node before m ∧ m.served = x.2.2 ∧ m.requested.length ≤ 1 + 1 + 3 ∧
        (m.served.2.map Exchange.query ++ m.window.pending).Perm
          (m.requested.map Call.blockByNumber)) ∧
      ∀ m, fetcher.Reaches node before m → m.requested.length ≤ 2 + 3 := by
  intro terms fetcher node x before
  have hlt : (1 : BlockNumber) < 0xFFFFFFFFFFFFFFFF := by decide
  have hapi (height : BlockNumber) : (Api.asking.blockByNumber height).run.Fulfils terms fun _ a =>
      (height ≤ 1 → ∃ block, a = .ok block) ∧ (1 < height → ∃ source, a = .error source) := by
    rintro _ rfl
    exact chainUpTo_blockByNumber 1 height
  have hfails (other : BlockNumber) : (Api.asking.blockByNumber other).run.Fulfils terms fun _ a =>
      other = 2 → ∃ source, a = .error source :=
    (hapi other).mono fun _ a ha heq => ha.2 (by rw [heq]; decide)
  have hnode : ∀ query k, terms.answer query (node query k).1 := fun query k => rfl
  have heights_eq : (Heights.range 0 0xFFFFFFFFFFFFFFFF).toList =
      [0, 1] ++ 2 :: Heights.between 3 0xFFFFFFFFFFFFFFFF := by
    rw [Heights.toList_range]
    exact (Heights.between_append (by decide : (0 : BlockNumber) ≤ 2) (by decide) rfl).symm
  obtain ⟨-, -, hknown, -, -, htip, hasked⟩ :=
    requests_bounded .asking 3 ⟨8, fun left _ _ => left - 5⟩ node () ((), [])
  obtain ⟨-, m, hm, -, hserved, hlength⟩ := htip terms 1 hlt hapi hnode trivial
  exact ⟨hlt, hapi, hnode, trivial, by decide +kernel, by decide +kernel,
    ⟨m, hm, hserved, hlength, hasked _ _ _ _ _ _ hm⟩,
    hknown terms _ _ 2 _ heights_eq hfails hnode trivial⟩

end Fetcher

end ChainIndex
