import ChainIndex.Api.Listed
import ChainIndex.Fetch.Basic
import ChainIndex.Proofs.Fetch.InTurn

/-!
# ChainIndex.Proofs.Fetch.Order

Fetching several heights at a time gives what fetching them one after the other gives.

The jobs are steady: whatever happens in between, the job of a height ends with the outcome
of that height.  Doing all in turn then has one outcome only (`inTurn_mapM`), and this is what a
fetch comes to, whichever of its jobs goes on first (`Window.fulfils_fetch`).
-/

namespace ChainIndex

open ChainIndex.Task

/-! ## Outcomes in order -/

section Outcomes

variable {ι ε β : Type} {outcome : ι → Except ε β} {item : ι} {items : List ι}

/-- Where the first item fails, the whole list does. -/
theorem mapM_cons_of_error {e : ε} (h : outcome item = .error e) :
    (item :: items).mapM outcome = .error e := by
  rw [List.mapM_cons, h]
  rfl

/-- Where the first item does not fail, its result comes before the others. -/
theorem mapM_cons_of_ok {result : β} (h : outcome item = .ok result) :
    (item :: items).mapM outcome = (items.mapM outcome).map (result :: ·) := by
  rw [List.mapM_cons, h]
  cases items.mapM outcome <;> rfl

/-- Where every item has one outcome, so has doing all in turn. -/
theorem inTurn_outcome {released : List β} {result : Except ε (List β)} :
    InTurn (fun item result => outcome item = result) items released result ↔
      (items.mapM outcome).map (released.reverse ++ ·) = result := by
  constructor
  · intro h
    induction h with
    | nil released => simp [pure, Except.pure, Except.map]
    | failed h =>
      rw [mapM_cons_of_error h]
      rfl
    | next h _ ih =>
      rw [← ih, mapM_cons_of_ok h]
      cases List.mapM outcome _ <;> simp [Except.map]
  · rintro rfl
    induction items generalizing released with
    | nil => simpa [pure, Except.pure, Except.map] using InTurn.nil released
    | cons item items ih =>
      cases hitem : outcome item with
      | error e =>
        rw [mapM_cons_of_error hitem]
        exact .failed hitem
      | ok b =>
        refine .next hitem ?_
        have hrest := @ih (b :: released)
        rw [mapM_cons_of_ok hitem]
        cases hmapM : items.mapM outcome <;> simpa [hmapM, Except.map] using hrest

/-- In turn, items come to what they come to one after the other. -/
theorem inTurn_mapM {result : Except ε (List β)} :
    InTurn (fun item result => outcome item = result) items [] result ↔
      items.mapM outcome = result := by
  rw [inTurn_outcome]
  cases items.mapM outcome <;> rfl

/-- Doing all succeeds where each one does. -/
theorem mapM_eq_ok_iff {results : List β} :
    items.mapM outcome = .ok results ↔
      List.Forall₂ (fun item result => outcome item = .ok result) items results := by
  rw [← inTurn_mapM, InTurn.ok_iff]
  simp

/-- Doing all fails with the first failure in the order of the items. -/
theorem mapM_eq_error_iff {e : ε} :
    items.mapM outcome = .error e ↔
      ∃ before item after, items = before ++ item :: after ∧
        (∀ other ∈ before, ∃ result, outcome other = .ok result) ∧ outcome item = .error e := by
  rw [← inTurn_mapM, InTurn.error_iff]

/-- Doing all succeeds, with whatever results, where each one does. -/
theorem exists_mapM_eq_ok_iff :
    (∃ results, items.mapM outcome = .ok results) ↔
      ∀ item ∈ items, ∃ result, outcome item = .ok result := by
  constructor
  · rintro ⟨results, h⟩
    exact exists_of_forall₂ (mapM_eq_ok_iff.mp h)
  · intro h
    cases hresult : items.mapM outcome with
    | ok results => exact ⟨results, rfl⟩
    | error e =>
      obtain ⟨before, item, after, rfl, -, hitem⟩ := mapM_eq_error_iff.mp hresult
      obtain ⟨result, hok⟩ := h item (by simp)
      rw [hok] at hitem
      cases hitem

end Outcomes

/-! ## Heights as lists -/

namespace Heights

theorem toList_listed (heights : List BlockNumber) : (listed heights).toList = heights := by
  induction heights with
  | nil => rfl
  | cons height heights ih =>
    have hnext : (listed (height :: heights)).next? = some (height, listed heights) := rfl
    rw [toList_of_next? hnext, ih]

/-- A span that starts at a number holds the numbers from there on. -/
theorem toList_span {first : BlockNumber} {number : Nat} (h : UInt64.ofNat number = first)
    (count : Nat) : (span first count).toList = (List.range' number count).map UInt64.ofNat := by
  induction count generalizing first number with
  | zero => rfl
  | succ count ih =>
    have hfirst : UInt64.ofNat (number + 1) = first + 1 := by rw [UInt64.ofNat_add, h]; rfl
    have hnext : (span first (count + 1)).next? = some (first, span (first + 1) count) := rfl
    rw [toList_of_next? hnext, ih hfirst, List.range'_succ, List.map_cons, h]

/-- The heights from `first` to `last`, ascending. -/
def between (first last : BlockNumber) : List BlockNumber :=
  (List.range' first.toNat (last.toNat + 1 - first.toNat)).map UInt64.ofNat

theorem toList_range (first last : BlockNumber) : (range first last).toList = between first last :=
  toList_span UInt64.ofNat_toNat _

/-- There are no heights between two that are the wrong way round. -/
theorem between_eq_nil {first last : BlockNumber} (h : last < first) : between first last = [] := by
  rw [UInt64.lt_iff_toNat_lt] at h
  have hcount : last.toNat + 1 - first.toNat = 0 := by omega
  rw [between, hcount]
  rfl

/-- The heights of an interval are those up to one of them and those after it. -/
theorem between_eq_append {first middle last : BlockNumber} (hfirst : first ≤ middle)
    (hlast : middle ≤ last) :
    between first last = between first middle ++
      (List.range' (middle.toNat + 1) (last.toNat - middle.toNat)).map UInt64.ofNat := by
  rw [UInt64.le_iff_toNat_le] at hfirst hlast
  have hstart : middle.toNat + 1 = first.toNat + (middle.toNat + 1 - first.toNat) := by omega
  have hcount : last.toNat + 1 - first.toNat =
      (middle.toNat + 1 - first.toNat) + (last.toNat - middle.toNat) := by omega
  unfold between
  rw [← List.map_append, hcount, hstart, Nat.add_sub_cancel_left, List.range'_append_1]

/-- The heights between two are those up to any height in the middle, and those from the next one.
-/
theorem between_append {first middle next last : BlockNumber} (hfirst : first ≤ middle)
    (hlast : middle ≤ last) (hnext : next.toNat = middle.toNat + 1) :
    between first middle ++ between next last = between first last := by
  have hcount : last.toNat + 1 - next.toNat = last.toNat - middle.toNat := by omega
  rw [between_eq_append hfirst hlast, between, between, hcount, hnext]

end Heights

/-- Fetching by jobs that each end with the outcome of their height gives these outcomes in their
order, or the first failure among them in this order. -/
theorem Window.fulfils_fetch {σ : Type} {S : Signature} {ε β : Type} {terms : Terms σ S}
    {job : BlockNumber → Task σ S (Except ε β)} {outcome : BlockNumber → Except ε β}
    (hjob : ∀ height, (job height).Fulfils terms fun _ result => result = outcome height)
    (limit : Nat) (schedule : Schedule σ S) (heights : Heights) :
    (fetch job limit schedule heights).Fulfils terms fun _ result =>
      result = heights.toList.mapM outcome := by
  have hends (height : BlockNumber) :
      (job height).Fulfils terms fun _ result => outcome height = result :=
    (hjob height).mono fun _ _ h => h.symm
  exact (fulfils_fetch_inTurn hends limit schedule heights).mono fun _ _ h =>
    (inTurn_mapM.mp h).symm

/-! ## Blocks -/

namespace Fetcher

variable {σ κ : Type} {S : Signature}

/-- Fetching the block of a height from an api that answers it by the height alone. -/
theorem fulfils_block {f : Fetcher σ S} {terms : Terms σ S}
    {answer : BlockNumber → Except ApiError SignedBlock}
    (hapi : ∀ height, (f.api.blockByNumber height).run.Fulfils terms fun _ a => a = answer height)
    (height : BlockNumber) :
    (f.block height).Fulfils terms fun _ result =>
      result = (answer height).mapError (FetchError.block height) := by
  refine Fulfils.bind (hapi height) fun _ a ha => ?_
  exact congrArg (Except.mapError (FetchError.block height)) ha

/-- Fetching an interval gives its blocks in order, or the first failure in this order. -/
theorem fulfils_range {f : Fetcher σ S} {terms : Terms σ S}
    {answer : BlockNumber → Except ApiError SignedBlock}
    (hapi : ∀ height, (f.api.blockByNumber height).run.Fulfils terms fun _ a => a = answer height)
    {first last : BlockNumber} (hle : first ≤ last) :
    (f.range first last).Fulfils terms fun _ result =>
      result = (Heights.between first last).mapM fun height =>
        (answer height).mapError (.block height) := by
  unfold range
  rw [if_neg (UInt64.not_lt.mpr hle), ← Heights.toList_range]
  exact Window.fulfils_fetch (fulfils_block hapi) _ _ _

/-- Over an api that answers for the block of a height by the height alone, blocks are fetched
as if one height were fetched after the other, whatever the limit and whatever answer arrives
first: either every height gives its block, and there are the blocks in the order of the
heights, or the first height in this order that fails is reported with its error.  A range
is fetched like the list of its heights, unless it ends before it starts. -/
theorem fetch_eq_in_turn (api : Api σ S) (terms : Terms σ S)
    (answer : BlockNumber → Except ApiError SignedBlock)
    (hapi : ∀ height, (api.blockByNumber height).run.Fulfils terms fun _ a => a = answer height)
    (server : Server S κ) (hserver : ∀ query k, terms.answer query (server query k).1)
    (s : σ) (hs : terms.state s) (k : κ) (limit : Nat) (schedule : Schedule σ S) :
    let fetcher : Fetcher σ S := ⟨api, limit, schedule⟩
    (∀ heights, ((fetcher.listed heights).run server s k).1 =
      heights.mapM fun height => (answer height).mapError (.block height)) ∧
    (∀ heights blocks, ((fetcher.listed heights).run server s k).1 = .ok blocks ↔
      List.Forall₂ (fun height block => answer height = .ok block) heights blocks) ∧
    (∀ heights e, ((fetcher.listed heights).run server s k).1 = .error e ↔
      ∃ before height after source, heights = before ++ height :: after ∧
        (∀ other ∈ before, ∃ block, answer other = .ok block) ∧
        answer height = .error source ∧ e = .block height source) ∧
    (∀ first last, ((fetcher.range first last).run server s k).1 =
      if last < first then .error (.invalidRange first last)
      else ((fetcher.listed (Heights.between first last)).run server s k).1) := by
  intro fetcher
  have hfetch : ∀ heights : Heights,
      ((Window.fetch fetcher.block limit schedule heights).run server s k).1 =
        heights.toList.mapM fun height => (answer height).mapError (.block height) :=
    fun heights => (Window.fulfils_fetch (fulfils_block hapi) limit schedule heights).run_value
      server hserver hs k
  have hlisted : ∀ heights, ((fetcher.listed heights).run server s k).1 =
      heights.mapM fun height => (answer height).mapError (.block height) := by
    intro heights
    rw [listed, hfetch, Heights.toList_listed]
  refine ⟨hlisted, ?_, ?_, ?_⟩
  · intro heights blocks
    rw [hlisted, mapM_eq_ok_iff]
    simp only [mapError_eq_ok]
  · intro heights e
    rw [hlisted, mapM_eq_error_iff]
    simp only [mapError_eq_ok, mapError_eq_error]
    constructor
    · rintro ⟨before, height, after, heq, hbefore, source, hsource, he⟩
      exact ⟨before, height, after, source, heq, hbefore, hsource, he⟩
    · rintro ⟨before, height, after, source, heq, hbefore, hsource, he⟩
      exact ⟨before, height, after, heq, hbefore, source, hsource, he⟩
  · intro first last
    rw [hlisted, range]
    split
    · rfl
    · rw [hfetch, Heights.toList_range]

/-- An api that serves one block, of height 1. -/
def oneBlock : BlockList := ⟨[(⟨⟨⟨Vector.replicate 32 1⟩, 1, .zero, []⟩, [], none⟩, [])], 1, [], [],
  [], []⟩

/-- A node that answers every call by its arguments. -/
def answering (answer : (call : Call) → call.Answer) : Server Calls Unit :=
  fun call k => (answer call, k)

/-- Of three heights the last one is answered first, and fails, then the second one, which
fails too, and then the first: the second one is reported. -/
theorem fetch_eq_in_turn_lastFirst :
    let terms : Terms Unit Calls := ⟨fun _ => True, fun call a => a = oneBlock.answer call⟩
    let lastFirst : Schedule Unit Calls := ⟨8, fun left _ _ => left - 5⟩
    let fetcher : Fetcher Unit Calls := ⟨.asking, 3, lastFirst⟩
    (∀ height, (Api.asking.blockByNumber height).run.Fulfils terms fun _ a =>
        a = oneBlock.answer (.blockByNumber height)) ∧
      (∀ query k, terms.answer query (answering oneBlock.answer query k).1) ∧
      terms.state () ∧
      (((fetcher.range 1 3).run (answering oneBlock.answer).recording () ((), [])).2.2.2.map
          fun x => (x.query : Call)) = [.blockByNumber 3, .blockByNumber 2, .blockByNumber 1] ∧
      ((fetcher.range 1 3).run (answering oneBlock.answer) () ()).1 =
        .error (.block 2 (.notFound 2)) := by
  intro terms lastFirst fetcher
  have hapi : ∀ height, (Api.asking.blockByNumber height).run.Fulfils terms fun _ a =>
      a = oneBlock.answer (.blockByNumber height) := fun height a ha => ha
  have hserver : ∀ query k, terms.answer query (answering oneBlock.answer query k).1 :=
    fun query k => rfl
  refine ⟨hapi, hserver, trivial, by decide +kernel, ?_⟩
  obtain ⟨-, -, herror, hrange⟩ := fetch_eq_in_turn .asking terms _ hapi _ hserver () trivial () 3
    lastFirst
  rw [hrange, if_neg (by decide), herror]
  refine ⟨[1], 2, [3], .notFound 2, by decide, ?_, rfl, rfl⟩
  intro other hother
  rw [List.mem_singleton.mp hother]
  exact ⟨_, rfl⟩

end Fetcher

end ChainIndex
