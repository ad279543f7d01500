import ChainIndex.Proofs.Fetch.Order
import ChainIndex.Proofs.Index.Time

/-!
# ChainIndex.Proofs.Fetch.Record

What the record of a fetch says of each of its heights.

What becomes of a height is settled by the answers to the calls that are made for it
(`Settles`), so it can be read from the record of the calls, whichever of them was made first.  A
fetch of an interval that fails has its reason in the record: a height for which a call failed or
could not be read, and all heights below it with their blocks (`Fetcher.run_indexedRange_settles`).
-/

namespace ChainIndex

open ChainIndex.Task

/-! ## Records of one kind of questions -/

section

variable {σ κ : Type} {S T : Signature} {α : Type}

/-- An exchange, where questions of another kind are asked, too. -/
def Exchange.inLeft (x : Exchange S) : Exchange (S.sum T) := ⟨.inl x.query, x.answer⟩

/-- The exchange of the first kind that an exchange is, if it is one. -/
def Exchange.left? : Exchange (S.sum T) → Option (Exchange S)
  | ⟨.inl query, answer⟩ => some ⟨query, answer⟩
  | ⟨.inr _, _⟩ => none

/-- The exchanges of the first kind in a record. -/
def leftOf (record : List (Exchange (S.sum T))) : List (Exchange S) :=
  record.filterMap Exchange.left?

/-- The part of a record that is the api's comes in the order of the record. -/
theorem leftOf_append (record more : List (Exchange (S.sum T))) :
    leftOf (record ++ more) = leftOf record ++ leftOf more :=
  List.filterMap_append

theorem leftOf_map_inLeft (made : List (Exchange S)) :
    leftOf (made.map Exchange.inLeft : List (Exchange (S.sum T))) = made := by
  rw [leftOf, List.filterMap_map]
  exact List.filterMap_some

/-- More is known of a longer record. -/
theorem leftOf_mono {record record' : List (Exchange (S.sum T))} (h : record <+: record')
    {x : Exchange S} (hx : x ∈ leftOf record) : x ∈ leftOf record' := by
  obtain ⟨more, rfl⟩ := h
  rw [leftOf_append]
  exact List.mem_append_left _ hx

/-- A task that asks questions of the first kind adds these to a record of both kinds. -/
theorem Task.run_recording_left (server : Server (S.sum T) κ) (t : Task σ S α) (s : σ) (k : κ)
    (before : List (Exchange (S.sum T))) (made : List (Exchange S)) :
    t.run server.recording.left s (k, before ++ made.map Exchange.inLeft) =
      let ended := t.run server.left.recording s (k, made)
      (ended.1, ended.2.1, ended.2.2.1, before ++ ended.2.2.2.map Exchange.inLeft) := by
  induction t generalizing s k made with
  | done a => rfl
  | act change next ih => exact ih s (change s) k made
  | ask query next ih =>
    have hrest := ih (server (.inl query) k).1 s (server (.inl query) k).2
      (made ++ [⟨query, (server (.inl query) k).1⟩])
    rw [List.map_append, ← List.append_assoc] at hrest
    exact hrest

end

/-! ## Heights in order -/

namespace Heights

/-- The heights between two are all of those that lie between them. -/
theorem mem_between {first last height : BlockNumber} :
    height ∈ between first last ↔ first ≤ height ∧ height ≤ last := by
  have hlast := UInt64.toNat_lt last
  have hsize : UInt64.size = 2 ^ 64 := rfl
  simp only [between, List.mem_map, List.mem_range'_1, UInt64.le_iff_toNat_le]
  constructor
  · rintro ⟨number, hnumber, rfl⟩
    rw [UInt64.toNat_ofNat_of_lt' (by omega)]
    omega
  · rintro ⟨hfirst, hle⟩
    exact ⟨height.toNat, by omega, UInt64.ofNat_toNat⟩

/-- The heights of an interval ascend. -/
theorem pairwise_between (first last : BlockNumber) : (between first last).Pairwise (· < ·) := by
  have hlast := UInt64.toNat_lt last
  have hsize : UInt64.size = 2 ^ 64 := rfl
  refine List.pairwise_map.mpr (List.Pairwise.imp_of_mem ?_ List.pairwise_lt_range')
  intro number other hnumber hother hlt
  rw [List.mem_range'_1] at hnumber hother
  rw [UInt64.lt_iff_toNat_lt, UInt64.toNat_ofNat_of_lt' (by omega),
    UInt64.toNat_ofNat_of_lt' (by omega)]
  exact hlt

/-- The heights before one of an interval are those of the interval that are lower. -/
theorem mem_of_between_eq_append {first last height lower : BlockNumber}
    {below above : List BlockNumber} (h : between first last = below ++ height :: above)
    (hfirst : first ≤ lower) (hlower : lower < height) : lower ∈ below := by
  have hsorted := pairwise_between first last
  have hheight : height ∈ between first last := by rw [h]; simp
  have hlast := (mem_between.mp hheight).2
  have hmem : lower ∈ between first last :=
    mem_between.mpr ⟨hfirst, UInt64.le_trans (UInt64.le_of_lt hlower) hlast⟩
  rw [h] at hsorted hmem
  obtain hbelow | hrest := List.mem_append.mp hmem
  · exact hbelow
  · obtain ⟨-, hafter, -⟩ := List.pairwise_append.mp hsorted
    obtain rfl | habove := List.mem_cons.mp hrest
    · exact absurd hlower (UInt64.lt_irrefl lower)
    · have hgreater := (List.pairwise_cons.mp hafter).1 lower habove
      exact absurd (UInt64.lt_trans hlower hgreater) (UInt64.lt_irrefl lower)

/-- In a range, what stands before a height is smaller. -/
theorem lt_of_between_eq_append {first last height lower : BlockNumber}
    {below above : List BlockNumber} (h : between first last = below ++ height :: above)
    (hlower : lower ∈ below) : first ≤ lower ∧ lower < height := by
  have hsorted := pairwise_between first last
  have hmem : lower ∈ between first last := by rw [h]; exact List.mem_append_left _ hlower
  rw [h] at hsorted
  obtain ⟨-, -, hbefore⟩ := List.pairwise_append.mp hsorted
  exact ⟨(mem_between.mp hmem).1, hbefore lower hlower height List.mem_cons_self⟩

end Heights

/-! ## What answers make of a height -/

/-- Among some exchanges, a call was answered so. -/
def Heard (made : List (Exchange Calls)) (call : Call) (answer : call.Answer) : Prop :=
  (⟨call, answer⟩ : Exchange Calls) ∈ made

/-- What the answers among some exchanges make of a height: the call for its block fails, the call
for the version of its runtime, or that for its events, or else the block is indexed with them, or
refused. -/
inductive Settles (made : List (Exchange Calls)) (served : Bool) (height : BlockNumber) :
    Except FetchError IndexedBlock → Prop
  | noBlock {source : ApiError} (h : Heard made (.blockByNumber height) (.error source)) :
    Settles made served height (.error (.block height source))
  | noVersion {block : SignedBlock} {source : ApiError}
    (hblock : Heard made (.blockByNumber height) (.ok block))
    (h : Heard made (.runtimeVersion (some (Fetcher.runtimeAt height block))) (.error source)) :
    Settles made served height (.error (.block height source))
  | noEvents {block : SignedBlock} {version : RuntimeVersion} {source : ApiError}
    (hblock : Heard made (.blockByNumber height) (.ok block))
    (hversion : Heard made (.runtimeVersion (some (Fetcher.runtimeAt height block)))
      (.ok version))
    (hserved : served = true) (h : Heard made (.eventsAt block.hash) (.error source)) :
    Settles made served height (.error (.events block.hash source))
  | wrapped {block : SignedBlock} {version : RuntimeVersion} {events : List EventRecord}
    (hblock : Heard made (.blockByNumber height) (.ok block))
    (hversion : Heard made (.runtimeVersion (some (Fetcher.runtimeAt height block)))
      (.ok version))
    (hevents : if served then Heard made (.eventsAt block.hash) (.ok events) else events = []) :
    Settles made served height (IndexedBlock.ofBlock block events version.specVersion)

namespace Settles

variable {made made' : List (Exchange Calls)} {served : Bool} {height : BlockNumber}
  {result : Except FetchError IndexedBlock}

/-- More exchanges settle what some did. -/
theorem mono (h : Settles made served height result) (hmore : ∀ x ∈ made, x ∈ made') :
    Settles made' served height result := by
  cases h with
  | noBlock h => exact .noBlock (hmore _ h)
  | noVersion hblock h => exact .noVersion (hmore _ hblock) (hmore _ h)
  | noEvents hblock hversion hserved h =>
    exact .noEvents (hmore _ hblock) (hmore _ hversion) hserved (hmore _ h)
  | wrapped hblock hversion hevents =>
    refine .wrapped (hmore _ hblock) (hmore _ hversion) ?_
    cases served with
    | true => exact hmore _ hevents
    | false => exact hevents

/-- A block with its context is never refused with the error for a missing one. -/
theorem ofBlock_ne_blockError {block : SignedBlock} {events : List EventRecord}
    {specVersion : UInt32} {other : BlockNumber} {source : ApiError} :
    IndexedBlock.ofBlock block events specVersion ≠ .error (.block other source) := by
  rw [IndexedBlock.ofBlock_eq, ne_eq, map_eq_error, SignedBlock.time_eq_error]
  exact fun h => nomatch h.2

/-- The error for the block of a height is that of the height. -/
theorem height_eq {other : BlockNumber} {source : ApiError}
    (h : Settles made served height (.error (.block other source))) : other = height := by
  generalize hresult : (.error (.block other source) : Except FetchError IndexedBlock) = result at h
  cases h with
  | noBlock _ | noVersion _ _ =>
    cases hresult
    rfl
  | noEvents _ _ _ _ => cases hresult
  | wrapped _ _ _ => exact absurd hresult.symm ofBlock_ne_blockError

end Settles

/-- Among some exchanges, the blocks from `first` to `last` were indexed. -/
def IndexedBetween (made : List (Exchange Calls)) (first last : BlockNumber)
    (blocks : List IndexedBlock) : Prop :=
  ∃ served, Heard made (.supports .eventsAt) served ∧
    List.Forall₂ (fun height b => Settles made served height (.ok b))
      (Heights.between first last) blocks

/-- Among some exchanges, one of the heights from `first` to `last` failed, and all heights below it
were indexed. -/
def FailsBetween (made : List (Exchange Calls)) (first last : BlockNumber) (e : FetchError) :
    Prop :=
  ∃ served height, Heard made (.supports .eventsAt) served ∧
    first ≤ height ∧ height ≤ last ∧ Settles made served height (.error e) ∧
    ∀ lower, first ≤ lower → lower < height → ∃ b, Settles made served lower (.ok b)

section

variable {made made' : List (Exchange Calls)} {first last : BlockNumber}

/-- What was indexed among some exchanges was indexed among more. -/
theorem IndexedBetween.mono {blocks : List IndexedBlock} (h : IndexedBetween made first last blocks)
    (hmore : ∀ x ∈ made, x ∈ made') : IndexedBetween made' first last blocks := by
  obtain ⟨served, hserved, hblocks⟩ := h
  exact ⟨served, hmore _ hserved, hblocks.imp fun _ _ hsettles => hsettles.mono hmore⟩

/-- What failed among some exchanges failed among more. -/
theorem FailsBetween.mono {e : FetchError} (h : FailsBetween made first last e)
    (hmore : ∀ x ∈ made, x ∈ made') : FailsBetween made' first last e := by
  obtain ⟨served, height, hserved, hfirst, hlast, hheight, hlower⟩ := h
  refine ⟨served, height, hmore _ hserved, hfirst, hlast, hheight.mono hmore, ?_⟩
  intro lower hle hlt
  obtain ⟨b, hb⟩ := hlower lower hle hlt
  exact ⟨b, hb.mono hmore⟩

/-- Where the error is that for the block of a height, this is the height that failed. -/
theorem FailsBetween.of_block {height : BlockNumber} {source : ApiError}
    (h : FailsBetween made first last (.block height source)) :
    first ≤ height ∧ height ≤ last ∧ ∃ served, Heard made (.supports .eventsAt) served ∧
      Settles made served height (.error (.block height source)) ∧
      ∀ lower, first ≤ lower → lower < height → ∃ b, Settles made served lower (.ok b) := by
  obtain ⟨served, failing, hserved, hfirst, hlast, hfailing, hlower⟩ := h
  obtain rfl := hfailing.height_eq
  exact ⟨hfirst, hlast, served, hserved, hfailing, hlower⟩

/-- An interval that fails in turn fails first at one of its heights. -/
theorem failsBetween_of_inTurn {served : Bool} {e : FetchError}
    (hserved : Heard made (.supports .eventsAt) served)
    (h : InTurn (Settles made served) (Heights.between first last) [] (.error e)) :
    FailsBetween made first last e := by
  obtain ⟨below, height, above, hheights, hbelow, hheight⟩ := InTurn.error_iff.mp h
  have hmem : height ∈ Heights.between first last := by rw [hheights]; simp
  obtain ⟨hfirst, hlast⟩ := Heights.mem_between.mp hmem
  refine ⟨served, height, hserved, hfirst, hlast, hheight, ?_⟩
  intro lower hle hlt
  exact hbelow lower (Heights.mem_of_between_eq_append hheights hle hlt)

/-- Blocks that came in turn were indexed between their heights. -/
theorem indexedBetween_of_inTurn {served : Bool} {blocks : List IndexedBlock}
    (hserved : Heard made (.supports .eventsAt) served)
    (h : InTurn (Settles made served) (Heights.between first last) [] (.ok blocks)) :
    IndexedBetween made first last blocks := by
  obtain ⟨more, hmore, rfl⟩ := InTurn.ok_iff.mp h
  exact ⟨served, hserved, hmore⟩

end

/-! ## Fetches -/

namespace Fetcher

variable {σ κ : Type} {made : List (Exchange Calls)} {limit : Nat} {schedule : Schedule σ Calls}

/-- What is left of a height once its block and the version of its runtime are there. -/
theorem fulfils_wrapping {served : Bool} {height : BlockNumber} {block : SignedBlock}
    {version : RuntimeVersion} (hblock : Heard made (.blockByNumber height) (.ok block))
    (hversion : Heard made (.runtimeVersion (some (runtimeAt height block))) (.ok version)) :
    (do
      let events ←
        if served then
          ExceptT.adapt (FetchError.events block.hash) (Api.eventsAt .asking block.hash)
        else pure []
      (IndexedBlock.ofBlock block events version.specVersion :
        Except FetchError IndexedBlock) :
      ExceptT FetchError (Task σ Calls) IndexedBlock).run.Fulfils (.heard made)
        fun _ result => Settles made served height result := by
  have hwrapped (events : List EventRecord)
      (hevents : if served then Heard made (.eventsAt block.hash) (.ok events) else events = []) :
      (liftM (IndexedBlock.ofBlock block events version.specVersion) :
        ExceptT FetchError (Task σ Calls) IndexedBlock).run.Fulfils (.heard made)
          fun _ result => Settles made served height result := by
    have hsettles := Settles.wrapped hblock hversion hevents
    cases hresult : IndexedBlock.ofBlock block events version.specVersion <;>
      exact hresult ▸ hsettles
  cases served with
  | false => exact hwrapped [] rfl
  | true =>
    intro answer hanswer
    change Except ApiError (List EventRecord) at answer
    cases answer with
    | ok events => exact hwrapped events hanswer
    | error source => exact Settles.noEvents hblock hversion rfl hanswer

/-- The job of a height ends with what the answers make of the height. -/
theorem fulfils_indexed_settles (served : Bool) (height : BlockNumber) :
    (indexed ⟨.asking, limit, schedule⟩ served height).Fulfils (.heard made)
      fun _ result => Settles made served height result := by
  intro answer hblock
  change Except ApiError SignedBlock at answer
  cases answer with
  | error source => exact Settles.noBlock hblock
  | ok block =>
    intro answer hversion
    change Except ApiError RuntimeVersion at answer
    cases answer with
    | error source => exact Settles.noVersion hblock hversion
    | ok version => exact fulfils_wrapping hblock hversion

/-- What an interval comes to is what the answers make of its heights, one after the other. -/
theorem fulfils_indexedRange_settles {first last : BlockNumber} (hle : first ≤ last) :
    (indexedRange ⟨.asking, limit, schedule⟩ first last).Fulfils (.heard made)
      fun _ result => ∃ served, Heard made (.supports .eventsAt) served ∧
        InTurn (Settles made served) (Heights.between first last) [] result := by
  unfold indexedRange
  rw [if_neg (UInt64.not_lt.mpr hle), ← Heights.toList_range]
  intro served hserved
  refine (Window.fulfils_fetch_inTurn (fulfils_indexed_settles served) _ _ _).mono ?_
  intro _ result hresult
  exact ⟨served, hserved, hresult⟩

/-- A fetch among other work adds to the record the exchanges that settle what it ends with. -/
theorem run_indexedRange_settles {T : Signature} (limit : Nat) (schedule : Schedule σ Calls)
    (server : Server (Calls.sum T) κ)
    {first last : BlockNumber} (hle : first ≤ last) (s : σ) (k : κ)
    (record : List (Exchange (Calls.sum T))) :
    let ended := (indexedRange ⟨.asking, limit, schedule⟩ first last).run server.recording.left s
      (k, record)
    ∃ made, ended.2.2.2 = record ++ made.map Exchange.inLeft ∧
      (∀ blocks, ended.1 = .ok blocks → IndexedBetween made first last blocks) ∧
      ∀ e, ended.1 = .error e → FailsBetween made first last e := by
  intro ended
  have hended := run_recording_left server (indexedRange ⟨.asking, limit, schedule⟩ first last) s k
    record []
  rw [List.map_nil, List.append_nil] at hended
  have hfulfils (made : List (Exchange Calls)) :
      (indexedRange ⟨.asking, limit, schedule⟩ first last).Fulfils (.heard made)
        fun (_ : List (Exchange Calls)) result => ∃ served,
          Heard made (.supports .eventsAt) served ∧
            InTurn (Settles made served) (Heights.between first last) [] result :=
    fulfils_indexedRange_settles hle
  have hheard := Fulfils.run_heard hfulfils server.left s k
  generalize (indexedRange ⟨.asking, limit, schedule⟩ first last).run server.left.recording s
    (k, []) = own at hended hheard
  obtain ⟨result, s', k', made⟩ := own
  obtain ⟨served, hserved, hturns⟩ := hheard
  have hfirst : ended.1 = result := congrArg Prod.fst hended
  refine ⟨made, congrArg (fun x => x.2.2.2) hended, ?_, ?_⟩
  · intro blocks hblocks
    rw [← hfirst, hblocks] at hturns
    exact indexedBetween_of_inTurn hserved hturns
  · intro e he
    rw [← hfirst, he] at hturns
    exact failsBetween_of_inTurn hserved hturns

end Fetcher

end ChainIndex
