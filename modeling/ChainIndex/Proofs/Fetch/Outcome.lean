import ChainIndex.Proofs.Fetch.Blocks
import ChainIndex.Proofs.Fetch.Context
import ChainIndex.Proofs.Fetch.Record

/-!
# ChainIndex.Proofs.Fetch.Outcome

What fetching an interval with its context comes to, where the answers to all calls are known.

For every height there are four things to obtain, one after the other: its block, the version of the
runtime that executed it, its events, and its time.  A height is obtained with all of them
(`Obtained`) or fails at the first one that is not there (`FailsAt`); which of the two it is can be
read from `outcome`.  An interval then fails at its lowest height that fails, which is never above
the one at which fetching the blocks alone would fail (`indexedRange_decided`).
-/

namespace ChainIndex

open ChainIndex.Task

namespace Fetcher

section

variable (answer : (call : Call) → call.Answer) (height : BlockNumber)

/-- The answer to the call for the block of a height. -/
def blockAnswer : Except ApiError SignedBlock := answer (.blockByNumber height)

/-- The answer to the call for the version of the runtime that executed the block of a height. -/
def versionAnswer (block : SignedBlock) : Except ApiError RuntimeVersion :=
  answer (.runtimeVersion (some (runtimeAt height block)))

/-- The answer to the call for the events of a block. -/
def eventsAnswer (block : SignedBlock) : Except ApiError (List EventRecord) :=
  answer (.eventsAt block.hash)

/-- Whether events are served. -/
def servesEvents : Bool := answer (.supports .eventsAt)

/-- All that there is to obtain for a height is there, and makes this block with its context. -/
structure Obtained (b : IndexedBlock) : Prop where
  block : blockAnswer answer height = .ok b.block
  version : ∃ version, versionAnswer answer height b.block = .ok version ∧
    version.specVersion = b.specVersion
  events : if servesEvents answer then eventsAnswer answer b.block = .ok b.events
    else b.events = []
  time : b.block.time = .ok b.timestamp
  hash : b.hash = b.block.hash

/-- The first thing that is not there for a height, with the error that says so. -/
inductive FailsAt : FetchError → Prop
  | block {source : ApiError} (h : blockAnswer answer height = .error source) :
    FailsAt (.block height source)
  | version {block : SignedBlock} {source : ApiError}
    (hblock : blockAnswer answer height = .ok block)
    (h : versionAnswer answer height block = .error source) :
    FailsAt (.block height source)
  | events {block : SignedBlock} {version : RuntimeVersion} {source : ApiError}
    (hblock : blockAnswer answer height = .ok block)
    (hversion : versionAnswer answer height block = .ok version)
    (hserved : servesEvents answer = true) (h : eventsAnswer answer block = .error source) :
    FailsAt (.events block.hash source)
  | time {block : SignedBlock} {version : RuntimeVersion}
    (hblock : blockAnswer answer height = .ok block)
    (hversion : versionAnswer answer height block = .ok version)
    (hevents : servesEvents answer = true → ∃ events, eventsAnswer answer block = .ok events)
    (h : ∀ time, block.time ≠ .ok time) :
    FailsAt (.invalidTimestamp height)

end

variable {answer : (call : Call) → call.Answer} {height : BlockNumber}

/-- A height of an interval fails, and all heights of the interval below it are obtained. -/
structure FailsFirst (answer : (call : Call) → call.Answer) (first last height : BlockNumber)
    (e : FetchError) : Prop where
  first_le : first ≤ height
  le_last : height ≤ last
  fails : FailsAt answer height e
  below : ∀ lower, first ≤ lower → lower < height → ∃ b, Obtained answer lower b

/-! ## One height -/

theorem outcome_eq (answer : (call : Call) → call.Answer) (height : BlockNumber) :
    outcome answer height = ((blockAnswer answer height).mapError (.block height)).bind fun block =>
      ((versionAnswer answer height block).mapError (.block height)).bind fun version =>
        (eventsIn answer block (servesEvents answer)).bind fun events =>
          IndexedBlock.ofBlock block events version.specVersion := rfl

/-- Events are those of the block where they are served, and otherwise there are none. -/
theorem eventsIn_eq_ok {block : SignedBlock} {events : List EventRecord} :
    eventsIn answer block (servesEvents answer) = .ok events ↔
      if servesEvents answer then eventsAnswer answer block = .ok events else events = [] := by
  cases servesEvents answer with
  | true => exact mapError_eq_ok
  | false => exact ⟨fun h => (Except.ok.inj h).symm, fun h => congrArg Except.ok h.symm⟩

/-- Events fail only where they are served, and with the error for the block. -/
theorem eventsIn_eq_error {block : SignedBlock} {e : FetchError} :
    eventsIn answer block (servesEvents answer) = .error e ↔
      servesEvents answer = true ∧ ∃ source, eventsAnswer answer block = .error source ∧
        e = .events block.hash source := by
  cases servesEvents answer with
  | true => exact mapError_eq_error.trans ⟨fun h => ⟨rfl, h⟩, fun h => h.2⟩
  | false => exact ⟨fun h => (nomatch h), fun h => (nomatch h.1)⟩

/-- The outcome of a height is what is obtained for it. -/
theorem outcome_eq_ok {b : IndexedBlock} :
    outcome answer height = .ok b ↔ Obtained answer height b := by
  simp only [outcome_eq, bind_eq_ok, mapError_eq_ok, eventsIn_eq_ok, IndexedBlock.ofBlock_eq,
    map_eq_ok]
  constructor
  · rintro ⟨block, hblock, version, hversion, events, hevents, time, htime, rfl⟩
    exact ⟨hblock, ⟨version, hversion, rfl⟩, hevents, htime, rfl⟩
  · rintro ⟨hblock, ⟨version, hversion, hspec⟩, hevents, htime, hhash⟩
    refine ⟨b.block, hblock, version, hversion, b.events, hevents, b.timestamp, htime, ?_⟩
    rw [hspec, ← hhash]

/-- The outcome of a height, where it is an error, is that of the first thing that is not there. -/
theorem outcome_eq_error
    (hnumber : ∀ block, blockAnswer answer height = .ok block → block.number = height)
    {e : FetchError} : outcome answer height = .error e ↔ FailsAt answer height e := by
  simp only [outcome_eq, bind_eq_error, mapError_eq_ok, mapError_eq_error, eventsIn_eq_ok,
    eventsIn_eq_error, IndexedBlock.ofBlock_eq, map_eq_error, SignedBlock.time_eq_error]
  constructor
  · rintro (⟨source, h, rfl⟩ | ⟨block, hblock, ⟨source, h, rfl⟩ | ⟨version, hversion,
      ⟨hserved, source, h, rfl⟩ | ⟨events, hevents, h, rfl⟩⟩⟩)
    · exact .block h
    · exact .version hblock h
    · exact .events hblock hversion hserved h
    · rw [hnumber block hblock]
      refine .time hblock hversion (fun hserved => ⟨events, ?_⟩) h
      rwa [if_pos hserved] at hevents
  · rintro (h | ⟨hblock, h⟩ | ⟨hblock, hversion, hserved, h⟩ | ⟨hblock, hversion, hevents, h⟩)
    · exact .inl ⟨_, h, rfl⟩
    · exact .inr ⟨_, hblock, .inl ⟨_, h, rfl⟩⟩
    · exact .inr ⟨_, hblock, .inr ⟨_, hversion, .inl ⟨hserved, _, h, rfl⟩⟩⟩
    · rename_i block _
      obtain ⟨events, hthere⟩ : ∃ events, if servesEvents answer then
          eventsAnswer answer block = .ok events else events = [] := by
        cases hserved : servesEvents answer with
        | true => exact hevents hserved
        | false => exact ⟨[], rfl⟩
      refine .inr ⟨_, hblock, .inr ⟨_, hversion, .inr ⟨events, hthere, h, ?_⟩⟩⟩
      rw [hnumber block hblock]

/-- The outcome of a height whose block is not there. -/
theorem outcome_of_blockAnswer {source : ApiError}
    (h : blockAnswer answer height = .error source) :
    outcome answer height = .error (.block height source) := by
  rw [outcome_eq, h]
  rfl

/-! ## Intervals -/

section

variable {first last : BlockNumber}
  (hnumber : ∀ height block, blockAnswer answer height = .ok block → block.number = height)
include hnumber

/-- An interval has an error for an outcome where one of its heights is the first to fail. -/
theorem mapM_outcome_eq_error {e : FetchError} :
    (Heights.between first last).mapM (outcome answer) = .error e ↔
      ∃ height, FailsFirst answer first last height e := by
  rw [mapM_eq_error_iff]
  constructor
  · rintro ⟨below, height, above, heq, hbelow, he⟩
    have hmem : height ∈ Heights.between first last := by rw [heq]; simp
    obtain ⟨hfirst, hlast⟩ := Heights.mem_between.mp hmem
    refine ⟨height, hfirst, hlast, (outcome_eq_error (hnumber height)).mp he, ?_⟩
    intro lower hle hlt
    obtain ⟨b, hb⟩ := hbelow lower (Heights.mem_of_between_eq_append heq hle hlt)
    exact ⟨b, outcome_eq_ok.mp hb⟩
  · rintro ⟨height, hfirst, hlast, hfails, hbelow⟩
    obtain ⟨below, above, heq⟩ := List.append_of_mem (Heights.mem_between.mpr ⟨hfirst, hlast⟩)
    refine ⟨below, height, above, heq, fun lower hlower => ?_,
      (outcome_eq_error (hnumber height)).mpr hfails⟩
    obtain ⟨hle, hlt⟩ := Heights.lt_of_between_eq_append heq hlower
    obtain ⟨b, hb⟩ := hbelow lower hle hlt
    exact ⟨b, outcome_eq_ok.mpr hb⟩

/-- An interval whose blocks alone cannot be fetched fails no later. -/
theorem FailsFirst.of_blockAnswer {failed : BlockNumber} {source : ApiError}
    (hfirst : first ≤ failed) (hlast : failed ≤ last)
    (h : blockAnswer answer failed = .error source) :
    ∃ height e, height ≤ failed ∧ FailsFirst answer first last height e := by
  cases hresult : (Heights.between first last).mapM (outcome answer) with
  | ok blocks =>
    -- then the height would be obtained, with its block
    obtain ⟨b, hb⟩ := exists_mapM_eq_ok_iff.mp ⟨blocks, hresult⟩ failed
      (Heights.mem_between.mpr ⟨hfirst, hlast⟩)
    rw [outcome_of_blockAnswer h] at hb
    cases hb
  | error e =>
    obtain ⟨height, hfails⟩ := (mapM_outcome_eq_error hnumber).mp hresult
    refine ⟨height, e, ?_, hfails⟩
    by_contra hlt
    obtain ⟨b, hb⟩ := hfails.below failed hfirst (UInt64.not_le.mp hlt)
    rw [hb.block] at h
    cases h

end

/-! ## Fetches -/

variable {σ κ : Type} {S : Signature} {terms : Terms σ S}

/-- Where no events are served, none are asked for: fetching an interval asks nothing but what the
other calls of a fetcher ask. -/
theorem recorded_of_not_servesEvents {api : Api σ S} (h : Answers api terms answer)
    (hserved : servesEvents answer = false) {P : S.Query → Prop}
    (hcalls : ∀ call : Call, call.isFetch = true → (∀ hash, call ≠ .eventsAt hash) →
      (api call).Asks P fun _ => True)
    (limit : Nat) (schedule : Schedule σ S) (server : Server S κ)
    (hserver : ∀ query k, terms.answer query (server query k).1) {s : σ} (hs : terms.state s)
    (k : κ) (first last : BlockNumber) :
    ∀ x ∈ ((Fetcher.indexedRange ⟨api, limit, schedule⟩ first last).run server.recording s
      (k, [])).2.2.2, P x.query := by
  have hasks (call : Call) (hfetch : call.isFetch = true)
      (hother : false = true ∨ ∀ hash, call ≠ .eventsAt hash) :
      (api call).Confined (fun _ _ => True) P fun _ => True :=
    asks_iff.mp (hcalls call hfetch (hother.resolve_left Bool.false_ne_true))
  have hsupports := (hcalls (.supports .eventsAt) rfl nofun).forall_recorded server s k
    (fun _ hx => absurd hx List.not_mem_nil)
  have hvalue : ((api.supports .eventsAt).run server.recording s (k, [])).1 = false :=
    ((h (.supports .eventsAt) rfl).run_value server.recording (fun query k => hserver query k.1) hs
      (k, [])).trans hserved
  have hfetch : (Window.fetch (indexed ⟨api, limit, schedule⟩ false) limit schedule
      (.range first last)).Asks P fun _ => True :=
    asks_iff.mpr (Window.confined_fetch (confined_indexed hasks) (fun _ => trivial) _ _ _)
  unfold indexedRange
  split
  · simp
  · simp only [run_bind, hvalue]
    exact hfetch.forall_recorded server _ _ hsupports

/-- A block of height 1. -/
def firstListed : SignedBlock := ⟨⟨⟨Vector.replicate 32 1⟩, 1, .zero, []⟩, [], none⟩

/-- A block of height 2 with a call that sets no time. -/
def untimed : SignedBlock :=
  ⟨⟨⟨Vector.replicate 32 2⟩, 2, firstListed.hash, []⟩, [⟨"timestamp", "set", [], none, none⟩], none⟩

/-- An api that serves these two blocks. -/
def twoBlocks : BlockList := ⟨[(firstListed, []), (untimed, [])], 7, [], [], [], []⟩

theorem obtained_firstListed :
    Obtained twoBlocks.answer 1 ⟨firstListed, firstListed.hash, 7, none, []⟩ where
  block := by decide
  version := ⟨_, rfl, rfl⟩
  events := by decide
  time := by decide
  hash := rfl

/-- On the chain of two blocks, every height has the block of its number. -/
theorem number_of_twoBlocks (height : BlockNumber) (block : SignedBlock)
    (h : blockAnswer twoBlocks.answer height = .ok block) : block.number = height := by
  by_cases hfirst : height = 1
  · rw [hfirst, obtained_firstListed.block] at h
    rw [hfirst, ← Except.ok.inj h]
    rfl
  by_cases hsecond : height = 2
  · have huntimed : blockAnswer twoBlocks.answer 2 = .ok untimed := by decide
    rw [hsecond, huntimed] at h
    rw [hsecond, ← Except.ok.inj h]
    rfl
  · have hhash : twoBlocks.blockHash height = .error (.notFound height) := by
      simp [BlockList.blockHash, twoBlocks, firstListed, untimed, SignedBlock.number,
        Ne.symm hfirst, Ne.symm hsecond]
    have hnone : blockAnswer twoBlocks.answer height = .error (.notFound height) := by
      change (twoBlocks.blockHash height >>= fun hash => _) = _
      rw [hhash]
      rfl
    rw [hnone] at h
    cases h

end Fetcher

end ChainIndex
