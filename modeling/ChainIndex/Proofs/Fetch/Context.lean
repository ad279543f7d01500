import ChainIndex.Proofs.Fetch.Order
import ChainIndex.Proofs.Fetch.Questions

/-!
# ChainIndex.Proofs.Fetch.Context

Fetching blocks with the context they are indexed in, from an api whose answers depend on nothing
but the call.

What such a fetch ends with is known beforehand: the block, the version at its parent and its
events are looked up in the answers (`Fetcher.outcome`), and an interval gives what its heights
give in their order (`Fetcher.fulfils_indexedRange`).
-/

namespace ChainIndex

open ChainIndex.Task

section

variable {σ ε : Type} {S : Signature} {α β : Type} {terms : Terms σ S}

/-- What a task ends with, where this is known beforehand. -/
theorem fulfils_bind_known {x : ExceptT ε (Task σ S) α} {f : α → ExceptT ε (Task σ S) β}
    {known : Except ε α} {g : α → Except ε β}
    (h : x.run.Fulfils terms fun _ result => result = known)
    (hf : ∀ a, (f a).run.Fulfils terms fun _ result => result = g a) :
    (x >>= f).run.Fulfils terms fun _ result => result = known.bind g := by
  refine Fulfils.bind_attempt h ?_ ?_
  · rintro _ a rfl
    exact hf a
  · rintro _ e rfl
    rfl

/-- A known result is known under another name for its errors, too. -/
theorem fulfils_adapt_known {ε' : Type} {x : ExceptT ε (Task σ S) α} {known : Except ε α}
    (rename : ε → ε') (h : x.run.Fulfils terms fun _ result => result = known) :
    (ExceptT.adapt rename x).run.Fulfils terms fun _ result => result = known.mapError rename :=
  Fulfils.bind h fun _ _ hresult => congrArg (Except.mapError rename) hresult

theorem fulfils_except_known (known : Except ε α) :
    (liftM known : ExceptT ε (Task σ S) α).run.Fulfils terms fun _ result => result = known := by
  cases known <;> rfl

end

namespace Fetcher

variable {σ κ : Type} {S : Signature}

/-- An api that answers the calls of a fetcher by their arguments alone. -/
def Answers (api : Api σ S) (terms : Terms σ S) (answer : (call : Call) → call.Answer) : Prop :=
  ∀ call, call.isFetch = true → (api call).Fulfils terms fun _ a => a = answer call

/-- The events of a block among the answers; there are none where no events are served. -/
def eventsIn (answer : (call : Call) → call.Answer) (block : SignedBlock) :
    (served : Bool) → Except FetchError (List EventRecord)
  | true => Except.mapError (FetchError.events block.hash) (answer (.eventsAt block.hash))
  | false => .ok []

/-- The block of a height with its context among the answers. -/
def outcome (answer : (call : Call) → call.Answer) (height : BlockNumber) :
    Except FetchError IndexedBlock :=
  let block : Except FetchError SignedBlock :=
    Except.mapError (.block height) (answer (.blockByNumber height))
  block.bind fun block =>
    let version : Except FetchError RuntimeVersion :=
      Except.mapError (.block height) (answer (.runtimeVersion (some (runtimeAt height block))))
    version.bind fun version =>
      (eventsIn answer block (answer (.supports .eventsAt))).bind fun events =>
        IndexedBlock.ofBlock block events version.specVersion

variable {f : Fetcher σ S} {terms : Terms σ S} {answer : (call : Call) → call.Answer}

/-- A block is fetched with its events as the answers to the calls tell. -/
theorem fulfils_indexed (h : Answers f.api terms answer) (height : BlockNumber) :
    (f.indexed (answer (.supports .eventsAt)) height).Fulfils terms fun _ result =>
      result = outcome answer height := by
  have hevents (block : SignedBlock) (version : RuntimeVersion) (served : Bool) :
      (do
        let events ←
          if served then ExceptT.adapt (FetchError.events block.hash) (f.api.eventsAt block.hash)
          else pure []
        (IndexedBlock.ofBlock block events version.specVersion :
          Except FetchError IndexedBlock) : ExceptT FetchError (Task σ S) IndexedBlock).run.Fulfils
        terms fun _ result => result = (eventsIn answer block served).bind fun events =>
          IndexedBlock.ofBlock block events version.specVersion := by
    cases served with
    | true =>
      exact fulfils_bind_known (fulfils_adapt_known _ (h (.eventsAt _) rfl)) fun events =>
        fulfils_except_known _
    | false => exact fulfils_except_known _
  refine fulfils_bind_known (fulfils_block (fun height => h (.blockByNumber height) rfl) height)
    fun block => ?_
  refine fulfils_bind_known (fulfils_adapt_known _ (h (.runtimeVersion _) rfl)) fun version => ?_
  exact hevents block version _

/-- Fetching an interval gives its blocks in order, or the first failure in this order. -/
theorem fulfils_indexedRange (h : Answers f.api terms answer) {first last : BlockNumber}
    (hle : first ≤ last) :
    (f.indexedRange first last).Fulfils terms fun _ result =>
      result = (Heights.between first last).mapM (outcome answer) := by
  unfold indexedRange
  rw [if_neg (UInt64.not_lt.mpr hle), ← Heights.toList_range]
  refine Fulfils.bind (h (.supports .eventsAt) rfl) fun _ withEvents hevents => ?_
  obtain rfl : withEvents = answer (.supports .eventsAt) := hevents
  exact Window.fulfils_fetch (fulfils_indexed h) _ _ _

end Fetcher

end ChainIndex
