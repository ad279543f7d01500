import ChainIndex.Algod.Simulation
import ChainIndex.Proofs.Algod.Conduct
import ChainIndex.Proofs.Api.Failure

/-!
# ChainIndex.Proofs.Algod.Failure

A call to a chain over a node of rounds that fails leaves the registry as it was.

Three calls change the registry, each with at most one step, and after this step it is settled
what they end with.  A revived or pinned hash is found without asking the node; what is put was
fetched before, and what is put and pinned at once is always pinned; a block is dropped once it
was read.
-/

namespace ChainIndex.Algod

open ChainIndex.Task

namespace Chain

variable {α β ρ : Type} {kept : Terms Chain Client} {view : Chain → ρ}

/-! ## Parts of calls -/

theorem leavesView_ensureActive (method : Method) :
    LeavesView kept view (ensureActive method) fun _ => True :=
  fun _ hc => ⟨hc, rfl, fun _ _ => trivial⟩

theorem leavesView_askLastRound : LeavesView kept view askLastRound fun _ => True := by
  refine fun answer _ => ?_
  change Except ClientError UInt64 at answer
  cases answer with
  | ok round => exact leavesView_pure trivial
  | error e => exact leavesView_throw _

theorem leavesView_askBlock (round : UInt64) :
    LeavesView kept view (askBlock round) fun _ => True := by
  refine fun answer _ => ?_
  change Except ClientError Block at answer
  cases answer with
  | ok block => exact leavesView_pure trivial
  | error e => exact leavesView_throw _

/-- What is fetched is of the round that was asked for, and comes with its derived hash. -/
theorem leavesView_fetch (round : UInt64) :
    LeavesView kept view (fetch round) fun fetched =>
      fetched.2.round = round ∧ fetched.1 = deriveHash fetched.2.genesisHash round := by
  refine (leavesView_askBlock round).bind fun block _ => ?_
  split
  · next hround => exact leavesView_pure ⟨hround, rfl⟩
  · exact leavesView_throw _

/-- A step on the registry that settles what the call ends with, or changes nothing. -/
theorem sparesView_onRegistry {f : Registry Block → α × Registry Block}
    {g : α → Attempt Chain Client β}
    (h : ∀ r, Derived r → Derived (f r).2 ∧
      ((∃ b, g (f r).1 = pure b) ∨
        (f r).2 = r ∧ SparesView (terms Derived) Chain.registry (g (f r).1))) :
    SparesView (terms Derived) Chain.registry (onRegistry f >>= g) :=
  sparesView_step fun c hc => h c.registry hc

/-! ## Calls that change nothing -/

/-- A call for something that never changes leaves the registry as it is. -/
theorem leavesView_constant (method : Method) (a : α) :
    LeavesView kept view (do ensureActive method; return a) fun _ => True :=
  (leavesView_ensureActive method).bind fun _ _ => leavesView_pure trivial

/-- A call for the identity of the network leaves the registry as it is. -/
theorem leavesView_genesisHash : LeavesView kept view genesisHash fun _ => True :=
  (leavesView_ensureActive _).bind fun _ _ =>
    (leavesView_askBlock 1).bind fun _ _ => leavesView_pure trivial

/-- A call for a header leaves the registry as it is. -/
theorem leavesView_header (hash : BlockHash) :
    LeavesView kept view (header hash) fun _ => True := by
  refine (leavesView_ensureActive _).bind fun _ _ => ?_
  refine (leavesView_read (Q := fun _ => True) _ fun _ _ => trivial).bind fun found _ => ?_
  cases found with
  | some found => exact leavesView_pure trivial
  | none => exact leavesView_throw _

/-- A call for the block of a round leaves the registry as it is. -/
theorem leavesView_blockByNumber (round : BlockNumber) :
    LeavesView kept view (blockByNumber round) fun _ => True :=
  (leavesView_ensureActive _).bind fun _ _ =>
    (leavesView_fetch round).bind fun _ _ => leavesView_pure trivial

/-! ## Calls that change the connection -/

/-- A move of the connection leaves the registry as it is. -/
theorem leavesView_transition (source target : ConnectionState) :
    LeavesView (terms Derived) Chain.registry (transition source target) fun _ => True := by
  refine (leavesView_step fun c hc => ⟨hc, rfl⟩).bind fun moved _ => ?_
  cases moved with
  | ok _ => exact leavesView_pure trivial
  | error state => exact leavesView_throw _

/-- Connecting leaves the registry as it is. -/
theorem leavesView_connect :
    LeavesView (terms Derived) Chain.registry connect fun _ => True := by
  refine (leavesView_read (Q := fun _ => True) _ fun _ _ => trivial).bind fun state _ => ?_
  split
  · exact leavesView_pure trivial
  · refine (leavesView_transition _ _).bind fun _ _ => fun answer _ => ?_
    change Except ClientError UInt64 at answer
    cases answer with
    | ok round => exact leavesView_transition _ _
    | error e => exact fun c hc => ⟨hc, rfl, leavesView_throw _⟩

/-! ## Calls that change the registry -/

/-- A call for a hash that fails leaves the registry as it is: it registers only what it then gives.
-/
theorem sparesView_blockHash (round : BlockNumber) :
    SparesView (terms Derived) Chain.registry (blockHash round) := by
  refine (leavesView_ensureActive _).bind_spares fun _ _ => ?_
  refine sparesView_onRegistry fun r hr => ⟨derived_perform hr (.revive round) trivial, ?_⟩
  cases hof : r.hashOf? round with
  | some hash =>
    rw [Registry.revive_of_hashOf?_eq_some hof]
    exact .inl ⟨hash, rfl⟩
  | none =>
    rw [Registry.revive_of_hashOf?_eq_none hof]
    refine .inr ⟨rfl, (leavesView_fetch round).bind_spares fun fetched hfetched => ?_⟩
    exact sparesView_onRegistry fun r hr =>
      ⟨derived_perform hr (.put fetched.1 round fetched.2) hfetched, .inl ⟨_, rfl⟩⟩

/-- A call for the head that fails leaves the registry as it is. -/
theorem sparesView_finalizedHead :
    SparesView (terms Derived) Chain.registry finalizedHead := by
  refine (leavesView_ensureActive _).bind_spares fun _ _ => ?_
  refine leavesView_askLastRound.bind_spares fun round _ => ?_
  refine sparesView_onRegistry fun r hr => ⟨derived_perform hr (.pinNumber round) trivial, ?_⟩
  obtain ⟨-, heq⟩ | ⟨hash, changed, r', -, -, heq⟩ := Registry.pinNumber_cases hr.sound round
  · rw [heq]
    refine .inr ⟨rfl, (leavesView_fetch round).bind_spares fun fetched hfetched => ?_⟩
    refine sparesView_onRegistry fun r hr => ?_
    obtain ⟨hkept, hpinned⟩ := hr.putPinned hfetched
    exact ⟨hkept, .inl ⟨fetched.1, if_pos hpinned⟩⟩
  · rw [heq]
    exact .inl ⟨hash, rfl⟩

/-- A call for the block of a hash that fails leaves the registry as it is: only a block that is
given is forgotten. -/
theorem sparesView_block (hash : BlockHash) :
    SparesView (terms Derived) Chain.registry (block hash) := by
  refine (leavesView_ensureActive _).bind_spares fun _ _ => ?_
  refine (leavesView_read (Q := fun _ => True) _ fun _ _ => trivial).bind_spares fun found _ => ?_
  match found with
  | none => exact (leavesView_throw (Q := fun _ => True) _).spares
  | some (_, _, .retired) => exact (leavesView_throw (Q := fun _ => True) _).spares
  | some (_, _, .pinned) => exact (leavesView_pure (Q := fun _ => True) trivial).spares
  | some (_, _, .transient) =>
    exact sparesView_onRegistry fun r hr =>
      ⟨derived_perform hr (.evict hash) trivial, .inl ⟨_, rfl⟩⟩

/-! ## All calls -/

/-- Besides the three calls that change the registry, only those that connect and disconnect change
anything. -/
theorem leaves_api_of_still {call : Call} (hkeeps : keepsRegistry call = true)
    (hconnect : call ≠ .connect) (hdisconnect : call ≠ .disconnect) :
    (api call).Leaves kept view fun _ => True := by
  cases call with
  | connect => exact absurd rfl hconnect
  | disconnect => exact absurd rfl hdisconnect
  | connectionState => exact fun _ hc => ⟨hc, rfl, trivial⟩
  | supports method => trivial
  | runtimeVersion hash => exact (leavesView_constant _ _).mono fun _ _ => trivial
  | metadata hash => exact (leavesView_constant _ _).mono fun _ _ => trivial
  | chainName => exact (leavesView_constant _ _).mono fun _ _ => trivial
  | genesisHash => exact leavesView_genesisHash.mono fun _ _ => trivial
  | header hash => exact (leavesView_header hash).mono fun _ _ => trivial
  | eventsAt hash => exact (leavesView_constant _ _).mono fun _ _ => trivial
  | eventsRange first last => exact (leavesView_constant _ _).mono fun _ _ => trivial
  | blockByNumber number => exact (leavesView_blockByNumber number).mono fun _ _ => trivial
  | blockHash number => cases hkeeps
  | finalizedHead => cases hkeeps
  | block hash => cases hkeeps

/-- All calls but three never change the registry. -/
theorem leaves_api_of_keeps {call : Call} (h : keepsRegistry call = true) :
    (api call).Leaves (terms Derived) Chain.registry fun _ => True := by
  by_cases hconnect : call = .connect
  · subst hconnect
    exact leavesView_connect.mono fun _ _ => trivial
  by_cases hdisconnect : call = .disconnect
  · subst hdisconnect
    exact fun _ hc => ⟨hc, rfl, trivial⟩
  · exact leaves_api_of_still h hconnect hdisconnect

/-- A call changes the registry only once it cannot fail any more. -/
theorem spares_api (call : Call) :
    (api call).Spares (terms Derived) Chain.registry fun answer => call.error? answer ≠ none := by
  cases hkeeps : keepsRegistry call with
  | true => exact (leaves_api_of_keeps hkeeps).spares
  | false =>
    cases call with
    | blockHash number => exact sparesView_blockHash number
    | finalizedHead => exact sparesView_finalizedHead
    | block hash => exact sparesView_block hash
    | _ => cases hkeeps

/-- In every state that comes about in the use of a chain, every block is registered under its
round and its derived hash. -/
theorem derived_underway {pending : List (Pending Chain Client)} {c : Chain}
    (h : Underway api initial pending c) : Derived c.registry := by
  have hsupports (method : Method) :
      (api.supports method).Fulfils (terms Derived) fun made _ => made = [] := rfl
  have hinvoke : ∀ invocation, (api.invoke invocation).Fulfils (terms Derived) fun _ _ => True :=
    fulfils_invoke (fun _ _ => True) (fun _ _ => trivial) hsupports fun call =>
      (fulfils_api call).mono fun _ _ _ => trivial
  exact (h.fulfils derived_empty hinvoke).1

/-- Failure leaves the registry as it was: in a state that came about by calls and calls by name
that went on at the same time, of which some may still go on or were given up half way, whatever
is asked of the chain and whatever the node answers, an answer that is an error comes
with the very same entries, slots and head channel as before. -/
theorem registry_of_error {κ : Type} {pending : List (Pending Chain Client)} {c : Chain}
    (h : Underway api initial pending c) (server : Server Client κ) (k : κ)
    (invocation : Invocation) {e : ApiError}
    (herror : invocation.error? ((api.invoke invocation).run server c k).1 = some e) :
    ((api.invoke invocation).run server c k).2.1.registry = c.registry := by
  have hsupports (method : Method) :
      (api.supports method).Leaves (terms Derived) Chain.registry fun _ => True := trivial
  have hspares := spares_invoke hsupports spares_api invocation
  refine hspares.run server (fun _ _ => trivial) (derived_underway h) k ?_
  rw [herror]
  exact Option.some_ne_none e

end Chain

/-- A node that answers some more questions and is then gone; its last round grows. -/
def fading : Server Client Nat
  | .lastRound, 0 => (.error .unreachable, 0)
  | .block _, 0 => (.error .unreachable, 0)
  | .lastRound, left + 1 => (.ok (9 - left.toUInt64), left)
  | .block round, left + 1 => (.ok (simulatedBlock round Simulation.testnetGenesis), left)

/-- The node is gone after it has told of a new last round: the old head stays pinned. -/
theorem registry_of_error_fading :
    let connected := ((Chain.api.invoke (.direct .connect)).run fading Chain.initial 5).2.1
    let c := ((Chain.api.invoke (.direct .finalizedHead)).run fading connected 4).2.1
    let asked := Invocation.byName "chain_getFinalizedHead" []
    let failed := (Chain.api.invoke asked).run fading c 1
    asked.error? failed.1 = some (.network (.client .unreachable)) ∧
      c.registry.pinned = some (deriveHash Simulation.testnetGenesis 6) ∧
      failed.2.1.registry = c.registry := by
  intro connected c asked failed
  have hc : Underway Chain.api Chain.initial [] c :=
    (Underway.initial.run fading 5 (.direct .connect)).run fading 4 (.direct .finalizedHead)
  obtain ⟨herror, hpinned⟩ :
      asked.error? failed.1 = some (.network (.client .unreachable)) ∧
        c.registry.pinned = some (deriveHash Simulation.testnetGenesis 6) := by
    decide +kernel
  exact ⟨herror, hpinned, Chain.registry_of_error hc fading 1 asked herror⟩

end ChainIndex.Algod
