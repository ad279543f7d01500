import ChainIndex.Proofs.Algod.Derived
import ChainIndex.Proofs.Api.Conduct

/-!
# ChainIndex.Proofs.Algod.Conduct

What every call to a chain over a node of rounds does, whatever the node answers.

Every call accounts for its error: it ends with the first failure of the node that it meets, or
with one of the few errors that the chain makes itself (`ownError`).  Three calls
change the registry; after each of their steps every registered block is under its round and
its derived hash (`fulfils_api`).  No other call touches the registry at all, so whatever
holds of it goes on to hold (`fulfils_api_of_keeps`).
-/

namespace ChainIndex

namespace Algod

open ChainIndex.Task

/-- The error that the node answered a question with. -/
def clientError? : Exchange Client → Option ClientError
  | ⟨.lastRound, answer⟩ => errorOf? answer
  | ⟨.block _, answer⟩ => errorOf? answer

/-- The failures of a node, and the errors they stand for. -/
def FailsWith (x : Exchange Client) (e : ApiError) : Prop :=
  ∃ cause, clientError? x = some cause ∧ e = .ofClient cause

/-- An answer that is no error stands for no error. -/
theorem not_failsWith_of_none {x : Exchange Client} (h : clientError? x = none) (e : ApiError) :
    ¬ FailsWith x e := by
  rintro ⟨cause, hcause, -⟩
  rw [h] at hcause
  cases hcause

/-- An answer stands for one error at most. -/
theorem FailsWith.eq {x : Exchange Client} {e e' : ApiError} (h : FailsWith x e)
    (h' : FailsWith x e') : e = e' := by
  obtain ⟨cause, hcause, rfl⟩ := h
  obtain ⟨cause', hcause', rfl⟩ := h'
  rw [hcause] at hcause'
  rw [Option.some.inj hcause']

/-- The errors that a chain makes itself in a call. -/
def ownError (call : Call) : ApiError → Prop
  | .notConnected _ _ | .invalidResponse _ => True
  | .missingBlock _ =>
    match call with
    | .header _ | .block _ => True
    | _ => False
  | _ => False

namespace Chain

/-- The terms of a chain whose registry is to stay as it is described. -/
def terms (inv : Registry Block → Prop) : Terms Chain Client := .ofState fun c => inv c.registry

variable {α : Type} {inv : Registry Block → Prop} {own : ApiError → Prop} {Q : α → Prop}

/-! ## Steps -/

theorem conducts_onRegistry {f : Registry Block → α × Registry Block}
    (h : ∀ r, inv r → inv (f r).2 ∧ Q (f r).1) :
    Conducts (terms inv) FailsWith own (onRegistry f) Q :=
  conducts_step fun c hc => h c.registry hc

/-- A question whose failure ends the call. -/
theorem accounts_answer (query : Client.Query) {answer : Client.Answer query}
    {result : Except ApiError α}
    (hresult : errorOf? result = (clientError? ⟨query, answer⟩).map .ofClient) :
    Accounts FailsWith own [⟨query, answer⟩] (errorOf? result) := by
  rw [hresult]
  cases hcause : clientError? ⟨query, answer⟩ with
  | none => exact .fine (allFine_singleton (not_failsWith_of_none hcause))
  | some cause => exact .failed_first ⟨cause, hcause, rfl⟩

/-- Asking for the last round fails only as the node does. -/
theorem conducts_askLastRound :
    Conducts (terms inv) FailsWith own askLastRound fun _ => True := by
  refine fun answer _ => ?_
  change Except ClientError UInt64 at answer
  cases answer with
  | ok round => exact ⟨accounts_answer .lastRound rfl, fun _ _ => trivial⟩
  | error e => exact ⟨accounts_answer .lastRound rfl, fun _ _ => trivial⟩

/-- Asking for a block fails only as the node does. -/
theorem conducts_askBlock (round : UInt64) :
    Conducts (terms inv) FailsWith own (askBlock round) fun _ => True := by
  refine fun answer _ => ?_
  change Except ClientError Block at answer
  cases answer with
  | ok block => exact ⟨accounts_answer (.block round) rfl, fun _ _ => trivial⟩
  | error e => exact ⟨accounts_answer (.block round) rfl, fun _ _ => trivial⟩

/-- What is fetched is of the round that was asked for, and comes with its derived hash. -/
theorem conducts_fetch (round : UInt64) (hown : ∀ text, own (.invalidResponse text)) :
    Conducts (terms inv) FailsWith own (fetch round) fun fetched =>
      fetched.2.round = round ∧ fetched.1 = deriveHash fetched.2.genesisHash round := by
  refine Conducts.bind (conducts_askBlock round) fun block _ => ?_
  split
  · next hround => exact conducts_pure ⟨hround, rfl⟩
  · exact conducts_throw (hown _)

/-- A move of the connection fails only by an error of the chain's own. -/
theorem conducts_transition (source target : ConnectionState)
    (hown : ∀ operation state, own (.notConnected operation state)) :
    Conducts (terms inv) FailsWith own (transition source target) fun _ => True := by
  refine Conducts.bind (conducts_step (Q := fun _ => True) fun c hc => ⟨hc, trivial⟩)
    fun moved _ => ?_
  cases moved with
  | ok _ => exact conducts_pure trivial
  | error state => exact conducts_throw (hown _ _)

/-! ## Calls -/

section

variable (hstate : ∀ operation state, own (.notConnected operation state))
include hstate

/-- Connecting fails as the node does or by an error of the chain's own. -/
theorem conducts_connect : Conducts (terms inv) FailsWith own connect fun _ => True := by
  refine Conducts.bind (conducts_read _ (Q := fun _ => True) fun _ _ => trivial) fun state _ => ?_
  split
  · exact conducts_pure trivial
  · refine Conducts.bind (conducts_transition _ _ hstate) fun _ _ => ?_
    -- the answer is looked at only after the connection was given up
    refine fun answer _ => ?_
    change Except ClientError UInt64 at answer
    cases answer with
    | ok round =>
      refine (conducts_transition _ _ hstate).mono fun more result hresult => ?_
      have hfine : AllFine FailsWith [(⟨.lastRound, .ok round⟩ : Exchange Client)] :=
        allFine_singleton (not_failsWith_of_none rfl)
      exact ⟨hresult.1.prepend hfine, hresult.2⟩
    | error e =>
      exact fun c hc => ⟨hc, .failed_first ⟨e, rfl, rfl⟩, fun _ _ => trivial⟩

/-- A call that is refused without an active connection adds no other error by that. -/
theorem conducts_guarded {x : Attempt Chain Client α} (method : Method)
    (h : Conducts (terms inv) FailsWith own x Q) :
    Conducts (terms inv) FailsWith own (do ensureActive method; x) Q :=
  Conducts.bind (conducts_ensureActive hstate) fun _ _ => h

/-- A call that only looks at the connection. -/
theorem conducts_constant (method : Method) (a : α) :
    Conducts (terms inv) FailsWith own (do ensureActive method; return a) fun _ => True :=
  conducts_guarded hstate method (conducts_pure trivial)

theorem conducts_genesisHash : Conducts (terms inv) FailsWith own genesisHash fun _ => True :=
  conducts_guarded hstate _ (Conducts.bind (conducts_askBlock 1) fun _ _ => conducts_pure trivial)

section

variable (hmissing : ∀ hash, own (.missingBlock hash))
include hmissing

theorem conducts_header (hash : BlockHash) :
    Conducts (terms inv) FailsWith own (header hash) fun _ => True := by
  refine conducts_guarded hstate _ ?_
  refine Conducts.bind (conducts_read _ (Q := fun _ => True) fun _ _ => trivial) fun found _ => ?_
  cases found with
  | some found => exact conducts_pure trivial
  | none => exact conducts_throw (hmissing hash)

/-- A call for the block of a hash keeps the registry as it is described, although it may forget a
block. -/
theorem conducts_block (hash : BlockHash) :
    Conducts (terms Derived) FailsWith own (block hash) fun _ => True := by
  refine conducts_guarded hstate _ ?_
  refine Conducts.bind (conducts_read _ (Q := fun _ => True) fun _ _ => trivial) fun found _ => ?_
  match found with
  | none => exact conducts_throw (hmissing hash)
  | some (_, _, .retired) => exact conducts_throw (hmissing hash)
  | some (_, _, .pinned) => exact conducts_pure trivial
  | some (_, _, .transient) =>
    refine Conducts.bind (conducts_onRegistry (Q := fun _ => True) fun r hr =>
      ⟨derived_perform hr (.evict hash) trivial, trivial⟩) fun _ _ => ?_
    exact conducts_pure trivial

end

variable (htext : ∀ text, own (.invalidResponse text))
include htext

/-- A call for the hash of a round keeps the registry as it is described: what it registers was
fetched for the round. -/
theorem conducts_blockHash (round : BlockNumber) :
    Conducts (terms Derived) FailsWith own (blockHash round) fun _ => True := by
  refine conducts_guarded hstate _ ?_
  refine Conducts.bind (conducts_onRegistry (Q := fun _ => True) fun r hr =>
    ⟨derived_perform hr (.revive round) trivial, trivial⟩) fun found _ => ?_
  cases found with
  | some hash => exact conducts_pure trivial
  | none =>
    refine Conducts.bind (conducts_fetch round htext) fun fetched hfetched => ?_
    refine Conducts.bind (conducts_onRegistry (Q := fun _ => True) fun r hr =>
      ⟨derived_perform hr (.put fetched.1 round fetched.2) hfetched, trivial⟩) fun _ _ => ?_
    exact conducts_pure trivial

/-- A call for the head keeps the registry as it is described: what it pins was fetched for its
round. -/
theorem conducts_finalizedHead :
    Conducts (terms Derived) FailsWith own finalizedHead fun _ => True := by
  refine conducts_guarded hstate _ ?_
  refine Conducts.bind conducts_askLastRound fun round _ => ?_
  refine Conducts.bind (conducts_onRegistry (Q := fun _ => True) fun r hr =>
    ⟨derived_perform hr (.pinNumber round) trivial, trivial⟩) fun found _ => ?_
  cases found with
  | some hash => exact conducts_pure trivial
  | none =>
    refine Conducts.bind (conducts_fetch round htext) fun fetched hfetched => ?_
    refine Conducts.bind (conducts_onRegistry (Q := fun pinned => pinned = true)
      fun r hr => hr.putPinned hfetched) fun pinned hpinned => ?_
    rw [if_pos hpinned]
    exact conducts_pure trivial

/-- A call for the block of a round does not touch the registry. -/
theorem conducts_blockByNumber (round : BlockNumber) :
    Conducts (terms inv) FailsWith own (blockByNumber round) fun _ => True := by
  refine conducts_guarded hstate _ ?_
  exact Conducts.bind (conducts_fetch round htext) fun _ _ => conducts_pure trivial

end

/-! ## All calls -/

/-- Whether a call leaves the registry as it is. -/
def keepsRegistry : Call → Bool
  | .blockHash _ | .finalizedHead | .block _ => false
  | _ => true

/-- A call that does not change the registry accounts for the error that it ends with. -/
theorem fulfils_api_of_keeps {call : Call} (h : keepsRegistry call = true) :
    (api call).Fulfils (terms inv) fun made answer =>
      Accounts FailsWith (ownError call) made (call.error? answer) := by
  cases call with
  | connectionState => exact fulfils_read _ fun c _ => .fine allFine_nil
  | supports method => exact .fine allFine_nil
  | disconnect => exact fulfils_modify _ (fun c hc => hc) (.fine allFine_nil)
  | connect => exact (conducts_connect fun _ _ => trivial).mono fun _ _ h => h.1
  | runtimeVersion hash => exact (conducts_constant (fun _ _ => trivial) _ _).mono fun _ _ h => h.1
  | metadata hash => exact (conducts_constant (fun _ _ => trivial) _ _).mono fun _ _ h => h.1
  | chainName => exact (conducts_constant (fun _ _ => trivial) _ _).mono fun _ _ h => h.1
  | genesisHash => exact (conducts_genesisHash fun _ _ => trivial).mono fun _ _ h => h.1
  | header hash =>
    exact (conducts_header (fun _ _ => trivial) (fun _ => trivial) hash).mono fun _ _ h => h.1
  | eventsAt hash => exact (conducts_constant (fun _ _ => trivial) _ _).mono fun _ _ h => h.1
  | eventsRange first last =>
    exact (conducts_constant (fun _ _ => trivial) _ _).mono fun _ _ h => h.1
  | blockByNumber number =>
    exact (conducts_blockByNumber (fun _ _ => trivial) (fun _ => trivial) number).mono
      fun _ _ h => h.1
  | blockHash number => cases h
  | finalizedHead => cases h
  | block hash => cases h

/-- Whatever the node answers, a call keeps every registered block under its round and its
derived hash, and accounts for the error that it ends with. -/
theorem fulfils_api (call : Call) :
    (api call).Fulfils (terms Derived) fun made answer =>
      Accounts FailsWith (ownError call) made (call.error? answer) := by
  cases hkeeps : keepsRegistry call with
  | true => exact fulfils_api_of_keeps hkeeps
  | false =>
    cases call with
    | blockHash number =>
      exact (conducts_blockHash (fun _ _ => trivial) (fun _ => trivial) number).mono
        fun _ _ h => h.1
    | finalizedHead =>
      exact (conducts_finalizedHead (fun _ _ => trivial) fun _ => trivial).mono fun _ _ h => h.1
    | block hash =>
      exact (conducts_block (fun _ _ => trivial) (fun _ => trivial) hash).mono fun _ _ h => h.1
    | _ => cases hkeeps

/-- A chain in use that was never connected before some calls were made. -/
def sessionAfter {κ : Type} (server : Server Client κ) (node : κ) (before : List Call) :
    Session Chain Client κ :=
  ((Session.start initial node).calls api server before).2

end Chain

end Algod

end ChainIndex
